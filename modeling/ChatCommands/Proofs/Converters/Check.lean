import ChatCommands.Proofs.Converters.Choice
import ChatCommands.Proofs.Pattern.Derivation

/-!
# Checks of usages

A usage is checked against one class of messages: each of its placeholders has to have one converter
for the messages of this class. Where standing below is transitive, messages of a class below then
have at least one, and several only if something is registered for a class that does not stand above
the checked one.

Main statements: `check_eq_ok_iff`, `Follows.exists_choose_or_several`, `splitType_mem_typesOf`.
-/

namespace ChatCommands

open Pattern (Capture)

namespace Converters

variable {cs : Converters} {u : Usage} {cls above : MessageClass} {entries : List Registration}
  {type : String} {usage : Value}

/-! ### What a check makes sure of -/

lemma forM_eq_ok_iff {α : Type} {f : α → Except Error Unit} {xs : List α} :
    forM xs f = .ok () ↔ ∀ x ∈ xs, f x = .ok () := by
  induction xs with
  | nil => simp [pure, Except.pure]
  | cons x xs ih =>
    rw [List.forM_cons, List.forall_mem_cons, ← ih]
    cases f x <;> simp [bind, Except.bind]

/-- A usage passes a check just if each of its types has a converter for the class. -/
lemma check_eq_ok_iff : cs.check u cls = .ok () ↔
    ∀ type ∈ typesOf u, ∃ c, choose cs.entries type cls (.text u.source) = .ok c := by
  rw [check, List.forM_eq_forM, forM_eq_ok_iff]
  refine forall₂_congr fun type _ => ?_
  cases choose cs.entries type cls (.text u.source) <;> simp [Except.map]

/-- What can be chosen for a class can be chosen for a class below, or is ambiguous there. -/
lemma Follows.exists_choose_or_several (h : Follows entries cls above)
    (habove : ∃ c, choose entries type above usage = .ok c) (usage' : Value) :
    (∃ c, choose entries type cls usage' = .ok c) ∨ 2 ≤ (candidates entries type cls).length := by
  obtain ⟨c, hc⟩ := habove
  obtain ⟨e, he, -⟩ := choose_eq_ok_iff.mp hc
  have hsome : candidates entries type cls ≠ [] := by
    apply h.candidates_ne_nil
    simp [he]
  rcases candidates_cases entries type cls with hnone | ⟨e, hsingle⟩ | hseveral
  · exact absurd hnone hsome
  · exact Or.inl ⟨_, choose_of_single hsingle⟩
  · exact Or.inr hseveral

/-- What is ambiguous for a class only counts registrations that do not serve the class above. -/
lemma Follows.exists_beside_of_several (h : Follows entries cls above)
    (habove : ∃ c, choose entries type above usage = .ok c)
    (hseveral : 2 ≤ (candidates entries type cls).length) :
    ∃ e ∈ candidates entries type cls, above.isBelow e.messageClass = false := by
  by_contra hall
  have heq : candidates entries type cls = candidates entries type above := by
    apply h.candidates_eq_iff.mpr
    intro e he
    by_contra hnot
    exact hall ⟨e, he, by simpa using hnot⟩
  obtain ⟨c, hc⟩ := habove
  obtain ⟨e, he, -⟩ := choose_eq_ok_iff.mp hc
  rw [heq, he] at hseveral
  simp at hseveral

/-! ### Types of captures -/

/-- The slot of a capture that is no literal bears the name of a placeholder. -/
lemma name_mem_placeholderNames {source text : String} {xs : List Capture} {x : Capture}
    (hread : Usage.read source = .ok u) (h : (Pattern.ofUsage u).captures? text = some xs)
    (hx : x ∈ xs) (hliteral : x.slot.isLiteral = false) : x.slot.name ∈ u.placeholderNames := by
  obtain ⟨r, hr, hreads⟩ := Pattern.exists_route_of_captures? hread h
  have hslot : x.slot ∈ r.fields.map Pattern.Field.slot := by
    rw [← hreads.map_slot]
    exact List.mem_map_of_mem hx
  obtain ⟨f, hf, hslot⟩ := List.mem_map.mp hslot
  have hfield : f ∈ (Pattern.Form.ofUsage u).fields := (Pattern.Form.fields_sublist _ hr).subset hf
  obtain ⟨t, ht, seen, heq⟩ :=
    Pattern.Form.exists_term_of_mem_walk _ _ (Pattern.Form.field_mem_walk _ hfield)
  rw [Usage.placeholderNames, List.mem_filterMap]
  refine ⟨t, ht, ?_⟩
  rw [← hslot] at hliteral ⊢
  match t with
  | .literal text p =>
    obtain rfl := Pattern.Form.field.inj heq
    simp [Slot.numbered] at hliteral
  | .placeholder name p =>
    obtain rfl := Pattern.Form.field.inj heq
    rfl
  | .trailing name p =>
    obtain rfl := Pattern.Form.field.inj heq
    rfl
  | .sequence .. | .alternatives .. | .optional .. => cases heq

/-- The type of what a placeholder captured is one of the types of the usage. -/
lemma splitType_mem_typesOf {source text : String} {xs : List Capture} {x : Capture}
    (hread : Usage.read source = .ok u) (h : (Pattern.ofUsage u).captures? text = some xs)
    (hx : x ∈ xs) (hliteral : x.slot.isLiteral = false) :
    (Converter.splitType x.slot.name).2 ∈ typesOf u :=
  List.mem_map_of_mem (name_mem_placeholderNames hread h hx hliteral)

end Converters

end ChatCommands

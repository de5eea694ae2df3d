import ChatCommands.Converters
import Mathlib.Data.List.Perm.Basic
import Mathlib.Tactic.Common

/-!
# Choice of a converter

The registrations that count for a type and a class of messages are those of the host that serve the
class, or else the built-in ones. What is chosen among them does not depend on their order. Where
standing below is transitive, a class is served by all that serves the classes above it, and by more
if something is registered for classes in between.

Main statements: `candidates_eq_filter`, `choose_perm`, `Follows.candidates_eq_iff`.
-/

namespace ChatCommands

variable {entries others : List Registration} {d e : Registration} {type : String}
  {cls above : MessageClass} {usage : Value} {c : Converter}

namespace Registration

/-- A registration serves the messages of its class and of all classes below. -/
def Serves (e : Registration) (type : String) (cls : MessageClass) : Prop :=
  e.type = type ∧ cls.isBelow e.messageClass = true

instance : Decidable (e.Serves type cls) := inferInstanceAs (Decidable (_ ∧ _))

/-- A registration that serves a class counts among others, a built-in one only if none of the host
does. -/
def Counts (entries : List Registration) (type : String) (cls : MessageClass) (e : Registration) :
    Prop :=
  e.Serves type cls ∧
    (e.isBuiltIn = true → ∀ d ∈ entries, d.Serves type cls → d.isBuiltIn = true)

instance : DecidablePred (Counts entries type cls) := fun _ => inferInstanceAs (Decidable (_ ∧ _))

end Registration

namespace Converters

/-- The fault of a type that has no converter. -/
def missingConverter (type : String) (usage : Value) : Fault :=
  .make .missingConverter
    ("Parameter type '" ++ type ++ "' in usage string '" ++ usage.plain ++ "' was not found")
    [("parameter_type", .text type), ("usage", usage)]

/-- The fault of a type that has several converters. -/
def ambiguousConverter (type : String) (usage : Value) : Fault :=
  .make .ambiguousConverter
    ("Multiple converters found for parameter type '" ++ type ++ "' in usage string '" ++
      usage.plain ++ "'")
    [("parameter_type", .text type), ("usage", usage)]

/-! ### What counts -/

/-- The candidates are the registrations that count, in their order. -/
lemma candidates_eq_filter :
    candidates entries type cls = entries.filter fun e => e.Counts entries type cls := by
  have hserving : (fun e : Registration => e.type = type && cls.isBelow e.messageClass) =
      fun e => decide (e.Serves type cls) := by
    funext e
    rw [Bool.eq_iff_iff, Bool.and_eq_true, decide_eq_true_eq, decide_eq_true_eq]
    exact Iff.rfl
  rw [candidates, hserving, List.filter_filter]
  split
  case h_1 hnone =>
    -- all that serve are built in
    have hall : ∀ d ∈ entries, d.Serves type cls → d.isBuiltIn = true := by
      intro d hd hserves
      by_contra hown
      exact List.filter_eq_nil_iff.mp hnone d hd (by simp [hown, hserves])
    refine List.filter_congr fun e _ => ?_
    rw [decide_eq_decide]
    exact ⟨fun hserves => ⟨hserves, fun _ => hall⟩, fun hcounts => hcounts.1⟩
  case h_2 hsome =>
    obtain ⟨d, hd⟩ := List.exists_mem_of_ne_nil _ hsome
    simp only [List.mem_filter, Bool.and_eq_true, Bool.not_eq_true', decide_eq_true_eq] at hd
    refine List.filter_congr fun e _ => ?_
    rw [Bool.eq_iff_iff, Bool.and_eq_true, Bool.not_eq_true', decide_eq_true_eq, decide_eq_true_eq]
    constructor
    · rintro ⟨hown, hserves⟩
      exact ⟨hserves, fun hbuilt => absurd hbuilt (by simp [hown])⟩
    · rintro ⟨hserves, hcounts⟩
      refine ⟨?_, hserves⟩
      by_contra hbuilt
      have := hcounts (by simpa using hbuilt) d hd.1 hd.2.2
      simp [hd.2.1] at this

lemma mem_candidates : e ∈ candidates entries type cls ↔
    e ∈ entries ∧ e.Counts entries type cls := by
  simp [candidates_eq_filter]

/-- There are candidates just if something serves the class. -/
lemma candidates_eq_nil_iff :
    candidates entries type cls = [] ↔ ∀ e ∈ entries, ¬ e.Serves type cls := by
  rw [List.eq_nil_iff_forall_not_mem]
  constructor
  · intro hnil e he hserves
    -- a registration of the host counts, and a built-in one if there is none of the host
    by_cases hown : ∃ d ∈ entries, d.Serves type cls ∧ d.isBuiltIn = false
    · obtain ⟨d, hd, hdserves, hdown⟩ := hown
      exact hnil d (mem_candidates.mpr ⟨hd, hdserves, by simp [hdown]⟩)
    · refine hnil e (mem_candidates.mpr ⟨he, hserves, fun _ d hd hdserves => ?_⟩)
      by_contra hbuilt
      exact hown ⟨d, hd, hdserves, by simpa using hbuilt⟩
  · intro hnone e he
    obtain ⟨hmem, hserves, -⟩ := mem_candidates.mp he
    exact hnone e hmem hserves

/-- What counts does not depend on the order of registration. -/
lemma candidates_perm (h : entries.Perm others) :
    (candidates entries type cls).Perm (candidates others type cls) := by
  rw [candidates_eq_filter, candidates_eq_filter]
  have hcounts : (fun e : Registration => decide (e.Counts entries type cls)) =
      fun e => decide (e.Counts others type cls) := by
    funext e
    rw [decide_eq_decide]
    simp only [Registration.Counts, h.mem_iff]
  rw [hcounts]
  exact h.filter _

/-! ### What is chosen -/

lemma choose_of_single (h : candidates entries type cls = [e]) :
    choose entries type cls usage = .ok e.converter := by
  rw [choose, h]

lemma choose_of_none (h : candidates entries type cls = []) :
    choose entries type cls usage = .error (.fault (missingConverter type usage)) := by
  rw [choose, h]
  rfl

lemma choose_of_several (h : 2 ≤ (candidates entries type cls).length) :
    choose entries type cls usage = .error (.fault (ambiguousConverter type usage)) := by
  rw [choose]
  split
  case h_1 hsingle => simp [hsingle] at h
  case h_2 hnone => simp [hnone] at h
  case h_3 => rfl

/-- A list has no element, one or several. -/
lemma candidates_cases (entries : List Registration) (type : String) (cls : MessageClass) :
    candidates entries type cls = [] ∨ (∃ e, candidates entries type cls = [e]) ∨
      2 ≤ (candidates entries type cls).length := by
  match candidates entries type cls with
  | [] => exact Or.inl rfl
  | [e] => exact Or.inr (Or.inl ⟨e, rfl⟩)
  | _ :: _ :: _ => exact Or.inr (Or.inr (by simp))

/-- Only a fault of configuration keeps a converter from being chosen. -/
lemma isBelow_of_choose {f : Fault} (h : choose entries type cls usage = .error (.fault f)) :
    f.kind.isBelow .converterConfiguration = true := by
  rcases candidates_cases entries type cls with hnone | ⟨e, hsingle⟩ | hseveral
  · rw [choose_of_none hnone] at h
    cases h
    rfl
  · rw [choose_of_single hsingle] at h
    cases h
  · rw [choose_of_several hseveral] at h
    cases h
    rfl

/-- A converter is chosen just if exactly one registration counts. -/
lemma choose_eq_ok_iff : choose entries type cls usage = .ok c ↔
    ∃ e, candidates entries type cls = [e] ∧ e.converter = c := by
  constructor
  · intro h
    rcases candidates_cases entries type cls with hnone | ⟨e, hsingle⟩ | hseveral
    · rw [choose_of_none hnone] at h
      cases h
    · rw [choose_of_single hsingle] at h
      exact ⟨e, hsingle, Except.ok.inj h⟩
    · rw [choose_of_several hseveral] at h
      cases h
  · rintro ⟨e, hsingle, rfl⟩
    exact choose_of_single hsingle

/-- What is chosen does not depend on the order of registration. -/
lemma choose_perm (h : entries.Perm others) :
    choose entries type cls usage = choose others type cls usage := by
  have hperm : (candidates entries type cls).Perm (candidates others type cls) := candidates_perm h
  rcases candidates_cases entries type cls with hnone | ⟨e, hsingle⟩ | hseveral
  · rw [hnone] at hperm
    rw [choose_of_none hnone, choose_of_none hperm.nil_eq.symm]
  · rw [hsingle] at hperm
    rw [choose_of_single hsingle, choose_of_single hperm.singleton_eq.symm]
  · rw [choose_of_several hseveral, choose_of_several (hperm.length_eq ▸ hseveral)]

/-! ### Classes below others -/

/-- A class stands below another one, and below all that the other one stands below, as far as
something is registered for it: here standing below is transitive. -/
structure Follows (entries : List Registration) (cls above : MessageClass) : Prop where
  isBelow : cls.isBelow above = true
  transitive : ∀ e ∈ entries, above.isBelow e.messageClass = true →
    cls.isBelow e.messageClass = true

namespace Follows

variable (h : Follows entries cls above)
include h

lemma serves (he : e ∈ entries) (hserves : e.Serves type above) : e.Serves type cls :=
  ⟨hserves.1, h.transitive e he hserves.2⟩

/-- What can be chosen for a class is not missing for a class below. -/
lemma candidates_ne_nil (hsome : candidates entries type above ≠ []) :
    candidates entries type cls ≠ [] := by
  intro hnil
  rw [candidates_eq_nil_iff] at hnil
  refine hsome (candidates_eq_nil_iff.mpr fun e he hserves => ?_)
  exact hnil e he (h.serves he hserves)

/-- The same registrations count for a class and one above it just if all that count for the class
serve the one above. -/
lemma candidates_eq_iff :
    candidates entries type cls = candidates entries type above ↔
      ∀ e ∈ candidates entries type cls, above.isBelow e.messageClass = true := by
  constructor
  · intro heq e he
    rw [heq] at he
    exact (mem_candidates.mp he).2.1.2
  · intro hall
    rw [candidates_eq_filter, candidates_eq_filter]
    refine List.filter_congr fun e he => ?_
    rw [decide_eq_decide]
    constructor
    · intro hcounts
      have hserves : e.Serves type above :=
        ⟨hcounts.1.1, hall e (mem_candidates.mpr ⟨he, hcounts⟩)⟩
      refine ⟨hserves, fun hbuilt d hd hserves => ?_⟩
      exact hcounts.2 hbuilt d hd (h.serves hd hserves)
    · intro hcounts
      refine ⟨h.serves he hcounts.1, fun hbuilt d hd hserves => ?_⟩
      -- one of the host that serves the class would count, and so serve the one above
      by_contra hown
      have hcand : d ∈ candidates entries type cls :=
        mem_candidates.mpr ⟨hd, hserves, fun hd' => absurd hd' hown⟩
      exact hown (hcounts.2 hbuilt d hd ⟨hserves.1, hall d hcand⟩)

end Follows

end Converters

end ChatCommands

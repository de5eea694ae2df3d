import ChatCommands.Proofs.Handler.Recorded
import ChatCommands.Proofs.Restriction.Turn

/-!
# The verdict of a chain

What a chain of restrictions decides, which restrictions are asked for it, and which errors it ends
with: those of the restrictions that are asked, and that of a class without an instance if
evaluation comes to one.

Main statements: `Chain.on_allows_eq_error_iff`, `Chain.make_asks_in_turn`.
-/

namespace ChatCommands

variable {σ : Type} {registered : Restrictions} {ask : Restriction → Act σ Bool}

/-! ### Calls -/

/-- The calls of restrictions that are made for a decision about a context. The instance that allows
everyone is none of the host's and is not called. -/
def callsOf (decision : (Restriction → Act (List Call × σ) Bool) → Act (List Call × σ) Bool)
    (ask : Restriction → Act σ Bool) (context : Context Command) (s : σ) : List Call :=
  ((decision fun r => (Call.asked r context).put (ask r)).on ([], s)).2.1

/-! ### Classes without instance -/

namespace Restrictions

variable {name : String} {e : Error}

lemma contains_eq_false_iff :
    registered.contains name = false ↔ ∃ e, registered.get (some name) = .error e := by
  rw [contains, Table.contains, get]
  cases registered.instances.get? name <;> simp

/-- The look-up of a class without instance ends with a fault that names the class. -/
lemma exists_of_get_eq_error (h : registered.get (some name) = .error e) :
    ∃ f, e = .fault f ∧ f.kind = .unknownRestriction ∧
      f.option? "restriction" = some (.named name) := by
  rw [get] at h
  split at h
  · cases h
  · exact ⟨_, (Except.error.inj h).symm, rfl, rfl⟩

end Restrictions

namespace Chain

/-! ### Where evaluation comes -/

/-- The evaluation of a chain that starts in a state comes to a class, or to a part without one, in
a state. -/
inductive Reaches (registered : Restrictions) (ask : Restriction → Act σ Bool) :
    Chain → σ → Option String → σ → Prop
  | single {name : Option String} {s : σ} : Reaches registered ask (single name) s name s
  | bothLeft {l r : Chain} {s t : σ} {name : Option String}
      (h : Reaches registered ask l s name t) : Reaches registered ask (both l r) s name t
  | bothRight {l r : Chain} {s t u : σ} {name : Option String}
      (hl : (l.allows registered ask).on s = (.ok true, u))
      (h : Reaches registered ask r u name t) : Reaches registered ask (both l r) s name t
  | eitherLeft {l r : Chain} {s t : σ} {name : Option String}
      (h : Reaches registered ask l s name t) : Reaches registered ask (either l r) s name t
  | eitherRight {l r : Chain} {s t u : σ} {name : Option String}
      (hl : (l.allows registered ask).on s = (.ok false, u))
      (h : Reaches registered ask r u name t) : Reaches registered ask (either l r) s name t
  | negated {c : Chain} {s t : σ} {name : Option String} (h : Reaches registered ask c s name t) :
      Reaches registered ask (negated c) s name t

variable {c : Chain} {s t u : σ} {name : Option String} {e : Error}

lemma on_allows_single_eq_error_iff :
    ((single name).allows registered ask).on s = (.error e, t) ↔
      (registered.get name = .error e ∧ t = s) ∨
        ∃ r, registered.get name = .ok r ∧ (r.allows ask).on s = (.error e, t) := by
  rw [allows, Act.on_bind_eq_error, Act.on_ofExcept]
  constructor
  · rintro (h | ⟨r, u, h, hr⟩)
    · obtain ⟨hget, rfl⟩ := Prod.mk.inj h
      exact Or.inl ⟨hget, rfl⟩
    · obtain ⟨hget, rfl⟩ := Prod.mk.inj h
      exact Or.inr ⟨r, hget, hr⟩
  · rintro (⟨hget, rfl⟩ | ⟨r, hget, hr⟩)
    · exact Or.inl (by rw [hget])
    · exact Or.inr ⟨r, s, by rw [hget], hr⟩

lemma Reaches.on_allows (h : Reaches registered ask c s name u)
    (he : ((Chain.single name).allows registered ask).on u = (.error e, t)) :
    (c.allows registered ask).on s = (.error e, t) := by
  induction h with
  | single => exact he
  | bothLeft _ ih =>
    rw [allows_both, on_inTurn_pair_eq_error]
    exact Or.inl (ih he)
  | bothRight hl _ ih =>
    rw [allows_both, on_inTurn_pair_eq_error]
    exact Or.inr ⟨_, hl, ih he⟩
  | eitherLeft _ ih =>
    rw [allows_either, on_inTurn_pair_eq_error]
    exact Or.inl (ih he)
  | eitherRight hl _ ih =>
    rw [allows_either, on_inTurn_pair_eq_error]
    exact Or.inr ⟨_, hl, ih he⟩
  | negated _ ih => rw [allows_negated, Act.on_map, ih he]; rfl

lemma exists_reaches (h : (c.allows registered ask).on s = (.error e, t)) :
    ∃ name u, Reaches registered ask c s name u ∧
      ((single name).allows registered ask).on u = (.error e, t) := by
  induction c generalizing s with
  | single name => exact ⟨name, s, .single, h⟩
  | both l r ihl ihr =>
    rw [allows_both, on_inTurn_pair_eq_error] at h
    rcases h with h | ⟨v, hl, h⟩
    · obtain ⟨name, u, hreaches, he⟩ := ihl h
      exact ⟨name, u, .bothLeft hreaches, he⟩
    · obtain ⟨name, u, hreaches, he⟩ := ihr h
      exact ⟨name, u, .bothRight hl hreaches, he⟩
  | either l r ihl ihr =>
    rw [allows_either, on_inTurn_pair_eq_error] at h
    rcases h with h | ⟨v, hl, h⟩
    · obtain ⟨name, u, hreaches, he⟩ := ihl h
      exact ⟨name, u, .eitherLeft hreaches, he⟩
    · obtain ⟨name, u, hreaches, he⟩ := ihr h
      exact ⟨name, u, .eitherRight hl hreaches, he⟩
  | negated c ih =>
    rw [allows, Act.on_bind_eq_error] at h
    rcases h with h | ⟨y, v, -, h⟩
    · obtain ⟨name, u, hreaches, he⟩ := ih h
      exact ⟨name, u, .negated hreaches, he⟩
    · cases h

/-- Evaluation ends with an error just if it comes to a class that has no instance, and then with
the fault of the look-up, or to one whose instance ends with the error. -/
lemma on_allows_eq_error_iff : (c.allows registered ask).on s = (.error e, t) ↔
    ∃ name u, Reaches registered ask c s name u ∧
      ((registered.get name = .error e ∧ t = u) ∨
        ∃ r, registered.get name = .ok r ∧ (r.allows ask).on u = (.error e, t)) := by
  constructor
  · intro h
    obtain ⟨name, u, hreaches, he⟩ := exists_reaches h
    exact ⟨name, u, hreaches, on_allows_single_eq_error_iff.mp he⟩
  · rintro ⟨name, u, hreaches, he⟩
    exact hreaches.on_allows (on_allows_single_eq_error_iff.mpr he)

/-- If no restriction itself ends with such a fault, a class is unknown just if evaluation comes to
one without instance. -/
lemma exists_unknownRestriction_iff
    (hquiet : ∀ r u f t, (ask r).on u = (.error (.fault f), t) → f.kind ≠ .unknownRestriction) :
    (∃ f t, (c.allows registered ask).on s = (.error (.fault f), t) ∧
      f.kind = .unknownRestriction) ↔
      ∃ name u, Reaches registered ask c s (some name) u ∧ registered.contains name = false := by
  constructor
  · rintro ⟨f, t, h, hkind⟩
    -- the fault came from a look-up or from a restriction, and the latter is ruled out
    obtain ⟨name, u, hreaches, ⟨hget, -⟩ | ⟨r, -, hr⟩⟩ := on_allows_eq_error_iff.mp h
    · cases name with
      | none => cases hget
      | some name => exact ⟨name, u, hreaches, Restrictions.contains_eq_false_iff.mpr ⟨_, hget⟩⟩
    · cases r with
      | everyone => cases hr
      | host className id => exact absurd hkind (hquiet _ u f t hr)
  · rintro ⟨name, u, hreaches, hname⟩
    obtain ⟨e, hget⟩ := Restrictions.contains_eq_false_iff.mp hname
    obtain ⟨f, rfl, hkind, -⟩ := Restrictions.exists_of_get_eq_error hget
    exact ⟨f, u, on_allows_eq_error_iff.mpr ⟨name, u, hreaches, Or.inl ⟨hget, rfl⟩⟩, hkind⟩

/-! ### Policies -/

variable {first : Chain} {rest : List Chain} {policy : Policy}

lemma make_chosen : make (first :: rest) (.chosen policy) = .ok (combine policy first rest) := rfl

lemma on_allows_combine_iff {x : Except Error Bool} :
    ((combine policy first rest).allows registered ask).on s = (x, t) ↔
      ∃ n y, TurnsOut policy.passes ((first :: rest).map (allows registered ask)) s n y t ∧
        x = y.map policy.answer := by
  rw [allows_combine, Act.on_map]
  constructor
  · intro h
    obtain ⟨rfl, rfl⟩ := Prod.mk.inj h
    obtain ⟨n, hn⟩ := on_inTurn_iff.mp rfl
    exact ⟨n, _, hn, rfl⟩
  · rintro ⟨n, y, hn, rfl⟩
    rw [on_inTurn_iff.mpr ⟨n, hn⟩]

lemma allows_noneOf : (combine .noneOf first rest).allows registered ask =
    (!·) <$> (combine .anyOf first rest).allows registered ask := by
  rw [allows_combine, allows_combine]
  simp only [Policy.answer, Policy.passes, id_map]

lemma map_allows_single {names : List (Option String)} {rs : List Restriction}
    (h : List.Forall₂ (registered.get · = .ok ·) names rs) :
    (names.map single).map (allows registered ask) = rs.map (Restriction.allows ask) := by
  induction h with
  | nil => rfl
  | @cons name r names rs hget _ ih =>
    have hsingle : (single name).allows registered ask = r.allows ask := by
      rw [allows, hget]
      rfl
    rw [List.map_cons, List.map_cons, List.map_cons, hsingle, ih]

/-- The chain of registered classes decides as the aggregate of their instances. -/
lemma allows_combine_eq_aggregate {names : List (Option String)} {rs : List Restriction}
    (hnames : first :: rest = names.map single)
    (h : List.Forall₂ (registered.get · = .ok ·) names rs) :
    (combine policy first rest).allows registered ask = Restriction.aggregate ask policy rs := by
  rw [allows_combine, hnames, map_allows_single h, Restriction.aggregate_eq]

/-! ### Several elements without a policy -/

/-- Every part of a chain has a class. -/
def isNamed : Chain → Bool
  | single className => className.isSome
  | both l r | either l r => l.isNamed && r.isNamed
  | negated e => e.isNamed

/-- A chain can be shown unless a part of it has no class. -/
lemma shown_cases (c : Chain) :
    (c.isNamed ∧ ∃ text, c.shown = .ok text) ∨
      (¬ c.isNamed ∧ c.shown = .error (.bare .missingAttribute)) := by
  induction c with
  | single className => cases className <;> simp [isNamed, shown]
  | both l r ihl ihr | either l r ihl ihr =>
    rcases ihl with ⟨hl, text, htext⟩ | ⟨hl, hfails⟩
    · rcases ihr with ⟨hr, text', htext'⟩ | ⟨hr, hfails⟩
      · exact Or.inl ⟨by simp [isNamed, hl, hr], _, by rw [shown, htext, htext']; rfl⟩
      · exact Or.inr ⟨by simp [isNamed, hr], by rw [shown, htext, hfails]; rfl⟩
    · exact Or.inr ⟨by simp [isNamed, hl], by rw [shown, hfails]; rfl⟩
  | negated e ih =>
    rcases ih with ⟨he, text, htext⟩ | ⟨he, hfails⟩
    · exact Or.inl ⟨he, _, by rw [shown, htext]; rfl⟩
    · exact Or.inr ⟨he, by rw [shown, hfails]; rfl⟩

lemma mapM_shown_cases (chains : List Chain) :
    ((∀ c ∈ chains, c.isNamed) ∧ ∃ texts, chains.mapM shown = .ok texts) ∨
      ((∃ c ∈ chains, ¬ c.isNamed) ∧ chains.mapM shown = .error (.bare .missingAttribute)) := by
  induction chains with
  | nil => exact Or.inl ⟨by simp, [], rfl⟩
  | cons c chains ih =>
    rw [List.mapM_cons]
    rcases c.shown_cases with ⟨hc, text, htext⟩ | ⟨hc, hfails⟩
    · rcases ih with ⟨hall, texts, htexts⟩ | ⟨⟨d, hd, hunnamed⟩, hfails⟩
      · exact Or.inl ⟨List.forall_mem_cons.mpr ⟨hc, hall⟩, _, by rw [htext, htexts]; rfl⟩
      · exact Or.inr ⟨⟨d, List.mem_cons_of_mem _ hd, hunnamed⟩, by rw [htext, hfails]; rfl⟩
    · exact Or.inr ⟨⟨c, List.mem_cons_self, hc⟩, by rw [hfails]; rfl⟩

/-- Several elements need a policy. The refusal shows them, so that one without a class fails first.
-/
lemma make_unspecified (first second : Chain) (rest : List Chain) :
    ∃ e, make (first :: second :: rest) .unspecified = .error e ∧
      ((∀ c ∈ first :: second :: rest, c.isNamed) →
        ∃ f, e = .fault f ∧ f.kind = .restrictionPolicy) ∧
      ((∃ c ∈ first :: second :: rest, ¬ c.isNamed) → e = .bare .missingAttribute) := by
  simp only [make]
  rcases mapM_shown_cases (first :: second :: rest) with ⟨hall, texts, htexts⟩ |
    ⟨⟨c, hc, hunnamed⟩, hfails⟩
  · rw [htexts]
    exact ⟨_, rfl, fun _ => ⟨_, rfl, rfl⟩, fun ⟨c, hc, hunnamed⟩ => absurd (hall c hc) hunnamed⟩
  · rw [hfails]
    exact ⟨_, rfl, fun hall => absurd (hall c hc) hunnamed, fun _ => rfl⟩

/-- A chain that is built by a policy asks its elements from left to right. After an answer that the
policy does not go on with, or an error, no other is asked, and the answer is that of the policy.
"None of" is the negation of "any of" and makes the same calls; and the chain of registered classes
is the aggregate of their instances and makes the same calls. Evaluation ends with an error just if
it comes to a part without a class, to a class that has no instance or to one whose instance ends
with the error. A single element needs no policy; several do. -/
theorem make_asks_in_turn (registered : Restrictions) (ask : Restriction → Act σ Bool)
    (context : Context Command) (first : Chain) (rest : List Chain) :
    (∀ policy, ∃ c, make (first :: rest) (.chosen policy) = .ok c ∧
      ∀ s x t, (c.allows registered ask).on s = (x, t) ↔
        ∃ n y, TurnsOut policy.passes ((first :: rest).map (allows registered ask)) s n y t ∧
          x = y.map policy.answer) ∧
    (∃ none any, make (first :: rest) (.chosen .noneOf) = .ok none ∧
      make (first :: rest) (.chosen .anyOf) = .ok any ∧
      none.allows registered ask = (!·) <$> any.allows registered ask ∧
      ∀ s, callsOf (none.allows registered) ask context s =
        callsOf (any.allows registered) ask context s) ∧
    (∀ policy names rs, first :: rest = names.map single →
      List.Forall₂ (registered.get · = .ok ·) names rs →
      ∃ c, make (first :: rest) (.chosen policy) = .ok c ∧
        c.allows registered ask = Restriction.aggregate ask policy rs ∧
        (∀ s, callsOf (c.allows registered) ask context s =
          callsOf (fun ask => Restriction.aggregate ask policy rs) ask context s) ∧
        ∀ s x t, (Restriction.aggregate ask policy rs).on s = (x, t) ↔
          ∃ n y, TurnsOut policy.passes (rs.map (Restriction.allows ask)) s n y t ∧
            x = y.map policy.answer) ∧
    (∀ (c : Chain) s e t, (c.allows registered ask).on s = (.error e, t) ↔
      ∃ name u, Reaches registered ask c s name u ∧
        ((registered.get name = .error e ∧ t = u) ∨
          ∃ r, registered.get name = .ok r ∧ (r.allows ask).on u = (.error e, t))) ∧
    ((∀ r u f t, (ask r).on u = (.error (.fault f), t) → f.kind ≠ .unknownRestriction) →
      ∀ (c : Chain) s, (∃ f t, (c.allows registered ask).on s = (.error (.fault f), t) ∧
        f.kind = .unknownRestriction) ↔
        ∃ name u, Reaches registered ask c s (some name) u ∧ registered.contains name = false) ∧
    make [first] .unspecified = make [first] (.chosen .allOf) ∧
    ∀ second, ∃ e, make (first :: second :: rest) .unspecified = .error e ∧
      ((∀ c ∈ first :: second :: rest, c.isNamed) →
        ∃ f, e = .fault f ∧ f.kind = .restrictionPolicy) ∧
      ((∃ c ∈ first :: second :: rest, ¬ c.isNamed) → e = .bare .missingAttribute) := by
  refine ⟨fun policy => ⟨_, make_chosen, fun s x t => on_allows_combine_iff⟩,
    ⟨_, _, make_chosen, make_chosen, allows_noneOf, fun s => ?_⟩,
    fun policy names rs hnames h => ⟨_, make_chosen, allows_combine_eq_aggregate hnames h,
      fun s => ?_, fun s x t => ?_⟩,
    fun c s e t => on_allows_eq_error_iff,
    fun hquiet c s => exists_unknownRestriction_iff hquiet, rfl,
    fun second => make_unspecified first second rest⟩
  · rw [callsOf, callsOf, allows_noneOf, Act.on_map]
  · rw [callsOf, callsOf, allows_combine_eq_aggregate hnames h]
  · rw [← allows_combine_eq_aggregate hnames h, on_allows_combine_iff, hnames, map_allows_single h]

theorem make_asks_in_turn_denied :
    let registered : Restrictions := ⟨.ofList [("Staff", .host "Staff" 0)]⟩
    let ask : Restriction → Act Nat Bool := fun _ => do modify (· + 1); return false
    (∃ c, make [single (some "Staff"), single (some "Staff")] (.chosen .allOf) = .ok c ∧
      c.allows registered ask =
        Restriction.aggregate ask .allOf [.host "Staff" 0, .host "Staff" 0] ∧
      (c.allows registered ask).on 0 = (.ok false, 1)) ∧
    (∃ f t, ((single (some "Owner")).allows registered ask).on 0 = (.error (.fault f), t) ∧
      f.kind = .unknownRestriction) ∧
    ∃ e f, make [single (some "Staff"), single (some "Owner"), single (some "Staff")] .unspecified =
      .error e ∧ e = .fault f ∧ f.kind = .restrictionPolicy := by
  intro registered ask
  obtain ⟨-, -, haggregate, -, hunknown, -, hseveral⟩ :=
    make_asks_in_turn registered ask { message := .null, content := "" } (single (some "Staff"))
      [single (some "Staff")]
  have hstaff : registered.get (some "Staff") = .ok (.host "Staff" 0) := rfl
  obtain ⟨c, hc, hallows, -⟩ := haggregate .allOf [some "Staff", some "Staff"]
    [.host "Staff" 0, .host "Staff" 0] rfl (.cons hstaff (.cons hstaff .nil))
  obtain ⟨e, hmake, hnamed, -⟩ := hseveral (single (some "Owner"))
  obtain ⟨f, hfault, hkind⟩ := hnamed (by decide)
  refine ⟨⟨c, hc, hallows, ?_⟩, (hunknown ?_ _ _).mpr ⟨"Owner", 0, .single, rfl⟩,
    e, f, hmake, hfault, hkind⟩
  · rw [hallows]
    rfl
  · intro r u f t h
    cases h

end Chain

end ChatCommands

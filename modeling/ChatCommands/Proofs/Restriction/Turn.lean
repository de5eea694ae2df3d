import ChatCommands.Proofs.Act
import ChatCommands.Restriction.Chain

/-!
# Asking in turn

Every policy asks one after another until one does not answer as the policy goes on: a denial ends
"all", a permission ends "any" and "none". A chain that is built by a policy and an aggregate of
restrictions are this one way of asking, of the elements and of the instances.

Main statements: `on_inTurn_iff`, `inTurn_not`, `Chain.allows_combine`,
`Restriction.aggregate_eq`.
-/

namespace ChatCommands

variable {σ : Type}

/-- Asks one after another for as long as the answer is `b`. -/
def inTurn (b : Bool) : List (Act σ Bool) → Act σ Bool
  | [] => return b
  | a :: as => do
    if (← a) = b then inTurn b as
    else return !b

/-! ### How asking ends -/

/-- One after another answers `b`, from a state to a state. -/
inductive Answers (b : Bool) : List (Act σ Bool) → σ → σ → Prop
  | nil {s : σ} : Answers b [] s s
  | cons {a : Act σ Bool} {as : List (Act σ Bool)} {s t u : σ} (h : a.on s = (.ok b, u))
      (hs : Answers b as u t) : Answers b (a :: as) s t

/-- What it comes to to ask in turn, and how many are asked: all answer `b`, or the last one that is
asked does not, or ends with an error, and those before it do. -/
inductive TurnsOut (b : Bool) : List (Act σ Bool) → σ → Nat → Except Error Bool → σ → Prop
  | through {as : List (Act σ Bool)} {s t : σ} (h : Answers b as s t) :
      TurnsOut b as s as.length (.ok b) t
  | stopped (before : List (Act σ Bool)) {after : List (Act σ Bool)} {a : Act σ Bool} {s t u : σ}
      {x : Except Error Bool} (h : Answers b before s u) (ha : a.on u = (x, t))
      (hx : x ≠ .ok b) : TurnsOut b (before ++ a :: after) s (before.length + 1) x t

section
variable {a : Act σ Bool} {as before : List (Act σ Bool)} {b : Bool} {s t u : σ} {n : Nat}
  {x : Except Error Bool}

lemma on_inTurn_cons (h : a.on s = (.ok b, u)) :
    (inTurn b (a :: as)).on s = (inTurn b as).on u := by
  rw [inTurn, Act.on_bind, h]
  simp

lemma on_inTurn_of_ne (h : a.on s = (x, t)) (hx : x ≠ .ok b) :
    (inTurn b (a :: as)).on s = (x, t) := by
  rw [inTurn, Act.on_bind, h]
  match x, hx with
  | .error e, _ => rfl
  | .ok y, hx =>
    have hy : y ≠ b := fun heq => hx (congrArg _ heq)
    simp [Bool.eq_not_of_ne hy]

lemma on_inTurn_congr {a' : Act σ Bool} (h : a.on s = a'.on u) :
    (inTurn b (a :: as)).on s = (inTurn b (a' :: as)).on u := by
  rw [inTurn, inTurn, Act.on_bind, Act.on_bind, h]

lemma Answers.on_inTurn (h : Answers b before s u) :
    (inTurn b (before ++ as)).on s = (inTurn b as).on u := by
  induction h with
  | nil => rfl
  | cons ha _ ih => rw [List.cons_append, on_inTurn_cons ha, ih]

lemma TurnsOut.cons (ha : a.on s = (.ok b, u)) (h : TurnsOut b as u n x t) :
    TurnsOut b (a :: as) s (n + 1) x t := by
  cases h with
  | through h => exact .through (.cons ha h)
  | stopped before h hx hne => exact .stopped (a :: before) (.cons ha h) hx hne

lemma exists_turnsOut (b : Bool) (as : List (Act σ Bool)) (s : σ) :
    ∃ n, TurnsOut b as s n ((inTurn b as).on s).1 ((inTurn b as).on s).2 := by
  induction as generalizing s with
  | nil => exact ⟨0, .through .nil⟩
  | cons a as ih =>
    rcases ha : a.on s with ⟨x, u⟩
    by_cases hx : x = .ok b
    · subst hx
      obtain ⟨n, h⟩ := ih u
      rw [on_inTurn_cons ha]
      exact ⟨n + 1, h.cons ha⟩
    · rw [on_inTurn_of_ne ha hx]
      exact ⟨1, .stopped [] .nil ha hx⟩

/-- To ask in turn comes to what `TurnsOut` says, and to nothing else. -/
lemma on_inTurn_iff : (inTurn b as).on s = (x, t) ↔ ∃ n, TurnsOut b as s n x t := by
  constructor
  · intro h
    obtain ⟨n, hn⟩ := exists_turnsOut b as s
    rw [h] at hn
    exact ⟨n, hn⟩
  · rintro ⟨n, h | ⟨before, h, ha, hx⟩⟩
    · have hrun : (inTurn b (as ++ [])).on s = (inTurn b []).on t := h.on_inTurn
      rwa [List.append_nil] at hrun
    · rw [h.on_inTurn, on_inTurn_of_ne ha hx]

end

/-! ### Laws -/

@[simp] lemma inTurn_singleton (b : Bool) (a : Act σ Bool) : inTurn b [a] = a := by
  ext s : 1
  rw [inTurn, Act.on_bind]
  rcases a.on s with ⟨e | y, u⟩
  · rfl
  · cases b <;> cases y <;> rfl

/-- Of two that are asked in turn, the first ends with an error, or the second does after the answer
`b` of the first. -/
lemma on_inTurn_pair_eq_error {b : Bool} {l r : Act σ Bool} {s t : σ} {e : Error} :
    (inTurn b [l, r]).on s = (.error e, t) ↔ l.on s = (.error e, t) ∨
      ∃ u, l.on s = (.ok b, u) ∧ r.on u = (.error e, t) := by
  rw [inTurn, inTurn_singleton, Act.on_bind_eq_error]
  refine or_congr_right ⟨?_, ?_⟩
  · rintro ⟨y, u, hl, h⟩
    by_cases hy : y = b
    · subst hy
      exact ⟨u, hl, by simpa using h⟩
    · simp [hy] at h
  · rintro ⟨u, hl, h⟩
    exact ⟨b, u, hl, by simpa using h⟩

/-- Two that are asked in turn may be asked as one. -/
lemma inTurn_pair_cons (b : Bool) (l r : Act σ Bool) (as : List (Act σ Bool)) :
    inTurn b (inTurn b [l, r] :: as) = inTurn b (l :: r :: as) := by
  ext s : 1
  rcases hl : l.on s with ⟨x, u⟩
  by_cases hx : x = .ok b
  · subst hx
    rw [on_inTurn_cons hl]
    exact on_inTurn_congr (by rw [on_inTurn_cons hl, inTurn_singleton])
  · rw [on_inTurn_of_ne hl hx, on_inTurn_of_ne (on_inTurn_of_ne hl hx) hx]

/-- To ask for the opposite is to ask and to give the opposite answer. -/
lemma inTurn_not (b : Bool) (as : List (Act σ Bool)) :
    inTurn (!b) (as.map ((!·) <$> ·)) = (!·) <$> inTurn b as := by
  induction as with
  | nil => rfl
  | cons a as ih =>
    ext s : 1
    rw [List.map_cons, inTurn, inTurn, ih, Act.on_bind, Act.on_map, Act.on_map, Act.on_bind]
    rcases a.on s with ⟨e | y, u⟩
    · rfl
    · cases b <;> cases y <;> simp [Except.map]

/-! ### Policies -/

namespace Policy

/-- The answer after which the next one is asked. -/
def passes : Policy → Bool
  | allOf => true
  | anyOf | noneOf => false

/-- What the last answer means. -/
def answer : Policy → Bool → Bool
  | allOf | anyOf => id
  | noneOf => (!·)

end Policy

namespace Chain

variable {registered : Restrictions} {ask : Restriction → Act σ Bool} {l r : Chain}

lemma allows_both : (both l r).allows registered ask =
    inTurn true [l.allows registered ask, r.allows registered ask] := by
  rw [allows, inTurn, inTurn_singleton]
  rfl

lemma allows_either : (either l r).allows registered ask =
    inTurn false [l.allows registered ask, r.allows registered ask] := by
  rw [allows, inTurn, inTurn_singleton]
  refine bind_congr fun y => ?_
  cases y <;> rfl

lemma allows_negated : (negated l).allows registered ask = (!·) <$> l.allows registered ask := by
  rw [allows, map_eq_pure_bind]

lemma allows_foldl_both (first : Chain) (rest : List Chain) :
    (rest.foldl both first).allows registered ask =
      inTurn true ((first :: rest).map (allows registered ask)) := by
  induction rest generalizing first with
  | nil => simp
  | cons e rest ih => rw [List.foldl_cons, ih, List.map_cons, allows_both, inTurn_pair_cons]; rfl

lemma allows_foldl_either (first : Chain) (rest : List Chain) :
    (rest.foldl either first).allows registered ask =
      inTurn false ((first :: rest).map (allows registered ask)) := by
  induction rest generalizing first with
  | nil => simp
  | cons e rest ih => rw [List.foldl_cons, ih, List.map_cons, allows_either, inTurn_pair_cons]; rfl

/-- A chain built by a policy asks its elements in turn. -/
lemma allows_combine (policy : Policy) (first : Chain) (rest : List Chain) :
    (combine policy first rest).allows registered ask =
      policy.answer <$> inTurn policy.passes ((first :: rest).map (allows registered ask)) := by
  cases policy with
  | allOf => rw [combine, allows_foldl_both, Policy.answer, id_map, Policy.passes]
  | anyOf => rw [combine, allows_foldl_either, Policy.answer, id_map, Policy.passes]
  | noneOf =>
    -- "none of" asks all of the negated elements, so the answers that it goes on with are denials
    have hnegated : (negated first :: rest.map negated).map (allows registered ask) =
        ((first :: rest).map (allows registered ask)).map ((!·) <$> ·) := by
      simp [Function.comp_def, allows_negated]
    rw [combine, ← List.foldl_map (f := negated) (g := both), allows_foldl_both, hnegated]
    exact inTurn_not false _

end Chain

namespace Restriction

variable {ask : Restriction → Act σ Bool}

lemma allAllow_eq (rs : List Restriction) :
    allAllow ask rs = inTurn true (rs.map (allows ask)) := by
  induction rs with
  | nil => rfl
  | cons r rs ih =>
    rw [allAllow, List.map_cons, inTurn, ih]
    rfl

lemma anyAllows_eq (rs : List Restriction) :
    anyAllows ask rs = inTurn false (rs.map (allows ask)) := by
  induction rs with
  | nil => rfl
  | cons r rs ih =>
    rw [anyAllows, List.map_cons, inTurn, ih]
    refine bind_congr fun y => ?_
    cases y <;> rfl

/-- An aggregate asks its members in turn. -/
lemma aggregate_eq (policy : Policy) (rs : List Restriction) :
    aggregate ask policy rs =
      policy.answer <$> inTurn policy.passes (rs.map (allows ask)) := by
  cases policy with
  | allOf => rw [aggregate, allAllow_eq, Policy.answer, id_map, Policy.passes]
  | anyOf => rw [aggregate, anyAllows_eq, Policy.answer, id_map, Policy.passes]
  | noneOf => rw [aggregate, anyAllows_eq, map_eq_pure_bind]; rfl

end Restriction

end ChatCommands

import ChatCommands.Pattern.Expr
import Mathlib.Tactic.Common

/-!
# Outcomes of matching

Matching an expression at the front of a text has several outcomes, one for each way to take the
choices that the expression leaves; they are listed in the order in which they are tried. The first
outcome that what follows accepts is the one that `Expr.run` goes on with.

Main statements: `Expr.run_eq_findSome?`, what values and boundaries can take (`Shape.mem_takes`,
`mem_afterBoundary`), and how completions of expressions are made from those of their parts.
-/

namespace ChatCommands.Pattern

/-- One way to match: what was captured, and what is left of the text. -/
structure Outcome where
  captures : List Capture
  rest : List Char

/-! ### Cutting off a run of characters -/

/-- The ways to cut off between `n` characters and one, the longest first. -/
def cuts (cs : List Char) : Nat → List (List Char × List Char)
  | 0 => []
  | n + 1 => (cs.take (n + 1), cs.drop (n + 1)) :: cuts cs n

lemma mem_cuts {cs : List Char} {n : Nat} (hn : n ≤ cs.length) {v rest : List Char} :
    (v, rest) ∈ cuts cs n ↔ v ++ rest = cs ∧ v ≠ [] ∧ v.length ≤ n := by
  induction n with
  | zero => cases v <;> simp [cuts]
  | succ n ih =>
    rw [cuts, List.mem_cons, ih (by omega), Prod.mk.injEq]
    constructor
    · rintro (⟨rfl, rfl⟩ | ⟨h, hv, hlen⟩)
      · refine ⟨List.take_append_drop _ _, ?_, List.length_take_le _ _⟩
        intro h
        rw [List.take_eq_nil_iff] at h
        rcases h with h | rfl
        · omega
        · simp at hn
      · exact ⟨h, hv, by omega⟩
    · rintro ⟨rfl, hv, hlen⟩
      rcases Nat.lt_or_ge n v.length with h | h
      · have : n + 1 = v.length := by omega
        simp [this]
      · exact Or.inr ⟨rfl, hv, h⟩

lemma cuts_append {v rest : List Char} (hv : v ≠ []) :
    cuts (v ++ rest) v.length = (v, rest) :: cuts (v ++ rest) (v.length - 1) := by
  obtain ⟨n, hn⟩ := Nat.exists_eq_add_one.mpr (List.length_pos_iff.mpr hv)
  rw [hn, cuts, ← hn, List.take_left, List.drop_left, hn, Nat.add_sub_cancel]

/-- The longest cut is the first to be tried; it is taken unless a shorter one can go on where it
cannot. -/
lemma findSome?_cuts {β : Type} {go : List Char × List Char → Option β} {v rest : List Char}
    (hv : v ≠ []) (h : go (v, rest) = none →
      ∀ v₁ c v₂, v₁ ≠ [] → v = v₁ ++ c :: v₂ → go (v₁, c :: (v₂ ++ rest)) = none) :
    (cuts (v ++ rest) v.length).findSome? go = go (v, rest) := by
  rw [cuts_append hv, List.findSome?_cons]
  cases hgo : go (v, rest) with
  | some b => rfl
  | none =>
    rw [List.findSome?_eq_none_iff]
    rintro ⟨v₁, rest₁⟩ hmem
    have hlen : v.length - 1 ≤ (v ++ rest).length := by rw [List.length_append]; omega
    obtain ⟨heq, hne, hle⟩ := (mem_cuts hlen).mp hmem
    have hpos := List.length_pos_iff.mpr hv
    rcases List.append_eq_append_iff.mp heq with ⟨as, rfl, rfl⟩ | ⟨bs, rfl, -⟩
    · cases as with
      | nil =>
        rw [List.append_nil] at hle hpos
        omega
      | cons c v₂ => exact h hgo v₁ c v₂ hne rfl
    · rw [List.length_append] at hle
      omega

lemma longestFirst_eq_findSome? {β : Type} (cs : List Char)
    (next : List Char → List Char → Option β) (n : Nat) :
    Expr.longestFirst cs next n = (cuts cs n).findSome? fun p => next p.1 p.2 := by
  induction n with
  | zero => rfl
  | succ n ih =>
    rw [Expr.longestFirst, cuts, List.findSome?_cons, ih]
    cases next (cs.take (n + 1)) (cs.drop (n + 1)) <;> rfl

/-! ### What values and boundaries take -/

/-- Whether a shape may capture a text as a whole. -/
def Shape.Fits : Shape → List Char → Prop
  | .word, v => v ≠ [] ∧ ∀ c ∈ v, Text.isSolid c
  | .rest, v => v ≠ []
  | .exact text, v => v = text.toList

/-- The ways to take a value of a shape from the front of a text. -/
def Shape.takes : Shape → List Char → List (List Char × List Char)
  | .word, cs => cuts cs (cs.takeWhile Text.isSolid).length
  | .rest, cs => cuts cs cs.length
  | .exact text, cs =>
    if text.toList.isPrefixOf cs then [(text.toList, cs.drop text.toList.length)] else []

/-- What may be left of a text after a boundary. -/
def afterBoundary (cs : List Char) : List (List Char) :=
  (cuts cs (cs.takeWhile Text.isBlank).length).map Prod.snd ++ if cs.isEmpty then [cs] else []

/-- A front part lies within the longest run of some characters just if it has only those. -/
lemma length_le_takeWhile_iff {p : Char → Bool} {v rest : List Char} :
    v.length ≤ ((v ++ rest).takeWhile p).length ↔ ∀ c ∈ v, p c := by
  induction v with
  | nil => simp
  | cons c v ih =>
    by_cases hc : p c
    · simp [hc, ih]
    · simp [hc]

lemma mem_cuts_takeWhile {p : Char → Bool} {cs v rest : List Char} :
    (v, rest) ∈ cuts cs (cs.takeWhile p).length ↔ v ++ rest = cs ∧ v ≠ [] ∧ ∀ c ∈ v, p c := by
  rw [mem_cuts (List.takeWhile_prefix p).length_le]
  constructor
  · rintro ⟨rfl, hv, h⟩
    exact ⟨rfl, hv, length_le_takeWhile_iff.mp h⟩
  · rintro ⟨rfl, hv, h⟩
    exact ⟨rfl, hv, length_le_takeWhile_iff.mpr h⟩

lemma Shape.mem_takes {shape : Shape} {cs v rest : List Char} :
    (v, rest) ∈ shape.takes cs ↔ v ++ rest = cs ∧ shape.Fits v := by
  cases shape with
  | word => exact mem_cuts_takeWhile
  | rest =>
    rw [takes, mem_cuts (Nat.le_refl _), Fits]
    constructor
    · rintro ⟨h, hv, -⟩
      exact ⟨h, hv⟩
    · rintro ⟨rfl, hv⟩
      exact ⟨rfl, hv, by simp⟩
  | exact text =>
    rw [takes, Fits]
    split
    · rename_i h
      obtain ⟨r, rfl⟩ := List.isPrefixOf_iff_prefix.mp h
      rw [List.drop_left, List.mem_singleton, Prod.mk.injEq]
      constructor
      · rintro ⟨rfl, rfl⟩
        exact ⟨rfl, rfl⟩
      · rintro ⟨h, rfl⟩
        exact ⟨rfl, List.append_cancel_left h⟩
    · rename_i h
      constructor
      · intro hm
        exact absurd hm List.not_mem_nil
      · rintro ⟨rfl, rfl⟩
        exact absurd (List.isPrefixOf_iff_prefix.mpr (List.prefix_append _ _)) h

lemma mem_afterBoundary {cs rest : List Char} :
    rest ∈ afterBoundary cs ↔
      (∃ gap, gap ++ rest = cs ∧ gap ≠ [] ∧ ∀ c ∈ gap, Text.isBlank c) ∨ cs = [] ∧ rest = [] := by
  rw [afterBoundary, List.mem_append]
  refine or_congr ?_ ?_
  · simp only [List.mem_map, Prod.exists, exists_eq_right, mem_cuts_takeWhile]
  · cases cs <;> simp

lemma afterBoundary_solid {c : Char} (hc : Text.isSolid c) (cs : List Char) :
    afterBoundary (c :: cs) = [] := by
  rw [Text.isSolid_eq_true] at hc
  simp [afterBoundary, cuts, hc]

lemma takeShape_eq_findSome? {β : Type} (shape : Shape) (cs : List Char)
    (next : List Char → List Char → Option β) :
    Expr.takeShape shape cs next = (shape.takes cs).findSome? fun p => next p.1 p.2 := by
  cases shape with
  | word => exact longestFirst_eq_findSome? _ _ _
  | rest => exact longestFirst_eq_findSome? _ _ _
  | exact text =>
    rw [Expr.takeShape, Shape.takes]
    split <;> simp

lemma takeBoundary_eq_findSome? {β : Type} (cs : List Char) (next : List Char → Option β) :
    Expr.takeBoundary cs next = (afterBoundary cs).findSome? next := by
  rw [Expr.takeBoundary, afterBoundary, longestFirst_eq_findSome?, List.findSome?_append,
    List.findSome?_map]
  cases cs <;> simp [Function.comp_def]

/-! ### Outcomes of expressions -/

namespace Expr

mutual
/-- The outcomes of matching an expression at the front of a text. -/
def outcomes : Expr → List Char → List Outcome
  | boundary, cs => (afterBoundary cs).map (⟨[], ·⟩)
  | capture slot shape, cs =>
    (shape.takes cs).map fun p => ⟨[⟨slot, String.ofList p.1⟩], p.2⟩
  | sequence parts, cs => outcomesAll parts cs
  | alternatives branches, cs => outcomesAny branches cs
  | optional body, cs => outcomes body cs ++ [⟨[], cs⟩]

/-- The outcomes of matching expressions one after another. -/
def outcomesAll : List Expr → List Char → List Outcome
  | [], cs => [⟨[], cs⟩]
  | e :: es, cs => (outcomes e cs).flatMap fun o =>
    (outcomesAll es o.rest).map fun o' => ⟨o.captures ++ o'.captures, o'.rest⟩

/-- The outcomes of matching one of several expressions. -/
def outcomesAny : List Expr → List Char → List Outcome
  | [], _ => []
  | e :: es, cs => outcomes e cs ++ outcomesAny es cs
end

section
variable {α β γ : Type}

lemma findSome?_flatMap (l : List α) (f : α → List β) (g : β → Option γ) :
    (l.flatMap f).findSome? g = l.findSome? fun a => (f a).findSome? g := by
  induction l with
  | nil => rfl
  | cons a l ih =>
    rw [List.flatMap_cons, List.findSome?_append, List.findSome?_cons, ih]
    cases (f a).findSome? g <;> rfl

mutual
/-- A run goes on with the first outcome that what follows accepts. -/
lemma run_eq_findSome? (e : Expr) (cs : List Char)
    (next : List Capture → List Char → Option β) :
    run e cs next = (outcomes e cs).findSome? fun o => next o.captures o.rest := by
  match e with
  | boundary =>
    simp only [run, outcomes, takeBoundary_eq_findSome?, List.findSome?_map, Function.comp_def]
  | capture slot shape =>
    simp only [run, outcomes, takeShape_eq_findSome?, List.findSome?_map, Function.comp_def]
  | sequence parts => exact runAll_eq_findSome? parts cs next
  | alternatives branches => exact runAny_eq_findSome? branches cs next
  | optional body =>
    rw [run, outcomes, run_eq_findSome? body, List.findSome?_append]
    simp

lemma runAll_eq_findSome? (es : List Expr) (cs : List Char)
    (next : List Capture → List Char → Option β) :
    runAll es cs next = (outcomesAll es cs).findSome? fun o => next o.captures o.rest := by
  match es with
  | [] => simp [runAll, outcomesAll]
  | e :: es =>
    rw [runAll, outcomesAll, run_eq_findSome? e, findSome?_flatMap]
    simp only [runAll_eq_findSome? es, List.findSome?_map, Function.comp_def]

lemma runAny_eq_findSome? (es : List Expr) (cs : List Char)
    (next : List Capture → List Char → Option β) :
    runAny es cs next = (outcomesAny es cs).findSome? fun o => next o.captures o.rest := by
  match es with
  | [] => rfl
  | e :: es =>
    rw [runAny, outcomesAny, run_eq_findSome? e, runAny_eq_findSome? es, List.findSome?_append]
    simp
end

end

end Expr

/-! ### The first outcome that can go on -/

/-- The captures of the first outcome that `next` can go on with, together with what `next`
captures in the rest. -/
def first (os : List Outcome) (next : List Char → Option (List Capture)) :
    Option (List Capture) :=
  os.findSome? fun o => (next o.rest).map (o.captures ++ ·)

/-- What follows a whole match: nothing may be left. -/
def whole : List Char → Option (List Capture)
  | [] => some []
  | _ :: _ => none

section
variable {os ps : List Outcome} {next next' : List Char → Option (List Capture)}

@[simp] lemma first_nil : first [] next = none := rfl

@[simp] lemma first_append : first (os ++ ps) next = (first os next).or (first ps next) :=
  List.findSome?_append

@[simp] lemma first_skip (cs : List Char) : first [⟨[], cs⟩] next = next cs := by
  simp [first]

lemma first_congr (h : ∀ o ∈ os, next o.rest = next' o.rest) : first os next = first os next' := by
  induction os with
  | nil => rfl
  | cons o os ih =>
    have ih := ih fun o ho => h o (List.mem_cons_of_mem _ ho)
    simp only [first, List.findSome?_cons, h o List.mem_cons_self] at ih ⊢
    rw [ih]

/-- Going on after one match with another one. -/
lemma first_flatMap {follow : Outcome → List Outcome} {follow' : List Char → List Outcome}
    (h : ∀ o ∈ os, follow o = follow' o.rest) :
    first (os.flatMap fun o =>
        (follow o).map fun o' => ⟨o.captures ++ o'.captures, o'.rest⟩) next =
      first os fun rest => first (follow' rest) next := by
  induction os with
  | nil => rfl
  | cons o os ih =>
    have ih := ih fun o ho => h o (List.mem_cons_of_mem _ ho)
    rw [List.flatMap_cons, first_append, ih, h o List.mem_cons_self]
    simp only [first, List.findSome?_map, Function.comp_def, List.findSome?_cons,
      List.map_findSome?, Option.map_map, List.append_assoc]
    split <;> rename_i h <;> rw [h] <;> rfl

end

namespace Expr

/-- What an expression captures at the front of a text when `next` goes on. -/
def first (e : Expr) (next : List Char → Option (List Capture)) (cs : List Char) :
    Option (List Capture) :=
  Pattern.first (e.outcomes cs) next

/-- What expressions one after another capture when `next` goes on. -/
def firstAll (es : List Expr) (next : List Char → Option (List Capture)) (cs : List Char) :
    Option (List Capture) :=
  Pattern.first (outcomesAll es cs) next

/-- A whole match is one that ends the text. -/
lemma captures?_eq_first (e : Expr) (cs : List Char) : e.captures? cs = e.first whole cs := by
  rw [captures?, run_eq_findSome?, first, Pattern.first]
  congr 1
  funext o
  cases o.rest <;> simp [whole]

variable (next : List Char → Option (List Capture)) (cs : List Char)

lemma first_boundary : boundary.first next cs = (afterBoundary cs).findSome? next := by
  simp [first, Pattern.first, outcomes, List.findSome?_map, Function.comp_def]

lemma first_capture (slot : Slot) (shape : Shape) :
    (capture slot shape).first next cs =
      (shape.takes cs).findSome? fun p => (next p.2).map (⟨slot, String.ofList p.1⟩ :: ·) := by
  simp [first, Pattern.first, outcomes, List.findSome?_map, Function.comp_def]

lemma first_sequence (es : List Expr) : (sequence es).first next cs = firstAll es next cs := rfl

lemma first_alternatives_cons (e : Expr) (es : List Expr) :
    (alternatives (e :: es)).first next cs =
      (e.first next cs).or ((alternatives es).first next cs) := by
  simp [first, outcomes, outcomesAny]

lemma first_optional (e : Expr) : e.optional.first next cs = (e.first next cs).or (next cs) := by
  simp [first, outcomes]

lemma firstAll_nil : firstAll [] next = next := by
  funext cs
  simp [firstAll, outcomesAll]

lemma firstAll_cons (e : Expr) (es : List Expr) :
    firstAll (e :: es) next = e.first (firstAll es next) := by
  funext cs
  rw [firstAll, outcomesAll, first_flatMap fun o _ => rfl]
  rfl

/-! An optional part compiles to a sequence that may take a boundary in. -/

lemma first_lead (e : Expr) : (optional (.sequence [.boundary, e])).first next cs =
    (boundary.first (e.first next) cs).or (next cs) := by
  rw [first_optional, first_sequence, firstAll_cons, firstAll_cons, firstAll_nil]

lemma first_trail (e : Expr) : (optional (.sequence [e, .boundary])).first next cs =
    (e.first (boundary.first next) cs).or (next cs) := by
  rw [first_optional, first_sequence, firstAll_cons, firstAll_cons, firstAll_nil]

lemma first_single (e : Expr) :
    (optional (.sequence [e])).first next cs = (e.first next cs).or (next cs) := by
  rw [first_optional, first_sequence, firstAll_cons, firstAll_nil]

end Expr

/-! ### Whole matches -/

/-- The captures of the first outcome that leaves nothing of the text. -/
def firstWhole (os : List Outcome) : Option (List Capture) :=
  (os.find? (·.rest.isEmpty)).map Outcome.captures

lemma firstWhole_eq_first (os : List Outcome) : firstWhole os = first os whole := by
  induction os with
  | nil => rfl
  | cons o os ih =>
    obtain ⟨captures, rest⟩ := o
    rw [firstWhole, first] at ih
    rw [firstWhole, first, List.find?_cons, List.findSome?_cons, ← ih]
    cases rest <;> simp [whole]

lemma mem_of_firstWhole {os : List Outcome} {xs : List Capture} (h : firstWhole os = some xs) :
    ⟨xs, []⟩ ∈ os := by
  rw [firstWhole, Option.map_eq_some_iff] at h
  obtain ⟨⟨xs, rest⟩, hfind, rfl⟩ := h
  have hrest : rest.isEmpty = true := by simpa using List.find?_some hfind
  obtain rfl := List.isEmpty_iff.mp hrest
  exact List.mem_of_find?_eq_some hfind

lemma isSome_firstWhole {os : List Outcome} :
    (firstWhole os).isSome ↔ ∃ xs, ⟨xs, []⟩ ∈ os := by
  constructor
  · intro h
    obtain ⟨xs, h⟩ := Option.isSome_iff_exists.mp h
    exact ⟨xs, mem_of_firstWhole h⟩
  · rintro ⟨xs, h⟩
    rw [firstWhole, Option.isSome_map, List.find?_isSome]
    exact ⟨_, h, rfl⟩

lemma Expr.captures?_eq_firstWhole (e : Expr) (cs : List Char) :
    e.captures? cs = firstWhole (e.outcomes cs) := by
  rw [firstWhole_eq_first, captures?_eq_first, first]

end ChatCommands.Pattern

import ChatCommands.Proofs.Pattern.Outcome
import Mathlib.Data.List.Basic

/-!
# Completions

The completions of an expression at the front of a text are what it can capture there together with
what follows can capture in the rest, in the order in which matching would find them.

Main statements: what a pattern captures in a text is the first completion that leaves nothing
(`Expr.captures?_eq_head?`), and how tracking of lists goes through the ways in which completions
are made (`Tracks.map`, `Tracks.append`, `Tracks.extend`).
-/

namespace ChatCommands.Pattern

/-- What can be captured in a text, in the order in which it is found. -/
abbrev Next : Type := List Char → List (List Capture)

/-- The captures of outcomes together with what `next` captures in the rest. -/
def completions (os : List Outcome) (next : Next) : List (List Capture) :=
  os.flatMap fun o => (next o.rest).map (o.captures ++ ·)

/-- What follows a whole match: nothing may be left. -/
def atEnd : Next
  | [] => [[]]
  | _ :: _ => []

section
variable {os : List Outcome} {next : Next} {y : List Capture}

lemma mem_completions :
    y ∈ completions os next ↔ ∃ o ∈ os, ∃ x ∈ next o.rest, y = o.captures ++ x := by
  simp only [completions, List.mem_flatMap, List.mem_map, eq_comm]

lemma exists_of_head?_flatMap {α β : Type} {l : List α} {f : α → List β} {b : β}
    (h : (l.flatMap f).head? = some b) : ∃ a ∈ l, (f a).head? = some b := by
  rw [List.head?_flatMap] at h
  exact List.exists_of_findSome?_eq_some h

/-- The first completion is the first one of some outcome. -/
lemma exists_of_head?_completions (h : (completions os next).head? = some y) :
    ∃ o ∈ os, ∃ x, (next o.rest).head? = some x ∧ y = o.captures ++ x := by
  obtain ⟨o, ho, h⟩ := exists_of_head?_flatMap h
  rw [List.head?_map] at h
  obtain ⟨x, hx, rfl⟩ := Option.map_eq_some_iff.mp h
  exact ⟨o, ho, x, hx, rfl⟩

lemma completions_congr {next' : Next} (h : ∀ o ∈ os, next o.rest = next' o.rest) :
    completions os next = completions os next' :=
  List.flatMap_congr fun o ho => by rw [h o ho]

end

lemma firstWhole_eq_head? (os : List Outcome) : firstWhole os = (completions os atEnd).head? := by
  induction os with
  | nil => rfl
  | cons o os ih =>
    obtain ⟨captures, rest⟩ := o
    rw [firstWhole] at ih
    cases rest with
    | nil => simp [firstWhole, completions, atEnd]
    | cons c cs => simpa [firstWhole, completions, atEnd] using ih

namespace Expr

/-- The completions of an expression. -/
def completions (e : Expr) (next : Next) : Next := fun cs =>
  Pattern.completions (e.outcomes cs) next

/-- The completions of expressions one after another. -/
def completionsAll (es : List Expr) (next : Next) : Next := fun cs =>
  Pattern.completions (outcomesAll es cs) next

section
variable (next : Next) (cs : List Char)

lemma completions_boundary : boundary.completions next cs = (afterBoundary cs).flatMap next := by
  simp [completions, Pattern.completions, outcomes, List.flatMap_map]

lemma completions_capture (slot : Slot) (shape : Shape) :
    (capture slot shape).completions next cs =
      (shape.takes cs).flatMap fun p => (next p.2).map (⟨slot, String.ofList p.1⟩ :: ·) := by
  simp [completions, Pattern.completions, outcomes, List.flatMap_map]

lemma completions_alternatives_cons (e : Expr) (es : List Expr) :
    (alternatives (e :: es)).completions next cs =
      e.completions next cs ++ (alternatives es).completions next cs := by
  simp [completions, outcomes, outcomesAny, Pattern.completions]

lemma completions_optional (e : Expr) :
    e.optional.completions next cs = e.completions next cs ++ next cs := by
  simp [completions, outcomes, Pattern.completions]

lemma completions_sequence (es : List Expr) :
    (sequence es).completions next = completionsAll es next := rfl

lemma completionsAll_nil : completionsAll [] next = next := by
  funext cs
  simp [completionsAll, outcomesAll, Pattern.completions]

lemma completionsAll_cons (e : Expr) (es : List Expr) :
    completionsAll (e :: es) next = e.completions (completionsAll es next) := by
  funext cs
  simp [completionsAll, completions, outcomesAll, Pattern.completions, List.flatMap_assoc,
    List.flatMap_map, List.map_flatMap, Function.comp_def]

/-! An optional part compiles to a sequence that may take a boundary in. -/

lemma completions_lead (e : Expr) :
    (optional (.sequence [.boundary, e])).completions next cs =
      boundary.completions (e.completions next) cs ++ next cs := by
  simp only [completions_optional, completions_sequence, completionsAll_cons, completionsAll_nil]

lemma completions_trail (e : Expr) :
    (optional (.sequence [e, .boundary])).completions next cs =
      e.completions (boundary.completions next) cs ++ next cs := by
  simp only [completions_optional, completions_sequence, completionsAll_cons, completionsAll_nil]

lemma completions_single (e : Expr) :
    (optional (.sequence [e])).completions next cs = e.completions next cs ++ next cs := by
  simp only [completions_optional, completions_sequence, completionsAll_cons, completionsAll_nil]

end

/-- The first whole match is the first completion that leaves nothing. -/
lemma captures?_eq_head? (e : Expr) (cs : List Char) :
    e.captures? cs = (e.completions atEnd cs).head? := by
  rw [captures?_eq_firstWhole, firstWhole_eq_head?, completions]

end Expr

/-! ### Tracking the first of a list -/

/-- The first list is empty if the second one is, and starts with what the second one starts with
wherever it has that at all. -/
def Tracks {α : Type} (xs ys : List α) : Prop :=
  (ys = [] → xs = []) ∧ ∀ y, ys.head? = some y → y ∈ xs → xs.head? = some y

namespace Tracks

variable {α β : Type} {xs xs' ys ys' : List α}

lemma refl (xs : List α) : Tracks xs xs := ⟨id, fun _ h _ => h⟩

lemma nil (ys : List α) : Tracks [] ys := ⟨fun _ => rfl, fun _ _ h => absurd h List.not_mem_nil⟩

lemma map {f : α → β} (hf : Function.Injective f) (h : Tracks xs ys) :
    Tracks (xs.map f) (ys.map f) := by
  refine ⟨fun hnil => ?_, fun z hz hmem => ?_⟩
  · rw [h.1 (List.map_eq_nil_iff.mp hnil), List.map_nil]
  · rw [List.head?_map] at hz ⊢
    obtain ⟨y, hy, rfl⟩ := Option.map_eq_some_iff.mp hz
    rw [h.2 y hy ((List.mem_map_of_injective hf).mp hmem), Option.map_some]

/-- More of the second list behind it does not matter. -/
lemma extend (h : Tracks xs ys) (zs : List α) : Tracks xs (ys ++ zs) := by
  cases ys with
  | nil =>
    rw [h.1 rfl]
    exact nil _
  | cons y ys => exact ⟨fun hnil => absurd hnil (List.cons_ne_nil _ _), h.2⟩

/-- More of the second list in front of it matters only by what stands first. -/
lemma prepend {zs : List α} (h : Tracks xs ys)
    (hzs : ∀ z, zs.head? = some z → z ∈ xs → xs.head? = some z) : Tracks xs (zs ++ ys) := by
  cases zs with
  | nil => exact h
  | cons z zs => exact ⟨fun hnil => absurd hnil (List.cons_ne_nil _ _), hzs⟩

lemma append (h : Tracks xs ys) (h' : Tracks xs' ys') (hdisjoint : ∀ y ∈ ys, y ∉ xs') :
    Tracks (xs ++ xs') (ys ++ ys') := by
  cases ys with
  | nil =>
    rw [h.1 rfl]
    exact h'
  | cons y ys =>
    refine ⟨fun hnil => absurd hnil (List.cons_ne_nil _ _), fun z hz hmem => ?_⟩
    have hmem' : z ∈ xs := by
      refine (List.mem_append.mp hmem).resolve_right (hdisjoint z ?_)
      exact List.mem_of_head? hz
    rw [List.head?_append, h.2 z hz hmem', Option.some_or]

end Tracks

end ChatCommands.Pattern

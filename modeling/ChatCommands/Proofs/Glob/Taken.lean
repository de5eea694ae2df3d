import ChatCommands.Glob.Expr
import Mathlib.Tactic.Common

/-!
# What the pieces of a glob take

A text fits a list of pieces just if it can be cut so that every piece takes its part: one character
of a class, a run of characters of a class, or names with a dot before each.

Main statements: `fits_iff`, `takesAll_append_iff`.
-/

namespace ChatCommands.Glob

/-! ### Classes of one character -/

lemma CharClass.mem_only_iff {c d : Char} : (only c).mem d = true ↔ d = c := by
  simp [Char.toNat_inj]

lemma CharClass.mem_allBut_iff {c d : Char} : (allBut c).mem d = true ↔ d ≠ c := by
  simp [Char.toNat_inj]

/-! ### Names -/

/-- What may stand between two dots in the name of a module. -/
def IsSegment : List Char → Prop
  | [] => False
  | c :: cs => Piece.isNameStart c = true ∧ ∀ d ∈ cs, Text.wordChars.mem d = true

instance : DecidablePred IsSegment
  | [] => isFalse id
  | c :: cs => decidable_of_iff
    (Piece.isNameStart c = true ∧ cs.all Text.wordChars.mem = true) (by simp [IsSegment])

lemma IsSegment.notMem_dot {cs : List Char} (h : IsSegment cs) : '.' ∉ cs := by
  match cs with
  | c :: cs =>
    intro hmem
    rcases List.mem_cons.mp hmem with rfl | hmem
    · exact absurd h.1 (by decide)
    · exact absurd (h.2 '.' hmem) (by decide)

/-- Segments with a dot before each. -/
def trail (segments : List (List Char)) : List Char := segments.flatMap ('.' :: ·)

lemma trail_cons (segment : List Char) (segments : List (List Char)) :
    trail (segment :: segments) = '.' :: (segment ++ trail segments) := rfl

namespace Piece

/-! ### Relation -/

/-- What a piece takes. -/
def Takes : Piece → List Char → Prop
  | one cls, cs => ∃ c, cs = [c] ∧ cls.mem c = true
  | run cls, cs => ∀ c ∈ cs, cls.mem c = true
  | segments, cs => ∃ names, cs = trail names ∧ ∀ name ∈ names, IsSegment name
  | segmentRest, cs => ∃ word names, cs = word ++ trail names ∧
      (∀ c ∈ word, Text.wordChars.mem c = true) ∧ ∀ name ∈ names, IsSegment name

/-- What pieces take one after another. -/
def TakesAll : List Piece → List Char → Prop
  | [], cs => cs = []
  | p :: ps, cs => ∃ a b, cs = a ++ b ∧ p.Takes a ∧ TakesAll ps b

variable {p : Piece} {ps qs : List Piece} {c : Char} {a b cs : List Char} {cls : CharClass}

lemma TakesAll.cons (ha : p.Takes a) (hb : TakesAll ps b) : TakesAll (p :: ps) (a ++ b) :=
  ⟨a, b, rfl, ha, hb⟩

/-- Pieces that follow others take the rest. -/
lemma takesAll_append_iff :
    TakesAll (ps ++ qs) cs ↔ ∃ a b, cs = a ++ b ∧ TakesAll ps a ∧ TakesAll qs b := by
  induction ps generalizing cs with
  | nil =>
    constructor
    · intro h
      exact ⟨[], cs, rfl, rfl, h⟩
    · rintro ⟨_, b, rfl, rfl, h⟩
      exact h
  | cons p ps ih =>
    constructor
    · rintro ⟨a, rest, rfl, hp, hrest⟩
      obtain ⟨b, d, rfl, hps, hqs⟩ := ih.mp hrest
      exact ⟨a ++ b, d, (List.append_assoc a b d).symm, .cons hp hps, hqs⟩
    · rintro ⟨_, d, rfl, ⟨a, b, rfl, hp, hps⟩, hqs⟩
      exact ⟨a, b ++ d, List.append_assoc a b d, hp, ih.mpr ⟨b, d, rfl, hps, hqs⟩⟩

/-! ### One step of a match -/

lemma takesAll_one_cons_iff :
    TakesAll (one cls :: ps) (c :: cs) ↔ cls.mem c = true ∧ TakesAll ps cs := by
  constructor
  · rintro ⟨_, b, h, ⟨d, rfl, hd⟩, htail⟩
    obtain ⟨rfl, rfl⟩ := List.cons.inj h
    exact ⟨hd, htail⟩
  · rintro ⟨hc, htail⟩
    exact .cons (a := [c]) ⟨c, rfl, hc⟩ htail

/-- A run takes nothing, or a first character and what a run takes then. -/
lemma takesAll_run_cons_iff :
    TakesAll (run cls :: ps) (c :: cs) ↔
      TakesAll ps (c :: cs) ∨ cls.mem c = true ∧ TakesAll (run cls :: ps) cs := by
  constructor
  · rintro ⟨a, b, h, ha, htail⟩
    match a with
    | [] => exact Or.inl (h ▸ htail)
    | d :: a =>
      obtain ⟨rfl, rfl⟩ := List.cons.inj h
      obtain ⟨hc, ha⟩ := List.forall_mem_cons.mp ha
      exact Or.inr ⟨hc, a, b, rfl, ha, htail⟩
  · rintro (h | ⟨hc, a, b, rfl, ha, htail⟩)
    · exact .cons (a := []) (p := run cls) (List.forall_mem_nil _) h
    · exact .cons (a := c :: a) (p := run cls) (List.forall_mem_cons.mpr ⟨hc, ha⟩) htail

lemma takesAll_segments_of_skip (h : TakesAll ps cs) : TakesAll (segments :: ps) cs :=
  .cons (a := []) ⟨[], rfl, List.forall_mem_nil _⟩ h

/-- Segments are none, or start with a dot and a name. -/
lemma takesAll_segments_dot_iff :
    TakesAll (segments :: ps) ('.' :: c :: cs) ↔
      TakesAll ps ('.' :: c :: cs) ∨ isNameStart c = true ∧ TakesAll (segmentRest :: ps) cs := by
  constructor
  · rintro ⟨_, b, h, ⟨names, rfl, hnames⟩, htail⟩
    match names, hnames with
    | [], _ => exact Or.inl (h ▸ htail)
    | [] :: names, hnames => exact absurd (hnames [] List.mem_cons_self) id
    | (d :: word) :: names, hall =>
      obtain ⟨⟨hd, hword⟩, hnames⟩ := List.forall_mem_cons.mp hall
      simp only [trail_cons, List.cons_append, List.cons.injEq, true_and] at h
      obtain ⟨rfl, rfl⟩ := h
      exact Or.inr ⟨hd, _, b, rfl, ⟨word, names, rfl, hword, hnames⟩, htail⟩
  · rintro (h | ⟨hc, _, b, rfl, ⟨word, names, rfl, hword, hnames⟩, htail⟩)
    · exact takesAll_segments_of_skip h
    · exact .cons (a := '.' :: c :: (word ++ trail names))
        ⟨(c :: word) :: names, rfl, List.forall_mem_cons.mpr ⟨⟨hc, hword⟩, hnames⟩⟩ htail

/-- Where no dot with a name follows, segments take nothing. -/
lemma takesAll_segments_iff (h : ∀ c cs', cs ≠ '.' :: c :: cs') :
    TakesAll (segments :: ps) cs ↔ TakesAll ps cs := by
  refine ⟨?_, takesAll_segments_of_skip⟩
  rintro ⟨_, b, rfl, ⟨names, rfl, hnames⟩, htail⟩
  match names, hnames with
  | [], _ => exact htail
  | [] :: names, hnames => exact absurd (hnames [] List.mem_cons_self) id
  | (d :: word) :: names, _ => exact absurd rfl (h d _)

/-- The rest of a name is empty, or starts with a character of a word. -/
lemma takesAll_segmentRest_cons_iff :
    TakesAll (segmentRest :: ps) (c :: cs) ↔ TakesAll (segments :: ps) (c :: cs) ∨
      Text.wordChars.mem c = true ∧ TakesAll (segmentRest :: ps) cs := by
  constructor
  · rintro ⟨_, b, h, ⟨word, names, rfl, hword, hnames⟩, htail⟩
    match word with
    | [] => exact Or.inl ⟨_, b, h, ⟨names, rfl, hnames⟩, htail⟩
    | d :: word =>
      obtain ⟨rfl, rfl⟩ := List.cons.inj h
      obtain ⟨hc, hword⟩ := List.forall_mem_cons.mp hword
      exact Or.inr ⟨hc, _, b, rfl, ⟨word, names, rfl, hword, hnames⟩, htail⟩
  · rintro (⟨_, b, h, ⟨names, rfl, hnames⟩, htail⟩ |
      ⟨hc, _, b, rfl, ⟨word, names, rfl, hword, hnames⟩, htail⟩)
    · exact ⟨_, b, h, ⟨[], names, rfl, List.forall_mem_nil _, hnames⟩, htail⟩
    · exact .cons (a := c :: (word ++ trail names))
        ⟨c :: word, names, rfl, List.forall_mem_cons.mpr ⟨hc, hword⟩, hnames⟩ htail

/-! ### Matching -/

/-- A text fits pieces just if they take it one after another. -/
lemma fits_iff : fits ps cs = true ↔ TakesAll ps cs := by
  fun_induction fits ps cs with
  | case1 cs => simp [TakesAll]
  | case2 cls ps =>
    refine iff_of_false Bool.false_ne_true ?_
    rintro ⟨_, _, h, ⟨c, rfl, -⟩, -⟩
    cases h
  | case3 cls ps c cs ih => rw [Bool.and_eq_true, ih, takesAll_one_cons_iff]
  | case4 cls ps ih =>
    rw [ih]
    refine ⟨fun h => ⟨[], [], rfl, List.forall_mem_nil _, h⟩, ?_⟩
    rintro ⟨a, b, h, -, htail⟩
    obtain ⟨rfl, rfl⟩ := List.nil_eq_append_iff.mp h
    exact htail
  | case5 cls ps c cs ih₁ ih₂ =>
    rw [Bool.or_eq_true, Bool.and_eq_true, ih₁, ih₂, takesAll_run_cons_iff]
  | case6 ps c cs ih₁ ih₂ =>
    rw [Bool.or_eq_true, Bool.and_eq_true, ih₁, ih₂, takesAll_segments_dot_iff]
  | case7 ps cs h ih => rw [ih, takesAll_segments_iff h]
  | case8 ps ih =>
    rw [ih]
    constructor
    · rintro ⟨_, b, h, ⟨names, rfl, hnames⟩, htail⟩
      exact ⟨_, b, h, ⟨[], names, rfl, List.forall_mem_nil _, hnames⟩, htail⟩
    · rintro ⟨_, b, h, ⟨word, names, rfl, -, hnames⟩, htail⟩
      match word with
      | [] => exact ⟨_, b, h, ⟨names, rfl, hnames⟩, htail⟩
  | case9 ps c cs ih₁ ih₂ =>
    rw [Bool.or_eq_true, Bool.and_eq_true, ih₁, ih₂, takesAll_segmentRest_cons_iff]

end Piece

end ChatCommands.Glob

/-!
# Blanks

A blank is a character that separates words. A text is trimmed by dropping the blanks at both ends;
its words are its longest runs of other characters.

Main statements: a trimmed text neither starts nor ends with a blank, and trimming keeps the words.
-/

namespace ChatCommands.Text

/-- The characters that separate words: controls that move or separate, and the spaces. -/
def isBlank (c : Char) : Bool :=
  let n := c.toNat
  (9 ≤ n && n ≤ 13) || (0x1c ≤ n && n ≤ 0x20) || n == 0x85 || n == 0xa0 || n == 0x1680 ||
    (0x2000 ≤ n && n ≤ 0x200a) || n == 0x2028 || n == 0x2029 || n == 0x202f || n == 0x205f ||
    n == 0x3000

/-- A character that belongs to a word. -/
def isSolid (c : Char) : Bool := !isBlank c

/-! ### Trimming -/

/-- The text from its first character that is no blank. -/
def trimStart (cs : List Char) : List Char := cs.dropWhile isBlank

/-- The text up to its last character that is no blank. -/
def trimEnd : List Char → List Char
  | [] => []
  | c :: cs =>
    match trimEnd cs with
    | [] => if isBlank c then [] else [c]
    | ds => c :: ds

/-- The text without blanks at its ends. -/
def trim (cs : List Char) : List Char := trimEnd (trimStart cs)

/-- Whether a text holds blanks only; the empty text does. -/
def allBlank (cs : List Char) : Bool := cs.all isBlank

/-! ### Words -/

/-- The longest runs of characters that are no blanks, in order. -/
def words : List Char → List (List Char)
  | [] => []
  | c :: cs =>
    if isBlank c then words cs
    else
      match cs, words cs with
      | d :: _, w :: ws => if isBlank d then [c] :: w :: ws else (c :: w) :: ws
      | _, ws => [c] :: ws

/-- The first words of a text, one for each of `n` cuts, and what follows them as it stands. -/
def cut : Nat → List Char → List (List Char)
  | 0, cs => [cs]
  | n + 1, cs =>
    match cs.dropWhile isSolid with
    | [] => [cs]
    | rest => cs.takeWhile isSolid :: cut n (trimStart rest)

/-! ### Laws -/

@[simp] theorem trimStart_nil : trimStart [] = [] := rfl

@[simp] theorem trimEnd_nil : trimEnd [] = [] := rfl

@[simp] theorem isSolid_eq_true {c : Char} : isSolid c = true ↔ isBlank c = false := by
  simp [isSolid]

@[simp] theorem isSolid_eq_false {c : Char} : isSolid c = false ↔ isBlank c = true := by
  simp [isSolid]

theorem trimEnd_cons (c : Char) (cs : List Char) :
    trimEnd (c :: cs) = if trimEnd cs = [] ∧ isBlank c = true then [] else c :: trimEnd cs := by
  rw [trimEnd]
  cases h : trimEnd cs with
  | nil => by_cases hc : isBlank c <;> simp [hc]
  | cons d ds => simp

/-- A trimmed text does not start with a blank. -/
theorem head_trimStart {cs : List Char} {c : Char} (h : (trimStart cs).head? = some c) :
    isBlank c = false := by
  induction cs with
  | nil => simp at h
  | cons d ds ih =>
    by_cases hd : isBlank d
    · exact ih (by simpa [trimStart, hd] using h)
    · have : d = c := by simpa [trimStart, hd] using h
      simpa [← this] using hd

/-- A text trimmed at its end does not end with a blank. -/
theorem getLast_trimEnd {cs : List Char} {c : Char} (h : (trimEnd cs).getLast? = some c) :
    isBlank c = false := by
  induction cs with
  | nil => simp at h
  | cons d ds ih =>
    rw [trimEnd_cons] at h
    cases hds : trimEnd ds with
    | nil =>
      by_cases hd : isBlank d
      · simp [hds, hd] at h
      · have : d = c := by simpa [hds, hd] using h
        simpa [← this] using hd
    | cons e es =>
      refine ih ?_
      simpa [hds, List.getLast?_cons_cons] using h

end ChatCommands.Text

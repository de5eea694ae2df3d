import ChatCommands.Glob
import Mathlib.Data.List.Infix
import Mathlib.Tactic.Common

/-!
# Segments of dotted names

Splitting at the dots and putting dots between undo each other, so that a dotted name and its
segments are the same thing. A name has one segment more than it has dots.

Main statements: `dotted_splitOn`, `splitOn_dotted`, `length_splitOn`.
-/

namespace ChatCommands.Glob

variable {cs part : List Char} {parts : List (List Char)} {separator : Char}

lemma splitOn_ne_nil (separator : Char) (cs : List Char) : splitOn separator cs ≠ [] := by
  cases cs with
  | nil => simp [splitOn]
  | cons c cs =>
    rw [splitOn]
    split
    · simp
    · split_ifs <;> simp

lemma splitOn_eq (separator : Char) (cs : List Char) :
    splitOn separator cs = cs.splitOn separator := by
  induction cs with
  | nil => rfl
  | cons c cs ih =>
    rw [splitOn, List.splitOn_cons_eq_if_modifyHead, ← ih]
    split
    case h_1 h => exact absurd h (splitOn_ne_nil separator cs)
    case h_2 part parts h => simp only [h, List.modifyHead_cons, beq_iff_eq]

/-- A text without separators is one part. -/
lemma splitOn_of_notMem (h : separator ∉ cs) : splitOn separator cs = [cs] := by
  rw [splitOn_eq, List.splitOn_eq_singleton h]

lemma notMem_of_mem_splitOn (h : part ∈ splitOn separator cs) : separator ∉ part := by
  induction cs generalizing part with
  | nil =>
    obtain rfl := List.mem_singleton.mp h
    exact List.not_mem_nil
  | cons c cs ih =>
    rw [splitOn] at h
    split at h
    case h_1 hnil => exact absurd hnil (splitOn_ne_nil separator cs)
    case h_2 first rest hcs =>
      rw [hcs] at ih
      split_ifs at h with hc
      · rcases List.mem_cons.mp h with rfl | h
        · exact List.not_mem_nil
        · exact ih h
      · rcases List.mem_cons.mp h with rfl | h
        · rw [List.mem_cons, not_or]
          exact ⟨Ne.symm hc, ih List.mem_cons_self⟩
        · exact ih (List.mem_cons_of_mem _ h)

/-! ### Dots -/

lemma dotted_cons (part : List Char) (parts : List (List Char)) :
    dotted (part :: parts) = part ++ parts.flatMap ('.' :: ·) := by
  induction parts generalizing part with
  | nil => simp [dotted]
  | cons first rest ih =>
    rw [dotted, List.intercalate_cons_cons, ← dotted, ih, List.append_assoc]
    rfl

lemma dotted_splitOn (cs : List Char) : dotted (splitOn '.' cs) = cs := by
  rw [splitOn_eq, dotted, List.intercalate_splitOn]

lemma splitOn_dotted (hne : parts ≠ []) (h : ∀ part ∈ parts, '.' ∉ part) :
    splitOn '.' (dotted parts) = parts := by
  rw [splitOn_eq, dotted, List.splitOn_intercalate _ h hne]

lemma dotted_concat (hne : parts ≠ []) (part : List Char) :
    dotted (parts ++ [part]) = dotted parts ++ '.' :: part := by
  obtain ⟨first, rest, rfl⟩ := List.exists_cons_of_ne_nil hne
  rw [List.cons_append, dotted_cons, dotted_cons, List.flatMap_append, List.flatMap_singleton,
    List.append_assoc]

/-- A dot and a part behind a name are one segment more. -/
lemma splitOn_concat (cs : List Char) (hpart : '.' ∉ part) :
    splitOn '.' (cs ++ '.' :: part) = splitOn '.' cs ++ [part] := by
  have hdots : ∀ d ∈ splitOn '.' cs ++ [part], '.' ∉ d :=
    List.forall_mem_append.mpr
      ⟨fun _ h => notMem_of_mem_splitOn h, List.forall_mem_singleton.mpr hpart⟩
  have h := splitOn_dotted (by simp) hdots
  rwa [dotted_concat (splitOn_ne_nil '.' cs), dotted_splitOn] at h

/-- What stands in a part of a name stands in the name. -/
lemma mem_of_mem_splitOn {c : Char} (h : part ∈ splitOn '.' cs) (hc : c ∈ part) : c ∈ cs := by
  obtain ⟨first, rest, hsplit⟩ := List.exists_cons_of_ne_nil (splitOn_ne_nil '.' cs)
  rw [← dotted_splitOn cs, hsplit, dotted_cons, List.mem_append]
  rcases List.mem_cons.mp (hsplit ▸ h) with rfl | h
  · exact Or.inl hc
  · exact Or.inr (List.mem_flatMap.mpr ⟨part, h, List.mem_cons_of_mem _ hc⟩)

/-- What stands in a name, dots aside, stands in one of its parts. -/
lemma exists_mem_splitOn {c : Char} (hc : c ∈ cs) (hdot : c ≠ '.') :
    ∃ part ∈ splitOn '.' cs, c ∈ part := by
  obtain ⟨first, rest, hsplit⟩ := List.exists_cons_of_ne_nil (splitOn_ne_nil '.' cs)
  rw [← dotted_splitOn cs, hsplit, dotted_cons, List.mem_append] at hc
  rw [hsplit]
  rcases hc with hc | hc
  · exact ⟨first, List.mem_cons_self, hc⟩
  · obtain ⟨part, hmem, hc⟩ := List.mem_flatMap.mp hc
    exact ⟨part, List.mem_cons_of_mem _ hmem, List.mem_of_ne_of_mem hdot hc⟩

/-- Where only parts without dots are meant, the parts of a name are its segments. -/
lemma exists_dotted_iff {P : List (List Char) → Prop}
    (hP : ∀ parts, P parts → parts ≠ [] ∧ ∀ part ∈ parts, '.' ∉ part) (name : List Char) :
    (∃ parts, name = dotted parts ∧ P parts) ↔ P (splitOn '.' name) := by
  constructor
  · rintro ⟨parts, rfl, h⟩
    obtain ⟨hne, hdots⟩ := hP parts h
    rwa [splitOn_dotted hne hdots]
  · intro h
    exact ⟨splitOn '.' name, (dotted_splitOn name).symm, h⟩

/-- A name has one segment more than it has dots. -/
lemma length_splitOn (cs : List Char) : (splitOn '.' cs).length = cs.count '.' + 1 := by
  induction cs with
  | nil => rfl
  | cons c cs ih =>
    rw [splitOn]
    split
    case h_1 hnil => exact absurd hnil (splitOn_ne_nil '.' cs)
    case h_2 first rest hcs =>
      rw [hcs] at ih
      split_ifs with hc
      · subst hc
        simpa using ih
      · simpa [List.count_cons, hc] using ih

end ChatCommands.Glob

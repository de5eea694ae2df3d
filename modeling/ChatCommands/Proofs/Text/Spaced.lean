import ChatCommands.Text.Blank
import Mathlib.Data.List.TakeWhile
import Mathlib.Tactic.Common

/-!
# Texts and their gaps

A text is trimmed if it has no blank at either end. Values with gaps between them make up a text;
each trimmed text is made up of its words that way.
-/

namespace ChatCommands.Text

/-! ### Trimmed texts -/

/-- A text does not end with a blank. -/
def EndsSolid (cs : List Char) : Prop := ∀ c, cs.getLast? = some c → isBlank c = false

/-- Neither end of a text is a blank. -/
structure Trimmed (cs : List Char) : Prop where
  head : ∀ c, cs.head? = some c → isBlank c = false
  last : EndsSolid cs

lemma all_isSolid_iff {c? : Option Char} :
    c?.all isSolid = true ↔ ∀ c, c? = some c → isBlank c = false := by
  cases c? <;> simp

instance (cs : List Char) : Decidable (EndsSolid cs) :=
  decidable_of_iff (cs.getLast?.all isSolid = true) all_isSolid_iff

instance (cs : List Char) : Decidable (Trimmed cs) :=
  decidable_of_iff (cs.head?.all isSolid = true ∧ EndsSolid cs)
    ⟨fun h => ⟨all_isSolid_iff.mp h.1, h.2⟩, fun h => ⟨all_isSolid_iff.mpr h.head, h.last⟩⟩

lemma head?_trimEnd {cs : List Char} (h : ∀ c, cs.head? = some c → isBlank c = false) :
    (trimEnd cs).head? = cs.head? := by
  cases cs with
  | nil => rfl
  | cons c cs => simp [trimEnd_cons, h c rfl]

/-- Trimming leaves a trimmed text. -/
lemma trimmed_trim (cs : List Char) : Trimmed (trim cs) where
  head c h := by
    rw [trim, head?_trimEnd fun c h => head_trimStart h] at h
    exact head_trimStart h
  last _ h := getLast_trimEnd h

lemma trimEnd_eq_self {cs : List Char} (h : EndsSolid cs) : trimEnd cs = cs := by
  induction cs with
  | nil => rfl
  | cons c cs ih =>
    cases cs with
    | nil => simp [trimEnd_cons, h c rfl]
    | cons d cs =>
      have : trimEnd (d :: cs) = d :: cs := ih fun e he => h e (by rw [List.getLast?_cons_cons, he])
      rw [trimEnd_cons, this]
      simp

/-- Trimming does nothing to a trimmed text. -/
lemma Trimmed.trim_eq {cs : List Char} (h : Trimmed cs) : trim cs = cs := by
  have hstart : trimStart cs = cs := by
    cases cs with
    | nil => rfl
    | cons c cs => simp [trimStart, h.head c rfl]
  rw [trim, hstart, trimEnd_eq_self h.last]

/-- What a trimmed text holds between blanks at both ends is the text itself. -/
lemma Trimmed.eq_of_append {lead body tail : List Char} (h : Trimmed (lead ++ body ++ tail))
    (hlead : ∀ c ∈ lead, isBlank c) (htail : ∀ c ∈ tail, isBlank c) :
    lead ++ body ++ tail = body := by
  have hlead : lead = [] := by
    cases lead with
    | nil => rfl
    | cons c lead =>
      have := hlead c List.mem_cons_self
      rw [h.head c rfl] at this
      cases this
  have htail : tail = [] := by
    rcases List.eq_nil_or_concat tail with rfl | ⟨tail, c, rfl⟩
    · rfl
    · have hc := htail c (by simp)
      rw [h.last c (by simp)] at hc
      cases hc
  simp [hlead, htail]

/-- What follows in such a text does not end with a blank either. -/
lemma EndsSolid.of_append {cs ds : List Char} (h : EndsSolid (cs ++ ds)) : EndsSolid ds := by
  intro c hc
  refine h c ?_
  rw [List.getLast?_append, hc, Option.some_or]

lemma trimStart_append {gap cs : List Char} (h : ∀ c ∈ gap, isBlank c) :
    trimStart (gap ++ cs) = trimStart cs :=
  List.dropWhile_append_of_pos h

/-- A text that does not end with a blank has other characters than blanks. -/
lemma EndsSolid.trimStart_ne_nil {cs : List Char} (h : EndsSolid cs) (hne : cs ≠ []) :
    trimStart cs ≠ [] := by
  intro hnil
  have hblank : ∀ c ∈ cs, isBlank c := List.dropWhile_eq_nil_iff.mp hnil
  have := h _ (List.getLast?_eq_some_getLast hne)
  rw [hblank _ (List.getLast_mem hne)] at this
  cases this

/-! ### Solid characters -/

lemma filter_isSolid_of_blank {cs : List Char} (h : ∀ c ∈ cs, isBlank c) :
    cs.filter isSolid = [] := by
  rw [List.filter_eq_nil_iff]
  intro c hc
  simp [h c hc]

lemma filter_isSolid_trimStart (cs : List Char) :
    (trimStart cs).filter isSolid = cs.filter isSolid := by
  induction cs with
  | nil => rfl
  | cons c cs ih =>
    by_cases hc : isBlank c
    · simpa [trimStart, hc, isSolid] using ih
    · simp [trimStart, hc]

lemma filter_isSolid_trimEnd (cs : List Char) :
    (trimEnd cs).filter isSolid = cs.filter isSolid := by
  induction cs with
  | nil => rfl
  | cons c cs ih =>
    rw [trimEnd_cons]
    split
    · rename_i h
      rw [h.1] at ih
      simp [← ih, isSolid, h.2]
    · rw [List.filter_cons, List.filter_cons, ih]

/-- Trimming drops no solid character. -/
lemma filter_isSolid_trim (cs : List Char) : (trim cs).filter isSolid = cs.filter isSolid := by
  rw [trim, filter_isSolid_trimEnd, filter_isSolid_trimStart]

/-! ### Values with gaps between them -/

/-- A text that is made up of values with a gap between each two of them; a gap has blanks only, and
at least one. -/
inductive Spaced : List (List Char) → List Char → Prop
  | nil : Spaced [] []
  | single (v : List Char) : Spaced [v] v
  | cons {v w gap cs : List Char} {vs : List (List Char)} (hne : gap ≠ [])
      (hblank : ∀ c ∈ gap, isBlank c) (h : Spaced (w :: vs) cs) :
      Spaced (v :: w :: vs) (v ++ (gap ++ cs))

lemma spaced_nil_iff {cs : List Char} : Spaced [] cs ↔ cs = [] := by
  constructor
  · rintro ⟨⟩
    rfl
  · rintro rfl
    exact .nil

namespace Spaced

variable {vs : List (List Char)} {cs : List Char}

/-- All solid characters of the text are in the values. -/
lemma filter_isSolid (h : Spaced vs cs) : cs.filter isSolid = vs.flatten.filter isSolid := by
  induction h with
  | nil => rfl
  | single v => simp
  | cons hne hblank _ ih =>
    rw [List.filter_append, List.filter_append, filter_isSolid_of_blank hblank, ih]
    simp

end Spaced

end ChatCommands.Text

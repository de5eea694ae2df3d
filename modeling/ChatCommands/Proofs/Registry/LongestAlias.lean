import ChatCommands.Proofs.Registry.Registration

/-!
# The longest alias

A text is run by the longest alias that stands at its front and ends there at a blank or with the
text. An alias may hold blanks and be the start of another one: where the longer one does not end,
the shorter one is found.

Main statements: `InStep.match?_eq_some_iff`, `InStep.match?_congr`, `match?_longest`.
-/

namespace ChatCommands

open Text

variable {σ : Type} [Journal σ] {r : Registry} {word other text parameters : String}
  {cs rest rest' : List Char}

/-- Of two words at the front of a text that are equally long, both are the same. -/
lemma Leads.unique (h : Leads word cs rest) (h' : Leads other cs rest')
    (hlength : word.length = other.length) : word = other ∧ rest = rest' := by
  have heq : word.toList ++ rest = other.toList ++ rest' := h.eq_append.symm.trans h'.eq_append
  rw [← String.length_toList, ← String.length_toList] at hlength
  obtain ⟨hword, hrest⟩ := List.append_inj heq hlength
  exact ⟨String.toList_inj.mp hword, hrest⟩

/-! ### The order of trial -/

namespace Matcher

lemma isTriedBefore_iff : isTriedBefore word other = true ↔
    other.length < word.length ∨ word.length = other.length ∧ word ≤ other := by
  simp [isTriedBefore]

lemma length_le_of_isTriedBefore (h : isTriedBefore word other = true) :
    other.length ≤ word.length := by
  rcases isTriedBefore_iff.mp h with h | ⟨h, -⟩ <;> omega

/-- Aliases are tried by length, the longest ones first. -/
lemma pairwise_mergeSort (words : List String) :
    (words.mergeSort isTriedBefore).Pairwise fun a b => b.length ≤ a.length := by
  have htrans : ∀ a b c, isTriedBefore a b = true → isTriedBefore b c = true →
      isTriedBefore a c = true := by
    intro a b c hab hbc
    rw [isTriedBefore_iff] at hab hbc ⊢
    rcases hab with hab | ⟨hab, hle⟩ <;> rcases hbc with hbc | ⟨hbc, hle'⟩
    · exact Or.inl (by omega)
    · exact Or.inl (by omega)
    · exact Or.inl (by omega)
    · exact Or.inr ⟨by omega, String.le_trans hle hle'⟩
  have htotal : ∀ a b, (isTriedBefore a b || isTriedBefore b a) = true := by
    intro a b
    rw [Bool.or_eq_true, isTriedBefore_iff, isTriedBefore_iff]
    rcases Nat.lt_trichotomy a.length b.length with hlt | heq | hgt
    · exact Or.inr (Or.inl hlt)
    · rcases String.le_total a b with hle | hle
      · exact Or.inl (Or.inr ⟨heq, hle⟩)
      · exact Or.inr (Or.inr ⟨heq.symm, hle⟩)
    · exact Or.inl (Or.inl hgt)
  exact (List.pairwise_mergeSort htrans htotal words).imp length_le_of_isTriedBefore

end Matcher

namespace Registry

/-! ### The longest of several aliases -/

/-- An alias leads a text, and no longer one does. -/
structure IsLongest (r : Registry) (word : String) (cs rest : List Char) : Prop where
  mem : word ∈ r.aliases
  leads : Leads word cs rest
  length_le : ∀ other ∈ r.aliases, ∀ rest', Leads other cs rest' → other.length ≤ word.length

lemma IsLongest.unique (h : r.IsLongest word cs rest) (h' : r.IsLongest other cs rest') :
    word = other ∧ rest = rest' :=
  h.leads.unique h'.leads (Nat.le_antisymm (h'.length_le _ h.mem _ h.leads)
    (h.length_le _ h'.mem _ h'.leads))

/-! ### What is found -/

namespace InStep

variable {commands : List Command} (h : r.InStep commands)
  (hnamed : commands ≠ [] → r.aliases ≠ [])
include h hnamed

/-- The alias that is found is the longest one. -/
lemma isLongest_of_match? (hmatch : r.match? text = some (word, parameters)) :
    ∃ rest, r.IsLongest word (trim text.toList) rest ∧
      parameters = String.ofList (trimStart rest) := by
  rw [match?, Matcher.find?, h.alternatives_eq hnamed] at hmatch
  obtain ⟨earlier, found, later, hsorted, hfound, hearlier⟩ := List.findSome?_eq_some_iff.mp hmatch
  obtain ⟨rest, hrest, heq⟩ := Option.map_eq_some_iff.mp hfound
  obtain ⟨rfl, rfl⟩ := Prod.mk.inj heq
  have hmem : ∀ other, other ∈ r.aliases ↔ other ∈ earlier ++ found :: later := by
    intro other
    rw [← hsorted, List.mem_mergeSort]
  refine ⟨rest, ⟨(hmem found).mpr (by simp), Matcher.after?_eq_some_iff.mp hrest, ?_⟩, rfl⟩
  intro other hother rest' hleads
  rcases List.mem_append.mp ((hmem other).mp hother) with hbefore | hafter
  · have hnone := hearlier other hbefore
    rw [Matcher.after?_eq_some_iff.mpr hleads] at hnone
    cases hnone
  · have hpairwise := Matcher.pairwise_mergeSort r.aliases
    rw [hsorted, List.pairwise_append, List.pairwise_cons] at hpairwise
    rcases List.mem_cons.mp hafter with rfl | hafter
    · exact Nat.le_refl _
    · exact hpairwise.2.1.1 other hafter

lemma match?_eq_some_iff : r.match? text = some (word, parameters) ↔
    ∃ rest, r.IsLongest word (trim text.toList) rest ∧
      parameters = String.ofList (trimStart rest) := by
  refine ⟨h.isLongest_of_match? hnamed, ?_⟩
  rintro ⟨rest, hlongest, rfl⟩
  cases hmatch : r.match? text with
  | none =>
    exact absurd hlongest.leads ((h.match?_eq_none_iff hnamed).mp hmatch word hlongest.mem rest)
  | some found =>
    obtain ⟨rest', hlongest', hparameters⟩ := h.isLongest_of_match? hnamed hmatch
    obtain ⟨hword, rfl⟩ := hlongest'.unique hlongest
    rw [← hword, ← hparameters]

end InStep

lemma mem_aliases_after_iff (converters : Option Converters) (cls : MessageClass) (s : σ)
    (calls : List Call) : word ∈ (after (start converters cls, s) calls).1.aliases ↔
      ∃ c ∈ accepted (start converters cls, s) calls, word ∈ c.aliases := by
  have hstart : (start converters cls).aliases = [].eraseDups := rfl
  rw [aliases_after hstart calls s, List.nil_append, List.mem_eraseDups, List.mem_flatMap]

end Registry

end ChatCommands

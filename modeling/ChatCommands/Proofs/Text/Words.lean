import ChatCommands.Proofs.Text.Spaced

/-!
# Words of a text

A trimmed text is made up of its words with gaps between them. Texts of the same words differ in
their gaps only, so each of them can be compared with the one in which all gaps are single spaces.

Main statements: `words_trim`, `spaced_words`, `gapped_of_words`.
-/

namespace ChatCommands.Text

/-! ### Reading off words -/

/-- Whether a text is a word: it has characters, and no blank among them. -/
def IsWord (w : List Char) : Prop := w ≠ [] ∧ ∀ c ∈ w, isSolid c

instance (w : List Char) : Decidable (IsWord w) :=
  decidable_of_iff (w ≠ [] ∧ w.all isSolid = true) (and_congr Iff.rfl List.all_eq_true)

lemma words_nil : words [] = [] := words.eq_def []

lemma words_blank {c : Char} (hc : isBlank c) (cs : List Char) : words (c :: cs) = words cs :=
  (words.eq_def (c :: cs)).trans (if_pos hc)

/-- A solid character in front of a text is a word, or a part of the first one. -/
lemma words_solid {c : Char} (hc : isBlank c = false) (cs : List Char) :
    words (c :: cs) = match cs, words cs with
      | d :: _, w :: ws => if isBlank d then [c] :: w :: ws else (c :: w) :: ws
      | _, ws => [c] :: ws :=
  (words.eq_def (c :: cs)).trans (if_neg (by rw [hc]; exact Bool.false_ne_true))

lemma words_trimStart (cs : List Char) : words (trimStart cs) = words cs := by
  induction cs with
  | nil => rfl
  | cons c cs ih =>
    by_cases hc : isBlank c
    · rw [words_blank hc, ← ih, trimStart, trimStart, List.dropWhile_cons_of_pos hc]
    · rw [trimStart, List.dropWhile_cons_of_neg hc]

lemma words_blanks {gap : List Char} (h : ∀ c ∈ gap, isBlank c) : words gap = [] := by
  induction gap with
  | nil => exact words_nil
  | cons c gap ih =>
    rw [words_blank (h c List.mem_cons_self)]
    exact ih fun d hd => h d (List.mem_cons_of_mem _ hd)

lemma IsWord.trimmed {w : List Char} (hw : IsWord w) : Trimmed w :=
  ⟨fun c hc => isSolid_eq_true.mp (hw.2 c (List.mem_of_head? hc)),
    fun c hc => isSolid_eq_true.mp (hw.2 c (List.mem_of_getLast? hc))⟩

lemma IsWord.takeWhile_eq {w rest : List Char} (hw : IsWord w)
    (hrest : ∀ c, rest.head? = some c → isBlank c) : (w ++ rest).takeWhile isSolid = w := by
  rw [List.takeWhile_append_of_pos hw.2]
  cases rest with
  | nil => simp
  | cons c rest => simp [hrest c rfl]

/-- The word at the front of a text is determined. -/
lemma IsWord.append_inj {v w cs ds : List Char} (hv : IsWord v) (hw : IsWord w)
    (hcs : ∀ c, cs.head? = some c → isBlank c) (hds : ∀ c, ds.head? = some c → isBlank c)
    (h : v ++ cs = w ++ ds) : v = w ∧ cs = ds := by
  have heq := congrArg (List.takeWhile isSolid) h
  rw [hv.takeWhile_eq hcs, hw.takeWhile_eq hds] at heq
  subst heq
  exact ⟨rfl, List.append_cancel_left h⟩

/-- A word at the front of a text, with nothing or a blank behind it, is the first of its words. -/
lemma words_word {w rest : List Char} (hw : IsWord w)
    (hrest : ∀ c, rest.head? = some c → isBlank c) : words (w ++ rest) = w :: words rest := by
  obtain ⟨hne, hsolid⟩ := hw
  induction w with
  | nil => exact absurd rfl hne
  | cons c w ih =>
    have hc : isBlank c = false := isSolid_eq_true.mp (hsolid c List.mem_cons_self)
    rw [List.cons_append, words_solid hc]
    cases w with
    | nil =>
      rw [List.nil_append]
      cases rest with
      | nil => rfl
      | cons d rest =>
        cases words (d :: rest) with
        | nil => rfl
        | cons v vs => exact if_pos (hrest d rfl)
    | cons d w =>
      have hd : isBlank d = false :=
        isSolid_eq_true.mp (hsolid d (List.mem_cons_of_mem _ List.mem_cons_self))
      rw [ih (List.cons_ne_nil d w) fun e he => hsolid e (List.mem_cons_of_mem _ he)]
      exact if_neg (by rw [hd]; exact Bool.false_ne_true)

lemma words_append_blanks {gap : List Char} (cs : List Char) (h : ∀ c ∈ gap, isBlank c) :
    words (cs ++ gap) = words cs := by
  induction cs with
  | nil => rw [List.nil_append, words_blanks h, words_nil]
  | cons c cs ih =>
    rw [List.cons_append]
    cases hc : isBlank c with
    | true => rw [words_blank hc, words_blank hc, ih]
    | false =>
      rw [words_solid hc, words_solid hc, ih]
      cases cs with
      | cons d cs => cases words (d :: cs) <;> rfl
      | nil =>
        rw [words_nil]
        cases gap <;> rfl

lemma exists_blanks_trimEnd (cs : List Char) :
    ∃ gap, cs = trimEnd cs ++ gap ∧ ∀ c ∈ gap, isBlank c := by
  induction cs with
  | nil => exact ⟨[], rfl, by simp⟩
  | cons c cs ih =>
    obtain ⟨gap, hgap, hblank⟩ := ih
    rw [trimEnd_cons]
    split
    · rename_i h
      rw [h.1, List.nil_append] at hgap
      refine ⟨c :: cs, rfl, fun d hd => ?_⟩
      rcases List.mem_cons.mp hd with rfl | hd
      · exact h.2
      · exact hblank d (hgap ▸ hd)
    · refine ⟨gap, ?_, hblank⟩
      rw [List.cons_append, ← hgap]

/-- Trimming keeps the words. -/
lemma words_trim (cs : List Char) : words (trim cs) = words cs := by
  obtain ⟨gap, hgap, hblank⟩ := exists_blanks_trimEnd (trimStart cs)
  rw [← words_trimStart cs, hgap, words_append_blanks _ hblank, trim]

/-! ### A text is its words -/

/-- A trimmed text starts with a word, and another trimmed text may follow behind a gap. -/
lemma Trimmed.exists_word {cs : List Char} (h : Trimmed cs) (hne : cs ≠ []) :
    ∃ w, IsWord w ∧ (cs = w ∨ ∃ gap ds, cs = w ++ (gap ++ ds) ∧ gap ≠ [] ∧
      (∀ c ∈ gap, isBlank c) ∧ Trimmed ds ∧ ds ≠ []) := by
  have hsplit : cs.takeWhile isSolid ++ cs.dropWhile isSolid = cs :=
    List.takeWhile_append_dropWhile
  have hword : IsWord (cs.takeWhile isSolid) := by
    refine ⟨?_, fun c hc => List.mem_takeWhile_imp hc⟩
    cases cs with
    | nil => exact absurd rfl hne
    | cons c cs => simp [h.head c rfl]
  refine ⟨cs.takeWhile isSolid, hword, ?_⟩
  have hhead := List.head?_dropWhile_not isSolid cs
  cases hrest : cs.dropWhile isSolid with
  | nil =>
    rw [hrest, List.append_nil] at hsplit
    exact Or.inl hsplit.symm
  | cons d rest =>
    rw [hrest] at hsplit hhead
    have hd : isBlank d := isSolid_eq_false.mp hhead
    have hsolid : EndsSolid (d :: rest) := by
      have hlast := h.last
      rw [← hsplit] at hlast
      exact hlast.of_append
    have hgap : (d :: rest).takeWhile isBlank ++ trimStart (d :: rest) = d :: rest :=
      List.takeWhile_append_dropWhile
    have htrim : Trimmed (trimStart (d :: rest)) := by
      refine ⟨fun c hc => head_trimStart hc, ?_⟩
      rw [← hgap] at hsolid
      exact hsolid.of_append
    refine Or.inr ⟨_, _, by rw [hgap, hsplit], ?_, fun c hc => List.mem_takeWhile_imp hc, htrim,
      hsolid.trimStart_ne_nil (List.cons_ne_nil d rest)⟩
    simp [hd]

lemma words_gap {gap : List Char} (h : ∀ c ∈ gap, isBlank c) (cs : List Char) :
    words (gap ++ cs) = words cs := by
  rw [← words_trimStart, trimStart_append h, words_trimStart]

lemma head_gap {gap cs : List Char} (hne : gap ≠ []) (hblank : ∀ c ∈ gap, isBlank c) :
    ∀ c, (gap ++ cs).head? = some c → isBlank c := by
  intro c hc
  cases gap with
  | nil => exact absurd rfl hne
  | cons d gap =>
    obtain rfl := Option.some.inj hc
    exact hblank d List.mem_cons_self

/-- A trimmed text is its words with gaps between them. -/
lemma spaced_words {cs : List Char} (h : Trimmed cs) :
    Spaced (words cs) cs ∧ ∀ w ∈ words cs, IsWord w := by
  by_cases hne : cs = []
  · subst hne
    rw [words_nil]
    exact ⟨.nil, by simp⟩
  obtain ⟨w, hw, rfl | ⟨gap, ds, rfl, hgap, hblank, hds, hdsne⟩⟩ := h.exists_word hne
  · have hwords : words (cs ++ []) = cs :: words [] := words_word hw (by simp)
    rw [List.append_nil, words_nil] at hwords
    rw [hwords]
    exact ⟨.single _, by simpa using hw⟩
  · rw [words_word hw (head_gap hgap hblank), words_gap hblank]
    obtain ⟨hspaced, hwords⟩ := spaced_words hds
    cases hws : words ds with
    | nil =>
      rw [hws, spaced_nil_iff] at hspaced
      exact absurd hspaced hdsne
    | cons v vs =>
      rw [hws] at hspaced hwords
      refine ⟨.cons hgap hblank hspaced, fun u hu => ?_⟩
      rcases List.mem_cons.mp hu with rfl | hu
      · exact hw
      · exact hwords u hu
termination_by cs.length
decreasing_by
  have hpos := List.length_pos_iff.mpr hw.1
  subst_vars
  simp only [List.length_append]
  omega

/-! ### Single spaces -/

/-- Values with single spaces between them. -/
def joined (vs : List (List Char)) : List Char := [' '].intercalate vs

@[simp] lemma joined_nil : joined [] = [] := rfl

@[simp] lemma joined_single (v : List Char) : joined [v] = v := by simp [joined]

@[simp] lemma joined_cons_cons (v w : List Char) (vs : List (List Char)) :
    joined (v :: w :: vs) = v ++ ' ' :: joined (w :: vs) := by simp [joined]

lemma isBlank_of_mem_space : ∀ c ∈ [' '], isBlank c := List.forall_mem_singleton.mpr (by decide)

lemma head_space {cs : List Char} : ∀ c, (' ' :: cs).head? = some c → isBlank c :=
  head_gap (List.cons_ne_nil ' ' []) isBlank_of_mem_space

lemma joined_cons (v : List Char) (vs : List (List Char)) :
    ∃ rest, joined (v :: vs) = v ++ rest ∧
      (vs = [] ∧ rest = [] ∨ vs ≠ [] ∧ rest = ' ' :: joined vs) := by
  cases vs with
  | nil => exact ⟨[], by simp, Or.inl ⟨rfl, rfl⟩⟩
  | cons w vs => exact ⟨_, joined_cons_cons v w vs, Or.inr ⟨List.cons_ne_nil w vs, rfl⟩⟩

/-- Trimmed values with single spaces between them are a trimmed text. -/
lemma trimmed_joined {vs : List (List Char)} (h : ∀ v ∈ vs, v ≠ [] ∧ Trimmed v) :
    Trimmed (joined vs) := by
  induction vs with
  | nil => exact ⟨by simp, by simp [EndsSolid]⟩
  | cons v vs ih =>
    have ih := ih fun w hw => h w (List.mem_cons_of_mem _ hw)
    obtain ⟨hne, htrim⟩ := h v List.mem_cons_self
    obtain ⟨c, v, rfl⟩ := List.exists_cons_of_ne_nil hne
    cases vs with
    | nil => rwa [joined_single]
    | cons w vs =>
      rw [joined_cons_cons]
      refine ⟨fun d hd => htrim.head d hd, fun d hd => ?_⟩
      have hw : joined (w :: vs) ≠ [] := by
        obtain ⟨rest, hrest, -⟩ := joined_cons w vs
        rw [hrest]
        intro hnil
        exact (h w (List.mem_cons_of_mem _ List.mem_cons_self)).1 (List.append_eq_nil_iff.mp hnil).1
      obtain ⟨e, es, hes⟩ := List.exists_cons_of_ne_nil hw
      rw [hes] at ih hd
      have hlast := List.getLast?_eq_some_getLast (List.cons_ne_nil e es)
      rw [List.getLast?_append, List.getLast?_cons_cons, hlast, Option.some_or, ← hlast] at hd
      exact ih.last d hd

lemma IsWord.head {w : List Char} (hw : IsWord w) (rest : List Char) :
    ∃ c cs, w ++ rest = c :: cs ∧ isBlank c = false := by
  obtain ⟨hne, hsolid⟩ := hw
  cases w with
  | nil => exact absurd rfl hne
  | cons c w => exact ⟨c, w ++ rest, rfl, isSolid_eq_true.mp (hsolid c List.mem_cons_self)⟩

/-- A gap cannot lie where a word starts. -/
lemma IsWord.ne_gap {w rest gap cs : List Char} (hw : IsWord w) (hne : gap ≠ [])
    (hblank : ∀ c ∈ gap, isBlank c) : gap ++ cs ≠ w ++ rest := by
  intro h
  obtain ⟨c, ds, heq, hc⟩ := hw.head rest
  cases gap with
  | nil => exact hne rfl
  | cons d gap =>
    rw [heq] at h
    obtain ⟨rfl, -⟩ := List.cons.inj h
    rw [hblank d List.mem_cons_self] at hc
    cases hc

/-- Blanks passed in front of a word are the first ones of those that stand there. -/
lemma IsWord.exists_left {w gap passed rest cs : List Char} (hw : IsWord w)
    (hpassed : ∀ c ∈ passed, isBlank c) (h : passed ++ rest = gap ++ (w ++ cs)) :
    ∃ left, gap = passed ++ left ∧ rest = left ++ (w ++ cs) := by
  rcases List.append_eq_append_iff.mp h with ⟨left, rfl, rfl⟩ | ⟨more, rfl, heq⟩
  · exact ⟨left, rfl, rfl⟩
  · have hmore : more = [] := by
      by_contra hne
      exact hw.ne_gap hne (fun c hc => hpassed c (List.mem_append_right _ hc)) heq.symm
    subst hmore
    exact ⟨[], by rw [List.append_nil, List.append_nil], heq.symm⟩

lemma IsWord.takeWhile_gap {w gap : List Char} (hw : IsWord w) (hblank : ∀ c ∈ gap, isBlank c)
    (cs : List Char) : (gap ++ (w ++ cs)).takeWhile isBlank = gap := by
  obtain ⟨c, ds, heq, hc⟩ := hw.head cs
  rw [heq, List.takeWhile_append_of_pos hblank, List.takeWhile_cons_of_neg (by simp [hc]),
    List.append_nil]

/-- What follows a word in two texts of the same words: in the first one all gaps are single
spaces. -/
inductive Gapped : List Char → List Char → Prop
  | nil : Gapped [] []
  | cons {w gap s t : List Char} (hw : IsWord w) (hne : gap ≠ []) (hblank : ∀ c ∈ gap, isBlank c)
      (h : Gapped s t) : Gapped (' ' :: (w ++ s)) (gap ++ (w ++ t))

lemma Gapped.head_left {s t : List Char} (h : Gapped s t) :
    ∀ c, s.head? = some c → isBlank c := by
  cases h with
  | nil => simp
  | cons => exact head_space

lemma Gapped.head_right {s t : List Char} (h : Gapped s t) :
    ∀ c, t.head? = some c → isBlank c := by
  cases h with
  | nil => simp
  | cons hw hne hblank h => exact head_gap hne hblank

/-- Two texts of the same words, with single spaces in the first one. -/
lemma gapped_of_spaced {w cs : List Char} {ws : List (List Char)} (h : Spaced (w :: ws) cs)
    (hws : ∀ v ∈ w :: ws, IsWord v) :
    ∃ s t, joined (w :: ws) = w ++ s ∧ cs = w ++ t ∧ Gapped s t := by
  induction ws generalizing w cs with
  | nil =>
    cases h
    exact ⟨[], [], by simp, by simp, .nil⟩
  | cons v ws ih =>
    cases h with
    | cons hne hblank h =>
      obtain ⟨s, t, hs, rfl, hgapped⟩ := ih h fun u hu => hws u (List.mem_cons_of_mem _ hu)
      have hv := hws v (List.mem_cons_of_mem _ List.mem_cons_self)
      exact ⟨_, _, by rw [joined_cons_cons, hs], rfl, .cons hv hne hblank hgapped⟩

/-- A text that is some words with gaps between them has these words. -/
lemma Spaced.words_eq {ws : List (List Char)} {cs : List Char} (h : Spaced ws cs)
    (hws : ∀ w ∈ ws, IsWord w) : words cs = ws := by
  induction h with
  | nil => exact words_nil
  | single w =>
    have hw : words (w ++ []) = w :: words [] := words_word (hws w List.mem_cons_self) (by simp)
    rwa [List.append_nil, words_nil] at hw
  | @cons v w gap cs ws hne hblank _ ih =>
    rw [words_word (hws v List.mem_cons_self) (head_gap hne hblank), words_gap hblank,
      ih fun u hu => hws u (List.mem_cons_of_mem _ hu)]

lemma spaced_joined (ws : List (List Char)) : Spaced ws (joined ws) := by
  match ws with
  | [] => exact .nil
  | [w] =>
    rw [joined_single]
    exact .single w
  | v :: w :: ws =>
    rw [joined_cons_cons]
    exact .cons (List.cons_ne_nil ' ' []) isBlank_of_mem_space (spaced_joined (w :: ws))

lemma words_joined {ws : List (List Char)} (hws : ∀ w ∈ ws, IsWord w) : words (joined ws) = ws :=
  (spaced_joined ws).words_eq hws

end ChatCommands.Text

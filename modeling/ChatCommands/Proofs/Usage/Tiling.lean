import ChatCommands.Proofs.Usage.WellFormed
import Mathlib.Data.List.TakeWhile

/-!
# Tokens tile a usage

The tokens of a text are the only ones whose written forms make up the text with blanks between
them. Each stands where its written form starts.

Main statement: `tokensFrom_eq_ok_iff`.
-/

namespace ChatCommands.Usage

/-! ### Written forms -/

namespace Lexeme

/-- Whether a token has a written form of its own. A name or a text is not empty and does not hold
the character that closes it; a name with the final marker is that of a trailing placeholder. -/
def Writable : Lexeme → Prop
  | placeholder name => name ≠ "" ∧ '>' ∉ name.toList ∧ ¬ trailingMarker <:+ name.toList
  | trailing name => name ≠ "" ∧ '>' ∉ name.toList
  | literal text => text ≠ "" ∧ '\'' ∉ text.toList
  | mark _ => True
  | finish => False

variable {name : List Char} {lexeme : Lexeme}

/-- What is read between brackets is written so. -/
lemma written_of_ofName? (hfree : '>' ∉ name) (h : ofName? name = some lexeme) :
    lexeme.Writable ∧ lexeme.written = '<' :: (name ++ ['>']) := by
  rw [ofName?] at h
  split at h
  · rename_i hmarker
    obtain ⟨stem, rfl⟩ := List.isSuffixOf_iff_suffix.mp hmarker
    have htake : (stem ++ trailingMarker).take
        ((stem ++ trailingMarker).length - trailingMarker.length) = stem := by simp
    simp only [htake] at h
    split at h
    · cases h
    · rename_i hne
      cases h
      refine ⟨⟨?_, ?_⟩, ?_⟩
      · simpa [← String.toList_inj] using hne
      · rw [String.toList_ofList]
        exact fun hmem => hfree (List.mem_append_left _ hmem)
      · simp [written]
  · rename_i hmarker
    split at h
    · cases h
    · rename_i hne
      cases h
      refine ⟨⟨?_, ?_, ?_⟩, ?_⟩
      · simpa [← String.toList_inj] using hne
      · rwa [String.toList_ofList]
      · rw [String.toList_ofList]
        exact fun hsuffix => hmarker (List.isSuffixOf_iff_suffix.mpr hsuffix)
      · simp [written]

lemma Writable.ne_nil (h : lexeme.Writable) : lexeme.written ≠ [] := by
  cases lexeme with
  | finish => exact h.elim
  | _ => simp [Lexeme.written]

lemma Writable.ne_finish (h : lexeme.Writable) : lexeme ≠ .finish := by
  rintro rfl
  exact h

lemma ofName?_placeholder {name : String} (h : (placeholder name).Writable) :
    ofName? name.toList = some (placeholder name) := by
  obtain ⟨hne, -, hmarker⟩ := h
  have hne : name.toList ≠ [] := fun hnil => hne (String.toList_eq_nil_iff.mp hnil)
  rw [ofName?, if_neg fun hsuffix => hmarker (List.isSuffixOf_iff_suffix.mp hsuffix)]
  simp [hne, String.ofList_toList]

lemma ofName?_trailing {name : String} (h : (trailing name).Writable) :
    ofName? (name.toList ++ trailingMarker) = some (trailing name) := by
  have hne : name.toList ≠ [] := fun hnil => h.1 (String.toList_eq_nil_iff.mp hnil)
  rw [ofName?, if_pos (List.isSuffixOf_iff_suffix.mpr (List.suffix_append _ _))]
  simp [hne, String.ofList_toList]

end Lexeme

lemma Mark.isBlank_char (m : Mark) : Text.isBlank m.char = false := by cases m <;> decide

lemma Mark.ofChar?_angle : Mark.ofChar? '<' = none := by decide

lemma Mark.ofChar?_quote : Mark.ofChar? '\'' = none := by decide

/-! ### Tilings -/

/-- The tokens of a text that starts at a place: blanks may stand in front of each token, and the
end of the text is a token too. -/
inductive Tiles : Nat → List Char → List Token → Prop
  | finish {p : Nat} (gap : List Char) (hblank : ∀ c ∈ gap, Text.isBlank c) :
      Tiles p gap [⟨.finish, p + gap.length⟩]
  | token {p : Nat} {cs : List Char} {lexeme : Lexeme} {ts : List Token} (gap : List Char)
      (hblank : ∀ c ∈ gap, Text.isBlank c) (hlexeme : lexeme.Writable)
      (h : Tiles (p + gap.length + lexeme.written.length) cs ts) :
      Tiles p (gap ++ (lexeme.written ++ cs)) (⟨lexeme, p + gap.length⟩ :: ts)

section
variable {p : Nat} {cs : List Char} {ts : List Token}

lemma Tiles.blank {c : Char} (hc : Text.isBlank c) (h : Tiles (p + 1) cs ts) :
    Tiles p (c :: cs) ts := by
  have hplace (gap : List Char) : p + 1 + gap.length = p + (c :: gap).length := by
    rw [List.length_cons]
    omega
  cases h with
  | finish gap hblank =>
    rw [hplace]
    exact .finish _ (List.forall_mem_cons.mpr ⟨hc, hblank⟩)
  | token gap hblank hlexeme h =>
    rw [hplace] at h ⊢
    exact .token _ (List.forall_mem_cons.mpr ⟨hc, hblank⟩) hlexeme h

lemma Tiles.written (lexeme : Lexeme) (hlexeme : lexeme.Writable)
    (h : Tiles (p + lexeme.written.length) cs ts) :
    Tiles p (lexeme.written ++ cs) (⟨lexeme, p⟩ :: ts) :=
  .token [] (by simp) hlexeme h

/-- What stands before a closing character. -/
lemma eq_takeWhile_append {close d : Char} {rest after : List Char}
    (h : rest.dropWhile (· ≠ close) = d :: after) :
    close ∉ rest.takeWhile (· ≠ close) ∧ rest = rest.takeWhile (· ≠ close) ++ close :: after := by
  have hd := List.head?_dropWhile_not (· ≠ close) rest
  rw [h] at hd
  have hd : d = close := by simpa using hd
  subst hd
  refine ⟨fun hmem => ?_, ?_⟩
  · simpa using List.mem_takeWhile_imp hmem
  · rw [← h, List.takeWhile_append_dropWhile]

/-- What is read between brackets is the written form of its token, and the text goes on behind. -/
lemma written_of_bracket {d : Char} {rest after : List Char} {lexeme : Lexeme}
    (h : rest.dropWhile (· ≠ '>') = d :: after)
    (hname : Lexeme.ofName? (rest.takeWhile (· ≠ '>')) = some lexeme) :
    lexeme.Writable ∧ '<' :: rest = lexeme.written ++ after ∧
      lexeme.written.length = (rest.takeWhile (· ≠ '>')).length + 2 := by
  obtain ⟨hfree, hsplit⟩ := eq_takeWhile_append h
  obtain ⟨hwritable, hwritten⟩ := Lexeme.written_of_ofName? hfree hname
  refine ⟨hwritable, ?_, ?_⟩
  · rw [hwritten, List.cons_append, List.append_assoc, List.singleton_append, ← hsplit]
  · rw [hwritten, List.length_cons, List.length_append, List.length_singleton]

/-- So is what is read between quotes. -/
lemma written_of_quote {d : Char} {rest after : List Char}
    (h : rest.dropWhile (· ≠ '\'') = d :: after) (hne : rest.takeWhile (· ≠ '\'') ≠ []) :
    let lexeme := Lexeme.literal (String.ofList (rest.takeWhile (· ≠ '\'')))
    lexeme.Writable ∧ '\'' :: rest = lexeme.written ++ after ∧
      lexeme.written.length = (rest.takeWhile (· ≠ '\'')).length + 2 := by
  intro lexeme
  obtain ⟨hfree, hsplit⟩ := eq_takeWhile_append h
  have hwritten : lexeme.written = '\'' :: (rest.takeWhile (· ≠ '\'') ++ ['\'']) := by
    simp only [lexeme, Lexeme.written, String.toList_ofList]
    rfl
  refine ⟨⟨?_, ?_⟩, ?_, ?_⟩
  · simpa [← String.toList_inj] using hne
  · rwa [String.toList_ofList]
  · rw [hwritten, List.cons_append, List.append_assoc, List.singleton_append, ← hsplit]
  · rw [hwritten, List.length_cons, List.length_append, List.length_singleton]

/-- The tokens of a text tile it. -/
lemma tiles_of_tokensFrom (h : tokensFrom p cs = .ok ts) : Tiles p cs ts := by
  fun_induction tokensFrom p cs generalizing ts with
  | case1 p =>
    cases h
    exact .finish [] (by simp)
  | case2 p c rest hc ih => exact (ih h).blank hc
  | case3 p c rest hc m hm ih =>
    obtain ⟨ts, hts, rfl⟩ := map_eq_ok.mp h
    obtain rfl := Mark.eq_char_of_ofChar? hm
    exact Tiles.written (.mark m) trivial (ih hts)
  | case4 | case5 | case7 | case8 | case10 => cases h
  | case6 p rest name d after hrest lexeme hlexeme hlt _ _ =>
    rename_i ih
    obtain ⟨ts, hts, rfl⟩ := map_eq_ok.mp h
    obtain ⟨hwritable, hsplit, hlength⟩ := written_of_bracket hrest hlexeme
    rw [hsplit]
    refine Tiles.written _ hwritable ?_
    rw [hlength]
    exact ih hts
  | case9 p rest text d after hrest hne hlt _ _ _ =>
    rename_i ih
    obtain ⟨ts, hts, rfl⟩ := map_eq_ok.mp h
    obtain ⟨hwritable, hsplit, hlength⟩ :=
      written_of_quote hrest fun hnil => hne (List.isEmpty_iff.mpr hnil)
    rw [hsplit]
    refine Tiles.written _ hwritable ?_
    rw [hlength]
    exact ih hts

lemma tokensFrom_blanks {gap : List Char} (hblank : ∀ c ∈ gap, Text.isBlank c) :
    tokensFrom p (gap ++ cs) = tokensFrom (p + gap.length) cs := by
  induction gap generalizing p with
  | nil => rfl
  | cons c gap ih =>
    obtain ⟨hc, hblank⟩ := List.forall_mem_cons.mp hblank
    rw [List.cons_append, tokensFrom, if_pos hc, ih hblank, List.length_cons]
    congr 1
    omega

/-- Up to its closing character, a text is cut off whole. -/
lemma takeWhile_dropWhile_of_notMem {close : Char} {text : List Char} (after : List Char)
    (h : close ∉ text) :
    (text ++ close :: after).takeWhile (· ≠ close) = text ∧
      (text ++ close :: after).dropWhile (· ≠ close) = close :: after := by
  have hall : ∀ c ∈ text, decide (c ≠ close) = true := by
    intro c hc
    exact decide_eq_true fun heq => h (heq ▸ hc)
  rw [List.takeWhile_append_of_pos hall, List.dropWhile_append_of_pos hall]
  simp

lemma tokensFrom_bracket (p : Nat) (cs : List Char) {name : List Char} {lexeme : Lexeme}
    (hfree : '>' ∉ name) (h : Lexeme.ofName? name = some lexeme) :
    tokensFrom p ('<' :: (name ++ '>' :: cs)) =
      (tokensFrom (p + name.length + 2) cs).map (⟨lexeme, p⟩ :: ·) := by
  obtain ⟨htake, hdrop⟩ := takeWhile_dropWhile_of_notMem cs hfree
  rw [tokensFrom, if_neg (by decide), Mark.ofChar?_angle]
  simp only [↓reduceIte, htake]
  split
  · rename_i hnil
    rw [hdrop] at hnil
    cases hnil
  · rename_i d after hcons
    rw [hdrop] at hcons
    cases hcons
    rw [h]

lemma tokensFrom_quote (p : Nat) (cs : List Char) {text : String}
    (h : (Lexeme.literal text).Writable) :
    tokensFrom p ('\'' :: (text.toList ++ '\'' :: cs)) =
      (tokensFrom (p + text.toList.length + 2) cs).map (⟨.literal text, p⟩ :: ·) := by
  obtain ⟨hne, hfree⟩ := h
  obtain ⟨htake, hdrop⟩ := takeWhile_dropWhile_of_notMem cs hfree
  rw [tokensFrom, if_neg (by decide), Mark.ofChar?_quote]
  simp only [show ¬ '\'' = '<' by decide, ↓reduceIte, htake]
  split
  · rename_i hnil
    rw [hdrop] at hnil
    cases hnil
  · rename_i d after hcons
    rw [hdrop] at hcons
    cases hcons
    have hne : text.toList ≠ [] := fun hnil => hne (String.toList_eq_nil_iff.mp hnil)
    simp [hne, String.ofList_toList]

/-- A written token is read off the front of a text. -/
lemma tokensFrom_written {lexeme : Lexeme} (h : lexeme.Writable) :
    tokensFrom p (lexeme.written ++ cs) =
      (tokensFrom (p + lexeme.written.length) cs).map (⟨lexeme, p⟩ :: ·) := by
  match lexeme, h with
  | .mark m, _ =>
    rw [Lexeme.written, List.singleton_append, tokensFrom,
      if_neg (by rw [Mark.isBlank_char]; exact Bool.false_ne_true)]
    simp
  | .placeholder name, h =>
    have hread := tokensFrom_bracket p cs h.2.1 (Lexeme.ofName?_placeholder h)
    simpa [Lexeme.written, Nat.add_assoc] using hread
  | .trailing name, h =>
    have hfree : '>' ∉ name.toList ++ trailingMarker := by
      rw [List.mem_append, not_or]
      exact ⟨h.2, by decide⟩
    have hread := tokensFrom_bracket p cs hfree (Lexeme.ofName?_trailing h)
    simpa [Lexeme.written, Nat.add_assoc] using hread
  | .literal text, h =>
    have hread := tokensFrom_quote p cs h
    simpa [Lexeme.written, Nat.add_assoc] using hread

/-- A text is read into the tokens that tile it, and into no others. -/
lemma tokensFrom_eq_ok_iff : tokensFrom p cs = .ok ts ↔ Tiles p cs ts := by
  refine ⟨tiles_of_tokensFrom, fun h => ?_⟩
  induction h with
  | @finish p gap hblank =>
    rw [← List.append_nil gap, tokensFrom_blanks hblank, List.append_nil, tokensFrom]
  | token gap hblank hlexeme _ ih =>
    rw [tokensFrom_blanks hblank, tokensFrom_written hlexeme, ih]
    rfl

/-! ### The end of the tokens -/

/-- The last token is the end of the text, and all others are written. -/
lemma Tiles.exists_writable (h : Tiles p cs ts) :
    ∃ named, ts = named ++ [⟨.finish, p + cs.length⟩] ∧ ∀ t ∈ named, t.lexeme.Writable := by
  induction h with
  | finish => exact ⟨[], rfl, by simp⟩
  | @token p cs lexeme ts gap hblank hlexeme _ ih =>
    obtain ⟨named, rfl, hnamed⟩ := ih
    refine ⟨⟨lexeme, p + gap.length⟩ :: named, ?_, List.forall_mem_cons.mpr ⟨hlexeme, hnamed⟩⟩
    simp [Nat.add_assoc]

lemma Tiles.exists_finish (h : Tiles p cs ts) :
    ∃ named, ts = named ++ [⟨.finish, p + cs.length⟩] ∧ ∀ t ∈ named, t.lexeme ≠ .finish := by
  obtain ⟨named, hts, hnamed⟩ := h.exists_writable
  exact ⟨named, hts, fun t ht => (hnamed t ht).ne_finish⟩

/-- The written form of a token starts where the token stands. -/
lemma Tiles.written_front (h : Tiles p cs ts) {t : Token} (ht : t ∈ ts) :
    p ≤ t.position ∧ t.lexeme.written <+: cs.drop (t.position - p) := by
  induction h with
  | finish gap hblank =>
    obtain rfl := List.mem_singleton.mp ht
    exact ⟨Nat.le_add_right _ _, List.nil_prefix⟩
  | @token p cs lexeme ts gap hblank hlexeme _ ih =>
    rcases List.mem_cons.mp ht with rfl | ht
    · refine ⟨Nat.le_add_right _ _, ?_⟩
      rw [Nat.add_sub_cancel_left, List.drop_left]
      exact List.prefix_append _ _
    · obtain ⟨hle, hfront⟩ := ih ht
      refine ⟨by omega, ?_⟩
      have hdrop : t.position - p = gap.length + (lexeme.written.length +
          (t.position - (p + gap.length + lexeme.written.length))) := by omega
      rw [hdrop, ← List.drop_drop, List.drop_left, ← List.drop_drop, List.drop_left]
      exact hfront

/-- No token stands behind the end. -/
lemma Tiles.position_le (h : Tiles p cs ts) {t : Token} (ht : t ∈ ts) :
    t.position ≤ p + cs.length := by
  induction h with
  | finish gap hblank =>
    obtain rfl := List.mem_singleton.mp ht
    exact Nat.le_refl _
  | @token p cs lexeme ts gap hblank hlexeme _ ih =>
    rw [List.length_append, List.length_append]
    rcases List.mem_cons.mp ht with rfl | ht
    · dsimp only
      omega
    · have := ih ht
      omega

end

end ChatCommands.Usage

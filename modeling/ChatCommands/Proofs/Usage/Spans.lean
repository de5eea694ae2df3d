import ChatCommands.Proofs.Usage.Tiling

/-!
# Spans of tokens

The written forms of the tokens stand in the text one behind another, with blanks between them. A
text has no other tokens that stand so, and tokens that are written with any blanks between them are
read back.

Main statement: `tokenize_spans`.
-/

namespace ChatCommands.Usage

/-- The place behind the written form of a token. -/
def Token.stop (t : Token) : Nat := t.position + t.lexeme.written.length

/-- Whether a token is written over a place. -/
def Token.Covers (t : Token) (i : Nat) : Prop := t.position ≤ i ∧ i < t.stop

/-- The spans of tokens tile a text. -/
structure Spans (source : String) (ts : List Token) : Prop where
  increasing : ts.Pairwise fun t u => t.position < u.position
  /-- At the place of a token the text goes on with its written form. -/
  written : ∀ t ∈ ts, t.lexeme.written <+: source.toList.drop t.position
  /-- Written forms do not overlap. -/
  apart : ts.Pairwise fun t u => t.stop ≤ u.position
  blank_outside : ∀ i (h : i < source.toList.length), (∀ t ∈ ts, ¬t.Covers i) →
    Text.isBlank source.toList[i]
  /-- The last token, and no other, is the end of the text. -/
  one_finish : ∃ named, ts = named ++ [⟨.finish, source.length⟩] ∧
    ∀ t ∈ named, t.lexeme.Writable

variable {p : Nat} {cs : List Char} {ts named : List Token} {source : String}

lemma Token.position_lt_stop {t : Token} (h : t.lexeme.Writable) : t.position < t.stop :=
  Nat.lt_add_of_pos_right (List.length_pos_iff.mpr h.ne_nil)

/-- A token that is written in a text stops in it. -/
lemma Token.stop_le_length {t : Token} (h : t.lexeme.Writable)
    (hwritten : t.lexeme.written <+: cs.drop t.position) : t.stop ≤ cs.length := by
  have hlt := Token.position_lt_stop h
  have hlength := hwritten.length_le
  rw [Token.stop] at hlt ⊢
  rw [List.length_drop] at hlength
  omega

/-! ### The spans of a tiling -/

namespace Tiles

/-- A token stops before the next one starts. -/
lemma apart (h : Tiles p cs ts) : ts.Pairwise fun t u => t.stop ≤ u.position := by
  induction h with
  | finish => exact List.pairwise_singleton _ _
  | token gap hblank hlexeme htiles ih =>
    exact List.pairwise_cons.mpr ⟨fun u hu => (htiles.written_front hu).1, ih⟩

lemma increasing (h : Tiles p cs ts) : ts.Pairwise fun t u => t.position < u.position := by
  induction h with
  | finish => exact List.pairwise_singleton _ _
  | token gap hblank hlexeme htiles ih =>
    refine List.pairwise_cons.mpr ⟨fun u hu => ?_, ih⟩
    exact Nat.lt_of_lt_of_le (Token.position_lt_stop hlexeme) (htiles.written_front hu).1

/-- Outside of the tokens there are blanks. -/
lemma blank_outside (h : Tiles p cs ts) {i : Nat} (hi : i < cs.length)
    (hout : ∀ t ∈ ts, ¬t.Covers (p + i)) : Text.isBlank cs[i] := by
  induction h generalizing i with
  | finish gap hblank => exact hblank _ (List.getElem_mem hi)
  | @token p cs lexeme ts gap hblank hlexeme htiles ih =>
    obtain ⟨hfirst, hlater⟩ := List.forall_mem_cons.mp hout
    rw [List.length_append, List.length_append] at hi
    by_cases hgap : i < gap.length
    · rw [List.getElem_append_left hgap]
      exact hblank _ (List.getElem_mem hgap)
    · have hbehind : gap.length + lexeme.written.length ≤ i := by
        simp only [Token.Covers, Token.stop] at hfirst
        omega
      obtain ⟨j, rfl⟩ := Nat.exists_eq_add_of_le hbehind
      have hj : j < cs.length := by omega
      have hblank := ih hj fun t ht => by
        have := hlater t ht
        rwa [show p + (gap.length + lexeme.written.length + j) =
          p + gap.length + lexeme.written.length + j by omega] at this
      simpa [List.getElem_append_right, Nat.add_assoc] using hblank

lemma spans (h : Tiles 0 source.toList ts) : Spans source ts where
  increasing := h.increasing
  written t ht := (h.written_front ht).2
  apart := h.apart
  blank_outside i hi hout := h.blank_outside hi (by simpa using hout)
  one_finish := by
    obtain ⟨named, hts, hnamed⟩ := h.exists_writable
    rw [Nat.zero_add, String.length_toList] at hts
    exact ⟨named, hts, hnamed⟩

end Tiles

/-! ### The tiling of spans -/

/-- A token tiles the text behind a gap together with the tokens that tile what is behind it. -/
lemma Tiles.behind {t : Token} {gap : List Char} (hgap : t.position = p + gap.length)
    (hblank : ∀ c ∈ gap, Text.isBlank c) (hwritable : t.lexeme.Writable)
    (h : Tiles t.stop cs ts) : Tiles p (gap ++ (t.lexeme.written ++ cs)) (t :: ts) := by
  obtain ⟨lexeme, position⟩ := t
  obtain rfl : position = p + gap.length := hgap
  exact .token gap hblank hwritable h

/-- What stands from a place on is a gap, a token that is written behind it, and what is behind the
token. -/
lemma drop_eq_append {t : Token} (hle : p ≤ t.position)
    (hwritten : t.lexeme.written <+: cs.drop t.position) :
    cs.drop p = (cs.drop p).take (t.position - p) ++ (t.lexeme.written ++ cs.drop t.stop) := by
  obtain ⟨behind, hbehind⟩ := hwritten
  have hdrop : cs.drop t.stop = behind := by
    rw [Token.stop, ← List.drop_drop, ← hbehind, List.drop_left]
  have hsplit := List.take_append_drop (t.position - p) (cs.drop p)
  rw [List.drop_drop, Nat.add_sub_cancel' hle, ← hbehind] at hsplit
  rw [hdrop, hsplit]

/-- Tokens whose written forms stand one behind another, with blanks outside of them, tile what
stands from a place on. -/
lemma tiles_of_spans (hp : p ≤ cs.length) (hwritable : ∀ t ∈ named, t.lexeme.Writable)
    (hwritten : ∀ t ∈ named, p ≤ t.position ∧ t.lexeme.written <+: cs.drop t.position)
    (hapart : named.Pairwise fun t u => t.stop ≤ u.position)
    (hblank : ∀ i (h : i < cs.length), p ≤ i → (∀ t ∈ named, ¬t.Covers i) →
      Text.isBlank cs[i]) :
    Tiles p (cs.drop p) (named ++ [⟨.finish, cs.length⟩]) := by
  induction named generalizing p with
  | nil =>
    have hlength : cs.length = p + (cs.drop p).length := by
      rw [List.length_drop]
      omega
    rw [hlength]
    refine .finish _ fun c hc => ?_
    obtain ⟨i, hi, rfl⟩ := List.mem_drop_iff_getElem.mp hc
    exact hblank _ _ (Nat.le_add_right _ _) (by simp)
  | cons t named ih =>
    obtain ⟨ht, hnamed⟩ := List.forall_mem_cons.mp hwritable
    obtain ⟨⟨hle, hfront⟩, hbehind⟩ := List.forall_mem_cons.mp hwritten
    obtain ⟨hfirst, hlater⟩ := List.pairwise_cons.mp hapart
    have hlt := Token.position_lt_stop ht
    have hstop := Token.stop_le_length ht hfront
    rw [drop_eq_append hle hfront]
    refine Tiles.behind ?_ (fun c hc => ?_) ht (ih hstop hnamed
      (fun u hu => ⟨hfirst u hu, (hbehind u hu).2⟩) hlater fun i hi hafter hout => ?_)
    · rw [List.length_take, List.length_drop]
      omega
    · -- a place of the gap lies before the token, and later ones start behind it
      obtain ⟨i, hi, rfl⟩ := List.mem_take_iff_getElem.mp hc
      have hbefore : p + i < t.position := by omega
      rw [List.getElem_drop]
      refine hblank _ _ (Nat.le_add_right _ _) (List.forall_mem_cons.mpr ⟨?_, fun u hu => ?_⟩)
      · exact fun hcover => absurd hcover.1 (by omega)
      · have := hfirst u hu
        exact fun hcover => absurd hcover.1 (by omega)
    · refine hblank i hi (by omega) (List.forall_mem_cons.mpr ⟨?_, hout⟩)
      exact fun hcover => absurd hcover.2 (by omega)

/-! ### Writing tokens -/

/-- The text of tokens, each behind a gap, with a gap at the end. -/
def spaced (pieces : List (List Char × Lexeme)) (last : List Char) : List Char :=
  pieces.flatMap (fun piece => piece.1 ++ piece.2.written) ++ last

/-- Tokens that are written with blanks between them tile what is written. -/
lemma exists_tiles_spaced (p : Nat) {pieces : List (List Char × Lexeme)} {last : List Char}
    (hpieces : ∀ piece ∈ pieces, (∀ c ∈ piece.1, Text.isBlank c) ∧ piece.2.Writable)
    (hlast : ∀ c ∈ last, Text.isBlank c) :
    ∃ ts, Tiles p (spaced pieces last) ts ∧
      ts.map Token.lexeme = pieces.map Prod.snd ++ [.finish] := by
  induction pieces generalizing p with
  | nil => exact ⟨_, .finish last hlast, rfl⟩
  | cons piece pieces ih =>
    obtain ⟨gap, lexeme⟩ := piece
    obtain ⟨⟨hblank, hlexeme⟩, hpieces⟩ := List.forall_mem_cons.mp hpieces
    obtain ⟨ts, htiles, hts⟩ := ih (p + gap.length + lexeme.written.length) hpieces
    refine ⟨⟨lexeme, p + gap.length⟩ :: ts, ?_, congrArg (lexeme :: ·) hts⟩
    simpa [spaced] using Tiles.token gap hblank hlexeme htiles

lemma tokenize_eq_ok_iff_spans : tokenize source = .ok ts ↔ Spans source ts := by
  rw [tokenize, tokensFrom_eq_ok_iff]
  refine ⟨Tiles.spans, fun h => ?_⟩
  obtain ⟨named, rfl, hnamed⟩ := h.one_finish
  have hblank : ∀ i (hi : i < source.toList.length), 0 ≤ i → (∀ t ∈ named, ¬t.Covers i) →
      Text.isBlank source.toList[i] := by
    intro i hi _ hout
    refine h.blank_outside i hi (List.forall_mem_append.mpr ⟨hout, ?_⟩)
    simp [Token.Covers, Token.stop, Lexeme.written]
  exact tiles_of_spans (Nat.zero_le _) hnamed
    (fun t ht => ⟨Nat.zero_le _, h.written t (List.mem_append_left _ ht)⟩)
    (List.pairwise_append.mp h.apart).1 hblank

/-- The tokens of a text are the only ones that tile it: they stand in order and do not overlap,
each in its written form, with blanks outside of them and one end behind all others. Written tokens
with any blanks between them, before and behind them are read back. -/
theorem tokenize_spans :
    (∀ source ts, tokenize source = .ok ts ↔ Spans source ts) ∧
    ∀ pieces last, (∀ piece ∈ pieces, (∀ c ∈ piece.1, Text.isBlank c) ∧ piece.2.Writable) →
      (∀ c ∈ last, Text.isBlank c) →
      ∃ ts, tokenize (String.ofList (spaced pieces last)) = .ok ts ∧
        ts.map Token.lexeme = pieces.map Prod.snd ++ [.finish] := by
  refine ⟨fun _ _ => tokenize_eq_ok_iff_spans, fun pieces last hpieces hlast => ?_⟩
  obtain ⟨ts, htiles, hts⟩ := exists_tiles_spaced 0 hpieces hlast
  refine ⟨ts, ?_, hts⟩
  rw [tokenize, String.toList_ofList]
  exact tokensFrom_eq_ok_iff.mpr htiles

theorem tokenize_spans_dots :
    Spans "<......> ['|<'\t]"
      [⟨.trailing "...", 0⟩, ⟨.mark .openOptional, 9⟩, ⟨.literal "|<", 10⟩,
        ⟨.mark .closeOptional, 15⟩, ⟨.finish, 16⟩] ∧
    ∃ ts, tokenize (String.ofList (spaced
        [([], .trailing "..."), ([' '], .mark .openOptional), ([], .literal "|<"),
          (['\t'], .mark .closeOptional)] [])) = .ok ts ∧
      ts.map Token.lexeme =
        [.trailing "...", .mark .openOptional, .literal "|<", .mark .closeOptional, .finish] := by
  have htrailing : (Lexeme.trailing "...").Writable := ⟨by decide, by decide⟩
  have hliteral : (Lexeme.literal "|<").Writable := ⟨by decide, by decide⟩
  refine ⟨(tokenize_spans.1 _ _).mp (by cbv), tokenize_spans.2 _ _ ?_ (by simp)⟩
  simp only [List.forall_mem_cons, List.not_mem_nil, false_implies, implies_true, and_true,
    true_and]
  exact ⟨htrailing, ⟨by decide, trivial⟩, hliteral, by decide, trivial⟩

end ChatCommands.Usage

import ChatCommands.Proofs.Usage.Tiling

/-!
# Where a text breaks

A text that tokens do not tile breaks at a place: tokens tile it up to there, and what stands there
is no token. It has no name or no text in it, or starts no token at all, or is not closed.

Main statements: `tokensFrom_eq_error_iff`, `Broken.exists_cut`.
-/

namespace ChatCommands.Usage

/-! ### What is no token -/

/-- What stands at a place and is no token, whatever follows it. -/
inductive Flawed : Nat → List Char → SyntaxError → Prop
  | placeholder {p : Nat} {name : List Char} (hfree : '>' ∉ name)
      (h : Lexeme.ofName? name = none) :
      Flawed p ('<' :: (name ++ ['>']))
        (.emptyPlaceholder p (String.ofList ('<' :: (name ++ ['>']))))
  | literal {p : Nat} : Flawed p ['\'', '\''] (.emptyLiteral p)
  | character {p : Nat} {c : Char} (hblank : Text.isBlank c = false)
      (hmark : Mark.ofChar? c = none) (hbracket : c ≠ '<') (hquote : c ≠ '\'') :
      Flawed p [c] (.strayCharacter p c)

/-- What starts at a place like a token and is not closed. -/
inductive Unclosed : Nat → List Char → SyntaxError → Prop
  | placeholder {p : Nat} {name : List Char} (hfree : '>' ∉ name) :
      Unclosed p ('<' :: name) (.openPlaceholder p (String.ofList ('<' :: name)))
  | literal {p : Nat} {text : List Char} (hfree : '\'' ∉ text) :
      Unclosed p ('\'' :: text) (.openLiteral p (String.ofList ('\'' :: text)))

variable {p : Nat} {w cs : List Char} {e : SyntaxError}

/-- The error of what is no token points at it. -/
lemma Flawed.points (h : Flawed p w e) : e.position = p ∧ e.token.toList = w := by
  cases h with
  | placeholder => exact ⟨rfl, String.toList_ofList⟩
  | literal => exact ⟨rfl, by simp [SyntaxError.token]⟩
  | character => exact ⟨rfl, by simp [SyntaxError.token]⟩

lemma Unclosed.points (h : Unclosed p w e) : e.position = p ∧ e.token.toList = w := by
  cases h <;> exact ⟨rfl, String.toList_ofList⟩

lemma tokensFrom_of_flawed (cs : List Char) (h : Flawed p w e) :
    tokensFrom p (w ++ cs) = .error e := by
  cases h with
  | @placeholder name hfree hname =>
    obtain ⟨htake, hdrop⟩ := takeWhile_dropWhile_of_notMem cs hfree
    rw [List.cons_append, List.append_assoc, List.singleton_append, tokensFrom,
      if_neg (by decide), Mark.ofChar?_angle]
    simp only [↓reduceIte, htake]
    split
    · rename_i hnil
      rw [hdrop] at hnil
      cases hnil
    · rw [hname]
      rfl
  | literal =>
    rw [List.cons_append, tokensFrom, if_neg (by decide), Mark.ofChar?_quote]
    rfl
  | @character c hblank hmark hbracket hquote =>
    rw [List.singleton_append, tokensFrom, if_neg (by simp [hblank]), hmark]
    simp only [if_neg hbracket, if_neg hquote]

/-- Nothing is left from a closing character on just if there is none. -/
lemma dropWhile_eq_nil_iff_notMem {close : Char} {text : List Char} :
    text.dropWhile (· ≠ close) = [] ↔ close ∉ text := by
  rw [List.dropWhile_eq_nil_iff]
  constructor
  · intro h hmem
    simpa using h close hmem
  · intro h c hc
    exact decide_eq_true fun heq => h (heq ▸ hc)

lemma tokensFrom_of_unclosed (h : Unclosed p w e) : tokensFrom p w = .error e := by
  cases h with
  | @placeholder name hfree =>
    have hdrop := dropWhile_eq_nil_iff_notMem.mpr hfree
    rw [tokensFrom, if_neg (by decide), Mark.ofChar?_angle]
    simp only [↓reduceIte]
    split
    · rfl
    · rename_i hcons
      rw [hdrop] at hcons
      cases hcons
  | @literal text hfree =>
    have hdrop := dropWhile_eq_nil_iff_notMem.mpr hfree
    rw [tokensFrom, if_neg (by decide), Mark.ofChar?_quote]
    simp only [show ¬ '\'' = '<' by decide, ↓reduceIte]
    split
    · rfl
    · rename_i hcons
      rw [hdrop] at hcons
      cases hcons

/-! ### Broken texts -/

/-- A text that starts at a place breaks: behind blanks and tokens there is no token. -/
inductive Broken : Nat → List Char → SyntaxError → Prop
  | flawed {p : Nat} {w : List Char} {e : SyntaxError} (gap cs : List Char)
      (hblank : ∀ c ∈ gap, Text.isBlank c) (h : Flawed (p + gap.length) w e) :
      Broken p (gap ++ (w ++ cs)) e
  | unclosed {p : Nat} {w : List Char} {e : SyntaxError} (gap : List Char)
      (hblank : ∀ c ∈ gap, Text.isBlank c) (h : Unclosed (p + gap.length) w e) :
      Broken p (gap ++ w) e
  | token {p : Nat} {cs : List Char} {lexeme : Lexeme} {e : SyntaxError} (gap : List Char)
      (hblank : ∀ c ∈ gap, Text.isBlank c) (hlexeme : lexeme.Writable)
      (h : Broken (p + gap.length + lexeme.written.length) cs e) :
      Broken p (gap ++ (lexeme.written ++ cs)) e

lemma Broken.blank {c : Char} (hc : Text.isBlank c) (h : Broken (p + 1) cs e) :
    Broken p (c :: cs) e := by
  have hplace (gap : List Char) : p + 1 + gap.length = p + (c :: gap).length := by
    rw [List.length_cons]
    omega
  cases h with
  | flawed gap cs hblank h =>
    rw [hplace] at h
    exact .flawed (c :: gap) cs (List.forall_mem_cons.mpr ⟨hc, hblank⟩) h
  | unclosed gap hblank h =>
    rw [hplace] at h
    exact .unclosed (c :: gap) (List.forall_mem_cons.mpr ⟨hc, hblank⟩) h
  | token gap hblank hlexeme h =>
    rw [hplace] at h
    exact .token (c :: gap) (List.forall_mem_cons.mpr ⟨hc, hblank⟩) hlexeme h

lemma Broken.written (lexeme : Lexeme) (hlexeme : lexeme.Writable)
    (h : Broken (p + lexeme.written.length) cs e) : Broken p (lexeme.written ++ cs) e :=
  .token [] (by simp) hlexeme h

lemma Flawed.broken (cs : List Char) (h : Flawed p w e) : Broken p (w ++ cs) e :=
  .flawed [] cs (by simp) h

lemma Unclosed.broken (h : Unclosed p w e) : Broken p w e := .unclosed [] (by simp) h

lemma broken_of_tokensFrom (h : tokensFrom p cs = .error e) : Broken p cs e := by
  fun_induction tokensFrom p cs with
  | case1 => cases h
  | case2 p c rest hc ih => exact (ih h).blank hc
  | case3 p c rest hc m hm ih =>
    obtain rfl := Mark.eq_char_of_ofChar? hm
    exact Broken.written (.mark m) trivial (ih (map_eq_error.mp h))
  | case4 p rest hrest =>
    cases h
    exact (Unclosed.placeholder (dropWhile_eq_nil_iff_notMem.mp hrest)).broken
  | case5 p rest name d after hrest hname =>
    cases h
    obtain ⟨hfree, hsplit⟩ := eq_takeWhile_append hrest
    have hbroken := (Flawed.placeholder (p := p) hfree hname).broken after
    rw [List.cons_append, List.append_assoc, List.singleton_append, ← hsplit] at hbroken
    exact hbroken
  | case6 p rest name d after hrest lexeme hlexeme hlt _ _ =>
    rename_i ih
    obtain ⟨hwritable, hsplit, hlength⟩ := written_of_bracket hrest hlexeme
    rw [hsplit]
    refine Broken.written _ hwritable ?_
    rw [hlength]
    exact ih (map_eq_error.mp h)
  | case7 p rest hrest =>
    cases h
    exact (Unclosed.literal (dropWhile_eq_nil_iff_notMem.mp hrest)).broken
  | case8 p rest text d after hrest hempty =>
    cases h
    obtain ⟨hfree, hsplit⟩ := eq_takeWhile_append hrest
    have hnil : rest.takeWhile (· ≠ '\'') = [] := List.isEmpty_iff.mp hempty
    rw [hnil, List.nil_append] at hsplit
    rw [hsplit]
    exact Flawed.literal.broken after
  | case9 p rest text d after hrest hne hlt _ _ _ =>
    rename_i ih
    obtain ⟨hwritable, hsplit, hlength⟩ :=
      written_of_quote hrest fun hnil => hne (List.isEmpty_iff.mpr hnil)
    rw [hsplit]
    refine Broken.written _ hwritable ?_
    rw [hlength]
    exact ih (map_eq_error.mp h)
  | case10 p c rest hblank hmark hbracket hquote =>
    cases h
    exact (Flawed.character (by simpa using hblank) hmark hbracket hquote).broken rest

/-- A text is refused with an error just if it breaks where the error says. -/
lemma tokensFrom_eq_error_iff : tokensFrom p cs = .error e ↔ Broken p cs e := by
  refine ⟨broken_of_tokensFrom, fun h => ?_⟩
  induction h with
  | flawed gap cs hblank h => rw [tokensFrom_blanks hblank, tokensFrom_of_flawed cs h]
  | unclosed gap hblank h => rw [tokensFrom_blanks hblank, tokensFrom_of_unclosed h]
  | token gap hblank hlexeme _ ih =>
    rw [tokensFrom_blanks hblank, tokensFrom_written hlexeme, ih]
    rfl

/-! ### Cutting a broken text -/

/-- A broken text is cut where its error says: tokens tile the part before, and what is left breaks
when it is cut behind the token of the error. -/
lemma Broken.exists_cut (h : Broken p cs e) :
    ∃ before after, cs = before ++ (e.token.toList ++ after) ∧ e.position = p + before.length ∧
      (∃ ts, Tiles p before ts) ∧ Broken p (before ++ e.token.toList) e := by
  induction h with
  | flawed gap cs hblank h =>
    obtain ⟨hposition, rfl⟩ := h.points
    refine ⟨gap, cs, rfl, hposition, ⟨_, .finish gap hblank⟩, ?_⟩
    simpa using Broken.flawed gap [] hblank h
  | unclosed gap hblank h =>
    obtain ⟨hposition, rfl⟩ := h.points
    exact ⟨gap, [], by simp, hposition, ⟨_, .finish gap hblank⟩, .unclosed gap hblank h⟩
  | @token p cs lexeme e gap hblank hlexeme _ ih =>
    obtain ⟨before, after, rfl, hposition, ⟨ts, hts⟩, hbroken⟩ := ih
    refine ⟨gap ++ (lexeme.written ++ before), after, by simp, ?_,
      ⟨_, .token gap hblank hlexeme hts⟩, ?_⟩
    · rw [hposition, List.length_append, List.length_append]
      omega
    · simpa using Broken.token gap hblank hlexeme hbroken

end ChatCommands.Usage

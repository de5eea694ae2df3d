import ChatCommands.Proofs.Usage.Broken
import ChatCommands.Proofs.Usage.Language
import ChatCommands.Proofs.Usage.Unplaced

/-!
# Blanks between tokens

Texts that have the same tokens with other blanks between them are read into the same tree but for
places, so they are shown alike and compile to the same expression; or both are refused, with the
same code.

Main statements: `Respaced.edit`, `gist_read`, `parse_respaced`.
-/

namespace ChatCommands.Usage

variable {p : Nat} {w cs cs' gap gap' : List Char} {e : SyntaxError}

/-! ### What is no token, elsewhere -/

/-- What is no token at one place is none at another, for the same cause. -/
lemma Flawed.moved (h : Flawed p w e) (q : Nat) : ∃ e', Flawed q w e' ∧ e'.code = e.code := by
  cases h with
  | placeholder hfree hname => exact ⟨_, .placeholder hfree hname, rfl⟩
  | literal => exact ⟨_, .literal, rfl⟩
  | character hblank hmark hbracket hquote =>
    exact ⟨_, .character hblank hmark hbracket hquote, rfl⟩

lemma Unclosed.moved (h : Unclosed p w e) (q : Nat) :
    ∃ e', Unclosed q w e' ∧ e'.code = e.code := by
  cases h with
  | placeholder hfree => exact ⟨_, .placeholder hfree, rfl⟩
  | literal hfree => exact ⟨_, .literal hfree, rfl⟩

lemma Flawed.ne_nil (h : Flawed p w e) : w ≠ [] := by cases h <;> simp

/-! ### Other blanks -/

/-- Two texts have the same tokens, and the same pieces that are no tokens, but for the blanks
before, between and behind them. -/
inductive Respaced : List Char → List Char → Prop
  | finish (gap gap' : List Char) (hblank : ∀ c ∈ gap, Text.isBlank c)
      (hblank' : ∀ c ∈ gap', Text.isBlank c) : Respaced gap gap'
  | token {cs cs' : List Char} {lexeme : Lexeme} (gap gap' : List Char)
      (hblank : ∀ c ∈ gap, Text.isBlank c) (hblank' : ∀ c ∈ gap', Text.isBlank c)
      (hlexeme : lexeme.Writable) (h : Respaced cs cs') :
      Respaced (gap ++ (lexeme.written ++ cs)) (gap' ++ (lexeme.written ++ cs'))
  | flawed {p : Nat} {w cs cs' : List Char} {e : SyntaxError} (gap gap' : List Char)
      (hblank : ∀ c ∈ gap, Text.isBlank c) (hblank' : ∀ c ∈ gap', Text.isBlank c)
      (hflawed : Flawed p w e) (h : Respaced cs cs') :
      Respaced (gap ++ (w ++ cs)) (gap' ++ (w ++ cs'))
  | unclosed {p : Nat} {w : List Char} {e : SyntaxError} (gap gap' : List Char)
      (hblank : ∀ c ∈ gap, Text.isBlank c) (hblank' : ∀ c ∈ gap', Text.isBlank c)
      (hunclosed : Unclosed p w e) : Respaced (gap ++ w) (gap' ++ w)

namespace Respaced

lemma blanks (h : Respaced cs cs') (hblank : ∀ c ∈ gap, Text.isBlank c)
    (hblank' : ∀ c ∈ gap', Text.isBlank c) : Respaced (gap ++ cs) (gap' ++ cs') := by
  have hboth {g g' : List Char} (hg : ∀ c ∈ g, Text.isBlank c) (hg' : ∀ c ∈ g', Text.isBlank c) :
      ∀ c ∈ g ++ g', Text.isBlank c := List.forall_mem_append.mpr ⟨hg, hg'⟩
  cases h with
  | finish _ _ hg hg' => exact .finish _ _ (hboth hblank hg) (hboth hblank' hg')
  | token _ _ hg hg' hlexeme h =>
    rw [← List.append_assoc gap, ← List.append_assoc gap']
    exact .token _ _ (hboth hblank hg) (hboth hblank' hg') hlexeme h
  | flawed _ _ hg hg' hflawed h =>
    rw [← List.append_assoc gap, ← List.append_assoc gap']
    exact .flawed _ _ (hboth hblank hg) (hboth hblank' hg') hflawed h
  | unclosed _ _ hg hg' hunclosed =>
    rw [← List.append_assoc gap, ← List.append_assoc gap']
    exact .unclosed _ _ (hboth hblank hg) (hboth hblank' hg') hunclosed

/-- Every text is made of tokens and of pieces that are none. -/
protected lemma refl (cs : List Char) : Respaced cs cs := by
  -- a piece is never empty, so what stands behind it is shorter
  cases htokens : tokensFrom 0 cs with
  | ok ts =>
    cases tokensFrom_eq_ok_iff.mp htokens with
    | finish _ hblank => exact .finish _ _ hblank hblank
    | @token _ later lexeme _ gap hblank hlexeme _ =>
      have := List.length_pos_iff.mpr hlexeme.ne_nil
      exact .token _ _ hblank hblank hlexeme (Respaced.refl later)
  | error e =>
    cases broken_of_tokensFrom htokens with
    | unclosed gap hblank h => exact .unclosed _ _ hblank hblank h
    | @flawed _ w _ gap later hblank h =>
      have := List.length_pos_iff.mpr h.ne_nil
      exact .flawed _ _ hblank hblank h (Respaced.refl later)
    | @token _ later lexeme _ gap hblank hlexeme _ =>
      have := List.length_pos_iff.mpr hlexeme.ne_nil
      exact .token _ _ hblank hblank hlexeme (Respaced.refl later)
termination_by cs.length
decreasing_by all_goals simp_wf; omega

/-- Behind tokens, blanks may be put in place of others. -/
lemma edit {before : List Char} {ts : List Token} (h : Tiles p before ts) (after : List Char)
    (hblank : ∀ c ∈ gap, Text.isBlank c) (hblank' : ∀ c ∈ gap', Text.isBlank c) :
    Respaced (before ++ (gap ++ after)) (before ++ (gap' ++ after)) := by
  induction h with
  | finish _ hbefore => exact ((Respaced.refl after).blanks hblank hblank').blanks hbefore hbefore
  | token _ hbefore hlexeme _ ih =>
    rw [List.append_assoc, List.append_assoc, List.append_assoc, List.append_assoc]
    exact .token _ _ hbefore hbefore hlexeme ih

end Respaced

/-! ### Reading -/

lemma gist_cons {ts us : Except SyntaxError (List Token)} (t u : Token)
    (hhead : t.lexeme = u.lexeme) (h : gist lexemes ts = gist lexemes us) :
    gist lexemes (ts.map (t :: ·)) = gist lexemes (us.map (u :: ·)) := by
  match ts, us with
  | .error e, .error e' => exact congrArg Except.error (Except.error.inj h)
  | .error e, .ok us => cases h
  | .ok ts, .error e => cases h
  | .ok ts, .ok us => exact congrArg Except.ok (congrArg₂ List.cons hhead (Except.ok.inj h))

/-- Wherever two such texts stand, their tokens say the same, or they break for the same cause. -/
lemma gist_tokensFrom (h : Respaced cs cs') (p q : Nat) :
    gist lexemes (tokensFrom p cs) = gist lexemes (tokensFrom q cs') := by
  induction h generalizing p q with
  | finish gap gap' hblank hblank' =>
    rw [tokensFrom_eq_ok_iff.mpr (.finish gap hblank),
      tokensFrom_eq_ok_iff.mpr (.finish gap' hblank')]
    rfl
  | token gap gap' hblank hblank' hlexeme _ ih =>
    rw [tokensFrom_blanks hblank, tokensFrom_blanks hblank', tokensFrom_written hlexeme,
      tokensFrom_written hlexeme]
    exact gist_cons _ _ rfl (ih _ _)
  | @flawed _ _ cs cs' _ gap gap' hblank hblank' hflawed _ _ =>
    obtain ⟨e, he, hcode⟩ := hflawed.moved (p + gap.length)
    obtain ⟨e', he', hcode'⟩ := hflawed.moved (q + gap'.length)
    rw [tokensFrom_blanks hblank, tokensFrom_blanks hblank', tokensFrom_of_flawed cs he,
      tokensFrom_of_flawed cs' he']
    exact congrArg Except.error (hcode.trans hcode'.symm)
  | unclosed gap gap' hblank hblank' hunclosed =>
    obtain ⟨e, he, hcode⟩ := hunclosed.moved (p + gap.length)
    obtain ⟨e', he', hcode'⟩ := hunclosed.moved (q + gap'.length)
    rw [tokensFrom_blanks hblank, tokensFrom_blanks hblank', tokensFrom_of_unclosed he,
      tokensFrom_of_unclosed he']
    exact congrArg Except.error (hcode.trans hcode'.symm)

variable {source source' : String}

lemma gist_read (h : Respaced source.toList source'.toList) :
    gist (fun u => u.expression.unplaced) (read source) =
      gist (fun u => u.expression.unplaced) (read source') := by
  refine gist_bind (gist_tokensFrom h 0 0) fun ts us hts => ?_
  refine gist_bind (gist_readTokens hts) fun t t' ht => ?_
  have htrailing : trailingError? t = none ↔ trailingError? t' = none := by
    rw [← trailingError?_unplaced_iff, ht, trailingError?_unplaced_iff]
  match hx : trailingError? t, hy : trailingError? t' with
  | none, none => exact congrArg Except.ok ht
  | none, some e => cases (htrailing.mp hx).symm.trans hy
  | some e, none => cases (htrailing.mpr hy).symm.trans hx
  | some e, some e' =>
    exact congrArg Except.error
      ((code_of_trailingError? hx).trans (code_of_trailingError? hy).symm)

/-! ### Trees and patterns -/

variable {u u' : Usage}

/-- Trees that are the same but for places are shown alike. -/
lemma shown_congr (h : u.expression.unplaced = u'.expression.unplaced) : u.shown = u'.shown := by
  rw [Usage.shown, Usage.shown, ← Term.shown_unplaced, h, Term.shown_unplaced]

/-- They compile to the same expression. -/
lemma body_ofUsage_congr (h : u.expression.unplaced = u'.expression.unplaced) :
    (Pattern.ofUsage u).body = (Pattern.ofUsage u').body := by
  rw [Pattern.ofUsage, Pattern.ofUsage, ← Pattern.fragment_unplaced, h, Pattern.fragment_unplaced]

/-- Blanks between tokens do not matter. They may be put in place of others behind any tokens; and
two usages that differ only in them are read into trees that are the same but for places, are shown
alike and compile to the same regular expression with the same slots, or both are refused with the
same code. -/
theorem parse_respaced :
    (∀ before gap gap' after ts, tokenize before = .ok ts → (∀ c ∈ gap, Text.isBlank c) →
      (∀ c ∈ gap', Text.isBlank c) →
      Respaced (before.toList ++ (gap ++ after)) (before.toList ++ (gap' ++ after))) ∧
    ∀ source source', Respaced source.toList source'.toList →
      (∃ u u', parse source = .ok u ∧ parse source' = .ok u' ∧
        u.expression.unplaced = u'.expression.unplaced ∧ u.shown = u'.shown ∧
        (Pattern.ofUsage u).regex = (Pattern.ofUsage u').regex ∧
        (Pattern.ofUsage u).slots = (Pattern.ofUsage u').slots) ∨
      ∃ f f', parse source = .error (.fault f) ∧ parse source' = .error (.fault f') ∧
        f.kind = .usageSyntax ∧ f'.kind = .usageSyntax ∧ f.code = f'.code := by
  refine ⟨fun before gap gap' after ts hts hblank hblank' =>
    Respaced.edit (tiles_of_tokensFrom hts) after hblank hblank', fun source source' h => ?_⟩
  have hread := gist_read h
  match hx : read source, hy : read source' with
  | .error e, .error e' =>
    rw [hx, hy] at hread
    refine Or.inr ⟨e.toFault source, e'.toFault source', parse_eq_error_iff.mpr ⟨e, hx, rfl⟩,
      parse_eq_error_iff.mpr ⟨e', hy, rfl⟩, rfl, rfl, ?_⟩
    exact congrArg Value.code (Except.error.inj hread)
  | .error e, .ok u' => rw [hx, hy] at hread; cases hread
  | .ok u, .error e' => rw [hx, hy] at hread; cases hread
  | .ok u, .ok u' =>
    rw [hx, hy] at hread
    have htree : u.expression.unplaced = u'.expression.unplaced := Except.ok.inj hread
    have hbody := body_ofUsage_congr htree
    exact Or.inl ⟨u, u', parse_eq_ok_iff.mpr hx, parse_eq_ok_iff.mpr hy, htree, shown_congr htree,
      congrArg Pattern.Expr.text hbody, congrArg Pattern.Expr.slots hbody⟩

theorem parse_respaced_optional :
    Respaced "[<a>]".toList "[<a> \t]".toList ∧
    ∃ u u', parse "[<a>]" = .ok u ∧ parse "[<a> \t]" = .ok u' ∧ u.shown = u'.shown := by
  have htokens : tokenize "[<a>" =
      .ok [⟨.mark .openOptional, 0⟩, ⟨.placeholder "a", 1⟩, ⟨.finish, 4⟩] := by cbv
  have hblank : ∀ c ∈ [' ', '\t'], Text.isBlank c := List.all_eq_true.mp rfl
  have hrespaced : Respaced "[<a>]".toList "[<a> \t]".toList :=
    parse_respaced.1 "[<a>" [] [' ', '\t'] [']'] _ htokens (by simp) hblank
  have hread : parse "[<a>]" = .ok ⟨"[<a>]", .optional (.placeholder "a" 1) 0⟩ := by cbv
  rcases parse_respaced.2 _ _ hrespaced with
    ⟨u, u', hu, hu', -, hshown, -⟩ | ⟨f, f', hf, -⟩
  · exact ⟨hrespaced, u, u', hu, hu', hshown⟩
  · cases hread.symm.trans hf

end ChatCommands.Usage

import ChatCommands.Proofs.Usage.Broken
import ChatCommands.Proofs.Usage.Language

/-!
# Where an error points

The error of a usage that is refused points at a part of the usage, and the part is the token that
the error names. A tokenizer error points at the place where the text breaks; a reader is refused
over a mark that is one of its tokens, or over an empty place; a trailing placeholder in the wrong
place is one of the expression that was read.

Main statements: `About`, `points_of_read`, `parse_error_points`.
-/

namespace ChatCommands.Usage

/-! ### What readers complain about -/

/-- An error of a reader: it is about a mark among the tokens, or about an empty place where a token
stands or the usage ends. -/
inductive About (finish : Nat) (ts : List Token) (e : SyntaxError) : Prop
  | mark {m : Mark} (hmem : ⟨.mark m, e.position⟩ ∈ ts) (htoken : e.token = m.text)
  | place (hposition : e.position = finish ∨ ∃ t ∈ ts, t.position = e.position)
      (htoken : e.token = "")

section
variable {finish p : Nat} {ts us : List Token} {e : SyntaxError}

lemma About.mono (h : About finish ts e) (hsub : ts ⊆ us) : About finish us e := by
  cases h with
  | mark hmem htoken => exact .mark (hsub hmem) htoken
  | place hposition htoken =>
    refine .place (hposition.imp_right ?_) htoken
    rintro ⟨t, ht, hp⟩
    exact ⟨t, hsub ht, hp⟩

lemma About.of_append {used rest : List Token} (h : About finish rest e)
    (hts : ts = used ++ rest) : About finish ts e := by
  subst hts
  exact h.mono (List.subset_append_right _ _)

lemma about_closeGroup {opening closing : Mark}
    (h : closeGroup opening closing p us = .error e) (hmem : ⟨.mark opening, p⟩ ∈ ts) :
    About finish ts e := by
  match us with
  | [] =>
    cases h
    exact .mark hmem rfl
  | t :: us =>
    rw [closeGroup] at h
    split at h
    · cases h
    · cases h
      exact .mark hmem rfl

lemma about_missingTerm (finish : Nat) (ts : List Token) :
    About finish ts (.missingTerm (nextPosition finish ts)
      (match ts with
        | ⟨.mark m, _⟩ :: _ => some m
        | _ => none)) := by
  match ts with
  | [] => exact .place (Or.inl rfl) rfl
  | ⟨lexeme, p⟩ :: ts =>
    rcases lexeme with _ | _ | _ | m | _
    case mark => exact .mark (m := m) List.mem_cons_self rfl
    all_goals exact .place (Or.inr ⟨_, List.mem_cons_self, rfl⟩) rfl

mutual
lemma about_readTerms {ts : List Token} (h : readTerms finish ts = .error e) :
    About finish ts e := by
  rcases stops_or_starts ts with hstops | ⟨t, later, rfl, hstarts⟩
  · rw [readTerms_of_stops hstops] at h
    cases h
  · rw [readTerms_of_starts hstarts] at h
    rcases bind_eq_error.mp h with h | ⟨⟨term, rest⟩, hterm, h⟩
    · exact about_readTerm hstarts h
    · have := rest.2
      obtain ⟨used, hused, -⟩ := isTerm_of_readTerm hstarts hterm
      rcases bind_eq_error.mp h with h | ⟨_, -, h⟩
      · have hsplit : t :: later = (t :: used) ++ rest.1 := congrArg (t :: ·) hused
        exact (about_readTerms h).of_append hsplit
      · cases h
termination_by 4 * ts.length + 1
decreasing_by all_goals simp_wf; subst_vars; simp; omega

lemma about_readExpression {ts : List Token} (h : readExpression finish ts = .error e) :
    About finish ts e := by
  rw [readExpression] at h
  rcases bind_eq_error.mp h with h | ⟨⟨terms, rest⟩, hterms, h⟩
  · exact about_readTerms h
  · obtain ⟨used, hused, -, -⟩ := areTerms_of_readTerms hterms
    dsimp only at h
    split at h
    · cases h
      exact (about_missingTerm finish rest.1).of_append hused
    · cases h
termination_by 4 * ts.length + 2

lemma about_readTerm {t : Token} {ts : List Token} (hstarts : t.lexeme.startsTerm)
    (h : readTerm finish t.lexeme t.position ts = .error e) : About finish (t :: ts) e := by
  obtain ⟨lexeme, p⟩ := t
  rcases lexeme with name | name | text | m | _
  case mark =>
    cases m with
    | openGroup =>
      rw [readTerm] at h
      rcases bind_eq_error.mp h with h | ⟨⟨first, rest₁⟩, hfirst, h⟩
      · exact (about_readExpression h).mono (List.subset_cons_self _ _)
      have := rest₁.2
      obtain ⟨used, hused, -, -⟩ := isExpression_of_readExpression hfirst
      rcases bind_eq_error.mp h with h | ⟨⟨others, rest₂⟩, -, h⟩
      · exact ((about_readBranches h).of_append hused).mono (List.subset_cons_self _ _)
      rcases bind_eq_error.mp h with h | ⟨_, -, h⟩
      · exact about_closeGroup h List.mem_cons_self
      dsimp only at h
      split at h
      · cases h
        exact .mark (m := .openGroup) List.mem_cons_self rfl
      · cases h
    | openOptional =>
      rw [readTerm] at h
      · rcases bind_eq_error.mp h with h | ⟨⟨child, rest₁⟩, -, h⟩
        · exact (about_readExpression h).mono (List.subset_cons_self _ _)
        rcases bind_eq_error.mp h with h | ⟨_, -, h⟩
        · exact about_closeGroup h List.mem_cons_self
        · cases h
      all_goals simp
    | _ => cases hstarts
  case finish => cases hstarts
  all_goals
    rw [readTerm] at h
    cases h
termination_by 4 * ts.length + 3

lemma about_readBranches {ts : List Token} (h : readBranches finish ts = .error e) :
    About finish ts e := by
  rw [readBranches.eq_def] at h
  split at h
  · rcases bind_eq_error.mp h with h | ⟨⟨branch, rest⟩, hbranch, h⟩
    · exact (about_readExpression h).mono (List.subset_cons_self _ _)
    · have := rest.2
      obtain ⟨used, hused, -, -⟩ := isExpression_of_readExpression hbranch
      rcases bind_eq_error.mp h with h | ⟨_, -, h⟩
      · exact ((about_readBranches h).of_append hused).mono (List.subset_cons_self _ _)
      · cases h
  · cases h
termination_by 4 * ts.length + 0
decreasing_by all_goals simp_wf; subst_vars; simp; omega
end

/-- The readers complain about their tokens, or about a usage that has none. -/
lemma about_readTokens (h : readTokens finish ts = .error e) :
    e = .emptyUsage ∨ About finish ts e := by
  rw [readTokens.eq_def] at h
  split at h
  · exact Or.inl (Except.error.inj h).symm
  · exact Or.inl (Except.error.inj h).symm
  · rcases bind_eq_error.mp h with h | ⟨⟨expression, rest⟩, hread, h⟩
    · exact Or.inr (about_readExpression h)
    · obtain ⟨used, hused, -, -⟩ := isExpression_of_readExpression hread
      dsimp only at h
      split at h
      · rename_i m p later hrest
        cases h
        refine Or.inr (.mark (m := m) ?_ rfl)
        rw [hused, hrest]
        exact List.mem_append_right _ List.mem_cons_self
      · cases h

end

/-! ### Errors point at their tokens -/

/-- An error points at a part of a usage that is its token. -/
structure Points (source : String) (e : SyntaxError) : Prop where
  position_le : e.position ≤ source.length
  token_front : e.token.toList <+: source.toList.drop e.position

variable {source : String} {ts : List Token} {e : SyntaxError}

lemma points_of_tokenize (h : tokenize source = .error e) : Points source e := by
  obtain ⟨before, after, hsource, hposition, -, -⟩ := (broken_of_tokensFrom h).exists_cut
  rw [Nat.zero_add] at hposition
  refine ⟨?_, ?_⟩
  · rw [hposition, ← String.length_toList, hsource, List.length_append]
    exact Nat.le_add_right _ _
  · rw [hposition, hsource, List.drop_left]
    exact List.prefix_append _ _

/-- A token is written where it stands. -/
lemma points_of_mem (htiles : Tiles 0 source.toList ts) {t : Token} (ht : t ∈ ts)
    (hposition : e.position = t.position) (htoken : e.token.toList = t.lexeme.written) :
    Points source e := by
  refine ⟨?_, ?_⟩
  · have hle := htiles.position_le ht
    rwa [Nat.zero_add, String.length_toList, ← hposition] at hle
  · rw [hposition, htoken]
    exact (htiles.written_front ht).2

lemma About.points (htiles : Tiles 0 source.toList ts) (h : About source.length ts e) :
    Points source e := by
  cases h with
  | mark hmem htoken =>
    refine points_of_mem htiles hmem rfl ?_
    rw [htoken, Mark.text, String.toList_singleton, Lexeme.written]
  | place hposition htoken =>
    refine ⟨?_, ?_⟩
    · rcases hposition with hposition | ⟨t, ht, hposition⟩
      · exact Nat.le_of_eq hposition
      · have hle := htiles.position_le ht
        rwa [Nat.zero_add, String.length_toList, hposition] at hle
    · rw [htoken]
      exact List.nil_prefix

/-- An error about a trailing placeholder points at it. -/
lemma points_of_trailing {t : Term} (h : Writes source ts t) {name : String} {p : Nat}
    (hmem : .trailing name p ∈ t.walk) (hposition : e.position = p)
    (htoken : e.token = String.ofList (Lexeme.trailing name).written) : Points source e := by
  have hterminal : ⟨.trailing name, p⟩ ∈ unmarked ts := by
    rw [← h.expression.terminals]
    exact List.mem_filterMap.mpr ⟨_, hmem, rfl⟩
  have hmem : ⟨.trailing name, p⟩ ∈ ts := (List.mem_filter.mp hterminal).1
  refine points_of_mem h.tiles (List.mem_append_left _ hmem) hposition ?_
  rw [htoken, String.toList_ofList]

/-- Whatever a usage is refused for, the error points at its token. -/
lemma points_of_read (h : read source = .error e) : Points source e := by
  rw [read] at h
  rcases bind_eq_error.mp h with h | ⟨tokens, htokens, h⟩
  · exact points_of_tokenize h
  rcases bind_eq_error.mp h with h | ⟨t, hread, h⟩
  · rcases about_readTokens h with rfl | habout
    · exact ⟨Nat.zero_le _, List.nil_prefix⟩
    · exact habout.points (tiles_of_tokensFrom htokens)
  · split at h
    · rename_i e' htrailing
      obtain rfl := Except.error.inj h
      obtain ⟨ts, hwrites⟩ := exists_writes_iff.mpr ⟨tokens, htokens, hread⟩
      obtain ⟨name, p, hmem, rfl | rfl⟩ := exists_of_trailingError? htrailing
      · exact points_of_trailing hwrites hmem rfl rfl
      · exact points_of_trailing hwrites hmem rfl rfl
    · cases h

/-! ### Faults -/

@[simp] lemma properties_toFault (e : SyntaxError) (source : String) :
    (e.toFault source).properties =
      [("usage", .text source), ("position", .int e.position), ("token", .text e.token)] := rfl

/-- Where a text breaks, the part before is tokens, and the part up to and with the token of the
error breaks too. -/
lemma tokenize_cut (h : tokenize source = .error e) :
    (∃ ts, tokenize (String.ofList (source.toList.take e.position)) = .ok ts) ∧
      tokenize (String.ofList (source.toList.take (e.position + e.token.length))) = .error e := by
  obtain ⟨before, after, hsource, hposition, ⟨ts, hts⟩, hbroken⟩ :=
    (broken_of_tokensFrom h).exists_cut
  rw [Nat.zero_add] at hposition
  have htoken : before ++ (e.token.toList ++ after) = (before ++ e.token.toList) ++ after := by simp
  have hlength : e.position + e.token.length = (before ++ e.token.toList).length := by
    rw [List.length_append, String.length_toList, hposition]
  constructor
  · refine ⟨ts, ?_⟩
    rw [tokenize, String.toList_ofList, hsource, hposition, List.take_left]
    exact tokensFrom_eq_ok_iff.mpr hts
  · rw [tokenize, String.toList_ofList, hsource, htoken, hlength, List.take_left]
    exact tokensFrom_eq_error_iff.mpr hbroken

/-- The fault of a usage that is refused carries the usage, a position in it and the token that
stands there. If the usage breaks up when it is split into tokens, then the part of it before the
position does not, and the part up to and with the token does. -/
theorem parse_error_points {source : String} {err : Error} (h : parse source = .error err) :
    ∃ f position token, err = .fault f ∧ f.kind = .usageSyntax ∧
      f.properties =
        [("usage", .text source), ("position", .int position), ("token", .text token)] ∧
      0 ≤ position ∧ position ≤ source.length ∧
      (source.toList.drop position.toNat).take token.length = token.toList ∧
      ∀ e, tokenize source = .error e → f = e.toFault source ∧
        (∃ ts, tokenize (String.ofList (source.toList.take position.toNat)) = .ok ts) ∧
        tokenize (String.ofList (source.toList.take (position.toNat + token.length))) =
          .error e := by
  obtain ⟨e, hread, rfl⟩ := parse_eq_error_iff.mp h
  obtain ⟨hle, hfront⟩ := points_of_read hread
  refine ⟨_, e.position, e.token, rfl, rfl, properties_toFault e source, Int.natCast_nonneg _,
    Int.ofNat_le.mpr hle, ?_, fun e' htokens => ?_⟩
  · rw [Int.toNat_natCast, ← String.length_toList]
    exact (List.prefix_iff_eq_take.mp hfront).symm
  · have heq : read source = .error e' := by
      rw [read, htokens]
      rfl
    obtain rfl := Except.error.inj (hread.symm.trans heq)
    exact ⟨rfl, tokenize_cut htokens⟩

theorem parse_error_points_stray : ∃ f position token,
    parse "<a> $ b" = .error (.fault f) ∧
      f.properties =
        [("usage", .text "<a> $ b"), ("position", .int position), ("token", .text token)] ∧
      ("<a> $ b".toList.drop position.toNat).take token.length = token.toList ∧
      ∃ ts, tokenize (String.ofList ("<a> $ b".toList.take position.toNat)) = .ok ts := by
  have htokens : tokenize "<a> $ b" = .error (.strayCharacter 4 '$') := by cbv
  have hparse : parse "<a> $ b" =
      .error (.fault ((SyntaxError.strayCharacter 4 '$').toFault "<a> $ b")) := by
    refine parse_eq_error_iff.mpr ⟨_, ?_, rfl⟩
    rw [read, htokens]
    rfl
  obtain ⟨f, position, token, hf, -, hproperties, -, -, hslice, hcut⟩ := parse_error_points hparse
  exact ⟨f, position, token, hparse.trans (congrArg _ hf), hproperties, hslice,
    (hcut _ htokens).2.1⟩

end ChatCommands.Usage

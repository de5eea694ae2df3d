import ChatCommands.Proofs.Usage.Cursor
import ChatCommands.Proofs.Usage.Trailing

/-!
# The language of usages

Which texts are usages, and which trees they have.

Main statement: `parse_eq_ok_iff_derives`.
-/

namespace ChatCommands.Usage

/-- The tokens of an expression tile a text. -/
structure Writes (source : String) (ts : List Token) (e : Term) : Prop where
  tiles : Tiles 0 source.toList (ts ++ [⟨.finish, source.length⟩])
  expression : IsExpression ts e

/-- A text writes an expression, and its trailing placeholder is where one may stand. -/
structure Derives (source : String) (e : Term) : Prop where
  writes : ∃ ts, Writes source ts e
  trailing_last : e.TrailingLast
  one_trailing : (e.walk.filter Term.isTrailing).length ≤ 1

variable {source : String} {ts us : List Token} {e e' : Term} {u : Usage}

/-! ### One reading -/

lemma Writes.tokenize_eq (h : Writes source ts e) :
    tokenize source = .ok (ts ++ [⟨.finish, source.length⟩]) := tokensFrom_eq_ok_iff.mpr h.tiles

lemma Writes.unique (h : Writes source ts e) (h' : Writes source us e') : ts = us ∧ e = e' := by
  obtain rfl : ts = us :=
    List.append_cancel_right (Except.ok.inj (h.tokenize_eq.symm.trans h'.tokenize_eq))
  exact ⟨rfl, h.expression.unique h'.expression⟩

/-- Each subtree stands where the first token of the run that spells it is written. -/
lemma Writes.written_at_position (h : Writes source ts e) {s : Term} (hs : s ∈ e.walk) :
    ∃ first used, first :: used <:+: ts ∧ IsExpression (first :: used) s ∧
      first.position = s.position ∧ first.lexeme.written <+: source.toList.drop s.position := by
  obtain ⟨first, used, hpart, hexpression, hposition⟩ := h.expression.spells_of_mem hs
  refine ⟨first, used, hpart, hexpression, hposition, ?_⟩
  have hmem : first ∈ ts := hpart.subset List.mem_cons_self
  rw [← hposition]
  exact (h.tiles.written_front (List.mem_append_left _ hmem)).2

/-! ### Reading and deriving -/

lemma exists_writes_iff : (∃ ts, Writes source ts e) ↔
    ∃ tokens, tokenize source = .ok tokens ∧ readTokens source.length tokens = .ok e := by
  constructor
  · rintro ⟨ts, h⟩
    exact ⟨_, h.tokenize_eq,
      (readTokens_iff rfl fun token => h.expression.ne_finish).mpr h.expression⟩
  · rintro ⟨tokens, htokens, hread⟩
    have htiles := tiles_of_tokensFrom htokens
    obtain ⟨ts, rfl, hts⟩ := htiles.exists_finish
    rw [Nat.zero_add, String.length_toList] at htiles hread
    exact ⟨ts, htiles, (readTokens_iff rfl hts).mp hread⟩

lemma derives_iff : Derives source e ↔
    (∃ ts, Writes source ts e) ∧ trailingError? e = none := by
  rw [trailingError?_eq_none_iff]
  exact ⟨fun h => ⟨h.writes, h.trailing_last, h.one_trailing⟩, fun h => ⟨h.1, h.2.1, h.2.2⟩⟩

lemma read_eq_ok_iff : read source = .ok u ↔ u.source = source ∧ Derives source u.expression := by
  rw [derives_iff, exists_writes_iff]
  constructor
  · intro h
    obtain ⟨tokens, htokens, hread, htrailing, hsource⟩ := read_cases h
    exact ⟨hsource, ⟨tokens, htokens, hread⟩, htrailing⟩
  · rintro ⟨rfl, ⟨tokens, htokens, hread⟩, htrailing⟩
    rw [read, htokens]
    simp only [bind, Except.bind, hread, htrailing]
    rfl

lemma parse_eq_ok_iff : parse source = .ok u ↔ read source = .ok u := by
  rw [parse]
  cases read source <;> simp [Except.mapError]

/-- What a text is refused for becomes a fault. -/
lemma parse_eq_error_iff {err : Error} :
    parse source = .error err ↔ ∃ e, read source = .error e ∧ err = .fault (e.toFault source) := by
  rw [parse]
  cases read source <;> simp [Except.mapError, eq_comm]

/-- A text that is not read is refused as a usage. -/
lemma parse_refuses_iff :
    (∃ f, parse source = .error (.fault f) ∧ f.kind = .usageSyntax) ↔
      ∀ u, parse source ≠ .ok u := by
  constructor
  · rintro ⟨f, h, -⟩ u hu
    rw [h] at hu
    cases hu
  · intro h
    simp only [ne_eq, parse_eq_ok_iff] at h
    cases hread : read source with
    | error e => exact ⟨e.toFault source, by rw [parse, hread]; rfl, rfl⟩
    | ok u => exact absurd hread (h u)

/-! ### The language -/

/-- A usage is read exactly if its tokens, with blanks between them, are those of an expression
whose trailing placeholder is last; the expression is then the only one that they have. Its
terminals are the names and texts of the usage in their order, and every subtree stands where its
tokens start. All other texts are refused as usages: the reader never stops for want of a token or
for one it cannot deal with. -/
theorem parse_eq_ok_iff_derives (source : String) :
    (∀ u, parse source = .ok u ↔ u.source = source ∧ Derives source u.expression) ∧
    (∀ ts us e e', Writes source ts e → Writes source us e' → ts = us ∧ e = e') ∧
    (∀ ts e, Writes source ts e → e.walk.filterMap terminal? = unmarked ts ∧
      ∀ s ∈ e.walk, ∃ first used, first :: used <:+: ts ∧ IsExpression (first :: used) s ∧
        first.position = s.position ∧ first.lexeme.written <+: source.toList.drop s.position) ∧
    ((∃ f, parse source = .error (.fault f) ∧ f.kind = .usageSyntax) ↔
      ∀ e, ¬ Derives source e) ∧
    Cursor.read source = (read source).mapError .refused := by
  refine ⟨fun u => parse_eq_ok_iff.trans read_eq_ok_iff, fun ts us e e' h h' => h.unique h',
    fun ts e h => ⟨h.expression.terminals, fun s hs => h.written_at_position hs⟩, ?_,
    Cursor.read_eq source⟩
  rw [parse_refuses_iff]
  simp only [ne_eq, parse_eq_ok_iff, read_eq_ok_iff]
  exact ⟨fun h e he => h ⟨source, e⟩ ⟨rfl, he⟩, fun h u hu => h _ hu.2⟩

theorem parse_eq_ok_iff_derives_optional :
    parse "[<a>]" = .ok ⟨"[<a>]", .optional (.placeholder "a" 1) 0⟩ := by
  refine ((parse_eq_ok_iff_derives _).1 _).mpr ⟨rfl,
    ⟨[⟨.mark .openOptional, 0⟩, ⟨.placeholder "a", 1⟩, ⟨.mark .closeOptional, 4⟩], ?_, ?_⟩, ?_, ?_⟩
  · have hname : (Lexeme.placeholder "a").Writable :=
      ⟨by decide, by decide, by decide⟩
    exact .written (.mark .openOptional) trivial <| .written _ hname <|
      .written (.mark .closeOptional) trivial <| .finish [] (by simp)
  · exact .single (.optional (.single (.placeholder "a" 1)))
  · simp [Term.TrailingLast, Term.walk, Term.HoldsTrailingLast]
  · simp [Term.walk, Term.isTrailing]

end ChatCommands.Usage

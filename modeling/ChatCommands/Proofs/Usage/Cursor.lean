import ChatCommands.Proofs.Usage.Grammar
import ChatCommands.Proofs.Usage.Tiling

/-!
# Reading by place

A reader may also keep all tokens of a usage and move a place in them. Then there are two more ways
to stop: at a place behind the last token, and at a token that starts no term where a term is read.
Neither happens: this reader and the one that hands on the tokens that are left agree on every
usage.

Main statement: `Cursor.read_eq`.
-/

namespace ChatCommands.Usage.Cursor

/-- Why a reader stops. -/
inductive Halt
  | refused (e : SyntaxError)
  /-- There is no token at a place. -/
  | pastEnd (place : Nat)
  /-- A token cannot be dealt with where it stands. -/
  | unexpected (t : Token)

/-! ### The reader -/

variable (tokens : List Token)

/-- The token at a place. -/
def current (i : Nat) : Except Halt Token :=
  match tokens[i]? with
  | some t => .ok t
  | none => .error (.pastEnd i)

/-- Reads the mark that closes a group. -/
def close (opening closing : Mark) (position i : Nat) : Except Halt { j // i < j } := do
  let t ← current tokens i
  if t.lexeme = .mark closing then return ⟨i + 1, Nat.lt_succ_self i⟩
  else .error (.refused (.openGroup position opening closing))

mutual
/-- Reads terms up to a mark that closes or separates, or to the end. -/
def terms (i : Nat) : Except Halt (List Term × { j // i ≤ j }) :=
  match h : tokens[i]? with
  | none => .error (.pastEnd i)
  | some t =>
    match t.lexeme with
    | .mark .closeOptional | .mark .closeGroup | .mark .bar | .finish =>
      .ok ([], ⟨i, Nat.le_refl i⟩)
    | _ => do
      have := (List.getElem?_eq_some_iff.mp h).1
      let (t, ⟨j, hj⟩) ← term i
      let (ts, ⟨k, hk⟩) ← terms j
      return (t :: ts, ⟨k, by omega⟩)
termination_by 4 * (tokens.length - i) + 2

/-- Reads an expression: one term or more. -/
def expression (i : Nat) : Except Halt (Term × { j // i ≤ j }) := do
  let first ← current tokens i
  let (ts, ⟨j, hj⟩) ← terms i
  if ts.isEmpty then
    let t ← current tokens j
    .error (.refused (.missingTerm t.position
      (match t.lexeme with
        | .mark m => some m
        | _ => none)))
  else return (termOf first.position ts, ⟨j, hj⟩)
termination_by 4 * (tokens.length - i) + 3

/-- Reads a term. -/
def term (i : Nat) : Except Halt (Term × { j // i < j }) :=
  match h : tokens[i]? with
  | none => .error (.pastEnd i)
  | some t =>
    have := (List.getElem?_eq_some_iff.mp h).1
    match t.lexeme with
    | .placeholder name => .ok (.placeholder name t.position, ⟨i + 1, by omega⟩)
    | .trailing name => .ok (.trailing name t.position, ⟨i + 1, by omega⟩)
    | .literal text => .ok (.literal text t.position, ⟨i + 1, by omega⟩)
    | .mark .openGroup => do
      let (first, ⟨j, hj⟩) ← expression (i + 1)
      let (others, ⟨k, hk⟩) ← branches j
      let ⟨l, hl⟩ ← close tokens .openGroup .closeGroup t.position k
      if others.isEmpty then .error (.refused (.singleAlternative t.position))
      else return (.alternatives (first :: others) t.position, ⟨l, by omega⟩)
    | .mark .openOptional => do
      let (child, ⟨j, hj⟩) ← expression (i + 1)
      let ⟨k, hk⟩ ← close tokens .openOptional .closeOptional t.position j
      return (.optional child t.position, ⟨k, by omega⟩)
    | _ => .error (.unexpected t)
termination_by 4 * (tokens.length - i) + 1

/-- Reads the further branches of alternatives, each after a bar. -/
def branches (i : Nat) : Except Halt (List Term × { j // i ≤ j }) :=
  match h : tokens[i]? with
  | none => .error (.pastEnd i)
  | some t =>
    have := (List.getElem?_eq_some_iff.mp h).1
    if t.lexeme = .mark .bar then do
      let (branch, ⟨j, hj⟩) ← expression (i + 1)
      let (branches, ⟨k, hk⟩) ← branches j
      return (branch :: branches, ⟨k, by omega⟩)
    else .ok ([], ⟨i, Nat.le_refl i⟩)
termination_by 4 * (tokens.length - i) + 0
end

/-- Reads the expression that the tokens of a usage write. -/
def readTokens : Except Halt Term := do
  let first ← current tokens 0
  if first.lexeme = .finish then .error (.refused .emptyUsage)
  let (expression, ⟨j, _⟩) ← expression tokens 0
  let last ← current tokens j
  match last.lexeme with
  | .finish => return expression
  | .mark m => .error (.refused (.strayMark last.position m))
  | _ => .error (.unexpected last)

/-- Reads a usage. -/
def read (source : String) : Except Halt Usage := do
  let tokens ← (tokenize source).mapError .refused
  let expression ← readTokens tokens
  match trailingError? expression with
  | some e => .error (.refused e)
  | none => return ⟨source, expression⟩

/-! ### Agreement -/

variable {tokens} {α β : Type} {finish i : Nat} {ts us : List Token}

/-- Two readers agree if both refuse a usage for the same cause, or both return the same, at a place
where the tokens are that the other one leaves. -/
def Agrees (tokens : List Token) {P : Nat → Prop} (x : Except SyntaxError (α × Rest ts))
    (y : Except Halt (α × { j // P j })) : Prop :=
  match x with
  | .error e => y = .error (.refused e)
  | .ok (a, rest) => ∃ j, y = .ok (a, j) ∧ j.1 < tokens.length ∧ rest.1 = tokens.drop j.1

lemma Agrees.bind {P Q : Nat → Prop} {x : Except SyntaxError (α × Rest ts)}
    {y : Except Halt (α × { j // P j })} {f : α × Rest ts → Except SyntaxError (β × Rest us)}
    {g : α × { j // P j } → Except Halt (β × { j // Q j })} (h : Agrees tokens x y)
    (hnext : ∀ a j hle, j.1 < tokens.length →
      Agrees tokens (f (a, ⟨tokens.drop j.1, hle⟩)) (g (a, j))) :
    Agrees tokens (x >>= f) (y >>= g) := by
  match x with
  | .error e =>
    obtain rfl : y = .error (.refused e) := h
    rfl
  | .ok (a, ⟨rest, hle⟩) =>
    obtain ⟨j, rfl, hj, rfl⟩ : ∃ j, y = .ok (a, j) ∧ j.1 < tokens.length ∧
      rest = tokens.drop j.1 := h
    exact hnext a j hle hj

/-- Behind every token but the end there is another. -/
def Closed (tokens : List Token) : Prop :=
  ∀ i t, tokens[i]? = some t → t.lexeme ≠ .finish → i + 1 < tokens.length

lemma exists_current (hi : i < tokens.length) :
    ∃ t, tokens[i]? = some t ∧ current tokens i = .ok t ∧
      tokens.drop i = t :: tokens.drop (i + 1) := by
  have hget := List.getElem?_eq_getElem hi
  exact ⟨tokens[i], hget, by rw [current, hget], List.drop_eq_getElem_cons hi⟩

lemma close_cases (opening closing : Mark) (p : Nat) (hclosed : Closed tokens)
    (hi : i < tokens.length) :
    (i + 1 < tokens.length ∧ close tokens opening closing p i = .ok ⟨i + 1, Nat.lt_succ_self i⟩ ∧
      ∃ hle, closeGroup opening closing p (tokens.drop i) = .ok ⟨tokens.drop (i + 1), hle⟩) ∨
    (close tokens opening closing p i = .error (.refused (.openGroup p opening closing)) ∧
      closeGroup opening closing p (tokens.drop i) = .error (.openGroup p opening closing)) := by
  obtain ⟨t, hget, hcurrent, hdrop⟩ := exists_current hi
  rw [close, hcurrent, hdrop]
  by_cases ht : t.lexeme = .mark closing
  · refine Or.inl ⟨hclosed i t hget (by simp [ht]), ?_, by simp, ?_⟩
    · simp [bind, Except.bind, ht]
      rfl
    · rw [closeGroup, if_pos ht]
  · refine Or.inr ⟨?_, ?_⟩
    · simp [bind, Except.bind, ht]
    · rw [closeGroup, if_neg ht]

lemma terms_of_stops {t : Token} (hget : tokens[i]? = some t) (ht : t.lexeme.startsTerm = false) :
    terms tokens i = .ok ([], ⟨i, Nat.le_refl i⟩) := by
  rw [terms.eq_def]
  split
  · rename_i hnone
    rw [hget] at hnone
    cases hnone
  · rename_i t' hget'
    obtain rfl := Option.some.inj (hget.symm.trans hget')
    obtain ⟨lexeme, p⟩ := t
    rcases lexeme with _ | _ | _ | m | _
    case mark => cases m <;> first | rfl | cases ht
    all_goals first | rfl | cases ht

lemma terms_of_starts {t : Token} (hget : tokens[i]? = some t) (ht : t.lexeme.startsTerm) :
    terms tokens i = do
      let (t, ⟨j, hj⟩) ← term tokens i
      let (ts, ⟨k, hk⟩) ← terms tokens j
      return (t :: ts, ⟨k, by omega⟩) := by
  rw [terms.eq_def]
  split
  · rename_i hnone
    rw [hget] at hnone
    cases hnone
  · rename_i t' hget'
    obtain rfl := Option.some.inj (hget.symm.trans hget')
    obtain ⟨lexeme, p⟩ := t
    rcases lexeme with _ | _ | _ | m | _
    case mark => cases m <;> first | rfl | cases ht
    all_goals first | rfl | cases ht

mutual
lemma terms_agrees (hclosed : Closed tokens) {i : Nat} (hi : i < tokens.length) :
    Agrees tokens (readTerms finish (tokens.drop i)) (terms tokens i) := by
  obtain ⟨t, hget, -, hdrop⟩ := exists_current hi
  cases ht : t.lexeme.startsTerm with
  | false =>
    rw [terms_of_stops hget ht, readTerms_of_stops (by rw [hdrop]; simpa [Stops] using ht)]
    exact ⟨_, rfl, hi, rfl⟩
  | true =>
    rw [terms_of_starts hget ht, hdrop, readTerms_of_starts ht]
    refine (term_agrees hclosed hget ht).bind fun term j hle hj => ?_
    have := j.2
    refine (terms_agrees hclosed hj).bind fun terms k hle hk => ?_
    exact ⟨_, rfl, hk, rfl⟩
termination_by 4 * (tokens.length - i) + 2

lemma expression_agrees (hclosed : Closed tokens) {i : Nat} (hi : i < tokens.length) :
    Agrees tokens (readExpression finish (tokens.drop i)) (expression tokens i) := by
  obtain ⟨t, hget, hcurrent, hdrop⟩ := exists_current hi
  rw [readExpression, expression, hcurrent]
  refine (terms_agrees hclosed hi).bind fun terms j hle hj => ?_
  obtain ⟨u, -, hcurrent', hdrop'⟩ := exists_current hj
  by_cases hterms : terms.isEmpty
  · simp only [hterms, hcurrent', hdrop', ↓reduceIte]
    obtain ⟨lexeme, p⟩ := u
    cases lexeme <;> rfl
  · simp only [hterms, hdrop]
    exact ⟨j, rfl, hj, rfl⟩
termination_by 4 * (tokens.length - i) + 3

lemma term_agrees (hclosed : Closed tokens) {i : Nat} {t : Token} (hget : tokens[i]? = some t)
    (ht : t.lexeme.startsTerm) :
    Agrees tokens (readTerm finish t.lexeme t.position (tokens.drop (i + 1))) (term tokens i) := by
  have hi := (List.getElem?_eq_some_iff.mp hget).1
  have hnext : i + 1 < tokens.length := hclosed i t hget fun h => by rw [h] at ht; cases ht
  obtain ⟨lexeme, p⟩ := t
  rw [term.eq_def]
  split
  · rename_i hnone
    rw [hget] at hnone
    cases hnone
  rename_i t' hget'
  obtain rfl := Option.some.inj (hget.symm.trans hget')
  rcases lexeme with name | name | text | m | _
  case mark =>
    cases m with
    | openOptional =>
      rw [readTerm]
      · refine (expression_agrees hclosed hnext).bind fun child j hle hj => ?_
        rcases close_cases .openOptional .closeOptional p hclosed hj with
          ⟨hj', hclose, _, hgroup⟩ | ⟨hclose, hgroup⟩
        · simp only [hclose, hgroup]
          exact ⟨_, rfl, hj', rfl⟩
        · simp only [hclose, hgroup]
          rfl
      all_goals simp
    | openGroup =>
      rw [readTerm]
      refine (expression_agrees hclosed hnext).bind fun first j hle hj => ?_
      have := j.2
      refine (branches_agrees hclosed hj).bind fun others k hle' hk => ?_
      rcases close_cases .openGroup .closeGroup p hclosed hk with
        ⟨hk', hclose, _, hgroup⟩ | ⟨hclose, hgroup⟩
      · simp only [hclose, hgroup, bind, Except.bind]
        split
        · rfl
        · exact ⟨_, rfl, hk', rfl⟩
      · simp only [hclose, hgroup]
        rfl
    | _ => cases ht
  case finish => cases ht
  all_goals
    rw [readTerm]
    exact ⟨_, rfl, hnext, rfl⟩
termination_by 4 * (tokens.length - i) + 1

lemma branches_agrees (hclosed : Closed tokens) {i : Nat} (hi : i < tokens.length) :
    Agrees tokens (readBranches finish (tokens.drop i)) (branches tokens i) := by
  obtain ⟨t, hget, -, hdrop⟩ := exists_current hi
  rw [branches.eq_def]
  split
  · rename_i hnone
    rw [hget] at hnone
    cases hnone
  rename_i t' hget'
  obtain rfl := Option.some.inj (hget.symm.trans hget')
  by_cases ht : t.lexeme = .mark .bar
  · have hnext : i + 1 < tokens.length := hclosed i t hget (by simp [ht])
    obtain ⟨_, p⟩ := t
    obtain rfl := ht
    rw [if_pos rfl, hdrop, readBranches]
    refine (expression_agrees hclosed hnext).bind fun branch j hle hj => ?_
    have := j.2
    refine (branches_agrees hclosed hj).bind fun others k hle' hk => ?_
    exact ⟨_, rfl, hk, rfl⟩
  · obtain ⟨r, hread, hr⟩ : Yields (readBranches finish (tokens.drop i)) [] (tokens.drop i) :=
      readBranches_nil (by simpa [hdrop] using ht)
    rw [if_neg ht, hread]
    exact ⟨_, rfl, hi, hr⟩
termination_by 4 * (tokens.length - i) + 0
end

/-! ### Whole usages -/

lemma closed_of_tokenize {source : String} (h : tokenize source = .ok tokens) :
    Closed tokens ∧ 0 < tokens.length := by
  obtain ⟨named, rfl, hnamed⟩ := (tiles_of_tokensFrom h).exists_finish
  refine ⟨fun i t hget ht => ?_, by simp⟩
  by_contra hlast
  obtain ⟨hi, rfl⟩ := List.getElem?_eq_some_iff.mp hget
  rw [List.length_append, List.length_singleton] at hi hlast
  obtain rfl : i = named.length := by omega
  simp at ht

lemma readTokens_eq (finish : Nat) (hclosed : Closed tokens) (hpos : 0 < tokens.length) :
    readTokens tokens = (Usage.readTokens finish tokens).mapError .refused := by
  obtain ⟨first, hget, hcurrent, hdrop⟩ := exists_current hpos
  have hagrees : Agrees tokens (readExpression finish (tokens.drop 0)) (expression tokens 0) :=
    expression_agrees hclosed hpos
  rw [List.drop_zero] at hdrop hagrees
  rw [readTokens, hcurrent, readTokens_of_cons hdrop]
  by_cases hfirst : first.lexeme = .finish
  · simp [hfirst, bind, Except.bind, Except.mapError]
  simp only [hfirst, bind, Except.bind, ↓reduceIte]
  cases hread : readExpression finish tokens with
  | error e =>
    rw [hread] at hagrees
    rw [show expression tokens 0 = .error (.refused e) from hagrees]
    rfl
  | ok r =>
    obtain ⟨e, rest⟩ := r
    obtain ⟨-, -, -, hstops⟩ := isExpression_of_readExpression hread
    rw [hread] at hagrees
    obtain ⟨j, hexpression, hj, hrest⟩ := hagrees
    obtain ⟨last, -, hlast, hdrop'⟩ := exists_current hj
    have hstop : last.lexeme.startsTerm = false := hstops last (by rw [hrest, hdrop']; rfl)
    simp only [hexpression, hlast, hrest, hdrop']
    obtain ⟨lexeme, p⟩ := last
    cases lexeme <;> first | rfl | cases hstop

/-- The reader that keeps a place stops only where the usage is wrong. -/
lemma read_eq (source : String) : read source = (Usage.read source).mapError .refused := by
  rw [read, Usage.read]
  cases htokens : tokenize source with
  | error e => rfl
  | ok tokens =>
    obtain ⟨hclosed, hpos⟩ := closed_of_tokenize htokens
    have hread := readTokens_eq source.length hclosed hpos
    simp only [bind, Except.bind, Except.mapError, hread]
    cases Usage.readTokens source.length tokens with
    | error e => rfl
    | ok e =>
      simp only
      cases trailingError? e <;> rfl

end ChatCommands.Usage.Cursor

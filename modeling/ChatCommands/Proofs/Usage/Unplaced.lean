import ChatCommands.Pattern
import ChatCommands.Proofs.Usage.Grammar
import ChatCommands.Proofs.Usage.Trailing

/-!
# Trees but for places

What a usage stands for does not depend on where its terms are placed, and what is read depends on
what the tokens say, not on where they stand: tokens that say the same are read into trees that are
the same but for places, or refused with the same code.

Main statements: `Term.shown_unplaced`, `Pattern.fragment_unplaced`, `gist_readTokens`.
-/

namespace ChatCommands

namespace Term

mutual
/-- A term with itself and all terms in it put at the start. -/
def unplaced : Term → Term
  | literal text _ => literal text 0
  | placeholder name _ => placeholder name 0
  | trailing name _ => trailing name 0
  | sequence terms _ => sequence (unplacedAll terms) 0
  | alternatives branches _ => alternatives (unplacedAll branches) 0
  | optional child _ => optional (unplaced child) 0

/-- The terms of a list, all put at the start. -/
def unplacedAll : List Term → List Term
  | [] => []
  | t :: ts => unplaced t :: unplacedAll ts
end

lemma unplacedAll_eq_map (ts : List Term) : unplacedAll ts = ts.map unplaced := by
  induction ts with
  | nil => rfl
  | cons t ts ih => rw [unplacedAll, ih, List.map_cons]

mutual
/-- A term is written the same wherever it is placed. -/
@[simp] lemma shown_unplaced (t : Term) : t.unplaced.shown = t.shown := by
  match t with
  | literal .. | placeholder .. | trailing .. => rfl
  | sequence ts p =>
    exact congrArg (fun texts => "Sequence(" ++ commaSeparated texts ++ ")")
      (shownAll_unplacedAll ts)
  | alternatives ts p =>
    exact congrArg (fun texts => "Alternatives(" ++ commaSeparated texts ++ ")")
      (shownAll_unplacedAll ts)
  | optional t p => exact congrArg (fun text => "Optional(" ++ text ++ ")") (shown_unplaced t)

lemma shownAll_unplacedAll (ts : List Term) : shownAll (unplacedAll ts) = shownAll ts := by
  match ts with
  | [] => rfl
  | t :: ts => exact congrArg₂ List.cons (shown_unplaced t) (shownAll_unplacedAll ts)
end

mutual
lemma walk_unplaced (t : Term) : t.unplaced.walk = t.walk.map unplaced := by
  match t with
  | literal .. | placeholder .. | trailing .. => rfl
  | sequence ts p => rw [unplaced, walk, walk, walkAll_unplacedAll ts, List.map_cons, unplaced]
  | alternatives ts p => rw [unplaced, walk, walk, walkAll_unplacedAll ts, List.map_cons, unplaced]
  | optional t p => rw [unplaced, walk, walk, walk_unplaced t, List.map_cons, unplaced]

lemma walkAll_unplacedAll (ts : List Term) :
    walkAll (unplacedAll ts) = (walkAll ts).map unplaced := by
  match ts with
  | [] => rfl
  | t :: ts =>
    rw [unplacedAll, walkAll, walkAll, walk_unplaced t, walkAll_unplacedAll ts, List.map_append]
end

/-! ### Trailing placeholders -/

variable {t : Term}

@[simp] lemma isTrailing_unplaced (t : Term) : t.unplaced.isTrailing = t.isTrailing := by
  cases t <;> rfl

lemma noTrailing_unplaced_iff : t.unplaced.NoTrailing ↔ t.NoTrailing := by
  simp [NoTrailing, walk_unplaced]

lemma holdsTrailingLast_unplaced_iff : t.unplaced.HoldsTrailingLast ↔ t.HoldsTrailingLast := by
  cases t with
  | sequence ts p =>
    simp [unplaced, HoldsTrailingLast, unplacedAll_eq_map, ← List.map_dropLast,
      noTrailing_unplaced_iff]
  | _ => rfl

lemma trailingLast_unplaced_iff : t.unplaced.TrailingLast ↔ t.TrailingLast := by
  simp [TrailingLast, walk_unplaced, holdsTrailingLast_unplaced_iff]

lemma length_filter_isTrailing_unplaced (t : Term) :
    (t.unplaced.walk.filter isTrailing).length = (t.walk.filter isTrailing).length := by
  rw [walk_unplaced, List.filter_map, List.length_map]
  simp [Function.comp_def]

end Term

/-! ### Compiling -/

namespace Pattern

mutual
/-- A term compiles to the same fragment wherever it is placed. -/
@[simp] lemma fragment_unplaced (t : Term) (seen : Keys) :
    fragment t.unplaced seen = fragment t seen := by
  match t with
  | .literal .. | .placeholder .. | .trailing .. => simp only [Term.unplaced, fragment]
  | .sequence ts p => simp only [Term.unplaced, fragment, fragments_unplacedAll ts]
  | .alternatives ts p => simp only [Term.unplaced, fragment, fragments_unplacedAll ts]
  | .optional t p => simp only [Term.unplaced, fragment, fragment_unplaced t]

lemma fragments_unplacedAll (ts : List Term) (seen : Keys) :
    fragments (Term.unplacedAll ts) seen = fragments ts seen := by
  match ts with
  | [] => rfl
  | t :: ts =>
    simp only [Term.unplacedAll, fragments, fragment_unplaced t, fragments_unplacedAll ts]
end

end Pattern

/-! ### Reading -/

namespace Usage

/-- What tokens say. -/
abbrev lexemes (ts : List Token) : List Lexeme := ts.map Token.lexeme

/-- A result as `erase` leaves it. Of an error only the code is kept. -/
def gist {α γ : Type} (erase : α → γ) : Except SyntaxError α → Except FaultCode γ
  | .error e => .error e.code
  | .ok a => .ok (erase a)

/-- What a reader returns, as `erase` leaves it, and what the tokens say that it leaves. -/
abbrev withRest {α γ : Type} {ts : List Token} (erase : α → γ) (r : α × Rest ts) :
    γ × List Lexeme :=
  (erase r.1, lexemes r.2.1)

section
variable {α α' β β' γ δ : Type} {ts us : List Token} {finish finish' p q : Nat}

lemma gist_bind {erase : α → γ} {erase' : α' → γ} {keep : β → δ} {keep' : β' → δ}
    {x : Except SyntaxError α} {y : Except SyntaxError α'} {f : α → Except SyntaxError β}
    {g : α' → Except SyntaxError β'} (h : gist erase x = gist erase' y)
    (hnext : ∀ a b, erase a = erase' b → gist keep (f a) = gist keep' (g b)) :
    gist keep (x >>= f) = gist keep' (y >>= g) := by
  match x, y with
  | .error e, .error e' => exact congrArg Except.error (Except.error.inj h)
  | .error e, .ok b => cases h
  | .ok a, .error e' => cases h
  | .ok a, .ok b => exact hnext a b (Except.ok.inj h)

/-- What is read first goes into the tree, and the next reader goes on with what is left. -/
lemma gist_bind_rest {erase : α → γ} {keep : β → δ} {keep' : β' → δ}
    {x : Except SyntaxError (α × Rest ts)} {y : Except SyntaxError (α × Rest us)}
    {f : α × Rest ts → Except SyntaxError β} {g : α × Rest us → Except SyntaxError β'}
    (h : gist (withRest erase) x = gist (withRest erase) y)
    (hnext : ∀ a b r r', erase a = erase b → lexemes r.1 = lexemes r'.1 →
      gist keep (f (a, r)) = gist keep' (g (b, r'))) :
    gist keep (x >>= f) = gist keep' (y >>= g) := by
  refine gist_bind h fun ⟨a, r⟩ ⟨b, r'⟩ heq => ?_
  obtain ⟨herase, hrest⟩ := Prod.mk.inj heq
  exact hnext a b r r' herase hrest

lemma Yields.gist_eq {erase : α → γ} {x : Except SyntaxError (α × Rest ts)} {a : α}
    (h : Yields x a us) : gist (withRest erase) x = .ok (erase a, lexemes us) := by
  obtain ⟨r, rfl, rfl⟩ := h
  rfl

lemma gist_closeGroup {opening closing : Mark} (h : lexemes ts = lexemes us) :
    gist (fun r => lexemes r.1) (closeGroup opening closing p ts) =
      gist (fun r => lexemes r.1) (closeGroup opening closing q us) := by
  match ts, us with
  | [], [] => rfl
  | [], u :: us => cases h
  | t :: ts, [] => cases h
  | t :: ts, u :: us =>
    obtain ⟨hhead, htail⟩ := List.cons.inj h
    rw [closeGroup, closeGroup, ← show t.lexeme = u.lexeme from hhead]
    split
    · exact congrArg Except.ok htail
    · rfl

lemma forall_head_congr {P : Lexeme → Prop} (h : lexemes ts = lexemes us)
    (hts : ∀ t ∈ ts.head?, P t.lexeme) : ∀ u ∈ us.head?, P u.lexeme := by
  match ts, us with
  | [], [] => simp
  | [], u :: us => cases h
  | t :: ts, [] => cases h
  | t :: ts, u :: us =>
    intro u' hu
    obtain rfl := Option.some.inj hu
    rw [← show t.lexeme = u.lexeme from (List.cons.inj h).1]
    exact hts t rfl

lemma isEmpty_congr {terms terms' : List Term}
    (h : terms.map Term.unplaced = terms'.map Term.unplaced) : terms.isEmpty = terms'.isEmpty := by
  rw [← List.isEmpty_map (f := Term.unplaced), h, List.isEmpty_map]

lemma unplaced_termOf {terms terms' : List Term}
    (h : terms.map Term.unplaced = terms'.map Term.unplaced) :
    (termOf p terms).unplaced = (termOf q terms').unplaced := by
  match terms, terms' with
  | [], [] => rfl
  | [t], [t'] => exact (List.cons.inj h).1
  | t :: s :: terms, t' :: s' :: terms' =>
    simp only [termOf, Term.unplaced, Term.unplacedAll_eq_map, h]
  | [], _ :: _ | _ :: _, [] | [_], _ :: _ :: _ | _ :: _ :: _, [_] => simp at h

mutual
lemma gist_readTerms {ts us : List Token} (h : lexemes ts = lexemes us) :
    gist (withRest (List.map Term.unplaced)) (readTerms finish ts) =
      gist (withRest (List.map Term.unplaced)) (readTerms finish' us) := by
  rcases stops_or_starts ts with hstops | ⟨t, later, rfl, hstarts⟩
  · have hstops' := forall_head_congr (P := (·.startsTerm = false)) h hstops
    rw [(readTerms_nil hstops).gist_eq, (readTerms_nil hstops').gist_eq, h]
  · match us with
    | [] => cases h
    | u :: us =>
      obtain ⟨hhead, htail⟩ := List.cons.inj h
      have hhead : t.lexeme = u.lexeme := hhead
      rw [readTerms_of_starts hstarts, readTerms_of_starts (hhead ▸ hstarts)]
      refine gist_bind_rest (gist_readTerm hhead hstarts htail)
        fun term term' r r' hterm hrest => ?_
      have := r.2
      refine gist_bind_rest (gist_readTerms hrest) fun terms terms' s s' hterms hrest => ?_
      exact congrArg Except.ok (Prod.ext (congrArg₂ List.cons hterm hterms) hrest)
termination_by 4 * ts.length + 1
decreasing_by all_goals simp_wf; subst_vars; simp; omega

lemma gist_readExpression {ts us : List Token} (h : lexemes ts = lexemes us) :
    gist (withRest Term.unplaced) (readExpression finish ts) =
      gist (withRest Term.unplaced) (readExpression finish' us) := by
  rw [readExpression, readExpression]
  refine gist_bind_rest (gist_readTerms h) fun terms terms' r r' hterms hrest => ?_
  simp only [isEmpty_congr hterms]
  split
  · rfl
  · exact congrArg Except.ok (Prod.ext (unplaced_termOf hterms) hrest)
termination_by 4 * ts.length + 2

lemma gist_readTerm {t u : Token} {ts us : List Token} (hhead : t.lexeme = u.lexeme)
    (hstarts : t.lexeme.startsTerm) (h : lexemes ts = lexemes us) :
    gist (withRest Term.unplaced) (readTerm finish t.lexeme t.position ts) =
      gist (withRest Term.unplaced) (readTerm finish' u.lexeme u.position us) := by
  obtain ⟨lexeme, p⟩ := t
  obtain ⟨_, q⟩ := u
  obtain rfl := hhead
  rcases lexeme with name | name | text | m | _
  case mark =>
    cases m with
    | openGroup =>
      rw [readTerm, readTerm]
      refine gist_bind_rest (gist_readExpression h) fun first first' r r' hfirst hrest => ?_
      have := r.2
      refine gist_bind_rest (gist_readBranches hrest) fun others others' s s' hothers hrest => ?_
      refine gist_bind (gist_closeGroup hrest) fun v v' hrest => ?_
      simp only [isEmpty_congr hothers]
      split
      · rfl
      · refine congrArg Except.ok (Prod.ext ?_ hrest)
        simp only [Term.unplaced, Term.unplacedAll_eq_map, List.map_cons, hfirst, hothers]
    | openOptional =>
      rw [readTerm, readTerm]
      · refine gist_bind_rest (gist_readExpression h) fun child child' r r' hchild hrest => ?_
        refine gist_bind (gist_closeGroup hrest) fun v v' hrest => ?_
        exact congrArg Except.ok (Prod.ext (by simp only [Term.unplaced, hchild]) hrest)
      all_goals simp
    | _ => cases hstarts
  case finish => cases hstarts
  all_goals
    rw [readTerm, readTerm]
    exact congrArg Except.ok (Prod.ext rfl h)
termination_by 4 * ts.length + 3

lemma gist_readBranches {ts us : List Token} (h : lexemes ts = lexemes us) :
    gist (withRest (List.map Term.unplaced)) (readBranches finish ts) =
      gist (withRest (List.map Term.unplaced)) (readBranches finish' us) := by
  by_cases hbar : ∀ t ∈ ts.head?, t.lexeme ≠ .mark .bar
  · have hbar' := forall_head_congr (P := (· ≠ .mark .bar)) h hbar
    rw [(readBranches_nil hbar).gist_eq, (readBranches_nil hbar').gist_eq, h]
  · match ts, us with
    | [], _ => simp at hbar
    | t :: ts, [] => cases h
    | ⟨lexeme, p⟩ :: ts, ⟨lexeme', q⟩ :: us =>
      obtain ⟨hhead, htail⟩ := List.cons.inj h
      obtain rfl : lexeme = .mark .bar := by simpa using hbar
      obtain rfl : Lexeme.mark .bar = lexeme' := hhead
      rw [readBranches, readBranches]
      refine gist_bind_rest (gist_readExpression htail)
        fun branch branch' r r' hbranch hrest => ?_
      have := r.2
      refine gist_bind_rest (gist_readBranches hrest)
        fun branches branches' s s' hbranches hrest => ?_
      exact congrArg Except.ok (Prod.ext (congrArg₂ List.cons hbranch hbranches) hrest)
termination_by 4 * ts.length + 0
decreasing_by all_goals simp_wf; omega
end

/-- Tokens that say the same are read into trees that are the same but for places, or refused with
the same code. -/
lemma gist_readTokens (h : lexemes ts = lexemes us) :
    gist Term.unplaced (readTokens finish ts) = gist Term.unplaced (readTokens finish' us) := by
  match ts, us with
  | [], [] => rfl
  | [], _ :: _ | _ :: _, [] => cases h
  | t :: ts, u :: us =>
    have hhead : t.lexeme = u.lexeme := (List.cons.inj h).1
    rw [readTokens_of_cons rfl, readTokens_of_cons rfl, ← hhead]
    split
    · rfl
    · -- what is left starts with a mark on both sides or on neither
      refine gist_bind_rest (gist_readExpression h) fun e e' r r' he hrest => ?_
      dsimp only
      generalize r.1 = rest at hrest ⊢
      generalize r'.1 = rest' at hrest ⊢
      match rest, rest' with
      | [], [] => exact congrArg Except.ok he
      | [], _ :: _ | _ :: _, [] => cases hrest
      | ⟨lexeme, p⟩ :: rest, ⟨lexeme', q⟩ :: rest' =>
        obtain rfl : lexeme = lexeme' := (List.cons.inj hrest).1
        cases lexeme <;> first | rfl | exact congrArg Except.ok he

end

/-! ### Trailing placeholders in the wrong place -/

lemma trailingError?_unplaced_iff {t : Term} :
    trailingError? t.unplaced = none ↔ trailingError? t = none := by
  rw [trailingError?_eq_none_iff, trailingError?_eq_none_iff, Term.trailingLast_unplaced_iff,
    Term.length_filter_isTrailing_unplaced]

end Usage

end ChatCommands

import ChatCommands.Proofs.Usage.WellFormed

/-!
# The grammar of usages

    expression = term+
    term       = placeholder | trailing | literal
               | '[' expression ']'
               | '(' expression ('|' expression)+ ')'

The readers accept the words of this grammar, each with the tree of its derivation.

Main statements: `readExpression_iff`, `IsExpression.unique`, `readTokens_iff`.
-/

namespace ChatCommands.Usage

mutual
/-- The tokens of a term. -/
inductive IsTerm : List Token → Term → Prop
  | placeholder (name : String) (p : Nat) : IsTerm [⟨.placeholder name, p⟩] (.placeholder name p)
  | trailing (name : String) (p : Nat) : IsTerm [⟨.trailing name, p⟩] (.trailing name p)
  | literal (text : String) (p : Nat) : IsTerm [⟨.literal text, p⟩] (.literal text p)
  | optional {p q : Nat} {ts : List Token} {t : Term} (h : IsExpression ts t) :
      IsTerm (⟨.mark .openOptional, p⟩ :: (ts ++ [⟨.mark .closeOptional, q⟩])) (.optional t p)
  | alternatives {p q : Nat} {ts us : List Token} {t : Term} {branches : List Term}
      (h : IsExpression ts t) (hs : AreBranches us branches) (hne : branches ≠ []) :
      IsTerm (⟨.mark .openGroup, p⟩ :: (ts ++ (us ++ [⟨.mark .closeGroup, q⟩])))
        (.alternatives (t :: branches) p)

/-- The tokens of an expression: those of one term, or of a sequence, which stands where its first
term stands. -/
inductive IsExpression : List Token → Term → Prop
  | single {ts : List Token} {t : Term} (h : IsTerm ts t) : IsExpression ts t
  | sequence {ts : List Token} {t u : Term} {terms : List Term}
      (h : AreTerms ts (t :: u :: terms)) :
      IsExpression ts (.sequence (t :: u :: terms) t.position)

/-- The tokens of terms one after another. -/
inductive AreTerms : List Token → List Term → Prop
  | nil : AreTerms [] []
  | cons {ts us : List Token} {t : Term} {terms : List Term} (h : IsTerm ts t)
      (hs : AreTerms us terms) : AreTerms (ts ++ us) (t :: terms)

/-- The tokens of branches, each after a bar. -/
inductive AreBranches : List Token → List Term → Prop
  | nil : AreBranches [] []
  | cons {p : Nat} {ts us : List Token} {t : Term} {branches : List Term} (h : IsExpression ts t)
      (hs : AreBranches us branches) : AreBranches (⟨.mark .bar, p⟩ :: (ts ++ us)) (t :: branches)
end

variable {finish position : Nat} {ts used rest : List Token} {t : Term} {terms branches : List Term}

/-! ### What the readers return -/

lemma stops_mark {m : Mark} {p : Nat} (h : (Lexeme.mark m).startsTerm = false) :
    Stops (⟨.mark m, p⟩ :: ts) := by
  intro t ht
  obtain rfl := Option.some.inj ht
  exact h

/-- What a reader returns, with the tokens that it leaves. -/
def Yields {α : Type} (result : Except SyntaxError (α × Rest ts)) (a : α) (rest : List Token) :
    Prop :=
  ∃ r : Rest ts, result = .ok (a, r) ∧ r.1 = rest

lemma readTerms_nil (h : Stops ts) : Yields (readTerms finish ts) [] ts :=
  ⟨_, readTerms_of_stops h, rfl⟩

lemma readTerms_cons {first : Token} {us : List Token} (hfirst : first.lexeme.startsTerm)
    (h : Yields (readTerm finish first.lexeme first.position ts) t us)
    (hs : Yields (readTerms finish us) terms rest) :
    Yields (readTerms finish (first :: ts)) (t :: terms) rest := by
  obtain ⟨⟨us, hle⟩, h, rfl⟩ := h
  obtain ⟨⟨rest, hle'⟩, hs, rfl⟩ := hs
  refine ⟨⟨rest, Nat.le_succ_of_le (Nat.le_trans hle' hle)⟩, ?_, rfl⟩
  rw [readTerms_of_starts hfirst, h]
  simp only [bind, Except.bind, hs]
  rfl

lemma readExpression_of_readTerms (h : Yields (readTerms finish ts) terms rest) (hne : terms ≠ []) :
    Yields (readExpression finish ts) (termOf (nextPosition finish ts) terms) rest := by
  obtain ⟨r, h, rfl⟩ := h
  refine ⟨r, ?_, rfl⟩
  rw [readExpression, h]
  simp [bind, Except.bind, hne]
  rfl

lemma readBranches_nil (h : ∀ t ∈ ts.head?, t.lexeme ≠ .mark .bar) :
    Yields (readBranches finish ts) [] ts := by
  refine ⟨⟨ts, Nat.le_refl _⟩, ?_, rfl⟩
  rw [readBranches.eq_def]
  split
  · exact absurd rfl (h _ rfl)
  · rfl

lemma readBranches_cons {p : Nat} {us : List Token} (h : Yields (readExpression finish ts) t us)
    (hs : Yields (readBranches finish us) branches rest) :
    Yields (readBranches finish (⟨.mark .bar, p⟩ :: ts)) (t :: branches) rest := by
  obtain ⟨⟨us, hle⟩, h, rfl⟩ := h
  obtain ⟨⟨rest, hle'⟩, hs, rfl⟩ := hs
  refine ⟨⟨rest, Nat.le_succ_of_le (Nat.le_trans hle' hle)⟩, ?_, rfl⟩
  rw [readBranches, h]
  simp only [bind, Except.bind, hs]
  rfl

lemma readTerm_optional {p q : Nat}
    (h : Yields (readExpression finish ts) t (⟨.mark .closeOptional, q⟩ :: rest)) :
    Yields (readTerm finish (.mark .openOptional) p ts) (.optional t p) rest := by
  obtain ⟨⟨us, hle⟩, h, rfl⟩ := h
  refine ⟨⟨rest, by simp at hle; omega⟩, ?_, rfl⟩
  rw [readTerm, h]
  · simp only [bind, Except.bind]
    rfl
  all_goals simp

lemma readTerm_alternatives {p q : Nat} {us : List Token}
    (h : Yields (readExpression finish ts) t us)
    (hs : Yields (readBranches finish us) branches (⟨.mark .closeGroup, q⟩ :: rest))
    (hne : branches ≠ []) :
    Yields (readTerm finish (.mark .openGroup) p ts) (.alternatives (t :: branches) p) rest := by
  obtain ⟨⟨us, hle⟩, h, rfl⟩ := h
  obtain ⟨⟨vs, hle'⟩, hs, rfl⟩ := hs
  refine ⟨⟨rest, by simp at hle'; omega⟩, ?_, rfl⟩
  rw [readTerm, h]
  simp only [bind, Except.bind, hs, List.isEmpty_iff, hne]
  rfl

/-! ### Readers accept the words of the grammar -/

lemma IsTerm.exists_first (h : IsTerm ts t) :
    ∃ first later, ts = first :: later ∧ first.lexeme.startsTerm ∧ first.position = t.position := by
  cases h <;> exact ⟨_, _, rfl, rfl, rfl⟩

lemma AreTerms.exists_first (h : AreTerms ts (t :: terms)) :
    ∃ first later, ts = first :: later ∧ first.position = t.position := by
  cases h with
  | cons h =>
    obtain ⟨first, later, rfl, -, hposition⟩ := h.exists_first
    exact ⟨first, _, rfl, hposition⟩

lemma AreTerms.nextPosition (h : AreTerms ts (t :: terms)) :
    nextPosition finish (ts ++ rest) = t.position := by
  obtain ⟨first, later, rfl, hposition⟩ := h.exists_first
  exact hposition

lemma AreBranches.stops (h : AreBranches ts branches) (hrest : Stops rest) :
    Stops (ts ++ rest) := by
  cases h with
  | nil => exact hrest
  | cons => exact stops_mark rfl

mutual
lemma readTerm_of_isTerm {first : Token} {ts : List Token} {t : Term}
    (h : IsTerm (first :: ts) t) (rest : List Token) :
    Yields (readTerm finish first.lexeme first.position (ts ++ rest)) t rest := by
  match h with
  | .placeholder name p => exact ⟨⟨rest, by simp⟩, by rw [readTerm]; rfl, rfl⟩
  | .trailing name p => exact ⟨⟨rest, by simp⟩, by rw [readTerm]; rfl, rfl⟩
  | .literal text p => exact ⟨⟨rest, by simp⟩, by rw [readTerm]; rfl, rfl⟩
  | .optional h =>
    rw [List.append_assoc]
    exact readTerm_optional (readExpression_of_isExpression h (stops_mark rfl))
  | .alternatives h hs hne =>
    rw [List.append_assoc, List.append_assoc]
    refine readTerm_alternatives (readExpression_of_isExpression h (hs.stops (stops_mark rfl)))
      (readBranches_of_areBranches hs (stops_mark rfl) ?_) hne
    simp

lemma readExpression_of_isExpression {ts rest : List Token} {t : Term} (h : IsExpression ts t)
    (hrest : Stops rest) : Yields (readExpression finish (ts ++ rest)) t rest := by
  match h with
  | .single h =>
    obtain ⟨first, later, rfl, hfirst, -⟩ := h.exists_first
    exact readExpression_of_readTerms
      (readTerms_cons hfirst (readTerm_of_isTerm h rest) (readTerms_nil hrest))
      (List.cons_ne_nil t [])
  | .sequence h =>
    have hread := readExpression_of_readTerms (readTerms_of_areTerms h hrest)
      (List.cons_ne_nil _ _)
    rw [h.nextPosition] at hread
    exact hread

lemma readTerms_of_areTerms {ts rest : List Token} {terms : List Term} (h : AreTerms ts terms)
    (hrest : Stops rest) : Yields (readTerms finish (ts ++ rest)) terms rest := by
  match h with
  | .nil => exact readTerms_nil hrest
  | .cons h hs =>
    obtain ⟨first, later, rfl, hfirst, -⟩ := h.exists_first
    rw [List.append_assoc]
    exact readTerms_cons hfirst (readTerm_of_isTerm h _) (readTerms_of_areTerms hs hrest)

lemma readBranches_of_areBranches {ts rest : List Token} {branches : List Term}
    (h : AreBranches ts branches) (hrest : Stops rest)
    (hbar : ∀ t ∈ rest.head?, t.lexeme ≠ .mark .bar) :
    Yields (readBranches finish (ts ++ rest)) branches rest := by
  match h with
  | .nil => exact readBranches_nil hbar
  | .cons h hs =>
    rw [List.cons_append, List.append_assoc]
    exact readBranches_cons (readExpression_of_isExpression h (hs.stops hrest))
      (readBranches_of_areBranches hs hrest hbar)
end

/-! ### Readers accept nothing else -/

lemma isExpression_termOf (finish : Nat) (rest : List Token) (h : AreTerms ts terms)
    (hne : terms ≠ []) :
    IsExpression ts (termOf (nextPosition finish (ts ++ rest)) terms) := by
  match terms with
  | [] => exact absurd rfl hne
  | [t] =>
    cases h with
    | cons h hs =>
      cases hs
      rw [List.append_nil]
      exact .single h
  | t :: u :: terms =>
    rw [h.nextPosition]
    exact .sequence h

mutual
lemma isTerm_of_readTerm {first : Token} {ts : List Token} {t : Term} {r : Rest ts}
    (hfirst : first.lexeme.startsTerm)
    (h : readTerm finish first.lexeme first.position ts = .ok (t, r)) :
    ∃ used, ts = used ++ r.1 ∧ IsTerm (first :: used) t := by
  obtain ⟨lexeme, p⟩ := first
  rcases readTerm_cases h with ⟨name, rfl, rfl, hr⟩ | ⟨name, rfl, rfl, hr⟩ | ⟨text, rfl, rfl, hr⟩ |
    ⟨child, r₁, others, r₂, ⟨_, q⟩, rfl, hread, hreads, rfl, hr, hne, rfl⟩ |
    ⟨child, r₁, ⟨_, q⟩, hopen, hread, rfl, hr, rfl⟩
  · exact ⟨[], hr.symm, .placeholder name p⟩
  · exact ⟨[], hr.symm, .trailing name p⟩
  · exact ⟨[], hr.symm, .literal text p⟩
  · have := r₁.2
    obtain ⟨used, hused, hchild, -⟩ := isExpression_of_readExpression hread
    obtain ⟨used', hused', hothers⟩ := areBranches_of_readBranches hreads
    refine ⟨used ++ (used' ++ [⟨.mark .closeGroup, q⟩]), ?_, .alternatives hchild hothers hne⟩
    rw [hused', hr] at hused
    simp [hused]
  · obtain rfl := hopen hfirst
    obtain ⟨used, hused, hchild, -⟩ := isExpression_of_readExpression hread
    refine ⟨used ++ [⟨.mark .closeOptional, q⟩], ?_, .optional hchild⟩
    rw [hr] at hused
    simp [hused]
termination_by 4 * ts.length + 3

lemma isExpression_of_readExpression {ts : List Token} {t : Term} {r : Rest ts}
    (h : readExpression finish ts = .ok (t, r)) :
    ∃ used, ts = used ++ r.1 ∧ IsExpression used t ∧ Stops r.1 := by
  obtain ⟨terms, hterms, hne, rfl⟩ := readExpression_cases h
  obtain ⟨used, hused, hterms, hstops⟩ := areTerms_of_readTerms hterms
  refine ⟨used, hused, ?_, hstops⟩
  have hexpression := isExpression_termOf finish r.1 hterms hne
  rwa [← hused] at hexpression
termination_by 4 * ts.length + 2

lemma areTerms_of_readTerms {ts : List Token} {terms : List Term} {r : Rest ts}
    (h : readTerms finish ts = .ok (terms, r)) :
    ∃ used, ts = used ++ r.1 ∧ AreTerms used terms ∧ Stops r.1 := by
  rcases readTerms_cases h with
    ⟨hstops, rfl, hr⟩ | ⟨first, later, term, r₁, terms', r₂, rfl, hfirst, hterm, hterms, rfl, hr⟩
  · exact ⟨[], hr.symm, .nil, by rwa [hr]⟩
  · have := r₁.2
    obtain ⟨used, hused, hterm⟩ := isTerm_of_readTerm hfirst hterm
    obtain ⟨used', hused', hterms, hstops⟩ := areTerms_of_readTerms hterms
    refine ⟨first :: used ++ used', ?_, .cons hterm hterms, by rwa [hr]⟩
    rw [hused', ← hr] at hused
    simp [hused]
termination_by 4 * ts.length + 1
decreasing_by all_goals simp_wf; subst_vars; simp; omega

lemma areBranches_of_readBranches {ts : List Token} {branches : List Term} {r : Rest ts}
    (h : readBranches finish ts = .ok (branches, r)) :
    ∃ used, ts = used ++ r.1 ∧ AreBranches used branches := by
  rcases readBranches_cases h with
    ⟨rfl, hr⟩ | ⟨⟨_, p⟩, later, branch, r₁, branches', r₂, rfl, rfl, hbranch, hbranches, rfl, hr⟩
  · exact ⟨[], hr.symm, .nil⟩
  · have := r₁.2
    obtain ⟨used, hused, hbranch, -⟩ := isExpression_of_readExpression hbranch
    obtain ⟨used', hused', hbranches⟩ := areBranches_of_readBranches hbranches
    refine ⟨⟨.mark .bar, p⟩ :: (used ++ used'), ?_, .cons hbranch hbranches⟩
    rw [hused', ← hr] at hused
    simp [hused]
termination_by 4 * ts.length + 0
decreasing_by all_goals simp_wf; subst_vars; simp; omega
end

/-- Reading an expression takes the tokens of one off the front, as many as there are. -/
lemma readExpression_iff : Yields (readExpression finish ts) t rest ↔
    Stops rest ∧ ∃ used, ts = used ++ rest ∧ IsExpression used t := by
  constructor
  · rintro ⟨r, h, rfl⟩
    obtain ⟨used, hused, hexpression, hstops⟩ := isExpression_of_readExpression h
    exact ⟨hstops, used, hused, hexpression⟩
  · rintro ⟨hstops, used, rfl, h⟩
    exact readExpression_of_isExpression h hstops

/-- The tokens of an expression have one tree. -/
lemma IsExpression.unique {u : Term} (ht : IsExpression ts t) (hu : IsExpression ts u) : t = u := by
  have hstops : Stops [] := by simp [Stops]
  obtain ⟨r, hread, -⟩ : Yields (readExpression 0 (ts ++ [])) t [] :=
    readExpression_iff.mpr ⟨hstops, ts, rfl, ht⟩
  obtain ⟨r', hread', -⟩ : Yields (readExpression 0 (ts ++ [])) u [] :=
    readExpression_iff.mpr ⟨hstops, ts, rfl, hu⟩
  have heq := Except.ok.inj (hread.symm.trans hread')
  exact congrArg Prod.fst heq

/-! ### Terminals and subtrees -/

/-- The token of a placeholder or a literal. -/
def terminal? : Term → Option Token
  | .literal text p => some ⟨.literal text, p⟩
  | .placeholder name p => some ⟨.placeholder name, p⟩
  | .trailing name p => some ⟨.trailing name, p⟩
  | _ => none

/-- Whether a token is a mark. -/
def Lexeme.isMark : Lexeme → Bool
  | .mark _ => true
  | _ => false

/-- The tokens that are no marks. -/
def unmarked (ts : List Token) : List Token := ts.filter fun t => !t.lexeme.isMark

@[simp] lemma unmarked_append (ts us : List Token) :
    unmarked (ts ++ us) = unmarked ts ++ unmarked us := List.filter_append ..

@[simp] lemma unmarked_mark (m : Mark) (p : Nat) (ts : List Token) :
    unmarked (⟨.mark m, p⟩ :: ts) = unmarked ts := rfl

@[simp] lemma unmarked_nil : unmarked [] = [] := rfl

lemma IsExpression.exists_first (h : IsExpression ts t) :
    ∃ first later, ts = first :: later ∧ first.position = t.position := by
  cases h with
  | single h =>
    obtain ⟨first, later, hts, -, hposition⟩ := h.exists_first
    exact ⟨first, later, hts, hposition⟩
  | sequence h => exact h.exists_first

mutual
lemma IsTerm.terminals {ts : List Token} {t : Term} (h : IsTerm ts t) :
    t.walk.filterMap terminal? = unmarked ts := by
  match h with
  | .placeholder name p => rfl
  | .trailing name p => rfl
  | .literal text p => rfl
  | .optional h =>
    rw [Term.walk, List.filterMap_cons_none rfl, h.terminals]
    simp
  | .alternatives h hs hne =>
    rw [Term.walk, List.filterMap_cons_none rfl, Term.walkAll, List.filterMap_append, h.terminals,
      hs.terminals]
    simp

lemma IsExpression.terminals {ts : List Token} {t : Term} (h : IsExpression ts t) :
    t.walk.filterMap terminal? = unmarked ts := by
  match h with
  | .single h => exact h.terminals
  | .sequence h => rw [Term.walk, List.filterMap_cons_none rfl, h.terminals]

lemma AreTerms.terminals {ts : List Token} {terms : List Term} (h : AreTerms ts terms) :
    (Term.walkAll terms).filterMap terminal? = unmarked ts := by
  match h with
  | .nil => rfl
  | .cons h hs => simp [Term.walkAll, h.terminals, hs.terminals]

lemma AreBranches.terminals {ts : List Token} {branches : List Term} (h : AreBranches ts branches) :
    (Term.walkAll branches).filterMap terminal? = unmarked ts := by
  match h with
  | .nil => rfl
  | .cons h hs => simp [Term.walkAll, h.terminals, hs.terminals]
end

/-- No token of an expression is the end of the usage. -/
lemma IsExpression.ne_finish (h : IsExpression ts t) {token : Token} (htoken : token ∈ ts) :
    token.lexeme ≠ .finish := by
  intro hfinish
  have hmem : token ∈ unmarked ts := by simp [unmarked, htoken, hfinish, Lexeme.isMark]
  rw [← h.terminals, List.mem_filterMap] at hmem
  obtain ⟨s, -, hs⟩ := hmem
  cases s <;> cases hs <;> cases hfinish

/-- A run of tokens that is an expression and starts where the expression stands. -/
def Spells (ts : List Token) (t : Term) : Prop :=
  ∃ first used, first :: used <:+: ts ∧ IsExpression (first :: used) t ∧ first.position = t.position

lemma Spells.mono {us : List Token} (h : Spells ts t) (hpart : ts <:+: us) : Spells us t := by
  obtain ⟨first, used, hused, h⟩ := h
  exact ⟨first, used, hused.trans hpart, h⟩

lemma IsExpression.spells (h : IsExpression ts t) : Spells ts t := by
  obtain ⟨first, used, rfl, hposition⟩ := h.exists_first
  exact ⟨first, used, List.infix_rfl, h, hposition⟩

mutual
lemma IsTerm.spells_of_mem {ts : List Token} {t s : Term} (h : IsTerm ts t) (hs : s ∈ t.walk) :
    Spells ts s := by
  match h with
  | .placeholder name p | .trailing name p | .literal text p =>
    obtain rfl := List.mem_singleton.mp hs
    exact IsExpression.spells (.single (by constructor))
  | .optional h =>
    rcases List.mem_cons.mp hs with rfl | hs
    · exact (IsExpression.single (.optional h)).spells
    · exact (h.spells_of_mem hs).mono ⟨[_], [_], rfl⟩
  | @IsTerm.alternatives p q first others _ _ hfirst hothers hne =>
    rcases List.mem_cons.mp hs with rfl | hs
    · exact (IsExpression.single (.alternatives hfirst hothers hne)).spells
    · rcases List.mem_append.mp hs with hs | hs
      · exact (hfirst.spells_of_mem hs).mono ⟨[_], others ++ [_], rfl⟩
      · refine (hothers.spells_of_mem hs).mono
          ⟨⟨.mark .openGroup, p⟩ :: first, [⟨.mark .closeGroup, q⟩], ?_⟩
        simp

lemma IsExpression.spells_of_mem {ts : List Token} {t s : Term} (h : IsExpression ts t)
    (hs : s ∈ t.walk) : Spells ts s := by
  match h with
  | .single h => exact h.spells_of_mem hs
  | .sequence h =>
    rcases List.mem_cons.mp hs with rfl | hs
    · exact (IsExpression.sequence h).spells
    · exact h.spells_of_mem hs

lemma AreTerms.spells_of_mem {ts : List Token} {terms : List Term} {s : Term}
    (h : AreTerms ts terms) (hs : s ∈ Term.walkAll terms) : Spells ts s := by
  match h with
  | .nil => cases hs
  | @AreTerms.cons first others _ _ hfirst hothers =>
    rcases List.mem_append.mp hs with hs | hs
    · exact (hfirst.spells_of_mem hs).mono ⟨[], others, rfl⟩
    · exact (hothers.spells_of_mem hs).mono ⟨first, [], by simp⟩

lemma AreBranches.spells_of_mem {ts : List Token} {branches : List Term} {s : Term}
    (h : AreBranches ts branches) (hs : s ∈ Term.walkAll branches) : Spells ts s := by
  match h with
  | .nil => cases hs
  | @AreBranches.cons p first others _ _ hfirst hothers =>
    rcases List.mem_append.mp hs with hs | hs
    · exact (hfirst.spells_of_mem hs).mono ⟨[_], others, rfl⟩
    · refine (hothers.spells_of_mem hs).mono ⟨⟨.mark .bar, p⟩ :: first, [], ?_⟩
      simp
end

/-! ### Whole lists of tokens -/

/-- The tokens of a usage are read into the tree of the expression that they are. -/
lemma readTokens_iff {last : Token} (hlast : last.lexeme = .finish)
    (hts : ∀ token ∈ ts, token.lexeme ≠ .finish) :
    readTokens finish (ts ++ [last]) = .ok t ↔ IsExpression ts t := by
  constructor
  · intro h
    obtain ⟨r, hread, hmark⟩ := readTokens_cases h
    obtain ⟨hstops, used, hused, hexpression⟩ := readExpression_iff.mp ⟨r, hread, rfl⟩
    rcases List.append_eq_append_iff.mp hused with ⟨more, rfl, hmore⟩ | ⟨more, rfl, hmore⟩
    · cases more with
      | nil => rwa [List.append_nil] at hexpression
      | cons token more =>
        obtain ⟨rfl, -⟩ := List.cons.inj hmore
        exact absurd hlast (hexpression.ne_finish (by simp))
    · cases more with
      | nil => rwa [List.append_nil]
      | cons token more =>
        -- what stops the reader inside the usage would be a mark
        rw [hmore] at hstops hmark
        have hne := hts token (by simp)
        have hstop := hstops token rfl
        obtain ⟨lexeme, p⟩ := token
        rcases lexeme with _ | _ | _ | m | _
        case mark => exact absurd rfl (hmark m p _)
        case finish => exact absurd rfl hne
        all_goals cases hstop
  · intro h
    have hstops : Stops [last] := by simp [Stops, hlast, Lexeme.startsTerm]
    have hread : Yields (readExpression finish (ts ++ [last])) t [last] :=
      readExpression_iff.mpr ⟨hstops, ts, rfl, h⟩
    obtain ⟨first, later, rfl, -⟩ := h.exists_first
    have hfirst : first.lexeme ≠ .finish := hts first List.mem_cons_self
    obtain ⟨lexeme, p⟩ := first
    obtain ⟨_, q⟩ := last
    obtain rfl := hlast
    rw [List.cons_append] at hread ⊢
    obtain ⟨r, hread, hr⟩ := hread
    rw [readTokens.eq_def]
    split
    · rename_i heq
      cases heq
    · rename_i heq
      cases heq
      exact absurd rfl hfirst
    · rw [hread]
      simp only [bind, Except.bind, hr]
      rfl

end ChatCommands.Usage

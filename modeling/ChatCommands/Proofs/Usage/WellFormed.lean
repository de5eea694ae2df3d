import ChatCommands.Usage.Parser
import Mathlib.Tactic.Common

/-!
# Trees that are read

What a usage is read into is a tree of a certain shape: literals have a text, a sequence is not made
of sequences, and alternatives have branches.

Main statements: `wellFormed_of_read`, and what each reader returns (`readTerms_cases`,
`readExpression_cases`, `readTerm_cases`, `readBranches_cases`).
-/

namespace ChatCommands

namespace Term

/-- Whether a term is a sequence. -/
def isSequence : Term → Bool
  | sequence .. => true
  | _ => false

/-- What holds of every term that is read, apart from the terms in it. -/
def WellFormed : Term → Prop
  | literal text _ => text ≠ ""
  | sequence terms _ => 2 ≤ terms.length ∧ ∀ t ∈ terms, t.isSequence = false
  | alternatives branches _ => branches ≠ []
  | _ => True

/-- A term is well formed with all terms in it. -/
def DeeplyWellFormed (t : Term) : Prop := ∀ s ∈ t.walk, s.WellFormed

@[simp] lemma self_mem_walk (t : Term) : t ∈ t.walk := by
  cases t <;> simp [walk]

lemma mem_walkAll {s : Term} {ts : List Term} : s ∈ walkAll ts ↔ ∃ t ∈ ts, s ∈ t.walk := by
  induction ts with
  | nil => simp [walkAll]
  | cons t ts ih => simp [walkAll, ih]

namespace DeeplyWellFormed

lemma wellFormed {t : Term} (h : t.DeeplyWellFormed) : t.WellFormed := h t (self_mem_walk t)

lemma literal {text : String} {p : Nat} (h : text ≠ "") : (literal text p).DeeplyWellFormed := by
  intro s hs
  obtain rfl := List.mem_singleton.mp hs
  exact h

lemma sequence {ts : List Term} {p : Nat} (hlen : 2 ≤ ts.length)
    (hflat : ∀ t ∈ ts, t.isSequence = false) (h : ∀ t ∈ ts, t.DeeplyWellFormed) :
    (sequence ts p).DeeplyWellFormed := by
  intro s hs
  rcases List.mem_cons.mp hs with rfl | hs
  · exact ⟨hlen, hflat⟩
  · obtain ⟨t, ht, hs⟩ := mem_walkAll.mp hs
    exact h t ht s hs

lemma alternatives {ts : List Term} {p : Nat} (hne : ts ≠ [])
    (h : ∀ t ∈ ts, t.DeeplyWellFormed) : (alternatives ts p).DeeplyWellFormed := by
  intro s hs
  rcases List.mem_cons.mp hs with rfl | hs
  · exact hne
  · obtain ⟨t, ht, hs⟩ := mem_walkAll.mp hs
    exact h t ht s hs

lemma optional {t : Term} {p : Nat} (h : t.DeeplyWellFormed) :
    (optional t p).DeeplyWellFormed := by
  intro s hs
  rcases List.mem_cons.mp hs with rfl | hs
  · trivial
  · exact h s hs

end DeeplyWellFormed

end Term

namespace Usage

/-! ### What the readers return -/

section
variable {ε α β : Type}

lemma bind_eq_ok {x : Except ε α} {f : α → Except ε β} {b : β} :
    x >>= f = .ok b ↔ ∃ a, x = .ok a ∧ f a = .ok b := by
  cases x with
  | error e => simp [bind, Except.bind]
  | ok a => simp [bind, Except.bind]

lemma bind_eq_error {x : Except ε α} {f : α → Except ε β} {e : ε} :
    x >>= f = .error e ↔ x = .error e ∨ ∃ a, x = .ok a ∧ f a = .error e := by
  cases x with
  | error e => simp [bind, Except.bind]
  | ok a => simp [bind, Except.bind]

lemma map_eq_ok {x : Except ε α} {f : α → β} {b : β} :
    x.map f = .ok b ↔ ∃ a, x = .ok a ∧ f a = b := by
  cases x <;> simp [Except.map]

lemma map_eq_error {x : Except ε α} {f : α → β} {e : ε} :
    x.map f = .error e ↔ x = .error e := by
  cases x <;> simp [Except.map]

end

variable {finish position : Nat} {ts : List Token}

lemma closeGroup_cases {opening closing : Mark} {rest : Rest ts}
    (h : closeGroup opening closing position ts = .ok rest) :
    ∃ t, t.lexeme = .mark closing ∧ ts = t :: rest.1 := by
  match ts with
  | [] => simp [closeGroup] at h
  | t :: ts =>
    rw [closeGroup] at h
    split at h
    · rename_i ht
      obtain rfl := Except.ok.inj h
      exact ⟨t, ht, rfl⟩
    · simp at h

/-- Whether a term can start with a token. -/
def Lexeme.startsTerm : Lexeme → Bool
  | .placeholder _ | .trailing _ | .literal _ | .mark .openOptional | .mark .openGroup => true
  | _ => false

/-- No term starts here. -/
def Stops (ts : List Token) : Prop := ∀ t ∈ ts.head?, t.lexeme.startsTerm = false

lemma readTerms_of_stops (h : Stops ts) : readTerms finish ts = .ok ([], ⟨ts, Nat.le_refl _⟩) := by
  match ts with
  | [] => rw [readTerms]
  | ⟨lexeme, p⟩ :: ts =>
    have hstop : lexeme.startsTerm = false := h _ rfl
    rw [readTerms]
    rcases lexeme with _ | _ | _ | m | _
    case mark => cases m <;> first | rfl | cases hstop
    all_goals first | rfl | cases hstop

lemma readTerms_of_starts {t : Token} (h : t.lexeme.startsTerm) :
    readTerms finish (t :: ts) = do
      let (term, ⟨rest₁, h₁⟩) ← readTerm finish t.lexeme t.position ts
      let (terms, ⟨rest₂, h₂⟩) ← readTerms finish rest₁
      return (term :: terms, ⟨rest₂, Nat.le_succ_of_le (Nat.le_trans h₂ h₁)⟩) := by
  obtain ⟨lexeme, p⟩ := t
  rw [readTerms]
  rcases lexeme with _ | _ | _ | m | _
  case mark => cases m <;> first | rfl | cases h
  all_goals first | rfl | cases h

lemma stops_or_starts (ts : List Token) :
    Stops ts ∨ ∃ t later, ts = t :: later ∧ t.lexeme.startsTerm := by
  match ts with
  | [] => exact Or.inl (by simp [Stops])
  | t :: later =>
    cases h : t.lexeme.startsTerm with
    | true => exact Or.inr ⟨t, later, rfl, h⟩
    | false => exact Or.inl (by simpa [Stops] using h)

lemma readTerms_cases {terms : List Term} {rest : Rest ts}
    (h : readTerms finish ts = .ok (terms, rest)) :
    (Stops ts ∧ terms = [] ∧ rest.1 = ts) ∨
      ∃ t later term rest₁ terms' rest₂, ts = t :: later ∧ t.lexeme.startsTerm ∧
        readTerm finish t.lexeme t.position later = .ok (term, rest₁) ∧
        readTerms finish rest₁.1 = .ok (terms', rest₂) ∧
        terms = term :: terms' ∧ rest.1 = rest₂.1 := by
  rcases stops_or_starts ts with hstops | ⟨t, later, rfl, hstarts⟩
  · rw [readTerms_of_stops hstops] at h
    cases h
    exact Or.inl ⟨hstops, rfl, rfl⟩
  · rw [readTerms_of_starts hstarts] at h
    obtain ⟨⟨term, rest₁⟩, hterm, h⟩ := bind_eq_ok.mp h
    obtain ⟨⟨terms', rest₂⟩, hterms, h⟩ := bind_eq_ok.mp h
    cases h
    exact Or.inr ⟨t, later, term, rest₁, terms', rest₂, rfl, hstarts, hterm, hterms, rfl, rfl⟩

lemma readExpression_cases {term : Term} {rest : Rest ts}
    (h : readExpression finish ts = .ok (term, rest)) :
    ∃ terms, readTerms finish ts = .ok (terms, rest) ∧ terms ≠ [] ∧
      term = termOf (nextPosition finish ts) terms := by
  rw [readExpression] at h
  obtain ⟨⟨terms, rest'⟩, hterms, h⟩ := bind_eq_ok.mp h
  dsimp only at h
  split at h
  · cases h
  · rename_i hne
    cases h
    exact ⟨terms, hterms, by simpa using hne, rfl⟩

lemma readBranches_cases {branches : List Term} {rest : Rest ts}
    (h : readBranches finish ts = .ok (branches, rest)) :
    (branches = [] ∧ rest.1 = ts) ∨
      ∃ t later branch rest₁ branches' rest₂, t.lexeme = .mark .bar ∧ ts = t :: later ∧
        readExpression finish later = .ok (branch, rest₁) ∧
        readBranches finish rest₁.1 = .ok (branches', rest₂) ∧
        branches = branch :: branches' ∧ rest.1 = rest₂.1 := by
  rw [readBranches.eq_def] at h
  split at h
  · rename_i p later
    obtain ⟨⟨branch, rest₁⟩, hbranch, h⟩ := bind_eq_ok.mp h
    obtain ⟨⟨branches', rest₂⟩, hbranches, h⟩ := bind_eq_ok.mp h
    cases h
    exact Or.inr ⟨_, later, branch, rest₁, branches', rest₂, rfl, rfl, hbranch, hbranches, rfl,
      rfl⟩
  · cases h
    exact Or.inl ⟨rfl, rfl⟩

lemma readTerm_cases {lexeme : Lexeme} {term : Term} {rest : Rest ts}
    (h : readTerm finish lexeme position ts = .ok (term, rest)) :
    (∃ name, lexeme = .placeholder name ∧ term = .placeholder name position ∧ rest.1 = ts) ∨
    (∃ name, lexeme = .trailing name ∧ term = .trailing name position ∧ rest.1 = ts) ∨
    (∃ text, lexeme = .literal text ∧ term = .literal text position ∧ rest.1 = ts) ∨
    (∃ first rest₁ others rest₂ t, lexeme = .mark .openGroup ∧
      readExpression finish ts = .ok (first, rest₁) ∧
      readBranches finish rest₁.1 = .ok (others, rest₂) ∧
      t.lexeme = .mark .closeGroup ∧ rest₂.1 = t :: rest.1 ∧ others ≠ [] ∧
      term = .alternatives (first :: others) position) ∨
    (∃ child rest₁ t, (lexeme.startsTerm → lexeme = .mark .openOptional) ∧
      readExpression finish ts = .ok (child, rest₁) ∧
      t.lexeme = .mark .closeOptional ∧ rest₁.1 = t :: rest.1 ∧
      term = .optional child position) := by
  rw [readTerm.eq_def] at h
  split at h
  · rename_i name
    cases h
    exact Or.inl ⟨name, rfl, rfl, rfl⟩
  · rename_i name
    cases h
    exact Or.inr (Or.inl ⟨name, rfl, rfl, rfl⟩)
  · rename_i text
    cases h
    exact Or.inr (Or.inr (Or.inl ⟨text, rfl, rfl, rfl⟩))
  · obtain ⟨⟨first, rest₁⟩, hfirst, h⟩ := bind_eq_ok.mp h
    obtain ⟨⟨others, rest₂⟩, hothers, h⟩ := bind_eq_ok.mp h
    obtain ⟨rest₃, hclose, h⟩ := bind_eq_ok.mp h
    obtain ⟨t, ht, hrest⟩ := closeGroup_cases hclose
    dsimp only at h
    split at h
    · cases h
    · rename_i hne
      cases h
      exact Or.inr (Or.inr (Or.inr (Or.inl ⟨first, rest₁, others, rest₂, t, rfl, hfirst, hothers,
        ht, hrest, by simpa using hne, rfl⟩)))
  · rename_i hplaceholder htrailing hliteral hgroup
    obtain ⟨⟨child, rest₁⟩, hchild, h⟩ := bind_eq_ok.mp h
    obtain ⟨rest₂, hclose, h⟩ := bind_eq_ok.mp h
    obtain ⟨t, ht, hrest⟩ := closeGroup_cases hclose
    cases h
    refine Or.inr (Or.inr (Or.inr (Or.inr ⟨child, rest₁, t, ?_, hchild, ht, hrest, rfl⟩)))
    intro hstarts
    rcases lexeme with name | name | text | m | _
    · exact (hplaceholder name rfl).elim
    · exact (htrailing name rfl).elim
    · exact (hliteral text rfl).elim
    · cases m with
      | openOptional => rfl
      | openGroup => exact (hgroup rfl).elim
      | _ => cases hstarts
    · cases hstarts

/-! ### Tokens -/

/-- No token is a literal without text. -/
def Legible (ts : List Token) : Prop := ∀ t ∈ ts, t.lexeme ≠ .literal ""

lemma Legible.cons {t : Token} (ht : t.lexeme ≠ .literal "") (h : Legible ts) :
    Legible (t :: ts) := by
  intro s hs
  rcases List.mem_cons.mp hs with rfl | hs
  · exact ht
  · exact h s hs

lemma Legible.tail {t : Token} (h : Legible (t :: ts)) : Legible ts :=
  fun s hs => h s (List.mem_cons_of_mem _ hs)

lemma ne_literal_of_ofName? {name : List Char} {lexeme : Lexeme}
    (h : Lexeme.ofName? name = some lexeme) (text : String) : lexeme ≠ .literal text := by
  rw [Lexeme.ofName?] at h
  split at h
  · dsimp only at h
    split at h <;> cases h
    simp
  · split at h <;> cases h
    simp

/-- The tokens of a usage are legible. -/
lemma legible_of_tokensFrom {cs : List Char} (h : tokensFrom position cs = .ok ts) :
    Legible ts := by
  fun_induction tokensFrom position cs generalizing ts with
  | case1 position =>
    cases h
    exact Legible.cons (by simp) (by simp [Legible])
  | case2 position c rest hblank ih => exact ih h
  | case3 position c rest hblank m hm ih =>
    obtain ⟨ts', hts', rfl⟩ := map_eq_ok.mp h
    exact (ih hts').cons (by simp)
  | case4 | case5 | case7 | case8 | case10 => cases h
  | case6 position rest name _ after _ lexeme hlexeme _ _ _ =>
    rename_i ih
    obtain ⟨ts', hts', rfl⟩ := map_eq_ok.mp h
    exact (ih hts').cons (ne_literal_of_ofName? hlexeme "")
  | case9 position rest text _ after _ hne _ _ _ _ =>
    rename_i ih
    obtain ⟨ts', hts', rfl⟩ := map_eq_ok.mp h
    refine (ih hts').cons fun heq => hne ?_
    simpa using heq

/-! ### Readers return well formed terms -/

lemma deeplyWellFormed_termOf {terms : List Term} (hne : terms ≠ [])
    (hflat : ∀ t ∈ terms, t.isSequence = false) (h : ∀ t ∈ terms, t.DeeplyWellFormed) :
    (termOf position terms).DeeplyWellFormed := by
  match terms with
  | [] => exact absurd rfl hne
  | [t] => exact h t List.mem_cons_self
  | s :: t :: terms => exact Term.DeeplyWellFormed.sequence (by simp) hflat h

lemma isSequence_of_readTerm {lexeme : Lexeme} {term : Term} {rest : Rest ts}
    (h : readTerm finish lexeme position ts = .ok (term, rest)) : term.isSequence = false := by
  rcases readTerm_cases h with ⟨_, _, rfl, _⟩ | ⟨_, _, rfl, _⟩ | ⟨_, _, rfl, _⟩ |
    ⟨_, _, _, _, _, _, _, _, _, _, _, rfl⟩ | ⟨_, _, _, _, _, _, _, rfl⟩
  all_goals rfl

mutual
lemma readTerms_wellFormed {ts : List Token} {terms : List Term} {rest : Rest ts} (hts : Legible ts)
    (h : readTerms finish ts = .ok (terms, rest)) :
    (∀ t ∈ terms, t.DeeplyWellFormed ∧ t.isSequence = false) ∧ Legible rest.1 := by
  rcases readTerms_cases h with
    ⟨_, rfl, hrest⟩ | ⟨t, later, term, rest₁, terms', rest₂, rfl, _, hterm, hterms, rfl, hrest⟩
  · exact ⟨by simp, by rwa [hrest]⟩
  · have := rest₁.2
    obtain ⟨hwf, hleg⟩ := readTerm_wellFormed (hts t List.mem_cons_self) hts.tail hterm
    obtain ⟨hwfs, hleg⟩ := readTerms_wellFormed hleg hterms
    refine ⟨fun s hs => ?_, by rwa [hrest]⟩
    rcases List.mem_cons.mp hs with rfl | hs
    · exact ⟨hwf, isSequence_of_readTerm hterm⟩
    · exact hwfs s hs
termination_by 4 * ts.length + 1
decreasing_by all_goals simp_wf; subst_vars; simp; omega

lemma readExpression_wellFormed {ts : List Token} {term : Term} {rest : Rest ts} (hts : Legible ts)
    (h : readExpression finish ts = .ok (term, rest)) :
    term.DeeplyWellFormed ∧ Legible rest.1 := by
  obtain ⟨terms, hterms, hne, rfl⟩ := readExpression_cases h
  obtain ⟨hwf, hleg⟩ := readTerms_wellFormed hts hterms
  exact ⟨deeplyWellFormed_termOf hne (fun t ht => (hwf t ht).2) fun t ht => (hwf t ht).1, hleg⟩
termination_by 4 * ts.length + 2

lemma readTerm_wellFormed {position : Nat} {ts : List Token} {lexeme : Lexeme} {term : Term}
    {rest : Rest ts}
    (hlexeme : lexeme ≠ .literal "") (hts : Legible ts)
    (h : readTerm finish lexeme position ts = .ok (term, rest)) :
    term.DeeplyWellFormed ∧ Legible rest.1 := by
  rcases readTerm_cases h with ⟨_, _, rfl, hrest⟩ | ⟨_, _, rfl, hrest⟩ | ⟨_, rfl, rfl, hrest⟩ |
    ⟨first, rest₁, others, rest₂, t, _, hfirst, hothers, _, hrest, _, rfl⟩ |
    ⟨child, rest₁, t, _, hchild, _, hrest, rfl⟩
  · exact ⟨by simp [Term.DeeplyWellFormed, Term.walk, Term.WellFormed], by rwa [hrest]⟩
  · exact ⟨by simp [Term.DeeplyWellFormed, Term.walk, Term.WellFormed], by rwa [hrest]⟩
  · refine ⟨Term.DeeplyWellFormed.literal ?_, by rwa [hrest]⟩
    rintro rfl
    exact hlexeme rfl
  · have := rest₁.2
    obtain ⟨hwf, hleg⟩ := readExpression_wellFormed hts hfirst
    obtain ⟨hwfs, hleg⟩ := readBranches_wellFormed hleg hothers
    rw [hrest] at hleg
    refine ⟨Term.DeeplyWellFormed.alternatives (by simp) fun s hs => ?_, hleg.tail⟩
    rcases List.mem_cons.mp hs with rfl | hs
    · exact hwf
    · exact hwfs s hs
  · obtain ⟨hwf, hleg⟩ := readExpression_wellFormed hts hchild
    rw [hrest] at hleg
    exact ⟨hwf.optional, hleg.tail⟩
termination_by 4 * ts.length + 3

lemma readBranches_wellFormed {ts : List Token} {branches : List Term} {rest : Rest ts}
    (hts : Legible ts)
    (h : readBranches finish ts = .ok (branches, rest)) :
    (∀ t ∈ branches, t.DeeplyWellFormed) ∧ Legible rest.1 := by
  rcases readBranches_cases h with
    ⟨rfl, hrest⟩ | ⟨t, later, branch, rest₁, branches', rest₂, _, rfl, hbranch, hbranches, rfl,
      hrest⟩
  · exact ⟨by simp, by rwa [hrest]⟩
  · have := rest₁.2
    obtain ⟨hwf, hleg⟩ := readExpression_wellFormed hts.tail hbranch
    obtain ⟨hwfs, hleg⟩ := readBranches_wellFormed hleg hbranches
    refine ⟨fun s hs => ?_, by rwa [hrest]⟩
    rcases List.mem_cons.mp hs with rfl | hs
    · exact hwf
    · exact hwfs s hs
termination_by 4 * ts.length + 0
decreasing_by all_goals simp_wf; subst_vars; simp; omega
end

/-! ### Usages -/

variable {source : String} {u : Usage}

lemma readTokens_of_cons {first : Token} {later : List Token} (h : ts = first :: later) :
    readTokens finish ts =
      if first.lexeme = .finish then .error .emptyUsage
      else do
        let (expression, rest) ← readExpression finish ts
        match rest.1 with
        | ⟨.mark m, position⟩ :: _ => .error (.strayMark position m)
        | _ => return expression := by
  subst h
  obtain ⟨lexeme, p⟩ := first
  cases lexeme <;> rfl

lemma readTokens_cases {term : Term} (h : readTokens finish ts = .ok term) :
    ∃ rest, readExpression finish ts = .ok (term, rest) ∧
      ∀ m p later, rest.1 ≠ ⟨.mark m, p⟩ :: later := by
  rw [readTokens.eq_def] at h
  split at h
  · cases h
  · cases h
  · obtain ⟨⟨expression, rest⟩, hread, h⟩ := bind_eq_ok.mp h
    simp only at h
    split at h
    · cases h
    · rename_i hmark
      cases h
      exact ⟨rest, hread, hmark⟩

lemma read_cases (h : read source = .ok u) :
    ∃ ts, tokenize source = .ok ts ∧ readTokens source.length ts = .ok u.expression ∧
      trailingError? u.expression = none ∧ u.source = source := by
  rw [read] at h
  obtain ⟨ts, hts, h⟩ := bind_eq_ok.mp h
  obtain ⟨expression, hread, h⟩ := bind_eq_ok.mp h
  split at h
  · cases h
  · rename_i htrailing
    cases h
    exact ⟨ts, hts, hread, htrailing, rfl⟩

/-- A usage is read into well formed terms. -/
lemma wellFormed_of_read (h : read source = .ok u) : u.expression.DeeplyWellFormed := by
  obtain ⟨ts, hts, hread, -, -⟩ := read_cases h
  obtain ⟨rest, hread, -⟩ := readTokens_cases hread
  exact (readExpression_wellFormed (legible_of_tokensFrom hts) hread).1

/-- In a usage that is read, nothing can follow a trailing placeholder. -/
lemma misplaced?_of_read (h : read source = .ok u) : misplaced? true u.expression = none := by
  obtain ⟨ts, -, -, htrailing, -⟩ := read_cases h
  rw [trailingError?] at htrailing
  split at htrailing
  · cases htrailing
  · assumption

end Usage

end ChatCommands

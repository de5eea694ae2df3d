import ChatCommands.Proofs.Pattern.Derivation
import ChatCommands.Proofs.Usage.Language

/-!
# What follows a trailing placeholder

The reader of usages hands a flag down the tree to find a trailing placeholder that is not last. The
flag says what the derivations say: a place is final just if no derivation goes on behind it. Every
term can take at least one terminal, so whatever stands behind a trailing placeholder follows it in
some derivation.

Main statements: `misplaced?_eq_none_iff_restLast`, `refused_as_misplaced_iff`.
-/

namespace ChatCommands.Usage

open Pattern Pattern.Form

/-! ### Terms that take a terminal -/

mutual
/-- A term that is read has a derivation with a field. -/
lemma exists_derivation_ne_nil (t : Term) (seen : Keys) (hwf : t.DeeplyWellFormed) :
    ∃ d ∈ (ofTerm t seen).1.derivations, d ≠ [] := by
  match t with
  | .literal .. | .placeholder .. | .trailing .. =>
    exact ⟨_, List.mem_singleton_self _, List.cons_ne_nil _ _⟩
  | .sequence ts p =>
    obtain ⟨⟨hlength, -⟩, hts⟩ := Term.forall_mem_walk_sequence.mp hwf
    obtain ⟨d, hd, hne⟩ := exists_derivationOfSequence ts seen hts
    exact ⟨d, hd, hne (List.ne_nil_of_length_pos (by omega))⟩
  | .alternatives ts p =>
    obtain ⟨hne, hts⟩ := Term.forall_mem_walk_alternatives.mp hwf
    exact exists_derivationOfBranches_ne_nil ts seen hne hts
  | .optional t p =>
    obtain ⟨-, ht⟩ := Term.forall_mem_walk_optional.mp hwf
    obtain ⟨d, hd, hne⟩ := exists_derivation_ne_nil t seen ht
    exact ⟨d, List.mem_append_left _ hd, hne⟩

lemma exists_derivationOfSequence (ts : List Term) (seen : Keys)
    (hwf : ∀ t ∈ ts, t.DeeplyWellFormed) :
    ∃ d ∈ derivationsOfSequence (ofTerms ts seen).1, ts ≠ [] → d ≠ [] := by
  match ts with
  | [] => exact ⟨[], List.mem_singleton_self _, fun h => absurd rfl h⟩
  | t :: ts =>
    obtain ⟨ht, hts⟩ := List.forall_mem_cons.mp hwf
    obtain ⟨d₁, h₁, hne⟩ := exists_derivation_ne_nil t seen ht
    obtain ⟨d₂, h₂, -⟩ := exists_derivationOfSequence ts (ofTerm t seen).2 hts
    exact ⟨d₁ ++ d₂, mem_concats.mpr ⟨d₁, h₁, d₂, h₂, rfl⟩, fun _ => by simp [hne]⟩

lemma exists_derivationOfBranches_ne_nil (ts : List Term) (seen : Keys) (hne : ts ≠ [])
    (hwf : ∀ t ∈ ts, t.DeeplyWellFormed) :
    ∃ d ∈ derivationsOfBranches (ofTerms ts seen).1, d ≠ [] := by
  match ts with
  | [] => exact absurd rfl hne
  | t :: ts =>
    obtain ⟨d, hd, hne⟩ := exists_derivation_ne_nil t seen (List.forall_mem_cons.mp hwf).1
    exact ⟨d, List.mem_append_left _ hd, hne⟩
end

/-! ### Final places and derivations -/

section
variable {final : Bool} {d₁ d₂ : List Field}

/-- What comes first is not last if something comes behind it. -/
lemma RestLast.of_append_left {last : Bool} (h : RestLast final (d₁ ++ d₂))
    (hlast : last = false → d₂ ≠ []) : RestLast (final && last) d₁ := by
  intro f hf
  refine h f ?_
  cases final with
  | false => exact List.mem_append_left _ hf
  | true =>
    cases last with
    | true =>
      rcases List.eq_nil_or_concat d₂ with rfl | ⟨init, g, rfl⟩
      · simpa using hf
      · rw [if_pos rfl, List.concat_eq_append, ← List.append_assoc, List.dropLast_concat]
        exact List.mem_append_left _ (List.dropLast_subset _ hf)
    | false =>
      rw [if_pos rfl, List.dropLast_append_of_ne_nil (hlast rfl)]
      exact List.mem_append_left _ hf

lemma RestLast.of_append_right (h : RestLast final (d₁ ++ d₂)) : RestLast final d₂ := by
  intro f hf
  refine h f ?_
  cases final with
  | false => exact List.mem_append_right _ hf
  | true =>
    have hne : d₂ ≠ [] := by
      rintro rfl
      exact absurd hf List.not_mem_nil
    rw [if_pos rfl, List.dropLast_append_of_ne_nil hne]
    exact List.mem_append_right _ hf

end

mutual
/-- No trailing placeholder is refused if it is last in every derivation. -/
lemma misplaced?_of_restLast {final : Bool} (t : Term) (seen : Keys) (hwf : t.DeeplyWellFormed)
    (h : ∀ d ∈ (ofTerm t seen).1.derivations, RestLast final d) : misplaced? final t = none := by
  match t with
  | .literal .. | .placeholder .. => rfl
  | .trailing name p =>
    cases final with
    | true => rfl
    | false => exact absurd rfl (h _ (List.mem_singleton_self _) _ (List.mem_singleton_self _))
  | .sequence ts p =>
    exact misplacedInSequence?_of_restLast ts seen (Term.forall_mem_walk_sequence.mp hwf).2 h
  | .alternatives ts p =>
    exact misplacedInBranch?_of_restLast ts seen (Term.forall_mem_walk_alternatives.mp hwf).2 h
  | .optional t p =>
    exact misplaced?_of_restLast t seen (Term.forall_mem_walk_optional.mp hwf).2 fun d hd =>
      h d (List.mem_append_left _ hd)

lemma misplacedInSequence?_of_restLast {final : Bool} (ts : List Term) (seen : Keys)
    (hwf : ∀ t ∈ ts, t.DeeplyWellFormed)
    (h : ∀ d ∈ derivationsOfSequence (ofTerms ts seen).1, RestLast final d) :
    misplacedInSequence? final ts = none := by
  match ts with
  | [] => rfl
  | t :: ts =>
    obtain ⟨ht, hts⟩ := List.forall_mem_cons.mp hwf
    have happend : ∀ d₁ ∈ (ofTerm t seen).1.derivations,
        ∀ d₂ ∈ derivationsOfSequence (ofTerms ts (ofTerm t seen).2).1,
          RestLast final (d₁ ++ d₂) :=
      fun d₁ h₁ d₂ h₂ => h _ (mem_concats.mpr ⟨d₁, h₁, d₂, h₂, rfl⟩)
    rw [misplacedInSequence?, Option.orElse_eq_orElse, Option.orElse_eq_or, Option.or_eq_none_iff]
    constructor
    · obtain ⟨d₂, h₂, hne⟩ := exists_derivationOfSequence ts (ofTerm t seen).2 hts
      refine misplaced?_of_restLast t seen ht fun d₁ h₁ => ?_
      exact RestLast.of_append_left (happend d₁ h₁ d₂ h₂) fun hempty =>
        hne fun hnil => by simp [hnil] at hempty
    · obtain ⟨d₁, h₁, -⟩ := exists_derivation_ne_nil t seen ht
      exact misplacedInSequence?_of_restLast ts _ hts fun d₂ h₂ =>
        RestLast.of_append_right (happend d₁ h₁ d₂ h₂)

lemma misplacedInBranch?_of_restLast {final : Bool} (ts : List Term) (seen : Keys)
    (hwf : ∀ t ∈ ts, t.DeeplyWellFormed)
    (h : ∀ d ∈ derivationsOfBranches (ofTerms ts seen).1, RestLast final d) :
    misplacedInBranch? final ts = none := by
  match ts with
  | [] => rfl
  | t :: ts =>
    obtain ⟨ht, hts⟩ := List.forall_mem_cons.mp hwf
    rw [misplacedInBranch?, Option.orElse_eq_orElse, Option.orElse_eq_or, Option.or_eq_none_iff]
    exact ⟨misplaced?_of_restLast t seen ht fun d hd => h d (List.mem_append_left _ hd),
      misplacedInBranch?_of_restLast ts _ hts fun d hd => h d (List.mem_append_right _ hd)⟩
end

/-- The flag finds nothing to refuse just if a trailing placeholder is last in each derivation that
has one. -/
lemma misplaced?_eq_none_iff_restLast {t : Term} (seen : Keys) (hwf : t.DeeplyWellFormed) :
    misplaced? true t = none ↔ ∀ d ∈ (ofTerm t seen).1.derivations, RestLast true d :=
  ⟨fun h _ => restLast_of_mem_derivations _ (restsAtEnd_ofTerm t seen h),
    misplaced?_of_restLast t seen hwf⟩

/-! ### Usages that are refused -/

/-- A text is refused as a usage, with a code. -/
def RefusedAs (source : String) (code : FaultCode) : Prop :=
  ∃ f, parse source = .error (.fault f) ∧ f.kind = .usageSyntax ∧ f.code = .code code

/-- In a derivation, something comes after a field that takes all the rest. -/
def Followed (d : List Field) : Prop :=
  ∃ before f after, d = before ++ f :: after ∧ f.shape = .rest ∧ after ≠ []

lemma restLast_iff_not_followed {d : List Field} : RestLast true d ↔ ¬ Followed d := by
  constructor
  · rintro h ⟨before, f, after, rfl, hrest, hne⟩
    refine h f ?_ hrest
    rw [if_pos rfl, List.dropLast_append_of_ne_nil (List.cons_ne_nil _ _),
      List.dropLast_cons_of_ne_nil hne]
    simp
  · intro h f hf hrest
    obtain ⟨before, after, hsplit⟩ := List.append_of_mem hf
    have hne : d ≠ [] := by
      rintro rfl
      exact absurd hf List.not_mem_nil
    refine h ⟨before, f, after ++ [d.getLast hne], ?_, hrest, by simp⟩
    rw [← List.cons_append, ← List.append_assoc, ← hsplit]
    exact (List.dropLast_append_getLast hne).symm

section
variable {source : String} {ts : List Token} {e : Term}

lemma Writes.wellFormed (h : Writes source ts e) : e.DeeplyWellFormed := by
  obtain ⟨tokens, htokens, hread⟩ := exists_writes_iff.mp ⟨ts, h⟩
  obtain ⟨rest, hread, -⟩ := readTokens_cases hread
  exact (readExpression_wellFormed (legible_of_tokensFrom htokens) hread).1

/-- Of a text that writes an expression, nothing but trailing placeholders can be wrong. -/
lemma Writes.read_eq (h : Writes source ts e) :
    read source = match trailingError? e with
      | some err => .error err
      | none => .ok ⟨source, e⟩ := by
  obtain ⟨tokens, htokens, hread⟩ := exists_writes_iff.mp ⟨ts, h⟩
  rw [read, htokens]
  simp only [bind, Except.bind, hread]
  rfl

lemma Writes.refusedAs_iff (h : Writes source ts e) :
    RefusedAs source .misplacedTrailingPlaceholder ↔ trailingError? e ≠ none := by
  have hread := h.read_eq
  constructor
  · rintro ⟨f, hparse, -⟩ hnone
    obtain ⟨err, herr, -⟩ := parse_eq_error_iff.mp hparse
    rw [hnone, herr] at hread
    cases hread
  · intro hsome
    obtain ⟨err, herr⟩ := Option.ne_none_iff_exists'.mp hsome
    rw [herr] at hread
    exact ⟨err.toFault source, parse_eq_error_iff.mpr ⟨err, hread, rfl⟩, rfl,
      congrArg Value.code (code_of_trailingError? herr)⟩

/-- A trailing placeholder is in order just if it is the only one and last in each derivation that
has one. -/
lemma trailingError?_eq_none_iff_followed (h : Writes source ts e) :
    trailingError? e = none ↔ (e.walk.filter Term.isTrailing).length ≤ 1 ∧
      ∀ d ∈ (Form.ofUsage ⟨source, e⟩).derivations, ¬ Followed d := by
  rw [trailingError?_eq_none_iff, ← misplaced?_true_eq_none_iff,
    misplaced?_eq_none_iff_restLast [] h.wellFormed, and_comm]
  simp only [restLast_iff_not_followed]
  rfl

/-- A usage in which all is well but perhaps the places of trailing placeholders is refused for them
just if it has two, or if some choice of optional parts and branches puts a terminal after one. Else
it is read, and whatever is chosen, a trailing placeholder comes last. -/
theorem refused_as_misplaced_iff (h : Writes source ts e) :
    (RefusedAs source .misplacedTrailingPlaceholder ↔
      2 ≤ (e.walk.filter Term.isTrailing).length ∨
        ∃ d ∈ (Form.ofUsage ⟨source, e⟩).derivations, Followed d) ∧
    (¬ RefusedAs source .misplacedTrailingPlaceholder → parse source = .ok ⟨source, e⟩ ∧
      ∀ d ∈ (Form.ofUsage ⟨source, e⟩).derivations, ∀ before f after,
        d = before ++ f :: after → f.shape = .rest → after = []) := by
  have hnone := trailingError?_eq_none_iff_followed h
  rw [h.refusedAs_iff]
  constructor
  · rw [ne_eq, hnone, not_and_or, Nat.not_le]
    push Not
    rfl
  · intro hok
    rw [not_not] at hok
    have hread := h.read_eq
    rw [hok] at hread
    refine ⟨parse_eq_ok_iff.mpr hread, fun d hd before f after hsplit hrest => ?_⟩
    by_contra hne
    exact (hnone.mp hok).2 d hd ⟨before, f, after, hsplit, hrest, hne⟩

theorem refused_as_misplaced_skippable :
    ∃ ts e d, Writes "[<a...>] [<b>]" ts e ∧
      d ∈ (Form.ofUsage ⟨"[<a...>] [<b>]", e⟩).derivations ∧ Followed d ∧
      RefusedAs "[<a...>] [<b>]" .misplacedTrailingPlaceholder := by
  let e : Term := .sequence [.optional (.trailing "a" 1) 0, .optional (.placeholder "b" 10) 9] 0
  obtain ⟨ts, h⟩ : ∃ ts, Writes "[<a...>] [<b>]" ts e :=
    exists_writes_iff.mpr ⟨[⟨.mark .openOptional, 0⟩, ⟨.trailing "a", 1⟩,
      ⟨.mark .closeOptional, 7⟩, ⟨.mark .openOptional, 9⟩, ⟨.placeholder "b", 10⟩,
      ⟨.mark .closeOptional, 13⟩, ⟨.finish, 14⟩], by cbv, by cbv⟩
  have hd : [⟨.numbered "a" false 0, .rest⟩, ⟨.numbered "b" false 0, .word⟩] ∈
      (Form.ofUsage ⟨"[<a...>] [<b>]", e⟩).derivations := List.mem_cons_self
  have hfollowed : Followed [⟨.numbered "a" false 0, .rest⟩, ⟨.numbered "b" false 0, .word⟩] :=
    ⟨[], _, _, rfl, rfl, List.cons_ne_nil _ _⟩
  exact ⟨ts, e, _, h, hd, hfollowed, (refused_as_misplaced_iff h).1.mpr (Or.inr ⟨_, hd, hfollowed⟩)⟩

end

end ChatCommands.Usage

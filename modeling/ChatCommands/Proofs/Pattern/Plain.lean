import ChatCommands.Proofs.Pattern.Form
import ChatCommands.Proofs.Pattern.Outcome
import ChatCommands.Proofs.Text.Words

/-!
# Kinds of usages

A usage is plain if no part that may be empty stands right below an optional term or in
alternatives, and its literals neither start nor end with a blank. A usage goes word by word if each
of its literals and placeholders takes one word.
-/

namespace ChatCommands

/-! ### Terms that may be empty -/

namespace Term

mutual
/-- Whether a term may be absent as a whole. -/
def nullable : Term → Bool
  | literal .. | placeholder .. | trailing .. => false
  | sequence terms _ => allNullable terms
  | alternatives branches _ => anyNullable branches
  | optional .. => true

/-- Whether each of some terms may be absent. -/
def allNullable : List Term → Bool
  | [] => true
  | t :: ts => t.nullable && allNullable ts

/-- Whether one of some terms may be absent. -/
def anyNullable : List Term → Bool
  | [] => false
  | t :: ts => t.nullable || anyNullable ts
end

/-- Terms that may be absent stand neither right below an optional term nor in alternatives, and
literals neither start nor end with a blank. -/
def Plain : Term → Prop
  | literal text _ => Text.Trimmed text.toList
  | alternatives branches _ => anyNullable branches = false
  | optional child _ => child.nullable = false
  | _ => True

instance : (t : Term) → Decidable t.Plain
  | literal text _ => inferInstanceAs (Decidable (Text.Trimmed text.toList))
  | placeholder .. | trailing .. | sequence .. => inferInstanceAs (Decidable True)
  | alternatives branches _ => inferInstanceAs (Decidable (anyNullable branches = false))
  | optional child _ => inferInstanceAs (Decidable (child.nullable = false))

/-- Literals neither start nor end with a blank. -/
def Flush : Term → Prop
  | literal text _ => Text.Trimmed text.toList
  | _ => True

/-- Each literal and each placeholder takes one word: literals hold no blank, and nothing takes the
rest of the input. -/
def Wordwise : Term → Prop
  | literal text _ => ∀ c ∈ text.toList, Text.isSolid c
  | trailing .. => False
  | _ => True

instance : (t : Term) → Decidable t.Flush
  | literal text _ => inferInstanceAs (Decidable (Text.Trimmed text.toList))
  | placeholder .. | trailing .. | sequence .. | alternatives .. | optional .. =>
    inferInstanceAs (Decidable True)

instance : (t : Term) → Decidable t.Wordwise
  | literal text _ => decidable_of_iff (text.toList.all Text.isSolid = true) List.all_eq_true
  | trailing .. => inferInstanceAs (Decidable False)
  | placeholder .. | sequence .. | alternatives .. | optional .. =>
    inferInstanceAs (Decidable True)

end Term

namespace Pattern

namespace Form

mutual
/-- Whether a form may capture nothing. -/
def nullable : Form → Bool
  | field _ => false
  | sequence parts => allNullable parts
  | alternatives branches => anyNullable branches
  | optional _ => true

/-- Whether each of some forms may capture nothing. -/
def allNullable : List Form → Bool
  | [] => true
  | f :: fs => f.nullable && allNullable fs

/-- Whether one of some forms may capture nothing. -/
def anyNullable : List Form → Bool
  | [] => false
  | f :: fs => f.nullable || anyNullable fs
end

lemma ne_optional {f : Form} (hf : f.nullable = false) : ∀ b, f ≠ .optional b := by
  rintro b rfl
  cases hf

mutual
lemma nullable_ofTerm (t : Term) (seen : Keys) : (ofTerm t seen).1.nullable = t.nullable := by
  match t with
  | .literal .. | .placeholder .. | .trailing .. | .optional .. => rfl
  | .sequence ts _ => exact allNullable_ofTerms ts seen
  | .alternatives ts _ => exact anyNullable_ofTerms ts seen

lemma allNullable_ofTerms (ts : List Term) (seen : Keys) :
    allNullable (ofTerms ts seen).1 = Term.allNullable ts := by
  match ts with
  | [] => rfl
  | t :: ts =>
    rw [ofTerms, allNullable, Term.allNullable, nullable_ofTerm t, allNullable_ofTerms ts]

lemma anyNullable_ofTerms (ts : List Term) (seen : Keys) :
    anyNullable (ofTerms ts seen).1 = Term.anyNullable ts := by
  match ts with
  | [] => rfl
  | t :: ts =>
    rw [ofTerms, anyNullable, Term.anyNullable, nullable_ofTerm t, anyNullable_ofTerms ts]
end

/-- What holds of every form of a plain usage, apart from the forms in it. -/
def Plain : Form → Prop
  | field f => ∀ text, f.shape = .exact text → text ≠ "" ∧ Text.Trimmed text.toList
  | sequence parts => ∀ f ∈ parts, f.isSequence = false
  | alternatives branches => branches ≠ [] ∧ anyNullable branches = false
  | optional body => body.nullable = false

lemma plain_ofTerm {t : Term} (hwf : t.WellFormed) (hplain : t.Plain) (seen : Keys) :
    (ofTerm t seen).1.Plain := by
  have hform := wellFormed_ofTerm hwf seen
  match t with
  | .literal text _ =>
    intro text' heq
    cases heq
    exact ⟨hwf, hplain⟩
  | .placeholder .. | .trailing .. => exact fun text heq => by cases heq
  | .sequence .. => exact hform
  | .alternatives ts _ => exact ⟨hform, (anyNullable_ofTerms ts seen).trans hplain⟩
  | .optional child _ => exact (nullable_ofTerm child seen).trans hplain

/-- The forms of a plain usage are plain. -/
lemma plain_of_read {source : String} {u : Usage} (hread : Usage.read source = .ok u)
    (h : ∀ t ∈ u.expression.walk, t.Plain) : ∀ f ∈ (ofUsage u).walk, f.Plain := by
  intro f hf
  obtain ⟨t, ht, seen, rfl⟩ := exists_term_of_mem_walk _ _ hf
  exact plain_ofTerm (Usage.wellFormed_of_read hread t ht) (h t ht) seen

/-- In a usage that goes word by word each field captures a word. -/
lemma isWord_of_fits {source : String} {u : Usage} (hread : Usage.read source = .ok u)
    (hwords : ∀ t ∈ u.expression.walk, t.Wordwise) {f : Field} (hf : f ∈ (ofUsage u).fields)
    {v : List Char} (hv : f.shape.Fits v) : Text.IsWord v := by
  rcases exists_term_of_mem_fields hf with ⟨text, p, ht, hshape⟩ | ⟨name, p, ht, hshape⟩ |
    ⟨name, p, ht, hshape⟩
  · rw [hshape] at hv
    obtain rfl := hv
    refine ⟨fun hnil => ?_, hwords _ ht⟩
    exact Usage.wellFormed_of_read hread _ ht (String.toList_eq_nil_iff.mp hnil)
  · rwa [hshape] at hv
  · exact (hwords _ ht).elim

/-- A part of a plain sequence either captures something or is optional. -/
lemma required_or_optional {f : Form} (hplain : f.Plain) (hflat : f.isSequence = false) :
    f.nullable = false ∨ ∃ b, f = optional b ∧ b.nullable = false := by
  match f with
  | .field f => exact Or.inl rfl
  | .sequence ps => cases hflat
  | .alternatives bs => exact Or.inl hplain.2
  | .optional b => exact Or.inr ⟨b, rfl, hplain⟩

end Form

end Pattern

end ChatCommands

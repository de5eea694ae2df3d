import ChatCommands.Usage.Parser
import Mathlib.Tactic.Common

/-!
# Where trailing placeholders stand

The reader of usages refuses a trailing placeholder unless it is the last term of every sequence
that holds it, at whatever depth, and refuses a second one.

Main statement: `trailingError?_eq_none_iff`.
-/

namespace ChatCommands

namespace Term

/-- Whether a term takes the rest of the input. -/
def isTrailing : Term → Bool
  | trailing .. => true
  | _ => false

/-- No term within takes the rest of the input. -/
def NoTrailing (t : Term) : Prop := ∀ s ∈ t.walk, s.isTrailing = false

/-- In a sequence, only the last term may hold a trailing placeholder. -/
def HoldsTrailingLast : Term → Prop
  | sequence terms _ => ∀ t ∈ terms.dropLast, t.NoTrailing
  | _ => True

/-- A trailing placeholder is last in every sequence that holds it. -/
def TrailingLast (t : Term) : Prop := ∀ s ∈ t.walk, s.HoldsTrailingLast

section
variable {P : Term → Prop} {t : Term} {ts : List Term} {p : Nat}

lemma forall_mem_walkAll : (∀ s ∈ walkAll ts, P s) ↔ ∀ t ∈ ts, ∀ s ∈ t.walk, P s := by
  induction ts with
  | nil => simp [walkAll]
  | cons t ts ih => simp [walkAll, or_imp, forall_and, ih]

lemma forall_mem_walk_sequence : (∀ s ∈ (sequence ts p).walk, P s) ↔
    P (sequence ts p) ∧ ∀ t ∈ ts, ∀ s ∈ t.walk, P s := by
  rw [walk, List.forall_mem_cons, forall_mem_walkAll]

lemma forall_mem_walk_alternatives : (∀ s ∈ (alternatives ts p).walk, P s) ↔
    P (alternatives ts p) ∧ ∀ t ∈ ts, ∀ s ∈ t.walk, P s := by
  rw [walk, List.forall_mem_cons, forall_mem_walkAll]

lemma forall_mem_walk_optional : (∀ s ∈ (optional t p).walk, P s) ↔
    P (optional t p) ∧ ∀ s ∈ t.walk, P s := by
  rw [walk, List.forall_mem_cons]

end

/-- Without trailing placeholders none is in the wrong place. -/
lemma NoTrailing.trailingLast {t : Term} (h : t.NoTrailing) : t.TrailingLast := by
  match t with
  | literal .. | placeholder .. | trailing .. => simp [TrailingLast, walk, HoldsTrailingLast]
  | sequence ts p =>
    have hts := (forall_mem_walk_sequence.mp h).2
    refine forall_mem_walk_sequence.mpr ⟨fun t ht => hts t (List.dropLast_subset ts ht), ?_⟩
    exact fun t ht => NoTrailing.trailingLast (hts t ht)
  | alternatives ts p =>
    have hts := (forall_mem_walk_alternatives.mp h).2
    exact forall_mem_walk_alternatives.mpr
      ⟨trivial, fun t ht => NoTrailing.trailingLast (hts t ht)⟩
  | optional t p =>
    have ht := (forall_mem_walk_optional.mp h).2
    exact forall_mem_walk_optional.mpr ⟨trivial, NoTrailing.trailingLast ht⟩

end Term

namespace Usage

open Term

variable {final : Bool} {t : Term}

/-! ### In the middle of a usage -/

mutual
lemma misplaced?_false_eq_none_iff (t : Term) : misplaced? false t = none ↔ t.NoTrailing := by
  match t with
  | .literal .. | .placeholder .. => simp [misplaced?, NoTrailing, walk, isTrailing]
  | .trailing .. => simp [misplaced?, NoTrailing, walk, isTrailing]
  | .sequence ts p =>
    rw [misplaced?, misplacedInSequence?_false_eq_none_iff ts, NoTrailing, forall_mem_walk_sequence]
    exact (and_iff_right rfl).symm
  | .alternatives ts p =>
    rw [misplaced?, misplacedInBranch?_false_eq_none_iff ts, NoTrailing,
      forall_mem_walk_alternatives]
    exact (and_iff_right rfl).symm
  | .optional t p =>
    rw [misplaced?, misplaced?_false_eq_none_iff t, NoTrailing, NoTrailing,
      forall_mem_walk_optional]
    exact (and_iff_right rfl).symm

lemma misplacedInSequence?_false_eq_none_iff (ts : List Term) :
    misplacedInSequence? false ts = none ↔ ∀ t ∈ ts, t.NoTrailing := by
  match ts with
  | [] => simp [misplacedInSequence?]
  | t :: ts =>
    rw [misplacedInSequence?, Bool.false_and, Option.orElse_eq_orElse, Option.orElse_eq_or,
      Option.or_eq_none_iff, misplaced?_false_eq_none_iff t,
      misplacedInSequence?_false_eq_none_iff ts, List.forall_mem_cons]

lemma misplacedInBranch?_false_eq_none_iff (ts : List Term) :
    misplacedInBranch? false ts = none ↔ ∀ t ∈ ts, t.NoTrailing := by
  match ts with
  | [] => simp [misplacedInBranch?]
  | t :: ts =>
    rw [misplacedInBranch?, Option.orElse_eq_orElse, Option.orElse_eq_or, Option.or_eq_none_iff,
      misplaced?_false_eq_none_iff t, misplacedInBranch?_false_eq_none_iff ts,
      List.forall_mem_cons]
end

/-! ### At the end of a usage -/

mutual
lemma misplaced?_true_eq_none_iff (t : Term) : misplaced? true t = none ↔ t.TrailingLast := by
  match t with
  | .literal .. | .placeholder .. | .trailing .. =>
    simp [misplaced?, TrailingLast, walk, HoldsTrailingLast]
  | .sequence ts p =>
    rw [misplaced?, misplacedInSequence?_true_eq_none_iff ts, TrailingLast,
      forall_mem_walk_sequence]
    rfl
  | .alternatives ts p =>
    rw [misplaced?, misplacedInBranch?_true_eq_none_iff ts, TrailingLast,
      forall_mem_walk_alternatives]
    exact (and_iff_right trivial).symm
  | .optional t p =>
    rw [misplaced?, misplaced?_true_eq_none_iff t, TrailingLast, TrailingLast,
      forall_mem_walk_optional]
    exact (and_iff_right trivial).symm

lemma misplacedInSequence?_true_eq_none_iff (ts : List Term) : misplacedInSequence? true ts = none ↔
    (∀ t ∈ ts.dropLast, t.NoTrailing) ∧ ∀ t ∈ ts, t.TrailingLast := by
  match ts with
  | [] => simp [misplacedInSequence?]
  | [t] =>
    rw [misplacedInSequence?, misplacedInSequence?, List.isEmpty_nil, Bool.and_true,
      Option.orElse_eq_orElse, Option.orElse_eq_or, Option.or_eq_none_iff,
      misplaced?_true_eq_none_iff t]
    simp
  | t :: u :: ts =>
    rw [misplacedInSequence?, List.isEmpty_cons, Bool.and_false, Option.orElse_eq_orElse,
      Option.orElse_eq_or, Option.or_eq_none_iff, misplaced?_false_eq_none_iff,
      misplacedInSequence?_true_eq_none_iff (u :: ts), List.dropLast_cons_cons,
      List.forall_mem_cons (a := t) (l := u :: ts), List.forall_mem_cons (a := t), and_assoc]
    refine and_congr_right fun ht => and_congr_right fun _ => ?_
    exact (and_iff_right ht.trailingLast).symm

lemma misplacedInBranch?_true_eq_none_iff (ts : List Term) :
    misplacedInBranch? true ts = none ↔ ∀ t ∈ ts, t.TrailingLast := by
  match ts with
  | [] => simp [misplacedInBranch?]
  | t :: ts =>
    rw [misplacedInBranch?, Option.orElse_eq_orElse, Option.orElse_eq_or, Option.or_eq_none_iff,
      misplaced?_true_eq_none_iff t, misplacedInBranch?_true_eq_none_iff ts,
      List.forall_mem_cons]
end

/-! ### What is refused -/

mutual
/-- A trailing placeholder in the wrong place is one of the expression. -/
lemma exists_of_misplaced? {final : Bool} {e : SyntaxError} (t : Term)
    (h : misplaced? final t = some e) :
    ∃ name p, .trailing name p ∈ t.walk ∧ e = .trailingNotLast p name := by
  match t with
  | .literal .. | .placeholder .. => cases h
  | .trailing name p =>
    rw [misplaced?] at h
    split at h
    · cases h
    · exact ⟨name, p, List.mem_singleton_self _, (Option.some.inj h).symm⟩
  | .sequence ts p =>
    obtain ⟨name, q, hmem, he⟩ := exists_of_misplacedInSequence? ts h
    exact ⟨name, q, List.mem_cons_of_mem _ hmem, he⟩
  | .alternatives ts p =>
    obtain ⟨name, q, hmem, he⟩ := exists_of_misplacedInBranch? ts h
    exact ⟨name, q, List.mem_cons_of_mem _ hmem, he⟩
  | .optional t p =>
    obtain ⟨name, q, hmem, he⟩ := exists_of_misplaced? t h
    exact ⟨name, q, List.mem_cons_of_mem _ hmem, he⟩

lemma exists_of_misplacedInSequence? {final : Bool} {e : SyntaxError} (ts : List Term)
    (h : misplacedInSequence? final ts = some e) :
    ∃ name p, .trailing name p ∈ walkAll ts ∧ e = .trailingNotLast p name := by
  match ts with
  | [] => cases h
  | t :: ts =>
    rw [misplacedInSequence?, Option.orElse_eq_orElse, Option.orElse_eq_or,
      Option.or_eq_some_iff] at h
    rcases h with h | ⟨-, h⟩
    · obtain ⟨name, p, hmem, he⟩ := exists_of_misplaced? t h
      exact ⟨name, p, List.mem_append_left _ hmem, he⟩
    · obtain ⟨name, p, hmem, he⟩ := exists_of_misplacedInSequence? ts h
      exact ⟨name, p, List.mem_append_right _ hmem, he⟩

lemma exists_of_misplacedInBranch? {final : Bool} {e : SyntaxError} (ts : List Term)
    (h : misplacedInBranch? final ts = some e) :
    ∃ name p, .trailing name p ∈ walkAll ts ∧ e = .trailingNotLast p name := by
  match ts with
  | [] => cases h
  | t :: ts =>
    rw [misplacedInBranch?, Option.orElse_eq_orElse, Option.orElse_eq_or,
      Option.or_eq_some_iff] at h
    rcases h with h | ⟨-, h⟩
    · obtain ⟨name, p, hmem, he⟩ := exists_of_misplaced? t h
      exact ⟨name, p, List.mem_append_left _ hmem, he⟩
    · obtain ⟨name, p, hmem, he⟩ := exists_of_misplacedInBranch? ts h
      exact ⟨name, p, List.mem_append_right _ hmem, he⟩
end

/-! ### In all -/

lemma length_trailingPlaces (t : Term) :
    (trailingPlaces t).length = (t.walk.filter isTrailing).length := by
  rw [trailingPlaces]
  induction t.walk with
  | nil => rfl
  | cons s ts ih => cases s <;> simp [isTrailing, List.filter_cons, ih]

/-- The trailing placeholders of an expression are in order just if each is last where it stands and
there is one at most. -/
lemma trailingError?_eq_none_iff :
    trailingError? t = none ↔ t.TrailingLast ∧ (t.walk.filter isTrailing).length ≤ 1 := by
  rw [← length_trailingPlaces, ← misplaced?_true_eq_none_iff, trailingError?]
  cases misplaced? true t with
  | some e => simp
  | none => rcases trailingPlaces t with _ | ⟨first, _ | ⟨second, places⟩⟩ <;> simp

/-- What is wrong with the trailing placeholders of an expression is about one of them. -/
lemma exists_of_trailingError? {e : SyntaxError} (h : trailingError? t = some e) :
    ∃ name p, .trailing name p ∈ t.walk ∧
      (e = .trailingNotLast p name ∨ e = .secondTrailing p name) := by
  rw [trailingError?] at h
  split at h
  · rename_i e' hmisplaced
    obtain ⟨name, p, hmem, he⟩ := exists_of_misplaced? t hmisplaced
    exact ⟨name, p, hmem, Or.inl ((Option.some.inj h).symm.trans he)⟩
  · split at h
    · rename_i first p name later hplaces
      have hmem : (p, name) ∈ trailingPlaces t := by simp [hplaces]
      obtain ⟨s, hs, hplace⟩ := List.mem_filterMap.mp hmem
      split at hplace
      · cases hplace
        exact ⟨name, p, hs, Or.inr (Option.some.inj h).symm⟩
      · cases hplace
    · cases h

lemma code_of_trailingError? {e : SyntaxError} (h : trailingError? t = some e) :
    e.code = .misplacedTrailingPlaceholder := by
  obtain ⟨name, p, -, rfl | rfl⟩ := exists_of_trailingError? h <;> rfl

end Usage

end ChatCommands

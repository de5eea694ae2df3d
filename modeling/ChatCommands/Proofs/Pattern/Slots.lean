import ChatCommands.Proofs.Decimal.Written
import ChatCommands.Proofs.Pattern.Form
import Mathlib.Data.List.Nodup

/-!
# Slots

The slots of a usage are those of its literals and placeholders, left to right. Slots are numbered
among those of the same key, and a group name tells key and number, so that all groups are distinct
although different names may come to one key.

Main statements: `numberAll_labels`, `nodup_groups`.
-/

namespace ChatCommands

/-! ### Labels -/

/-- The name of a slot and whether it is that of a literal. -/
def Slot.label (s : Slot) : String × Bool := (s.name, s.isLiteral)

namespace Term

/-- The label of the slot of a literal or a placeholder. -/
def label? : Term → Option (String × Bool)
  | literal text _ => some (text, true)
  | placeholder name _ | trailing name _ => some (name, false)
  | sequence .. | alternatives .. | optional .. => none

/-- The labels of the literals and placeholders in a term, left to right. -/
abbrev labels (t : Term) : List (String × Bool) := t.walk.filterMap label?

/-- The labels of several terms. -/
abbrev labelsAll (ts : List Term) : List (String × Bool) := (walkAll ts).filterMap label?

lemma labelsAll_cons (t : Term) (ts : List Term) :
    labelsAll (t :: ts) = t.labels ++ labelsAll ts := by
  rw [labelsAll, walkAll, List.filterMap_append]

end Term

namespace Pattern

/-! ### Numbering -/

/-- The slots of labels, where those of the keys `seen` were made before. -/
def numberAll : List (String × Bool) → Keys → List Slot × Keys
  | [], seen => ([], seen)
  | (name, isLiteral) :: labels, seen =>
    let (slot, seen) := newSlot name isLiteral seen
    let (slots, seen) := numberAll labels seen
    (slot :: slots, seen)

lemma numberAll_cons (name : String) (isLiteral : Bool) (labels : List (String × Bool))
    (seen : Keys) :
    numberAll ((name, isLiteral) :: labels) seen =
      (.numbered name isLiteral (seen.count (Slot.key name isLiteral)) ::
        (numberAll labels (Slot.key name isLiteral :: seen)).1,
        (numberAll labels (Slot.key name isLiteral :: seen)).2) := rfl

lemma numberAll_append (labels more : List (String × Bool)) (seen : Keys) :
    numberAll (labels ++ more) seen =
      ((numberAll labels seen).1 ++ (numberAll more (numberAll labels seen).2).1,
        (numberAll more (numberAll labels seen).2).2) := by
  induction labels generalizing seen with
  | nil => rfl
  | cons label labels ih =>
    rw [List.cons_append, numberAll_cons, numberAll_cons, ih, List.cons_append]

section
open Form

mutual
/-- A term has the slots of its labels. -/
lemma numberAll_labels (t : Term) (seen : Keys) :
    numberAll t.labels seen = ((ofTerm t seen).1.slots, (ofTerm t seen).2) := by
  match t with
  | .literal text _ => rfl
  | .placeholder name _ => rfl
  | .trailing name _ => rfl
  | .sequence terms _ =>
    rw [Term.labels, Term.walk, List.filterMap_cons_none rfl, ofTerm]
    exact numberAll_labelsAll terms seen
  | .alternatives branches _ =>
    rw [Term.labels, Term.walk, List.filterMap_cons_none rfl, ofTerm]
    exact numberAll_labelsAll branches seen
  | .optional child _ =>
    rw [Term.labels, Term.walk, List.filterMap_cons_none rfl, ofTerm]
    exact numberAll_labels child seen

lemma numberAll_labelsAll (ts : List Term) (seen : Keys) :
    numberAll (Term.labelsAll ts) seen =
      (slotsAll (ofTerms ts seen).1, (ofTerms ts seen).2) := by
  match ts with
  | [] => rfl
  | t :: ts =>
    rw [Term.labelsAll_cons, numberAll_append, numberAll_labels t, numberAll_labelsAll ts, ofTerms,
      slotsAll_cons]
end

end

/-! ### Groups -/

lemma isGroupChar_of_mem_key {name : String} {isLiteral : Bool} {c : Char}
    (h : c ∈ Slot.key name isLiteral) : Slot.isGroupChar c = true := by
  rw [Slot.key, List.mem_append] at h
  rcases h with h | h
  · exact (List.mem_filter.mp h).2
  · cases isLiteral with
    | false => simp at h
    | true =>
      have : ∀ d ∈ "Literal".toList, Slot.isGroupChar d = true :=
        List.all_eq_true.mp (by decide)
      exact this c h

/-- The group name tells key and number of a slot. -/
lemma group_numbered_inj {name name' : String} {isLiteral isLiteral' : Bool} {i i' : Nat}
    (h : (Slot.numbered name isLiteral i).group = (Slot.numbered name' isLiteral' i').group) :
    Slot.key name isLiteral = Slot.key name' isLiteral' ∧ i = i' := by
  have hgroup : Slot.key name isLiteral ++ '_' :: digits i
      = Slot.key name' isLiteral' ++ '_' :: digits i' := by
    simpa [Slot.numbered] using congrArg String.toList h
  have htake : ∀ n l j, (Slot.key n l ++ '_' :: digits j).takeWhile Slot.isGroupChar
      = Slot.key n l := by
    intro n l j
    rw [List.takeWhile_append_of_pos fun c hc => isGroupChar_of_mem_key hc]
    simp [Slot.isGroupChar, isDigit]
  have hkey := congrArg (List.takeWhile Slot.isGroupChar) hgroup
  rw [htake, htake] at hkey
  rw [hkey] at hgroup
  exact ⟨hkey, digits_injective (by simpa using hgroup)⟩

variable {labels : List (String × Bool)} {seen : Keys} {s : Slot}

/-- A slot of labels is numbered, behind those of its key that were made before. -/
lemma exists_numbered (h : s ∈ (numberAll labels seen).1) :
    ∃ name isLiteral i, s = .numbered name isLiteral i ∧
      seen.count (Slot.key name isLiteral) ≤ i := by
  induction labels generalizing seen with
  | nil => exact absurd h List.not_mem_nil
  | cons label labels ih =>
    rcases List.mem_cons.mp h with rfl | h
    · exact ⟨_, _, _, rfl, Nat.le_refl _⟩
    · obtain ⟨name, isLiteral, i, rfl, hle⟩ := ih h
      exact ⟨name, isLiteral, i, rfl, Nat.le_trans List.count_le_count_cons hle⟩

/-- No two slots have the same group. -/
lemma nodup_groups (labels : List (String × Bool)) (seen : Keys) :
    ((numberAll labels seen).1.map Slot.group).Nodup := by
  induction labels generalizing seen with
  | nil => exact List.nodup_nil
  | cons label labels ih =>
    refine List.nodup_cons.mpr ⟨fun hmem => ?_, ih _⟩
    obtain ⟨s, hs, hgroup⟩ := List.mem_map.mp hmem
    obtain ⟨name, isLiteral, i, rfl, hle⟩ := exists_numbered hs
    -- the number of a later slot of the same key is greater
    obtain ⟨hkey, rfl⟩ := group_numbered_inj hgroup
    rw [hkey, List.count_cons_self] at hle
    omega

lemma map_label_numberAll (labels : List (String × Bool)) (seen : Keys) :
    (numberAll labels seen).1.map Slot.label = labels := by
  induction labels generalizing seen with
  | nil => rfl
  | cons label labels ih => exact congrArg (label :: ·) (ih _)

/-! ### The slots of a usage -/

/-- The fields of a usage have the slots of its labels. -/
lemma Form.slots_ofUsage (u : Usage) :
    (Form.ofUsage u).slots = (numberAll u.expression.labels []).1 := by
  rw [numberAll_labels]
  rfl

/-- No two fields of a usage share a slot. -/
lemma Form.nodup_slots_ofUsage (u : Usage) : (Form.ofUsage u).slots.Nodup := by
  rw [slots_ofUsage]
  exact (nodup_groups _ _).of_map Slot.group

end Pattern

end ChatCommands

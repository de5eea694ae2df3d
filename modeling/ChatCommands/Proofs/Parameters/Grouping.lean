import ChatCommands.Proofs.Parameters.Fixup

/-!
# Captures by name

Parameters group what was captured by its names: they stand in the order of their first captures, a
name that was captured once has its value as it is, also where the value is a list, and a name that
was captured several times has the list of its values. Collecting value by value comes to the same,
since what is held for a name that was captured several times is told apart from a list that was
captured once.

Main statements: `groups_iff`, `collect_eq_held`.
-/

namespace ChatCommands.Parameters

variable {pairs : List (String × Value)} {p : Parameters} {name : String}

/-! ### Grouping -/

/-- The parameters hold what was captured, by names. -/
structure Groups (pairs : List (String × Value)) (p : Parameters) : Prop where
  names_eq : p.names = (pairs.map Prod.fst).eraseDups
  once : ∀ name v, valuesOf pairs name = [v] → p.get? (some name) = some v
  several : ∀ name, 2 ≤ (valuesOf pairs name).length →
    p.get? (some name) = some (.list (valuesOf pairs name))
  others : ∀ name, name ∉ pairs.map Prod.fst → p.get? (some name) = none
  walks_eq : p.walks = 0

lemma valuesOf_eq_nil_iff : valuesOf pairs name = [] ↔ name ∉ pairs.map Prod.fst :=
  Table.valuesAt_eq_nil_iff

lemma groups_collect (pairs : List (String × Value)) : Groups pairs (collect pairs) where
  names_eq := keys_collect pairs
  once name v h := by
    show (collect pairs).values.get? name = _
    rw [get?_collect, h]
    rfl
  several name h := by
    show (collect pairs).values.get? name = _
    rw [get?_collect]
    match valuesOf pairs name, h with
    | v :: w :: vs, _ => rfl
  others name h := by
    show (collect pairs).values.get? name = _
    rw [get?_collect, valuesOf_eq_nil_iff.mpr h]
    rfl
  walks_eq := rfl

lemma Groups.get?_eq (h : Groups pairs p) (name : String) :
    p.values.get? name =
      if valuesOf pairs name = [] then none else some (ungrouped (valuesOf pairs name)) := by
  match hvalues : valuesOf pairs name with
  | [] => exact h.others name (valuesOf_eq_nil_iff.mp hvalues)
  | [v] => exact h.once name v hvalues
  | v :: w :: vs =>
    have hseveral := h.several name (by simp [hvalues])
    rw [hvalues] at hseveral
    exact hseveral

/-- Captures have one grouping, and it is what they are collected to. -/
lemma groups_iff : Groups pairs p ↔ p = collect pairs := by
  constructor
  · intro h
    obtain ⟨values, walks⟩ := p
    obtain rfl : walks = 0 := h.walks_eq
    have hvalues : values = (collect pairs).values := by
      refine Table.eq_of_get?_eq ?_ (nodup_keys_collect pairs) fun name => ?_
      · rw [keys_collect]
        exact h.names_eq
      · rw [get?_collect]
        exact h.get?_eq name
    rw [hvalues]
    rfl
  · rintro rfl
    exact groups_collect pairs

/-! ### Collecting value by value -/

/-- What is held for a name: a value, or the values of a name that was captured several times. -/
inductive Held
  | single (v : Value)
  | repeated (vs : List Value)

namespace Held

/-- What is held for a name that is captured again. -/
def add : Held → Value → Held
  | single w, v => repeated [w, v]
  | repeated vs, v => repeated (vs ++ [v])

/-- The value that a name has in the end. -/
def value : Held → Value
  | single v => v
  | repeated vs => .list vs

/-- What is held after several values. -/
def ofValues : List Value → Held
  | [v] => single v
  | vs => repeated vs

lemma value_ofValues (vs : List Value) : (ofValues vs).value = ungrouped vs := by
  match vs with
  | [] | [_] | _ :: _ :: _ => rfl

lemma add_ofValues {vs : List Value} (h : vs ≠ []) (v : Value) :
    (ofValues vs).add v = ofValues (vs ++ [v]) := by
  match vs with
  | [_] | _ :: _ :: _ => rfl

end Held

/-- What is held for the names when one more value is captured. -/
def hold (t : Table String Held) (e : String × Value) : Table String Held :=
  t.set e.1 <|
    match t.get? e.1 with
    | none => .single e.2
    | some h => h.add e.2

/-- What is held for the names in the end. -/
def held (pairs : List (String × Value)) : Table String Held := pairs.foldl hold .empty

lemma held_eq (pairs : List (String × Value)) :
    held pairs = ⟨(grouped pairs).entries.map fun e => (e.1, Held.ofValues e.2)⟩ := by
  induction pairs using List.reverseRecOn with
  | nil => rfl
  | append_singleton pairs e ih =>
    obtain ⟨m, v⟩ := e
    have hheld : (match (held pairs).get? m with
        | none => Held.single v
        | some h => h.add v) =
          Held.ofValues (((grouped pairs).get? m).getD [] ++ [v]) := by
      rw [ih, Table.get?_map, get?_grouped]
      by_cases hnil : valuesOf pairs m = []
      · simp [hnil, Held.ofValues]
      · simp [hnil, Held.add_ofValues hnil]
    rw [held, List.foldl_append, ← held, List.foldl_cons, List.foldl_nil, hold, hheld, ih,
      grouped_concat, Table.set, Table.set, Table.map_setIn]

/-- Collecting value by value comes to the parameters of the captures. -/
lemma collect_eq_held (pairs : List (String × Value)) :
    collect pairs = ⟨⟨(held pairs).entries.map fun e => (e.1, e.2.value)⟩, 0⟩ := by
  rw [held_eq, collect, List.map_map]
  simp only [Function.comp_def, Held.value_ofValues]

/-- A list that was captured once is told apart from what was captured several times. -/
example :
    collect [("a", .list []), ("b", .list [.int 1]), ("a", .list [.int 2]), ("a", .bool false)] =
      ⟨⟨[("a", .list [.list [], .list [.int 2], .bool false]), ("b", .list [.int 1])]⟩, 0⟩ := rfl

end ChatCommands.Parameters

/-!
# Ordered tables

A table pairs keys with values and remembers the order in which the keys came in. Setting a key that
is present keeps its place.

Main statements: what `get?` answers after `set` and after `erase`, and the keys after `set`.
-/

namespace ChatCommands

/-- Keys with their values, in order of insertion. -/
structure Table (α β : Type) where
  entries : List (α × β)
  deriving Repr

namespace Table

variable {α β γ : Type} [BEq α]

/-- The table without entries. -/
def empty : Table α β := ⟨[]⟩

instance : Inhabited (Table α β) := ⟨empty⟩

/-- The keys, in order. -/
def keys (t : Table α β) : List α := t.entries.map Prod.fst

/-- The values, in order. -/
def values (t : Table α β) : List β := t.entries.map Prod.snd

/-- The number of entries. -/
def size (t : Table α β) : Nat := t.entries.length

/-- The value of a key. -/
def get? (t : Table α β) (a : α) : Option β := t.entries.lookup a

/-- Whether a key is present. -/
def contains (t : Table α β) (a : α) : Bool := (t.get? a).isSome

/-- Puts a value at a key in a list of entries. -/
def setIn (a : α) (b : β) : List (α × β) → List (α × β)
  | [] => [(a, b)]
  | (a', b') :: es => if a == a' then (a', b) :: es else (a', b') :: setIn a b es

/-- Puts a value at a key: in the key's place if it is present, else at the end. -/
def set (t : Table α β) (a : α) (b : β) : Table α β := ⟨setIn a b t.entries⟩

/-- Takes a key out. -/
def erase (t : Table α β) (a : α) : Table α β := ⟨t.entries.filter fun e => !(a == e.1)⟩

/-- The table of a list of pairs; of two pairs with one key the later gives the value. -/
def ofList (es : List (α × β)) : Table α β := es.foldl (fun t e => t.set e.1 e.2) empty

/-- The first table with the entries of the second set in it. -/
def merge (t u : Table α β) : Table α β := u.entries.foldl (fun t e => t.set e.1 e.2) t

/-- Whether two tables hold equal values at the same keys, in any order. -/
def agrees [BEq β] (t u : Table α β) : Bool :=
  t.size == u.size && t.entries.all fun e => (u.get? e.1).any (· == e.2)

/-! ### Laws -/

@[simp] theorem get?_empty (a : α) : (empty : Table α β).get? a = none := rfl

omit [BEq α] in
@[simp] theorem keys_empty : (empty : Table α β).keys = [] := rfl

variable [LawfulBEq α]

theorem lookup_setIn (es : List (α × β)) (a : α) (b : β) (k : α) :
    (setIn a b es).lookup k = if k == a then some b else es.lookup k := by
  induction es with
  | nil => cases h : k == a <;> simp [setIn, List.lookup_cons, h]
  | cons e es ih =>
    obtain ⟨a', b'⟩ := e
    by_cases ha : a = a'
    · subst ha
      cases h : k == a <;> simp [setIn, List.lookup_cons, h]
    · cases hk : k == a'
      · simp [setIn, List.lookup_cons, ha, hk, ih]
      · have : (k == a) = false := by
          rw [eq_of_beq hk]
          exact beq_false_of_ne fun h => ha h.symm
        simp [setIn, List.lookup_cons, ha, hk, this]

/-- After setting a key, that key has the new value and every other key what it had. -/
@[simp] theorem get?_set (t : Table α β) (a : α) (b : β) (k : α) :
    (t.set a b).get? k = if k == a then some b else t.get? k :=
  lookup_setIn t.entries a b k

/-- What is found after setting a key is the new value at that key, or what was found before at
another. -/
theorem get?_set_eq_some_iff {t : Table α β} {a k : α} {b c : β} :
    (t.set a b).get? k = some c ↔ k = a ∧ b = c ∨ k ≠ a ∧ t.get? k = some c := by
  by_cases h : k = a <;> simp [h]

theorem keys_setIn (es : List (α × β)) (a : α) (b : β) :
    (setIn a b es).map Prod.fst =
      if a ∈ es.map Prod.fst then es.map Prod.fst else es.map Prod.fst ++ [a] := by
  induction es with
  | nil => simp [setIn]
  | cons e es ih =>
    obtain ⟨a', b'⟩ := e
    by_cases ha : a = a'
    · simp [setIn, ha]
    · by_cases hm : a ∈ es.map Prod.fst <;> simp_all [setIn]

/-- Setting a key leaves the order of the keys and adds the key at the end if it is new. -/
theorem keys_set (t : Table α β) (a : α) (b : β) :
    (t.set a b).keys = if a ∈ t.keys then t.keys else t.keys ++ [a] :=
  keys_setIn t.entries a b

end Table

end ChatCommands

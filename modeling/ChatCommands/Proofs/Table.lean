import ChatCommands.Table
import Mathlib.Data.List.Induction
import Mathlib.Data.List.Nodup
import Mathlib.Tactic.Common

/-!
# Tables filled key by key

One value can be put at several keys. The keys of a table that is filled in this way stand in the
order in which they came first, so that the table is determined by what is found in it. Up to their
order, the entries of any table with every key once are. A table can gather all values that come for
a key.

Main statements: `get?_setAll`, `keys_setAll`, `filterMap_get?_keys`, `agrees_of_get?_eq`,
`eq_of_get?_eq`, `entries_gather`.
-/

namespace ChatCommands.Table

variable {α β : Type} [BEq α] [LawfulBEq α] {t : Table α β} {l as : List α} {a k : α} {b : β}

/-! ### Lists without repetitions -/

lemma eraseDups_concat (l : List α) (a : α) :
    (l ++ [a]).eraseDups = if a ∈ l then l.eraseDups else l.eraseDups ++ [a] := by
  rw [List.eraseDups_append]
  by_cases ha : a ∈ l <;> simp [List.removeAll, List.eraseDups_cons, ha]

lemma nodup_eraseDups (l : List α) : l.eraseDups.Nodup := by
  induction l using List.reverseRecOn with
  | nil => exact List.nodup_nil
  | append_singleton l a ih =>
    rw [eraseDups_concat]
    split
    case isTrue => exact ih
    case isFalse ha =>
      rw [← List.concat_eq_append]
      exact ih.concat fun hmem => ha (List.mem_eraseDups.mp hmem)

omit [LawfulBEq α] in
lemma get?_cons (a : α) (b : β) (entries : List (α × β)) (k : α) :
    (⟨(a, b) :: entries⟩ : Table α β).get? k =
      if k == a then some b else (⟨entries⟩ : Table α β).get? k := by
  cases hk : k == a <;> simp [get?, List.lookup_cons, hk]

lemma mem_keys_iff : k ∈ t.keys ↔ ∃ b, t.get? k = some b := by
  rw [← Option.isSome_iff_exists, get?, List.lookup_isSome_iff, keys, List.mem_map]
  exact exists_congr fun e => and_congr_right fun _ => by rw [beq_iff_eq, eq_comm]

lemma mem_values_of_get? (h : t.get? a = some b) : b ∈ t.values := by
  obtain ⟨before, after, hentries, -⟩ := List.lookup_eq_some_iff.mp h
  rw [values, hentries]
  simp

omit [LawfulBEq α] in
lemma mem_values_of_set {c : β} (h : c ∈ (t.set a b).values) : c = b ∨ c ∈ t.values := by
  obtain ⟨entries⟩ := t
  induction entries with
  | nil => exact Or.inl (List.mem_singleton.mp h)
  | cons e entries ih =>
    obtain ⟨a', b'⟩ := e
    simp only [set, setIn] at h
    split at h
    case isTrue =>
      rcases List.mem_cons.mp h with rfl | h
      · exact Or.inl rfl
      · exact Or.inr (List.mem_cons_of_mem _ h)
    case isFalse =>
      rcases List.mem_cons.mp h with rfl | h
      · exact Or.inr List.mem_cons_self
      · exact (ih h).imp_right (List.mem_cons_of_mem _)

/-- With every key once, what is found for the keys is what the table holds. -/
lemma filterMap_get?_keys (h : t.keys.Nodup) : t.keys.filterMap t.get? = t.values := by
  obtain ⟨entries⟩ := t
  induction entries with
  | nil => rfl
  | cons e entries ih =>
    obtain ⟨a, b⟩ := e
    obtain ⟨hnot, hrest⟩ := List.nodup_cons.mp h
    have hfirst : (⟨(a, b) :: entries⟩ : Table α β).get? a = some b := by simp [get?_cons]
    have hlater : ∀ k ∈ (⟨entries⟩ : Table α β).keys,
        (⟨(a, b) :: entries⟩ : Table α β).get? k = (⟨entries⟩ : Table α β).get? k := by
      intro k hk
      have hne : k ≠ a := fun heq => hnot (heq ▸ hk)
      simp [get?_cons, hne]
    show (a :: (⟨entries⟩ : Table α β).keys).filterMap _ = b :: (⟨entries⟩ : Table α β).values
    rw [List.filterMap_cons_some hfirst, List.filterMap_congr hlater, ih hrest]

/-- Putting a value where it is already changes nothing. -/
lemma set_eq_self (h : t.get? a = some b) : t.set a b = t := by
  obtain ⟨entries⟩ := t
  show (⟨setIn a b entries⟩ : Table α β) = ⟨entries⟩
  congr 1
  induction entries with
  | nil => cases h
  | cons e entries ih =>
    obtain ⟨a', b'⟩ := e
    rw [get?_cons] at h
    by_cases ha : a = a'
    · subst ha
      obtain rfl : b' = b := by simpa using h
      simp [setIn]
    · have hrest : (⟨entries⟩ : Table α β).get? a = some b := by simpa [ha] using h
      simp [setIn, ha, ih hrest]

lemma get?_erase (t : Table α β) (a k : α) :
    (t.erase a).get? k = if k == a then none else t.get? k := by
  obtain ⟨entries⟩ := t
  show (⟨entries.filter fun e => !(a == e.1)⟩ : Table α β).get? k = _
  induction entries with
  | nil => simp [get?]
  | cons e entries ih =>
    obtain ⟨b, v⟩ := e
    by_cases hab : a = b
    · subst hab
      rw [List.filter_cons_of_neg (by simp), ih, get?_cons]
      cases k == a <;> rfl
    · rw [List.filter_cons_of_pos (by simpa using hab), get?_cons, ih, get?_cons]
      by_cases hka : k = a
      · subst hka
        simp [hab]
      · simp [hka]

omit [LawfulBEq α] in
lemma get?_map {γ : Type} (f : β → γ) (t : Table α β) (k : α) :
    (⟨t.entries.map fun e => (e.1, f e.2)⟩ : Table α γ).get? k = (t.get? k).map f := by
  obtain ⟨entries⟩ := t
  induction entries with
  | nil => rfl
  | cons e entries ih =>
    rw [List.map_cons, get?_cons, ih, get?_cons]
    cases k == e.1 <;> rfl

omit [LawfulBEq α] in
lemma map_setIn {γ : Type} (f : β → γ) (a : α) (b : β) (entries : List (α × β)) :
    (setIn a b entries).map (fun e => (e.1, f e.2)) =
      setIn a (f b) (entries.map fun e => (e.1, f e.2)) := by
  induction entries with
  | nil => rfl
  | cons e entries ih =>
    obtain ⟨k, v⟩ := e
    by_cases hk : (a == k) = true
    · simp [setIn, hk]
    · simp [setIn, hk, ih]

/-! ### Tables that agree -/

omit [LawfulBEq α] in
lemma nodup_keys_erase (h : t.keys.Nodup) (a : α) : (t.erase a).keys.Nodup :=
  h.sublist (List.filter_sublist.map Prod.fst)

lemma nodup_keys_set (h : t.keys.Nodup) (a : α) (b : β) : (t.set a b).keys.Nodup := by
  rw [keys_set]
  split
  case isTrue => exact h
  case isFalse ha =>
    rw [← List.concat_eq_append]
    exact h.concat ha

/-- With every key once, what is found for a key is the value of its entry. -/
lemma get?_of_mem (h : t.keys.Nodup) {e : α × β} (he : e ∈ t.entries) :
    t.get? e.1 = some e.2 := by
  obtain ⟨entries⟩ := t
  induction entries with
  | nil => exact absurd he List.not_mem_nil
  | cons e' entries ih =>
    obtain ⟨hnot, hrest⟩ := List.nodup_cons.mp h
    rw [get?_cons]
    rcases List.mem_cons.mp he with rfl | he
    · simp
    · have hne : e.1 ≠ e'.1 := fun heq => hnot (heq ▸ List.mem_map_of_mem he)
      simpa [hne] using ih hrest he

/-- Tables agree if the same is found in them. -/
lemma agrees_of_get?_eq [BEq β] [ReflBEq β] {u : Table α β} (ht : t.keys.Nodup)
    (hu : u.keys.Nodup) (h : ∀ k, t.get? k = u.get? k) : t.agrees u = true := by
  have hkeys : t.keys.Perm u.keys := by
    rw [List.perm_ext_iff_of_nodup ht hu]
    intro k
    rw [mem_keys_iff, mem_keys_iff, h]
  have hsize : t.size = u.size := by
    simpa [keys, size] using hkeys.length_eq
  rw [agrees, Bool.and_eq_true, List.all_eq_true]
  refine ⟨beq_iff_eq.mpr hsize, fun e he => ?_⟩
  rw [← h, get?_of_mem ht he, Option.any_some, BEq.rfl]

omit [BEq α] [LawfulBEq α] in
lemma entries_eq_zip (t : Table α β) : t.entries = t.keys.zip t.values := by
  rw [keys, values, ← List.unzip_fst, ← List.unzip_snd, List.zip_unzip]

/-- Tables with the same keys in the same order are equal if the same is found in them. -/
lemma eq_of_get?_eq {u : Table α β} (hkeys : t.keys = u.keys) (hnodup : u.keys.Nodup)
    (h : ∀ k, t.get? k = u.get? k) : t = u := by
  have hvalues : t.values = u.values := by
    rw [← filterMap_get?_keys hnodup, ← filterMap_get?_keys (hkeys ▸ hnodup), hkeys]
    exact List.filterMap_congr fun k _ => h k
  have hentries : t.entries = u.entries := by
    rw [entries_eq_zip, entries_eq_zip, hkeys, hvalues]
  cases t
  cases u
  exact congrArg Table.mk hentries

/-! ### One value at several keys -/

/-- Puts a value at several keys, one after another. -/
def setAll (t : Table α β) (as : List α) (b : β) : Table α β := as.foldl (fun t a => t.set a b) t

omit [LawfulBEq α] in
@[simp] lemma setAll_nil (t : Table α β) (b : β) : t.setAll [] b = t := rfl

omit [LawfulBEq α] in
lemma setAll_cons (t : Table α β) (a : α) (as : List α) (b : β) :
    t.setAll (a :: as) b = (t.set a b).setAll as b := rfl

lemma get?_setAll (t : Table α β) (as : List α) (b : β) (k : α) :
    (t.setAll as b).get? k = if k ∈ as then some b else t.get? k := by
  induction as generalizing t with
  | nil => simp
  | cons a as ih =>
    rw [setAll_cons, ih, get?_set]
    by_cases hk : k ∈ as <;> by_cases ha : k = a <;> simp [hk, ha]

/-- Keys that are new come in behind the others, in their order. -/
lemma keys_setAll (h : t.keys = l.eraseDups) (as : List α) (b : β) :
    (t.setAll as b).keys = (l ++ as).eraseDups := by
  induction as generalizing t l with
  | nil => simpa using h
  | cons a as ih =>
    have hset : (t.set a b).keys = (l ++ [a]).eraseDups := by
      rw [keys_set, eraseDups_concat, h]
      simp only [List.mem_eraseDups]
    rw [setAll_cons, ih hset, List.append_assoc, List.singleton_append]

lemma setAll_eq_self (h : ∀ a ∈ as, t.get? a = some b) : t.setAll as b = t := by
  induction as with
  | nil => rfl
  | cons a as ih =>
    rw [setAll_cons, set_eq_self (h a List.mem_cons_self)]
    exact ih fun k hk => h k (List.mem_cons_of_mem _ hk)

lemma nodup_keys_setAll (h : t.keys.Nodup) (as : List α) (b : β) : (t.setAll as b).keys.Nodup := by
  induction as generalizing t with
  | nil => exact h
  | cons a as ih => exact ih (nodup_keys_set h a b)

/-! ### The values of each key -/

/-- The values that come with a key, in order. -/
def valuesAt (pairs : List (α × β)) (k : α) : List β := (pairs.filter (·.1 == k)).map Prod.snd

/-- The table of the values of each key, filled value by value. -/
def gather (pairs : List (α × β)) : Table α (List β) :=
  pairs.foldl (fun t e => t.set e.1 ((t.get? e.1).getD [] ++ [e.2])) empty

section
variable {pairs : List (α × β)}

lemma valuesAt_eq_nil_iff : valuesAt pairs k = [] ↔ k ∉ pairs.map Prod.fst := by
  simp only [valuesAt, List.map_eq_nil_iff, List.filter_eq_nil_iff, beq_iff_eq, List.mem_map,
    not_exists, not_and]

omit [LawfulBEq α] in
lemma valuesAt_concat (pairs : List (α × β)) (a : α) (b : β) (k : α) :
    valuesAt (pairs ++ [(a, b)]) k = valuesAt pairs k ++ if a == k then [b] else [] := by
  cases hk : a == k <;> simp [valuesAt, hk]

omit [LawfulBEq α] in
lemma gather_concat (pairs : List (α × β)) (a : α) (b : β) :
    gather (pairs ++ [(a, b)]) =
      (gather pairs).set a (((gather pairs).get? a).getD [] ++ [b]) := by
  rw [gather, List.foldl_append]
  rfl

lemma get?_gather (pairs : List (α × β)) (k : α) :
    (gather pairs).get? k =
      if valuesAt pairs k = [] then none else some (valuesAt pairs k) := by
  induction pairs using List.reverseRecOn with
  | nil => rfl
  | append_singleton pairs e ih =>
    obtain ⟨a, b⟩ := e
    rw [gather_concat, valuesAt_concat, get?_set]
    by_cases hk : k = a
    · subst hk
      by_cases hnil : valuesAt pairs k = [] <;> simp [ih, hnil]
    · have hk' : ¬a = k := fun h => hk h.symm
      simp [hk, hk', ih]

lemma keys_gather (pairs : List (α × β)) :
    (gather pairs).keys = (pairs.map Prod.fst).eraseDups := by
  induction pairs using List.reverseRecOn with
  | nil => rfl
  | append_singleton pairs e ih =>
    rw [gather_concat, keys_set, ih, List.map_append, List.map_singleton, eraseDups_concat]
    simp only [List.mem_eraseDups]

/-- Each key has one entry, in the place where it came first. -/
lemma entries_gather (pairs : List (α × β)) :
    (gather pairs).entries =
      (pairs.map Prod.fst).eraseDups.map fun k => (k, valuesAt pairs k) := by
  have hnodup : (gather pairs).keys.Nodup := by
    rw [keys_gather]
    exact nodup_eraseDups _
  have hvalues : (gather pairs).values = (gather pairs).keys.map (valuesAt pairs) := by
    rw [← filterMap_get?_keys hnodup, ← List.filterMap_eq_map]
    refine List.filterMap_congr fun k hk => ?_
    rw [keys_gather, List.mem_eraseDups] at hk
    rw [get?_gather, if_neg fun hnil => valuesAt_eq_nil_iff.mp hnil hk]
    rfl
  rw [entries_eq_zip, hvalues, keys_gather, List.zip, List.zipWith_map_right, List.zipWith_self]

end

end ChatCommands.Table

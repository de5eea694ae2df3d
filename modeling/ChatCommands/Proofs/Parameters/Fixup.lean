import ChatCommands.Parameters
import ChatCommands.Proofs.Table

/-!
# Fixing up parameters

In the parameters of captures, what is found for a name are the values captured under it. So where
one text was captured under a placeholder or a literal, fixing up comes to the parameters that there
would be if the text of the literal had been captured under the literal.

Main statements: `get?_collect`, `fixup_fixup`, `exists_fixup_textual`.
-/

namespace ChatCommands

/-! ### Equality of values -/

namespace Value

mutual
lemma same_self (v : Value) : same v v = true := by
  match v with
  | .null | .unset => rfl
  | .text _ | .named _ | .ofClass _ => simp [same]
  | .list vs => rw [same, sameList_self vs]
  | .map es => simp [same, within_of_subset fun _ (h : _ ∈ es) => h]
  | .bool _ | .int _ | .decimal _ | .real _ | .code _ => simp [same, number?, Decimal.sameValue]

lemma sameList_self (vs : List Value) : sameList vs vs = true := by
  match vs with
  | [] => rfl
  | v :: vs => rw [sameList, same_self v, sameList_self vs, Bool.and_self]

lemma within_of_subset {es fs : List (Value × Value)} (h : es ⊆ fs) : within es fs = true := by
  match es with
  | [] => rfl
  | (k, v) :: es =>
    rw [within, Bool.and_eq_true, List.any_eq_true]
    refine ⟨⟨(k, v), h List.mem_cons_self, ?_⟩, within_of_subset (List.subset_of_cons_subset h)⟩
    rw [same_self k, same_self v, Bool.and_self]
end

instance : ReflBEq Value := ⟨same_self _⟩

lemma beq_text_iff {v : Value} {s : String} : (v == .text s) = true ↔ v = .text s := by
  show same v (.text s) = true ↔ _
  cases v <;> simp [same, number?]

end Value

namespace Parameters

variable {p q : Parameters} {placeholder literal : String}

/-! ### Values by name -/

/-- What was captured under a name, in order. -/
def valuesOf {α : Type} (pairs : List (String × α)) (name : String) : List α :=
  (pairs.filter (·.1 = name)).map Prod.snd

section

variable {α β : Type} {before after pairs : List (String × α)} {e : String × α} {name : String}

lemma valuesOf_map (f : α → β) (pairs : List (String × α)) (name : String) :
    valuesOf (pairs.map fun e => (e.1, f e.2)) name = (valuesOf pairs name).map f := by
  simp [valuesOf, List.filter_map, Function.comp_def]

lemma mem_of_valuesOf {v : α} (h : v ∈ valuesOf pairs name) : (name, v) ∈ pairs := by
  obtain ⟨⟨name', v'⟩, hfilter, rfl⟩ := List.mem_map.mp h
  obtain ⟨hmem, hname⟩ := List.mem_filter.mp hfilter
  obtain rfl : name' = name := of_decide_eq_true hname
  exact hmem

lemma valuesOf_between_of_ne (h : e.1 ≠ name) :
    valuesOf (before ++ e :: after) name = valuesOf (before ++ after) name := by
  simp [valuesOf, h]

/-- A pair beside pairs of other names is all that counts for a name. -/
lemma valuesOf_between (hothers : ∀ x ∈ before ++ after, x.1 ≠ name) (e : String × α) :
    valuesOf (before ++ e :: after) name = if e.1 = name then [e.2] else [] := by
  have hnone : (before ++ after).filter (·.1 = name) = [] := by
    rw [List.filter_eq_nil_iff]
    simpa only [decide_eq_true_eq] using hothers
  rw [List.filter_append, List.append_eq_nil_iff] at hnone
  by_cases hname : e.1 = name <;> simp [valuesOf, hnone, hname]

end

lemma grouped_concat (pairs : List (String × Value)) (name : String) (v : Value) :
    grouped (pairs ++ [(name, v)]) =
      (grouped pairs).set name (((grouped pairs).get? name).getD [] ++ [v]) :=
  Table.gather_concat pairs name v

lemma get?_grouped (pairs : List (String × Value)) (name : String) :
    (grouped pairs).get? name =
      if valuesOf pairs name = [] then none else some (valuesOf pairs name) :=
  Table.get?_gather pairs name

lemma keys_grouped (pairs : List (String × Value)) :
    (grouped pairs).keys = (pairs.map Prod.fst).eraseDups :=
  Table.keys_gather pairs

/-- What is found for a name are the values captured under it. -/
lemma get?_collect (pairs : List (String × Value)) (name : String) :
    (collect pairs).values.get? name =
      if valuesOf pairs name = [] then none else some (ungrouped (valuesOf pairs name)) := by
  rw [collect, Table.get?_map, get?_grouped]
  split <;> rfl

lemma keys_collect (pairs : List (String × Value)) :
    (collect pairs).values.keys = (pairs.map Prod.fst).eraseDups := by
  rw [← keys_grouped]
  simp [collect, Table.keys]

lemma nodup_keys_collect (pairs : List (String × Value)) :
    (collect pairs).values.keys.Nodup := by
  rw [keys_collect]
  exact Table.nodup_eraseDups _

/-! ### Fixing up -/

lemma fixup_of_text (hwalks : p.walks = 0) (hfree : p.values.get? literal = none)
    (htext : p.values.get? placeholder = some (.text literal)) :
    p.fixup (some placeholder) (some literal) =
      .ok { p with values := (p.values.erase placeholder).set literal (.text literal) } := by
  simp [fixup, hwalks, get?, htext, Table.contains, hfree]

/-- Only the text of the literal can be moved, and only to a literal without a value. -/
lemma fixup_of_not_text (hwalks : p.walks = 0)
    (h : p.values.get? literal = none → p.values.get? placeholder ≠ some (.text literal)) :
    p.fixup (some placeholder) (some literal) = .ok p := by
  cases hvalue : p.values.get? placeholder with
  | none => simp [fixup, hwalks, get?, hvalue]
  | some v =>
    cases hliteral : p.values.get? literal with
    | some w => simp [fixup, hwalks, get?, hvalue, Table.contains, hliteral]
    | none =>
      have hne : (v == .text literal) = false := by
        rw [Bool.eq_false_iff]
        intro heq
        exact h hliteral (by rw [hvalue, Value.beq_text_iff.mp heq])
      simp [fixup, hwalks, get?, hvalue, Table.contains, hliteral, hne]

/-- Fixing up a second time changes nothing. -/
lemma fixup_fixup (hwalks : p.walks = 0)
    (h : p.fixup (some placeholder) (some literal) = .ok q) :
    q.fixup (some placeholder) (some literal) = .ok q := by
  by_cases hmoves : p.values.get? literal = none ∧
      p.values.get? placeholder = some (.text literal)
  case pos =>
    rw [fixup_of_text hwalks hmoves.1 hmoves.2] at h
    obtain rfl := Except.ok.inj h
    exact fixup_of_not_text hwalks (by simp)
  case neg =>
    have hstays := fixup_of_not_text hwalks fun hfree htext => hmoves ⟨hfree, htext⟩
    obtain rfl := Except.ok.inj (hstays.symm.trans h)
    exact hstays

/-! ### Captured texts -/

/-- The parameters of captured texts. -/
def textual (entries : List (String × String)) : Parameters :=
  collect (entries.map fun e => (e.1, .text e.2))

/-- What was captured, with the text of the literal under the literal where it was under the
placeholder. -/
def moved (placeholder literal : String) (e : String × String) : String × String :=
  if e = (placeholder, literal) then (literal, literal) else e

section

variable {entries : List (String × String)} {name text : String}

lemma get?_textual (entries : List (String × String)) (name : String) :
    (textual entries).values.get? name =
      if valuesOf entries name = [] then none
      else some (ungrouped ((valuesOf entries name).map Value.text)) := by
  rw [textual, get?_collect, valuesOf_map]
  simp only [List.map_eq_nil_iff]

lemma get?_textual_eq_text_iff :
    (textual entries).values.get? name = some (.text text) ↔ valuesOf entries name = [text] := by
  rw [get?_textual]
  match valuesOf entries name with
  | [] => simp
  | [s] => simp [ungrouped]
  | s :: s' :: ss => simp [ungrouped]

lemma moved_of_ne {e : String × String} (h : e ≠ (placeholder, literal)) :
    moved placeholder literal e = e := if_neg h

lemma moved_literal : moved placeholder literal (literal, literal) = (literal, literal) :=
  ite_self _

lemma moved_self (name : String) : moved name name = id := by
  funext e
  by_cases he : e = (name, name) <;> simp [moved, he]

lemma map_moved_of_not_mem (h : (placeholder, literal) ∉ entries) :
    entries.map (moved placeholder literal) = entries := by
  rw [List.map_congr_left fun e he => moved_of_ne fun heq => h (heq ▸ he), List.map_id']

/-- Where one text at most was captured under either name, all others have other names. -/
lemma exists_between (hone : entries.countP (fun e => e.1 = placeholder ∨ e.1 = literal) ≤ 1)
    (hmem : (placeholder, literal) ∈ entries) :
    ∃ before after, entries = before ++ (placeholder, literal) :: after ∧
      ∀ e ∈ before ++ after, e.1 ≠ placeholder ∧ e.1 ≠ literal := by
  obtain ⟨before, after, rfl⟩ := List.append_of_mem hmem
  rw [List.countP_append, List.countP_cons_of_pos (by simp)] at hone
  have hnone : (before ++ after).countP (fun e => e.1 = placeholder ∨ e.1 = literal) = 0 := by
    rw [List.countP_append]
    omega
  refine ⟨before, after, rfl, fun e he => ?_⟩
  simpa using List.countP_eq_zero.mp hnone e he

/-- The text of the literal is moved if it was captured under the placeholder, and found then where
it would have been captured under the literal. -/
lemma fixup_textual_of_mem
    (hone : entries.countP (fun e => e.1 = placeholder ∨ e.1 = literal) ≤ 1)
    (hmem : (placeholder, literal) ∈ entries) (hne : placeholder ≠ literal) :
    ∃ q, (textual entries).fixup (some placeholder) (some literal) = .ok q ∧
      q.values.keys.Nodup ∧ ∀ name, q.values.get? name =
        (textual (entries.map (moved placeholder literal))).values.get? name := by
  obtain ⟨before, after, rfl, hothers⟩ := exists_between hone hmem
  have hplaceholder := valuesOf_between fun e he => (hothers e he).1
  have hliteral := valuesOf_between fun e he => (hothers e he).2
  have hmap : (before ++ (placeholder, literal) :: after).map (moved placeholder literal) =
      before ++ (literal, literal) :: after := by
    rw [List.map_append, List.map_cons, moved, if_pos rfl,
      map_moved_of_not_mem fun h => (hothers _ (List.mem_append_left _ h)).1 rfl,
      map_moved_of_not_mem fun h => (hothers _ (List.mem_append_right _ h)).1 rfl]
  rw [hmap]
  refine ⟨_, fixup_of_text rfl ?_ ?_, ?_, fun name => ?_⟩
  · rw [get?_textual, hliteral, if_neg hne, if_pos rfl]
  · rw [get?_textual_eq_text_iff, hplaceholder, if_pos rfl]
  · exact Table.nodup_keys_set (Table.nodup_keys_erase (nodup_keys_collect _) _) _ _
  rw [Table.get?_set, Table.get?_erase]
  by_cases hl : name = literal
  · subst hl
    rw [if_pos (beq_self_eq_true _), eq_comm, get?_textual_eq_text_iff, hliteral, if_pos rfl]
  by_cases hp : name = placeholder
  · subst hp
    rw [if_neg (by simpa using hl), if_pos (beq_self_eq_true _), get?_textual, hplaceholder,
      if_neg hne.symm, if_pos rfl]
  -- The texts of any other name stay as they are.
  · rw [if_neg (by simpa using hl), if_neg (by simpa using hp), get?_textual, get?_textual,
      valuesOf_between_of_ne (Ne.symm hp), valuesOf_between_of_ne (Ne.symm hl)]

/-- Fixing up comes to the parameters that there would be if the text of the literal had been
captured under the literal. -/
lemma exists_fixup_textual
    (hone : entries.countP (fun e => e.1 = placeholder ∨ e.1 = literal) ≤ 1) :
    ∃ q, (textual entries).fixup (some placeholder) (some literal) = .ok q ∧
      q.same (textual (entries.map (moved placeholder literal))) = true ∧
      ∀ name, q.values.get? name =
        (textual (entries.map (moved placeholder literal))).values.get? name := by
  have hfixup : ∃ q, (textual entries).fixup (some placeholder) (some literal) = .ok q ∧
      q.values.keys.Nodup ∧ ∀ name, q.values.get? name =
        (textual (entries.map (moved placeholder literal))).values.get? name := by
    by_cases hmoves : (placeholder, literal) ∈ entries ∧ placeholder ≠ literal
    case pos => exact fixup_textual_of_mem hone hmoves.1 hmoves.2
    case neg =>
      have hmap : entries.map (moved placeholder literal) = entries := by
        by_cases hne : placeholder = literal
        · rw [hne, moved_self, List.map_id]
        · exact map_moved_of_not_mem fun hmem => hmoves ⟨hmem, hne⟩
      rw [hmap]
      refine ⟨_, fixup_of_not_text rfl fun hfree htext => ?_, nodup_keys_collect _, fun _ => rfl⟩
      apply hmoves
      refine ⟨mem_of_valuesOf ?_, ?_⟩
      · rw [get?_textual_eq_text_iff.mp htext]
        exact List.mem_singleton_self _
      · rintro rfl
        rw [hfree] at htext
        cases htext
  obtain ⟨q, hq, hnodup, hget⟩ := hfixup
  exact ⟨q, hq, Table.agrees_of_get?_eq hnodup (nodup_keys_collect _) hget, hget⟩

end

end Parameters

end ChatCommands

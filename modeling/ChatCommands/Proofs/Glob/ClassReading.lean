import ChatCommands.Glob.CharClass
import Mathlib.Tactic.Common

/-!
# Reading classes in front of more text

A class is read up to its closing bracket, so what follows it makes no difference to it.

Main statement: `CharClass.read?_append`.
-/

namespace ChatCommands.Glob.CharClass

variable {base width value count fuel : Nat} {cs rest : List Char} {item : ClassItem}
  {read items : List ClassItem} {r : Nat × Nat × List Char}

/-! ### Items -/

lemma readDigits_append {v n : Nat} (h : readDigits base width value count cs = (v, n, rest))
    (hrest : rest ≠ []) (t : List Char) :
    readDigits base width value count (cs ++ t) = (v, n, rest ++ t) := by
  fun_induction readDigits base width value count cs with
  | case1 value count cs =>
    obtain ⟨rfl, rfl, rfl⟩ : value = v ∧ count = n ∧ cs = rest := by simpa using h
    rfl
  | case2 =>
    obtain ⟨-, -, rfl⟩ : _ = v ∧ _ = n ∧ [] = rest := by simpa using h
    exact absurd rfl hrest
  | case3 width value count c cs d hd ih =>
    rw [List.cons_append, readDigits, hd]
    exact ih h
  | case4 width value count c cs hd =>
    obtain ⟨rfl, rfl, rfl⟩ : value = v ∧ count = n ∧ c :: cs = rest := by simpa using h
    rw [List.cons_append, readDigits, hd]

lemma readHex?_append (h : readHex? width cs = some (item, rest)) (hrest : rest ≠ [])
    (t : List Char) : readHex? width (cs ++ t) = some (item, rest ++ t) := by
  rw [readHex?] at h ⊢
  rcases hdigits : readDigits 16 width 0 0 cs with ⟨v, n, rest'⟩
  rw [hdigits] at h
  obtain ⟨hn, h⟩ := Option.ite_none_right_eq_some.mp h
  obtain ⟨rfl, rfl⟩ := Prod.mk.inj (Option.some.inj h)
  rw [readDigits_append hdigits hrest]
  exact if_pos hn

variable [CharNames]

lemma readName?_append (h : readName? cs = some (item, rest)) (t : List Char) :
    readName? (cs ++ t) = some (item, rest ++ t) := by
  match cs with
  | [] => cases h
  | c :: cs =>
    by_cases hc : c = '{'
    · subst hc
      rw [List.cons_append]
      rw [readName?] at h ⊢
      rcases hend : cs.dropWhile (· ≠ '}') with _ | ⟨brace, after⟩
      · simp only [hend] at h
        cases h
      · have htake : (cs ++ t).takeWhile (· ≠ '}') = cs.takeWhile (· ≠ '}') := by
          have happend : cs.takeWhile (· ≠ '}') ++ cs.dropWhile (· ≠ '}') = cs :=
            List.takeWhile_append_dropWhile
          have hlength := congrArg List.length happend
          rw [hend, List.length_append, List.length_cons] at hlength
          rw [List.takeWhile_append, if_neg (by omega)]
        simp only [hend] at h
        obtain ⟨c, hname, h⟩ := Option.map_eq_some_iff.mp h
        obtain ⟨rfl, rfl⟩ := Prod.mk.inj h
        rw [List.dropWhile_append, hend, htake, hname]
        rfl
    · rw [readName?.eq_2 _ fun _ h => hc (List.cons.inj h).1] at h
      cases h

lemma readEscape?_append (h : readEscape? cs = some (item, rest)) (hrest : rest ≠ [])
    (t : List Char) : readEscape? (cs ++ t) = some (item, rest ++ t) := by
  match cs with
  | [] => cases h
  | c :: cs =>
    rw [List.cons_append]
    rw [readEscape?] at h ⊢
    rcases hcontrol : control? c with _ | n
    · rcases hcategory : Category.ofLetter? c.toLower with _ | k
      · simp only [hcontrol, hcategory] at h ⊢
        by_cases hx : c = 'x'
        · rw [if_pos hx] at h ⊢
          exact readHex?_append h hrest t
        by_cases hu : c = 'u'
        · rw [if_neg hx, if_pos hu] at h ⊢
          exact readHex?_append h hrest t
        by_cases hU : c = 'U'
        · rw [if_neg hx, if_neg hu, if_pos hU] at h ⊢
          exact readHex?_append h hrest t
        by_cases hN : c = 'N'
        · rw [if_neg hx, if_neg hu, if_neg hU, if_pos hN] at h ⊢
          exact readName?_append h t
        rw [if_neg hx, if_neg hu, if_neg hU, if_neg hN] at h ⊢
        by_cases hoctal : (digitValue? 8 c).isSome
        · rw [if_pos hoctal] at h ⊢
          rcases hdigits : readDigits 8 3 0 0 (c :: cs) with ⟨v, n, rest'⟩
          rw [hdigits] at h
          obtain ⟨hv, h⟩ := Option.ite_none_right_eq_some.mp h
          obtain ⟨rfl, rfl⟩ := Prod.mk.inj (Option.some.inj h)
          rw [← List.cons_append, readDigits_append hdigits hrest]
          exact if_pos hv
        · rw [if_neg hoctal] at h ⊢
          obtain ⟨hletter, h⟩ := Option.ite_none_left_eq_some.mp h
          obtain ⟨rfl, rfl⟩ := Prod.mk.inj (Option.some.inj h)
          exact if_neg hletter
      · simp only [hcontrol, hcategory] at h ⊢
        obtain ⟨rfl, rfl⟩ := Prod.mk.inj (Option.some.inj h)
        rfl
    · simp only [hcontrol] at h ⊢
      obtain ⟨rfl, rfl⟩ := Prod.mk.inj (Option.some.inj h)
      rfl

lemma readItem?_append (h : readItem? cs = some (item, rest)) (hrest : rest ≠ [])
    (t : List Char) : readItem? (cs ++ t) = some (item, rest ++ t) := by
  fun_cases readItem? cs with
  | case1 => cases h
  | case2 cs =>
    rw [List.cons_append]
    rw [readItem?] at h ⊢
    exact readEscape?_append h hrest t
  | case3 c cs hc =>
    rw [readItem?] at h
    · obtain ⟨rfl, rfl⟩ := Prod.mk.inj (Option.some.inj h)
      rw [List.cons_append, readItem?]
      exact hc
    · exact hc

/-! ### Classes -/

lemma readItems?_nil (fuel : Nat) (read : List ClassItem) : readItems? fuel read [] = none := by
  cases fuel with
  | zero => rfl
  | succ fuel => simp [readItems?, readItem?]

/-- What is read behind an item, where `next` reads the items after that. -/
def readAfter (next : List ClassItem → List Char → Option (List ClassItem × List Char))
    (read : List ClassItem) (item : ClassItem) : List Char → Option (List ClassItem × List Char)
  | '-' :: ']' :: rest => some (read ++ [item, .point '-'.toNat], rest)
  | '-' :: rest => (readItem? rest).bind fun (last, rest) =>
    match item, last with
    | .point low, .point high => if low ≤ high then next (read ++ [.range low high]) rest else none
    | _, _ => none
  | rest => next (read ++ [item]) rest

lemma readItems?_succ :
    readItems? (fuel + 1) read cs =
      if read ≠ [] ∧ cs.head? = some ']' then some (read, cs.drop 1)
      else (readItem? cs).bind fun (item, rest) => readAfter (readItems? fuel) read item rest := by
  have hcond : (!read.isEmpty && decide (cs.head? = some ']')) = true ↔
      read ≠ [] ∧ cs.head? = some ']' := by simp
  rw [readItems?, if_congr hcond rfl rfl]
  rfl

section After

variable {next next' : List ClassItem → List Char → Option (List ClassItem × List Char)} {c : Char}

lemma readAfter_range (hc : c ≠ ']') :
    readAfter next read item ('-' :: c :: cs) = (readItem? (c :: cs)).bind fun (last, rest) =>
      match item, last with
      | .point low, .point high =>
        if low ≤ high then next (read ++ [.range low high]) rest else none
      | _, _ => none :=
  readAfter.eq_2 _ _ _ _ fun _ h => hc (List.cons.inj h).1

lemma readAfter_item (hc : c ≠ '-') :
    readAfter next read item (c :: cs) = next (read ++ [item]) (c :: cs) :=
  readAfter.eq_3 _ _ _ _ (fun _ h => hc (List.cons.inj h).1) fun _ h => hc (List.cons.inj h).1

lemma readAfter_append {after t : List Char}
    (h : readAfter next read item after = some (items, rest)) (hafter : after ≠ [])
    (hnil : ∀ read, next read [] = none)
    (hnext : ∀ read cs, next read cs = some (items, rest) →
      next' read (cs ++ t) = some (items, rest ++ t)) :
    readAfter next' read item (after ++ t) = some (items, rest ++ t) := by
  match after with
  | c :: after =>
    by_cases hc : c = '-'
    · subst hc
      match after with
      | [] => cases h
      | d :: after =>
        by_cases hd : d = ']'
        · subst hd
          obtain ⟨rfl, rfl⟩ := Prod.mk.inj (Option.some.inj h)
          rfl
        · rw [readAfter_range hd] at h
          obtain ⟨⟨last, rest'⟩, hlast, h⟩ := Option.bind_eq_some_iff.mp h
          match item, last with
          | .point low, .point high =>
            obtain ⟨hle, h⟩ := Option.ite_none_right_eq_some.mp h
            have hrest' : rest' ≠ [] := by
              rintro rfl
              exact Option.some_ne_none _ (h.symm.trans (hnil _))
            rw [List.cons_append, List.cons_append, readAfter_range hd, ← List.cons_append,
              readItem?_append hlast hrest']
            exact (if_pos hle).trans (hnext _ _ h)
    · rw [readAfter_item hc] at h
      rw [List.cons_append, readAfter_item hc]
      exact hnext _ _ h

end After

/-- Up to its end a class reads the same in front of more text, and with more fuel. -/
lemma readItems?_append {fuel' : Nat} (h : readItems? fuel read cs = some (items, rest))
    (hfuel : fuel ≤ fuel') (t : List Char) :
    readItems? fuel' read (cs ++ t) = some (items, rest ++ t) := by
  induction fuel generalizing fuel' read cs with
  | zero => cases h
  | succ fuel ih =>
    obtain ⟨fuel', rfl⟩ : ∃ n, fuel' = n + 1 := ⟨fuel' - 1, by omega⟩
    obtain ⟨c, cs, rfl⟩ : ∃ c cs', cs = c :: cs' := by
      refine List.exists_cons_of_ne_nil ?_
      rintro rfl
      rw [readItems?_nil] at h
      cases h
    rw [readItems?_succ] at h ⊢
    rw [List.cons_append, List.head?_cons]
    rw [List.head?_cons] at h
    split_ifs at h ⊢ with hclose
    · obtain ⟨rfl, rfl⟩ := Prod.mk.inj (Option.some.inj h)
      rfl
    · obtain ⟨⟨item, after⟩, hitem, h⟩ := Option.bind_eq_some_iff.mp h
      -- an item at the very end leaves no bracket to come
      have hafter : after ≠ [] := by
        rintro rfl
        exact Option.some_ne_none _ (h.symm.trans (readItems?_nil fuel _))
      rw [← List.cons_append, readItem?_append hitem hafter]
      exact readAfter_append h hafter (readItems?_nil fuel) fun read cs h =>
        ih h (Nat.le_of_succ_le_succ hfuel)

lemma read?_caret :
    read? ('^' :: cs) = (readItems? (cs.length + 1) [] cs).map fun (items, rest) =>
      (⟨true, items⟩, rest) := rfl

lemma read?_of_ne {c : Char} (hc : c ≠ '^') :
    read? (c :: cs) = (readItems? (cs.length + 2) [] (c :: cs)).map fun (items, rest) =>
      (⟨false, items⟩, rest) := by
  unfold read?
  split
  case h_1 negated body heq =>
    split at heq
    case h_1 h => exact absurd (List.cons.inj h).1 hc
    case h_2 =>
      obtain ⟨rfl, rfl⟩ := Prod.mk.inj heq
      rfl

/-- What follows a class makes no difference to it. -/
lemma read?_append {cls : CharClass} (h : read? cs = some (cls, rest)) (t : List Char) :
    read? (cs ++ t) = some (cls, rest ++ t) := by
  match cs with
  | [] => cases h
  | c :: cs =>
    rw [List.cons_append]
    by_cases hc : c = '^'
    · subst hc
      rw [read?_caret] at h ⊢
      obtain ⟨⟨items, rest⟩, hitems, h⟩ := Option.map_eq_some_iff.mp h
      obtain ⟨rfl, rfl⟩ := Prod.mk.inj h
      rw [readItems?_append hitems (by simp) t]
      rfl
    · rw [read?_of_ne hc] at h ⊢
      obtain ⟨⟨items, rest⟩, hitems, h⟩ := Option.map_eq_some_iff.mp h
      obtain ⟨rfl, rfl⟩ := Prod.mk.inj h
      rw [← List.cons_append, readItems?_append hitems (by simp) t]
      rfl

end ChatCommands.Glob.CharClass

import ChatCommands.Proofs.Decimal.Notation
import ChatCommands.Proofs.Digits

/-!
# Written decimals

What is written for a decimal is the text of a decimal with the same sign, coefficient and power of
ten, in positional as in scientific notation. So it is read back as it was.

Main statement: `read?_written`.
-/

namespace ChatCommands.Decimal

variable {ds : List Char} {places : Nat} {d : Decimal}

/-! ### Digits -/

lemma isDigit_digitChar {n : Nat} (h : n < 10) : isDigit (digitChar n) = true := by
  have : ∀ m < 10, isDigit (digitChar m) = true := by decide
  exact this n h

lemma isRun_digitsOnto (fuel n : Nat) (h : IsRun ds) : IsRun (digitsOnto fuel n ds) := by
  induction fuel generalizing n ds with
  | zero => exact h
  | succ fuel ih =>
    have hcons : ∀ m < 10, IsRun (digitChar m :: ds) := fun m hm =>
      isRun_cons_iff.mpr ⟨isDigit_digitChar hm, h⟩
    rw [digitsOnto]
    split
    case isTrue hn => exact hcons n hn
    case isFalse => exact ih (n / 10) (hcons _ (Nat.mod_lt n (by decide)))

lemma isRun_digits (n : Nat) : IsRun (digits n) := isRun_digitsOnto _ _ isRun_nil

lemma digits_ne_nil (n : Nat) : digits n ≠ [] := by
  have hne : ∀ fuel m cs, cs ≠ [] → digitsOnto fuel m cs ≠ [] := by
    intro fuel
    induction fuel with
    | zero => exact fun _ _ h => h
    | succ fuel ih =>
      intro m cs _
      rw [digitsOnto]
      split
      case isTrue => exact List.cons_ne_nil _ _
      case isFalse => exact ih _ _ (List.cons_ne_nil _ _)
  rw [digits, digitsOnto]
  split
  case isTrue => exact List.cons_ne_nil _ _
  case isFalse => exact hne _ _ _ (List.cons_ne_nil _ _)

/-- Zeros in front of digits do not count. -/
lemma digitsValue_replicate_append (n : Nat) (ds : List Char) :
    digitsValue (List.replicate n '0' ++ ds) = digitsValue ds := by
  induction n with
  | zero => rfl
  | succ n ih => rw [← ih, List.replicate_succ, List.cons_append, digitsValue, digitsValue]; rfl

/-! ### Notations -/

/-- A text without sign is that of a coefficient and a power of ten. -/
def Denotes (body : List Char) (coefficient : Nat) (exponent : Int) : Prop :=
  ∃ whole fraction e, (∀ {negative sign}, IsSign negative sign →
    WritesDecimal (sign ++ body) negative whole fraction e) ∧
    digitsValue (whole ++ fraction) = coefficient ∧ e - fraction.length = exponent

/-- Positional notation has the digits as they are, with zeros in front where there are too few. -/
lemma denotes_positional (hds : IsRun ds) (hne : ds ≠ []) (places : Nat) :
    Denotes (positional ds places) (digitsValue ds) (-places) := by
  rw [positional]
  split_ifs with hzero hlt
  · refine ⟨ds, [], 0, fun hsign => ?_, by rw [List.append_nil], by simp [hzero]⟩
    have hwrites := WritesDecimal.mk hsign hds isRun_nil .none (.inl hne) .none
    simpa using hwrites
  · have htake : IsRun (ds.take (ds.length - places)) := fun c hc => hds c (List.mem_of_mem_take hc)
    have hdrop : IsRun (ds.drop (ds.length - places)) := fun c hc => hds c (List.mem_of_mem_drop hc)
    have hlength : (ds.drop (ds.length - places)).length = places := by
      rw [List.length_drop]
      omega
    refine ⟨ds.take (ds.length - places), ds.drop (ds.length - places), 0, fun hsign => ?_,
      by rw [List.take_append_drop], by rw [hlength, zero_sub]⟩
    have hsome : ds.drop (ds.length - places) ≠ [] := by
      rw [← List.length_pos_iff, hlength]
      omega
    have hwrites := WritesDecimal.mk hsign htake hdrop .point (.inr hsome) .none
    simpa using hwrites
  · have hzeros : IsRun (List.replicate (places - ds.length) '0') := fun c hc => by
      rw [List.eq_of_mem_replicate hc]
      rfl
    have hlength : (List.replicate (places - ds.length) '0' ++ ds).length = places := by
      rw [List.length_append, List.length_replicate]
      omega
    refine ⟨['0'], _, 0, fun hsign => ?_, ?_, by rw [hlength, zero_sub]⟩
    · have hzero : IsRun ['0'] := isRun_cons_iff.mpr ⟨rfl, isRun_nil⟩
      have hwrites := WritesDecimal.mk hsign hzero (hzeros.append hds) .point
        (.inl (List.cons_ne_nil _ _)) .none
      simpa using hwrites
    · exact (digitsValue_replicate_append 1 _).trans (digitsValue_replicate_append _ _)

lemma writesExponent_power (power : Int) :
    WritesExponent ('E' :: (if power < 0 then '-' else '+') :: digits power.natAbs) power := by
  have hvalue : numeral (digits power.natAbs) = power.natAbs := by
    rw [← digitsValue_eq_numeral, digitsValue_digits]
  have hmark : 'E' = 'e' ∨ 'E' = 'E' := .inr rfl
  split
  case isTrue hneg =>
    have hminus := WritesExponent.marked hmark
      (.mk .minus (digits_ne_nil power.natAbs) (isRun_digits power.natAbs))
    have hsigned : signed true (digits power.natAbs) = power := by
      rw [signed, hvalue, if_pos rfl]
      omega
    rw [hsigned] at hminus
    exact hminus
  case isFalse hpos =>
    have hplus := WritesExponent.marked hmark
      (.mk .plus (digits_ne_nil power.natAbs) (isRun_digits power.natAbs))
    have hsigned : signed false (digits power.natAbs) = power := by
      rw [signed, hvalue, if_neg Bool.false_ne_true]
      omega
    rw [hsigned] at hplus
    exact hplus

/-- Scientific notation has the first digit before the point, and its power of ten. -/
lemma denotes_scientific (hds : IsRun ds) (hne : ds ≠ []) (power : Int) :
    Denotes (scientific ds power) (digitsValue ds) (power - (ds.length - 1)) := by
  have htail := writesExponent_power power
  match ds, hne with
  | [c], _ =>
    refine ⟨[c], [], power, fun hsign => ?_, rfl, by simp⟩
    exact .mk hsign hds isRun_nil .none (.inl (List.cons_ne_nil _ _)) htail
  | c :: c' :: cs, _ =>
    obtain ⟨hc, hcs⟩ := isRun_cons_iff.mp hds
    refine ⟨[c], c' :: cs, power, fun hsign => ?_, rfl, by simp⟩
    have hfirst : IsRun [c] := isRun_cons_iff.mpr ⟨hc, isRun_nil⟩
    exact .mk hsign hfirst hcs .point (.inl (List.cons_ne_nil _ _)) htail

lemma denotes_body (d : Decimal) :
    Denotes (if d.exponent ≤ 0 ∧ -6 ≤ d.adjusted then
        positional (digits d.coefficient) d.exponent.natAbs
      else scientific (digits d.coefficient) d.adjusted) d.coefficient d.exponent := by
  have hds := isRun_digits d.coefficient
  have hne := digits_ne_nil d.coefficient
  split
  case isTrue h =>
    have hpositional := denotes_positional hds hne d.exponent.natAbs
    rw [digitsValue_digits] at hpositional
    convert hpositional using 1
    omega
  case isFalse =>
    have hscientific := denotes_scientific hds hne d.adjusted
    rw [digitsValue_digits] at hscientific
    convert hscientific using 1
    rw [adjusted]
    omega

/-- What is written for a decimal is read back as it. -/
lemma read?_written (d : Decimal) : read? d.written = some d := by
  obtain ⟨whole, fraction, e, hwrites, hcoefficient, hexponent⟩ := denotes_body d
  rw [read?_eq_some_iff]
  refine ⟨d.negative, whole, fraction, e, ?_, by rw [hcoefficient, hexponent]⟩
  rw [written]
  cases d.negative with
  | false => exact hwrites .none
  | true => exact hwrites .minus

/-- Zeros behind the point and the sign of zero are kept. -/
example : (⟨true, 0, -3⟩ : Decimal).written = "-0.000".toList ∧
    (⟨false, 1230, 7⟩ : Decimal).written = "1.230E+10".toList := by decide

end ChatCommands.Decimal

import ChatCommands.Decimal
import Mathlib.Tactic.Common

/-!
# Digits denote their number

Writing a natural number in decimal digits and reading the digits gives the number back, so no two
numbers have the same digits.
-/

namespace ChatCommands

/-- One step of reading digits: what was read so far moves up one place. -/
abbrev shiftIn (n : Nat) (c : Char) : Nat := 10 * n + (c.toNat - '0'.toNat)

lemma toNat_digitChar {n : Nat} (h : n < 10) : (digitChar n).toNat - '0'.toNat = n := by
  have : ∀ m < 10, (digitChar m).toNat - '0'.toNat = m := by decide
  exact this n h

lemma foldl_digitsOnto (fuel n : Nat) (cs : List Char) (h : n < fuel) :
    (digitsOnto fuel n cs).foldl shiftIn 0 = cs.foldl shiftIn n := by
  induction fuel generalizing n cs with
  | zero => omega
  | succ fuel ih =>
    rw [digitsOnto]
    split
    · rename_i hn
      simp only [List.foldl_cons, shiftIn, toNat_digitChar hn, Nat.mul_zero, Nat.zero_add]
    · rename_i hn
      rw [ih (n / 10) _ (by omega), List.foldl_cons, shiftIn,
        toNat_digitChar (Nat.mod_lt n (by omega)), Nat.div_add_mod]

@[simp] lemma digitsValue_digits (n : Nat) : digitsValue (digits n) = n :=
  foldl_digitsOnto (n + 1) n [] (Nat.lt_succ_self n)

lemma digits_injective : Function.Injective digits := fun m n h => by
  simpa using congrArg digitsValue h

end ChatCommands

import ChatCommands.Converter
import ChatCommands.Proofs.Decimal.Written
import Mathlib.Algebra.Field.Rat
import Mathlib.Tactic.FieldSimp
import Mathlib.Tactic.Ring

/-!
# Numbers as parameters

The converters of integers and of decimals take exactly the texts of integers and of decimals, and
give the numbers that these denote.

Main statement: `convert_exact`.
-/

namespace ChatCommands

/-! ### Values -/

namespace Decimal

variable {negative : Bool} {whole fraction ds : List Char} {e : Int}

/-- A number with a sign. -/
def withSign (negative : Bool) (q : ℚ) : ℚ := if negative then -q else q

/-- The number that a decimal stands for. -/
def toRat (d : Decimal) : ℚ := withSign d.negative (d.coefficient * 10 ^ d.exponent)

/-- The number that a text denotes by its sign, its digits before and after the point, and its
exponent. -/
def denoted (negative : Bool) (whole fraction : List Char) (e : Int) : ℚ :=
  withSign negative ((numeral whole + numeral fraction / 10 ^ fraction.length) * 10 ^ e)

lemma numeral_append (whole fraction : List Char) :
    numeral (whole ++ fraction) = numeral whole * 10 ^ fraction.length + numeral fraction := by
  induction fraction using List.reverseRecOn with
  | nil => simp [numeral]
  | append_singleton fraction c ih =>
    rw [← List.append_assoc, numeral_concat, ih, numeral_concat, List.length_append,
      List.length_singleton]
    ring

/-- The decimal that is read stands for the number that its text denotes. -/
lemma toRat_read (negative : Bool) (whole fraction : List Char) (e : Int) :
    toRat ⟨negative, digitsValue (whole ++ fraction), e - fraction.length⟩ =
      denoted negative whole fraction e := by
  have hten : (10 : ℚ) ^ fraction.length ≠ 0 := pow_ne_zero _ (by norm_num)
  rw [toRat, denoted, digitsValue_eq_numeral, numeral_append, zpow_sub₀ (by norm_num),
    zpow_natCast]
  push_cast
  congr 1
  field_simp

/-- An integer is the decimal of its digits. -/
lemma denoted_integer (negative : Bool) (ds : List Char) :
    denoted negative ds [] 0 = signed negative ds := by
  cases negative <;> simp [denoted, signed, withSign, numeral]

end Decimal

/-! ### Conversion -/

namespace Converter

variable {v : String} {negative : Bool} {ds whole fraction : List Char} {e : Int}

/-- A text is refused by its form. -/
def RefusesForm (r : Except Error Value) : Prop :=
  ∃ f, r = .error (.fault f) ∧ f.kind = .invalidFormat

lemma readNumber_of_writes (h : Decimal.WritesInteger v.toList negative ds) :
    readNumber v = if ds.length ≤ maxDigits then .ok (.int (Decimal.signed negative ds))
      else .error (.bare .tooManyDigits) := by
  have hread := Decimal.readInteger?_eq_some_iff.mpr ⟨negative, ds, h, rfl⟩
  rw [readNumber, hread, h.splitSign_eq]
  by_cases hlength : ds.length ≤ maxDigits
  · simp [hlength, Nat.not_lt.mpr hlength]
  · simp [hlength, Nat.not_le.mp hlength]

lemma refusesForm_readNumber_iff :
    RefusesForm (readNumber v) ↔ ∀ negative ds, ¬ Decimal.WritesInteger v.toList negative ds := by
  constructor
  · rintro ⟨f, hf, -⟩ negative ds h
    rw [readNumber_of_writes h] at hf
    split at hf <;> cases hf
  · intro h
    cases hread : Decimal.readInteger? v.toList with
    | none => exact ⟨_, by rw [readNumber, hread], rfl⟩
    | some i =>
      obtain ⟨negative, ds, hwrites, -⟩ := Decimal.readInteger?_eq_some_iff.mp hread
      exact absurd hwrites (h negative ds)

lemma readDecimal_of_writes (h : Decimal.WritesDecimal v.toList negative whole fraction e) :
    ∃ d : Decimal, d.negative = negative ∧ d.coefficient = Decimal.numeral (whole ++ fraction) ∧
      d.exponent = e - fraction.length ∧ d.toRat = Decimal.denoted negative whole fraction e ∧
      readDecimal v = if d.inRange then .ok (.decimal d) else .error (.bare .outOfRange) := by
  have hread := Decimal.read?_eq_some_iff.mpr ⟨negative, whole, fraction, e, h, rfl⟩
  refine ⟨_, rfl, Decimal.digitsValue_eq_numeral _, rfl, Decimal.toRat_read _ _ _ _, ?_⟩
  rw [readDecimal, hread]

lemma refusesForm_readDecimal_iff :
    RefusesForm (readDecimal v) ↔
      ∀ negative whole fraction e, ¬ Decimal.WritesDecimal v.toList negative whole fraction e := by
  constructor
  · rintro ⟨f, hf, -⟩ negative whole fraction e h
    obtain ⟨d, -, -, -, -, hread⟩ := readDecimal_of_writes h
    rw [hread] at hf
    split at hf <;> cases hf
  · intro h
    cases hread : Decimal.read? v.toList with
    | none => exact ⟨_, by rw [readDecimal, hread], rfl⟩
    | some d =>
      obtain ⟨negative, whole, fraction, e, hwrites, -⟩ := Decimal.read?_eq_some_iff.mp hread
      exact absurd hwrites (h negative whole fraction e)

lemma readDecimal_eq_ok_iff {d : Decimal} :
    readDecimal v = .ok (.decimal d) ↔ Decimal.read? v.toList = some d ∧ d.inRange = true := by
  rw [readDecimal]
  cases Decimal.read? v.toList with
  | none => simp
  | some d' =>
    by_cases hrange : d'.inRange = true
    · simp only [hrange, if_true, Except.ok.injEq, Value.decimal.injEq, Option.some.injEq]
      constructor
      · rintro rfl
        exact ⟨rfl, hrange⟩
      · exact And.left
    · simp only [hrange, Bool.false_eq_true, if_false, reduceCtorEq, Option.some.injEq, false_iff]
      rintro ⟨rfl, h⟩
      exact hrange h

lemma exists_writes_of_readNumber {i : Int} (h : readNumber v = .ok (.int i)) :
    ∃ negative ds, Decimal.WritesInteger v.toList negative ds ∧ Decimal.signed negative ds = i := by
  rw [readNumber] at h
  cases hread : Decimal.readInteger? v.toList with
  | none => simp [hread] at h
  | some j =>
    simp only [hread] at h
    split at h
    · cases h
    · cases h
      exact Decimal.readInteger?_eq_some_iff.mp hread

/-- The text of an integer is that of a decimal without point and exponent. -/
lemma writesDecimal_of_writesInteger {cs : List Char} (h : Decimal.WritesInteger cs negative ds) :
    Decimal.WritesDecimal cs negative ds [] 0 := by
  obtain ⟨hsign, hne, hds⟩ := h
  have hwrites := Decimal.WritesDecimal.mk hsign hds Decimal.isRun_nil .none (.inl hne) .none
  simpa using hwrites

/-- What both converters give for one text is one number. -/
lemma toRat_eq_of_readNumber {i : Int} {d : Decimal} (hi : readNumber v = .ok (.int i))
    (hd : readDecimal v = .ok (.decimal d)) : d.toRat = i := by
  obtain ⟨negative, ds, hwrites, rfl⟩ := exists_writes_of_readNumber hi
  obtain ⟨d', -, -, -, hvalue, hread⟩ :=
    readDecimal_of_writes (writesDecimal_of_writesInteger hwrites)
  rw [hd] at hread
  split at hread
  · cases hread
    rw [hvalue, Decimal.denoted_integer]
  · cases hread

/-- A decimal that was converted is converted from what is written for it. -/
lemma readDecimal_text {d : Decimal} (h : readDecimal v = .ok (.decimal d)) :
    readDecimal d.text = .ok (.decimal d) := by
  rw [readDecimal_eq_ok_iff] at h ⊢
  rw [Decimal.text, String.toList_ofList, Decimal.read?_written]
  exact ⟨rfl, h.2⟩

variable {κ σ : Type}

/-- The converter of integers refuses by its form exactly what is no text of an integer, and gives
the integer that such a text denotes if it does not have too many digits. The converter of decimals
does so for the texts of decimals, and gives a decimal with the sign, the digits and the power of
ten of the text, which stands for the number that the text denotes, if it lies within the limits.
Where both give a number, it is the same. What is written for a decimal that was converted is
converted to it again. -/
theorem convert_exact (host : HostConversion κ σ) (type : String) (context : Context κ) (s : σ) :
    let integer := fun v => ((number.convert host v type context).on s).1
    let fractional := fun v => ((decimal.convert host v type context).on s).1
    (∀ v, (RefusesForm (integer v) ↔ ∀ negative ds,
        ¬ Decimal.WritesInteger v.toList negative ds) ∧
      ∀ negative ds, Decimal.WritesInteger v.toList negative ds →
        integer v = if ds.length ≤ 4300 then .ok (.int (Decimal.signed negative ds))
          else .error (.bare .tooManyDigits)) ∧
    (∀ v, (RefusesForm (fractional v) ↔ ∀ negative whole fraction e,
        ¬ Decimal.WritesDecimal v.toList negative whole fraction e) ∧
      ∀ negative whole fraction e, Decimal.WritesDecimal v.toList negative whole fraction e →
        ∃ d : Decimal, d.negative = negative ∧
          d.coefficient = Decimal.numeral (whole ++ fraction) ∧
          d.exponent = e - fraction.length ∧
          d.toRat = Decimal.denoted negative whole fraction e ∧
          fractional v = if d.inRange then .ok (.decimal d) else .error (.bare .outOfRange)) ∧
    (∀ v i d, integer v = .ok (.int i) → fractional v = .ok (.decimal d) → d.toRat = i) ∧
    ∀ v d, fractional v = .ok (.decimal d) → fractional d.text = .ok (.decimal d) :=
  ⟨fun _ => ⟨refusesForm_readNumber_iff, fun _ _ => readNumber_of_writes⟩,
    fun _ => ⟨refusesForm_readDecimal_iff, fun _ _ _ _ => readDecimal_of_writes⟩,
    fun _ _ _ => toRat_eq_of_readNumber, fun _ _ => readDecimal_text⟩

end Converter

end ChatCommands

/-!
# Decimal numbers

An exact decimal is a sign, a coefficient and a power of ten; `1.50` and `1.5` are different
decimals of one value. The written form is positional while the power of ten is not positive and the
number is not too small, else scientific with one digit before the point.
-/

namespace ChatCommands

/-! ### Digits of natural numbers -/

/-- The digit of a number below ten. -/
def digitChar (n : Nat) : Char := Char.ofNat (n + '0'.toNat)

/-- Puts the decimal digits of a number in front of a list; `fuel` bounds their count. -/
def digitsOnto : (fuel n : Nat) → List Char → List Char
  | 0, _, cs => cs
  | fuel + 1, n, cs =>
    if n < 10 then digitChar n :: cs else digitsOnto fuel (n / 10) (digitChar (n % 10) :: cs)

/-- The decimal digits of a natural number, without leading zeros. -/
def digits (n : Nat) : List Char := digitsOnto (n + 1) n []

/-- Whether a character is one of the ten digits `0` to `9`. -/
def isDigit (c : Char) : Bool := '0'.toNat ≤ c.toNat && c.toNat ≤ '9'.toNat

/-- The number that a list of digits denotes. -/
def digitsValue (cs : List Char) : Nat := cs.foldl (fun n c => 10 * n + (c.toNat - '0'.toNat)) 0

/-- An integer with its sign in front when it is negative. -/
def integerText (i : Int) : List Char :=
  if i < 0 then '-' :: digits i.natAbs else digits i.natAbs

/-! ### Decimals -/

/-- The decimal `coefficient · 10 ^ exponent`, negated if `negative`. -/
structure Decimal where
  negative : Bool
  coefficient : Nat
  exponent : Int
  deriving DecidableEq, Repr

namespace Decimal

/-- The power of ten of the first digit. -/
def adjusted (d : Decimal) : Int := d.exponent + (digits d.coefficient).length - 1

/-- The largest power of ten that a first digit may have. -/
def maxAdjusted : Int := 999999999999999999

/-- The smallest power of ten that a last digit may have. -/
def minExponent : Int := -1999999999999999997

/-- Whether the decimal lies within the limits of exact arithmetic. -/
def inRange (d : Decimal) : Bool := d.adjusted ≤ maxAdjusted && minExponent ≤ d.exponent

/-- Digits with a point before the last `places` of them. -/
def positional (ds : List Char) (places : Nat) : List Char :=
  if places = 0 then ds
  else if places < ds.length then
    ds.take (ds.length - places) ++ '.' :: ds.drop (ds.length - places)
  else '0' :: '.' :: List.replicate (places - ds.length) '0' ++ ds

/-- One digit before the point, if there are others, and the power of ten with its sign. -/
def scientific (ds : List Char) (power : Int) : List Char :=
  let mantissa :=
    match ds with
    | d :: e :: es => d :: '.' :: e :: es
    | _ => ds
  mantissa ++ 'E' :: (if power < 0 then '-' else '+') :: digits power.natAbs

/-- The written form of a decimal. -/
def written (d : Decimal) : List Char :=
  let ds := digits d.coefficient
  let body :=
    if d.exponent ≤ 0 ∧ -6 ≤ d.adjusted then positional ds d.exponent.natAbs
    else scientific ds d.adjusted
  if d.negative then '-' :: body else body

/-- The written form as a string. -/
def text (d : Decimal) : String := String.ofList d.written

/-- Drops factors of ten from a coefficient; `fuel` bounds their number. -/
def stripZeros : (fuel : Nat) → Nat → Int → Nat × Int
  | 0, n, e => (n, e)
  | fuel + 1, n, e => if n ≠ 0 ∧ n % 10 = 0 then stripZeros fuel (n / 10) (e + 1) else (n, e)

/-- The decimal of the same value whose last digit is not zero; zero has one such form. -/
def normal (d : Decimal) : Decimal :=
  if d.coefficient = 0 then ⟨false, 0, 0⟩
  else
    let (n, e) := stripZeros (digits d.coefficient).length d.coefficient d.exponent
    ⟨d.negative, n, e⟩

/-- Whether two decimals denote the same number. -/
def sameValue (d e : Decimal) : Bool := d.normal = e.normal

/-- The integer `i` as a decimal. -/
def ofInt (i : Int) : Decimal := ⟨i < 0, i.natAbs, 0⟩

/-! ### Reading -/

/-- The sign at the front of a text, and the rest. -/
def splitSign : List Char → Bool × List Char
  | '-' :: cs => (true, cs)
  | '+' :: cs => (false, cs)
  | cs => (false, cs)

/-- An integer: an optional sign and one or more digits. -/
def readInteger? (cs : List Char) : Option Int :=
  let (negative, ds) := splitSign cs
  if ds ≠ [] ∧ ds.all isDigit then
    some (if negative then -(digitsValue ds : Int) else digitsValue ds)
  else none

/-- What may follow the digits of a decimal: nothing, or an exponent. -/
def readExponent? : List Char → Option Int
  | [] => some 0
  | c :: cs => if c = 'e' ∨ c = 'E' then readInteger? cs else none

/-- A decimal: an optional sign, digits with an optional point and at least one digit, and an
optional exponent. -/
def read? (cs : List Char) : Option Decimal :=
  let (negative, cs) := splitSign cs
  let whole := cs.takeWhile isDigit
  let rest := cs.dropWhile isDigit
  let (fraction, rest) :=
    match rest with
    | '.' :: r => (r.takeWhile isDigit, r.dropWhile isDigit)
    | _ => ([], rest)
  if whole = [] ∧ fraction = [] then none
  else
    (readExponent? rest).map fun e =>
      ⟨negative, digitsValue (whole ++ fraction), e - fraction.length⟩

end Decimal

end ChatCommands

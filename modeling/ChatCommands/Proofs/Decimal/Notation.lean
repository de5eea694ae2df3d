import ChatCommands.Decimal
import Mathlib.Data.List.Induction
import Mathlib.Data.List.TakeWhile
import Mathlib.Data.Nat.Digits.Defs
import Mathlib.Tactic.Common

/-!
# Notation of numbers

What is written for an integer and for a decimal, as relations between a text and the sign, the
digits and the power of ten in it. The readers accept exactly these texts and read them so.

Main statements: `readInteger?_eq_some_iff`, `read?_eq_some_iff`.
-/

namespace ChatCommands.Decimal

/-! ### Relations -/

/-- A run of digits, which may be empty. -/
def IsRun (ds : List Char) : Prop := ∀ c ∈ ds, isDigit c = true

/-- The number that digits denote, by powers of ten. -/
def numeral (ds : List Char) : ℕ := Nat.ofDigits 10 (ds.map fun c => c.toNat - '0'.toNat).reverse

/-- An optional sign. -/
inductive IsSign : Bool → List Char → Prop
  | none : IsSign false []
  | plus : IsSign false ['+']
  | minus : IsSign true ['-']

/-- The text of an integer, with its sign and its digits. -/
inductive WritesInteger : List Char → Bool → List Char → Prop
  | mk {negative : Bool} {sign ds : List Char} (hsign : IsSign negative sign) (hne : ds ≠ [])
      (hds : IsRun ds) : WritesInteger (sign ++ ds) negative ds

/-- The integer of a sign and digits. -/
def signed (negative : Bool) (ds : List Char) : Int :=
  if negative then -(numeral ds : Int) else numeral ds

/-- The text of an exponent, which may be absent. -/
inductive WritesExponent : List Char → Int → Prop
  | none : WritesExponent [] 0
  | marked {mark : Char} {cs ds : List Char} {negative : Bool} (hmark : mark = 'e' ∨ mark = 'E')
      (h : WritesInteger cs negative ds) : WritesExponent (mark :: cs) (signed negative ds)

/-- What stands between the digits before and after the point. Without a point there are none after
it. -/
inductive IsPoint : List Char → List Char → Prop
  | point {fraction : List Char} : IsPoint ['.'] fraction
  | none : IsPoint [] []

/-- The text of a decimal, with its sign, its digits before and after the point, and its
exponent. -/
inductive WritesDecimal : List Char → Bool → List Char → List Char → Int → Prop
  | mk {negative : Bool} {sign whole point fraction tail : List Char} {e : Int}
      (hsign : IsSign negative sign) (hwhole : IsRun whole) (hfraction : IsRun fraction)
      (hpoint : IsPoint point fraction) (hsome : whole ≠ [] ∨ fraction ≠ [])
      (hexponent : WritesExponent tail e) :
      WritesDecimal (sign ++ (whole ++ (point ++ (fraction ++ tail)))) negative whole fraction e

/-! ### Runs of digits -/

variable {cs ds rest sign : List Char} {negative : Bool} {i e : Int}

lemma isRun_iff : IsRun ds ↔ ds.all isDigit = true := List.all_eq_true.symm

lemma isRun_nil : IsRun [] := fun _ hc => absurd hc List.not_mem_nil

lemma isRun_cons_iff {c : Char} : IsRun (c :: ds) ↔ isDigit c = true ∧ IsRun ds :=
  List.forall_mem_cons

lemma isRun_takeWhile (cs : List Char) : IsRun (cs.takeWhile isDigit) :=
  fun _ hc => List.mem_takeWhile_imp hc

lemma IsRun.append (h : IsRun ds) (h' : IsRun rest) : IsRun (ds ++ rest) := by
  intro c hc
  rcases List.mem_append.mp hc with hc | hc
  · exact h c hc
  · exact h' c hc

/-- What follows a run of digits does not start with one. -/
def EndsRun (rest : List Char) : Prop := ∀ c ∈ rest.head?, isDigit c = false

lemma IsRun.takeWhile_append (h : IsRun ds) (hrest : EndsRun rest) :
    (ds ++ rest).takeWhile isDigit = ds := by
  rw [List.takeWhile_append_of_pos h]
  cases rest with
  | nil => simp
  | cons c rest => simp [hrest c rfl]

lemma IsRun.dropWhile_append (h : IsRun ds) (hrest : EndsRun rest) :
    (ds ++ rest).dropWhile isDigit = rest := by
  rw [List.dropWhile_append_of_pos h]
  cases rest with
  | nil => rfl
  | cons c rest => simp [hrest c rfl]

lemma digitsValue_concat (ds : List Char) (c : Char) :
    digitsValue (ds ++ [c]) = 10 * digitsValue ds + (c.toNat - '0'.toNat) := by
  rw [digitsValue, List.foldl_append]
  rfl

lemma numeral_concat (ds : List Char) (c : Char) :
    numeral (ds ++ [c]) = 10 * numeral ds + (c.toNat - '0'.toNat) := by
  simp [numeral, Nat.ofDigits_cons, Nat.add_comm]

lemma digitsValue_eq_numeral (ds : List Char) : digitsValue ds = numeral ds := by
  induction ds using List.reverseRecOn with
  | nil => rfl
  | append_singleton ds c ih => rw [digitsValue_concat, numeral_concat, ih]

/-! ### Signs -/

/-- A text that does not start with a sign. -/
def IsUnsigned (cs : List Char) : Prop := ∀ c ∈ cs.head?, c ≠ '+' ∧ c ≠ '-'

lemma IsSign.splitSign_append (h : IsSign negative sign) (hcs : IsUnsigned cs) :
    splitSign (sign ++ cs) = (negative, cs) := by
  cases h with
  | plus | minus => rfl
  | none =>
    match cs with
    | [] => rfl
    | c :: cs =>
      obtain ⟨hplus, hminus⟩ := hcs c rfl
      rw [List.nil_append, splitSign]
      · rintro cs' ⟨⟩
        exact hminus rfl
      · rintro cs' ⟨⟩
        exact hplus rfl

lemma exists_isSign_splitSign (cs : List Char) :
    ∃ sign, IsSign (splitSign cs).1 sign ∧ cs = sign ++ (splitSign cs).2 := by
  fun_cases splitSign cs with
  | case1 cs => exact ⟨_, .minus, rfl⟩
  | case2 cs => exact ⟨_, .plus, rfl⟩
  | case3 => exact ⟨_, .none, rfl⟩

lemma IsRun.isUnsigned_append (h : IsRun ds) (hne : ds ≠ []) (rest : List Char) :
    IsUnsigned (ds ++ rest) := by
  match ds, hne with
  | d :: ds, _ =>
    rintro c ⟨⟩
    have hd := h d List.mem_cons_self
    constructor
    · rintro rfl
      cases hd
    · rintro rfl
      cases hd

/-! ### Integers -/

lemma readInteger?_of_split (h : splitSign cs = (negative, ds)) :
    readInteger? cs = if ds ≠ [] ∧ ds.all isDigit then some (signed negative ds) else none := by
  rw [readInteger?, h, signed, ← digitsValue_eq_numeral]

lemma WritesInteger.splitSign_eq (h : WritesInteger cs negative ds) :
    splitSign cs = (negative, ds) := by
  obtain ⟨hsign, hne, hds⟩ := h
  have hunsigned := hds.isUnsigned_append hne []
  rw [List.append_nil] at hunsigned
  exact hsign.splitSign_append hunsigned

/-- An integer is read from the texts of integers, and from no other text. -/
lemma readInteger?_eq_some_iff :
    readInteger? cs = some i ↔
      ∃ negative ds, WritesInteger cs negative ds ∧ signed negative ds = i := by
  constructor
  · intro h
    rw [readInteger?_of_split rfl, Option.ite_none_right_eq_some] at h
    obtain ⟨⟨hne, hds⟩, hi⟩ := h
    obtain ⟨sign, hsign, hcs⟩ := exists_isSign_splitSign cs
    rw [hcs]
    exact ⟨_, _, .mk hsign hne (isRun_iff.mpr hds), Option.some.inj hi⟩
  · rintro ⟨negative, ds, h, rfl⟩
    rw [readInteger?_of_split h.splitSign_eq]
    obtain ⟨-, hne, hds⟩ := h
    rw [if_pos ⟨hne, isRun_iff.mp hds⟩]

/-- An exponent is read from the texts of exponents, and from no other text. -/
lemma readExponent?_eq_some_iff : readExponent? cs = some e ↔ WritesExponent cs e := by
  constructor
  · intro h
    match cs with
    | [] =>
      obtain rfl := Option.some.inj h
      exact .none
    | mark :: cs =>
      rw [readExponent?, Option.ite_none_right_eq_some] at h
      obtain ⟨negative, ds, hwrites, rfl⟩ := readInteger?_eq_some_iff.mp h.2
      exact .marked h.1 hwrites
  · rintro (_ | ⟨hmark, hwrites⟩)
    · rfl
    · rw [readExponent?, if_pos hmark]
      exact readInteger?_eq_some_iff.mpr ⟨_, _, hwrites, rfl⟩

/-! ### Decimals -/

variable {whole point fraction tail : List Char} {d : Decimal}

/-- An exponent is told apart from more digits and from a point. -/
lemma WritesExponent.endsRun (h : WritesExponent tail e) : EndsRun tail := by
  cases h with
  | none => simp [EndsRun]
  | marked hmark =>
    rintro c ⟨⟩
    rcases hmark with rfl | rfl <;> rfl

lemma WritesExponent.head_ne_point (h : WritesExponent tail e) : '.' ∉ tail.head? := by
  cases h with
  | none => simp
  | marked hmark =>
    rintro ⟨⟩
    simp at hmark

/-- How a text splits at its digits and its point. -/
structure Splits (cs : List Char) (negative : Bool) (whole point fraction tail : List Char) :
    Prop where
  split : splitSign cs = (negative, whole ++ (point ++ (fraction ++ tail)))
  whole_isRun : IsRun whole
  fraction_isRun : IsRun fraction
  isPoint : IsPoint point fraction
  endsRun : EndsRun tail
  head_ne_point : point = [] → '.' ∉ tail.head?

lemma endsRun_dropWhile (cs : List Char) : EndsRun (cs.dropWhile isDigit) := by
  intro c hc
  have hnot := List.head?_dropWhile_not isDigit cs
  rw [Option.mem_def.mp hc] at hnot
  exact hnot

lemma exists_splits (cs : List Char) :
    ∃ negative whole point fraction tail, Splits cs negative whole point fraction tail := by
  rcases hsplit : splitSign cs with ⟨negative, body⟩
  have hbody : body.takeWhile isDigit ++ body.dropWhile isDigit = body :=
    List.takeWhile_append_dropWhile
  by_cases hpoint : ∃ r, body.dropWhile isDigit = '.' :: r
  · obtain ⟨r, hr⟩ := hpoint
    refine ⟨negative, body.takeWhile isDigit, ['.'], r.takeWhile isDigit, r.dropWhile isDigit,
      ?_, isRun_takeWhile _, isRun_takeWhile _, .point, endsRun_dropWhile r, by simp⟩
    rw [hsplit, List.takeWhile_append_dropWhile, List.singleton_append, ← hr, hbody]
  · refine ⟨negative, body.takeWhile isDigit, [], [], body.dropWhile isDigit, ?_,
      isRun_takeWhile _, isRun_nil, .none, endsRun_dropWhile body, fun _ hhead => ?_⟩
    · rw [hsplit, List.nil_append, List.nil_append, hbody]
    · cases hrest : body.dropWhile isDigit with
      | nil => simp [hrest] at hhead
      | cons c r =>
        rw [hrest, List.head?_cons, Option.mem_some] at hhead
        exact hpoint ⟨r, hhead ▸ hrest⟩

/-- The digits behind a point, if there is one, and what follows. -/
def splitPoint (cs : List Char) : List Char × List Char :=
  match cs with
  | '.' :: r => (r.takeWhile isDigit, r.dropWhile isDigit)
  | _ => ([], cs)

lemma Splits.splitPoint_eq (h : Splits cs negative whole point fraction tail) :
    splitPoint (point ++ (fraction ++ tail)) = (fraction, tail) := by
  cases h.isPoint with
  | point =>
    rw [List.singleton_append, splitPoint, h.fraction_isRun.takeWhile_append h.endsRun,
      h.fraction_isRun.dropWhile_append h.endsRun]
  | none =>
    rw [List.nil_append, List.nil_append, splitPoint]
    rintro r rfl
    exact h.head_ne_point rfl rfl

lemma Splits.endsRun_point (h : Splits cs negative whole point fraction tail) :
    EndsRun (point ++ (fraction ++ tail)) := by
  cases h.isPoint with
  | point =>
    rintro c ⟨⟩
    rfl
  | none => exact h.endsRun

/-- The decimal of a sign, of digits, and of the digits behind the point with what follows. -/
def ofParts (negative : Bool) (whole : List Char) (parts : List Char × List Char) :
    Option Decimal :=
  if whole = [] ∧ parts.1 = [] then none
  else (readExponent? parts.2).map fun e =>
    ⟨negative, digitsValue (whole ++ parts.1), e - parts.1.length⟩

lemma read?_eq_ofParts (cs : List Char) :
    read? cs = ofParts (splitSign cs).1 ((splitSign cs).2.takeWhile isDigit)
      (splitPoint ((splitSign cs).2.dropWhile isDigit)) := rfl

/-- A text is read by its parts. -/
lemma Splits.read?_eq (h : Splits cs negative whole point fraction tail) :
    read? cs = ofParts negative whole (fraction, tail) := by
  rw [read?_eq_ofParts, h.split, h.whole_isRun.takeWhile_append h.endsRun_point,
    h.whole_isRun.dropWhile_append h.endsRun_point, h.splitPoint_eq]

lemma WritesDecimal.splits (h : WritesDecimal cs negative whole fraction e) :
    ∃ point tail, Splits cs negative whole point fraction tail ∧ (whole ≠ [] ∨ fraction ≠ []) ∧
      WritesExponent tail e := by
  obtain ⟨hsign, hwhole, hfraction, hpoint, hsome, hexponent⟩ := h
  refine ⟨_, _, ⟨hsign.splitSign_append ?_, hwhole, hfraction, hpoint, hexponent.endsRun,
    fun _ => hexponent.head_ne_point⟩, hsome, hexponent⟩
  by_cases hnil : whole = []
  · subst hnil
    cases hpoint with
    | point =>
      rintro c ⟨⟩
      decide
    | none => simp at hsome
  · exact hwhole.isUnsigned_append hnil _

lemma Splits.writesDecimal (h : Splits cs negative whole point fraction tail)
    (hsome : whole ≠ [] ∨ fraction ≠ []) (hexponent : WritesExponent tail e) :
    WritesDecimal cs negative whole fraction e := by
  obtain ⟨sign, hsign, hcs⟩ := exists_isSign_splitSign cs
  rw [h.split] at hsign hcs
  rw [hcs]
  exact .mk hsign h.whole_isRun h.fraction_isRun h.isPoint hsome hexponent

/-- A decimal is read from the texts of decimals, and from no other text. -/
lemma read?_eq_some_iff :
    read? cs = some d ↔ ∃ negative whole fraction e, WritesDecimal cs negative whole fraction e ∧
      ⟨negative, digitsValue (whole ++ fraction), e - fraction.length⟩ = d := by
  constructor
  · intro h
    obtain ⟨negative, whole, point, fraction, tail, hsplits⟩ := exists_splits cs
    rw [hsplits.read?_eq, ofParts, Option.ite_none_left_eq_some, Option.map_eq_some_iff] at h
    obtain ⟨hsome, e, he, rfl⟩ := h
    rw [not_and_or] at hsome
    exact ⟨negative, whole, fraction, e,
      hsplits.writesDecimal hsome (readExponent?_eq_some_iff.mp he), rfl⟩
  · rintro ⟨negative, whole, fraction, e, hwrites, rfl⟩
    obtain ⟨point, tail, hsplits, hsome, hexponent⟩ := hwrites.splits
    rw [hsplits.read?_eq, ofParts, if_neg (not_and_or.mpr hsome),
      readExponent?_eq_some_iff.mpr hexponent]
    rfl

end ChatCommands.Decimal

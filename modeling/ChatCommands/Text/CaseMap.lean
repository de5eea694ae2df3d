/-!
# Maps of letter case

A case map sends each character to one or more characters. Most letters move by a distance they
share with their neighbours (a run); a few become several characters; all others stay.
-/

namespace ChatCommands.Text

/-- Every `step`-th code point from `first` to `last` moves by `distance`. -/
structure CaseRun where
  first : Nat
  last : Nat
  step : Nat
  distance : Int

/-- A change of letter case. -/
structure CaseMap where
  runs : List CaseRun
  several : List (Nat × List Nat)

/-- Whether a code point lies on a run. -/
def CaseRun.covers (r : CaseRun) (n : Nat) : Bool :=
  r.first ≤ n && n ≤ r.last && (n - r.first) % r.step == 0

/-- The characters that a character becomes. -/
def CaseMap.apply (m : CaseMap) (c : Char) : List Char :=
  match m.several.lookup c.toNat with
  | some ns => ns.map Char.ofNat
  | none =>
    match m.runs.find? (·.covers c.toNat) with
    | some r => [Char.ofNat (c.toNat + r.distance).toNat]
    | none => [c]

end ChatCommands.Text

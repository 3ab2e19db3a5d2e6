/-! The shortest decimal for a binary fraction: of all decimals that lie closer to it
than to its neighbours, one with the fewest digits, and of those the nearest. All
arithmetic is on natural numbers, so nothing is rounded on the way. -/
namespace TypeStubs.Decimal

/-- A positive binary fraction `mantissa * 2 ^ exponent`, with whether its lower
neighbour is only half as far away as its upper one. -/
structure Binary where
  mantissa : Nat
  exponent : Int
  narrowBelow : Bool
  deriving DecidableEq, Repr

/-- The decimal `digits * 10 ^ exponent`. -/
structure Scaled where
  digits : Nat
  exponent : Int
  deriving DecidableEq, Repr

/-- A ratio of natural numbers. -/
structure Ratio where
  num : Nat
  den : Nat

namespace Binary

/-- A quarter of the distance to the upper neighbour, as a ratio. -/
def quarter (value : Binary) : Ratio :=
  match value.exponent with
  | .ofNat n => ⟨Nat.pow 2 n, 4⟩
  | .negSucc n => ⟨1, 4 * Nat.pow 2 (n + 1)⟩

/-- The fraction in quarters of the distance to its upper neighbour. -/
def quarters (value : Binary) : Nat := 4 * value.mantissa

/-- The least point in quarters that is not closer to the lower neighbour. -/
def lowQuarters (value : Binary) : Nat := value.quarters - if value.narrowBelow then 1 else 2

/-- The greatest point in quarters that is not closer to the upper neighbour. -/
def highQuarters (value : Binary) : Nat := value.quarters + 2

/-- The power of ten of the leading decimal digit. -/
def leading (value : Binary) : Int :=
  let num := value.quarters * value.quarter.num
  let den := value.quarter.den
  if den ≤ num then ((Nat.toDigits 10 (num / den)).length : Int) - 1
  else
    match (List.range 400).find? fun k => den ≤ num * Nat.pow 10 k with
    | some k => -(k : Int)
    | none => 0

/-- The unit `10 ^ exponent`, as many quarters as it is long. -/
def unitOf (value : Binary) (exponent : Int) : Ratio :=
  let q := value.quarter
  match exponent with
  | .ofNat n => ⟨Nat.pow 10 n * q.den, q.num⟩
  | .negSucc n => ⟨q.den, q.num * Nat.pow 10 (n + 1)⟩

/-- Whether `count` units lie closer to the fraction than to its neighbours. A point
just between two neighbours belongs to the one with the even mantissa. -/
def owns (value : Binary) (unit : Ratio) (count : Nat) : Bool :=
  let point := count * unit.num
  let low := value.lowQuarters * unit.den
  let high := value.highQuarters * unit.den
  if value.mantissa % 2 == 0 then low ≤ point && point ≤ high else low < point && point < high

/-- The decimal with the given place of its last digit, if one belongs to the
fraction: the nearer of the two around it, and of two equally near the even one. -/
def onGrid? (value : Binary) (exponent : Int) : Option Scaled :=
  let unit := value.unitOf exponent
  let below := value.quarters * unit.den / unit.num
  let above := below + 1
  let down := value.quarters * unit.den - below * unit.num
  let up := above * unit.num - value.quarters * unit.den
  match value.owns unit below, value.owns unit above with
  | true, true =>
    if down < up || (down == up && below % 2 == 0) then some ⟨below, exponent⟩
    else some ⟨above, exponent⟩
  | true, false => some ⟨below, exponent⟩
  | false, true => some ⟨above, exponent⟩
  | false, false => none

/-- The shortest decimal for the fraction. Seventeen digits always suffice for a
mantissa of fifty-three bits. -/
def shortest (value : Binary) : Scaled :=
  let leading := value.leading
  let grids := (List.range 17).map fun (n : Nat) => leading - (n : Int)
  (grids.findSome? value.onGrid?).getD ⟨0, 0⟩

/-- The magnitude of a finite double other than zero, from its bits. -/
def ofBits (bits : UInt64) : Binary :=
  let fraction : Nat := bits.toNat % Nat.pow 2 52
  let field : Nat := bits.toNat / Nat.pow 2 52 % Nat.pow 2 11
  if field == 0 then ⟨fraction, -1074, false⟩
  else ⟨Nat.pow 2 52 + fraction, (field : Int) - 1075, fraction == 0 && field != 1⟩

end Binary

end TypeStubs.Decimal

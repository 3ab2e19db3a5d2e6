import TypeStubs.Decimal.Shortest

/-! Numbers in JSON: how a written number is understood, and how a number is written.
Whole numbers of sixty-four bits stay whole; every other number is a double. -/
namespace TypeStubs.Json

/-- A number that has been understood. -/
inductive Number where
  /-- A whole number from `-2 ^ 63` to `2 ^ 64 - 1`. -/
  | whole (value : Int)
  | double (value : Float)
  deriving Repr, Inhabited

namespace Number

/-- The parts of a written number. The digits of each part stand in their order. -/
structure Parts where
  negative : Bool
  whole : List Char
  fraction : List Char
  /-- Whether the digits of the exponent follow a minus sign. -/
  smaller : Bool
  exponent : List Char
  /-- Whether the number is written with a point or an exponent. -/
  isPlain : Bool

/-- The parts of a text that is written as a number. -/
def Parts.ofChars (chars : List Char) : Parts :=
  let negative := chars.head? == some '-'
  let rest := if negative then chars.drop 1 else chars
  let whole := rest.takeWhile Char.isDigit
  let rest := rest.dropWhile Char.isDigit
  let isPlain := rest.isEmpty
  let (fraction, rest) :=
    match rest with
    | '.' :: rest => (rest.takeWhile Char.isDigit, rest.dropWhile Char.isDigit)
    | rest => ([], rest)
  let rest := rest.drop 1
  let smaller := rest.head? == some '-'
  let exponent := rest.dropWhile fun c => c == '+' || c == '-'
  ⟨negative, whole, fraction, smaller, exponent, isPlain⟩

/-- The greatest number that a significand may reach. -/
def significandLimit : Nat := Nat.pow 2 64 - 1

/-- Appends digits to a significand as long as it stays within its limit; the digits
left over are given back. -/
def accumulate (significand : Nat) : List Char → Nat × List Char
  | [] => (significand, [])
  | c :: rest =>
    let next := significand * 10 + (c.toNat - '0'.toNat)
    if significandLimit < next then (significand, c :: rest) else accumulate next rest

/-- The power of ten as a double, rounded to nearest. -/
def powerOfTen (n : Nat) : Float := Float.ofScientific 1 false n

/-- Divides by a power of ten, in steps of the greatest power that is a double. -/
def scaleDown (value : Float) (places : Nat) : Float :=
  if places ≤ 308 then value / powerOfTen places
  else if value == 0 then value
  else scaleDown (value / powerOfTen 308) (places - 308)
termination_by places
decreasing_by omega

/-- A significand times a power of ten, by one multiplication or by divisions of
doubles; nothing when the product is too great for a double. -/
def scale? (significand : Nat) (exponent : Int) : Option Float :=
  let value := (UInt64.ofNat significand).toFloat
  match exponent with
  | .ofNat n =>
    if n ≤ 308 then
      let product := value * powerOfTen n
      if product.isInf then none else some product
    else if value == 0 then some value
    else none
  | .negSucc n => some (scaleDown value (n + 1))

/-- The exponent that digits spell, or nothing when it needs more than thirty-one
bits. -/
def exponent? (digits : List Char) : Option Nat :=
  digits.foldl
    (fun sum c => sum.bind fun sum =>
      let next := sum * 10 + (c.toNat - '0'.toNat)
      if Nat.pow 2 31 - 1 < next then none else some next)
    (some 0)

/-- The magnitude of a number that is not plain and whole. Digits of the whole part
that do not fit the significand count as places; digits of the fraction that do not
fit are dropped. -/
def magnitude? (parts : Parts) : Option Float :=
  let (significand, beyond) := accumulate 0 parts.whole
  let (significand, left) := accumulate significand parts.fraction
  let places : Int := (beyond.length : Int) - ((parts.fraction.length - left.length : Nat) : Int)
  match exponent? parts.exponent with
  | some exponent =>
    scale? significand (if parts.smaller then places - exponent else places + exponent)
  | none => if parts.smaller || significand == 0 then some 0 else none

/-- Whether a number is too great for a double by the digits of its exponent alone, so
that no further digit can change it. -/
def isBoundless (chars : List Char) : Bool :=
  let parts := Parts.ofChars chars
  let significand := (accumulate (accumulate 0 parts.whole).1 parts.fraction).1
  (exponent? parts.exponent).isNone && !parts.smaller && significand != 0

/-- Understands a written number; nothing when it is too great for a double. -/
def ofChars? (chars : List Char) : Option Number :=
  let parts := Parts.ofChars chars
  let (significand, beyond) := accumulate 0 parts.whole
  if parts.isPlain && beyond.isEmpty && !parts.negative then some (.whole significand)
  else if parts.isPlain && beyond.isEmpty && 0 < significand && significand ≤ Nat.pow 2 63 then
    some (.whole (-(significand : Int)))
  else (magnitude? parts).map fun value => .double (if parts.negative then -value else value)

/-- Digits with their leading digit at the given power of ten: positional from the
fifth place behind the point to the sixteenth before it, with an exponent beyond. -/
def layout (digits : List Char) (leading : Int) : String :=
  if leading < -5 || 15 < leading then
    let sign := if leading < 0 then "e-" else "e+"
    let tail := digits.drop 1
    String.ofList (digits.take 1) ++ (if tail.isEmpty then "" else "." ++ String.ofList tail) ++
      sign ++ toString leading.natAbs
  else if leading < 0 then
    "0." ++ String.ofList (List.replicate (leading.natAbs - 1) '0' ++ digits)
  else
    let places := leading.natAbs + 1
    let whole := digits.take places ++ List.replicate (places - digits.length) '0'
    let fraction := digits.drop places
    String.ofList whole ++ "." ++ (if fraction.isEmpty then "0" else String.ofList fraction)

/-- Removes zeros at the end of the digits of a decimal. -/
def significant (digits : List Char) : List Char :=
  (digits.reverse.dropWhile (· == '0')).reverse

/-- A double as text: the fewest digits that read back as it, with a point or an
exponent always. -/
def doubleText (value : Float) : String :=
  let bits := value.toBits
  let sign := if Nat.pow 2 63 ≤ bits.toNat then "-" else ""
  if bits.toNat % Nat.pow 2 63 == 0 then sign ++ "0.0"
  else
    let decimal := (Decimal.Binary.ofBits bits).shortest
    let digits := Nat.toDigits 10 decimal.digits
    sign ++ layout (significant digits) (decimal.exponent + (digits.length : Int) - 1)

/-- A number as text. -/
def text : Number → String
  | .whole value => toString value
  | .double value => doubleText value

end Number

end TypeStubs.Json

/-! The scalar values of TOML: strings of four kinds, numbers, truth values, dates and
times. Each reader takes a text and gives the value at its start with the text behind
it, or nothing when no such value stands there. -/
namespace TypeStubs.Toml

/-- A value of a document. Tables keep their entries in order. -/
inductive Value where
  | string (text : String)
  | integer (value : Int)
  /-- A fraction, by its sign and digits as they are written. -/
  | float (written : String)
  | boolean (value : Bool)
  /-- A date, a time or both, in its canonical text. -/
  | moment (text : String)
  | array (items : List Value)
  | table (entries : List (String × Value))
  deriving Repr, Inhabited

namespace Scalar

/-- Blanks within a line. -/
def isSpace (c : Char) : Bool := c == ' ' || c == '\t'

/-- Characters that may stand in comments and, but for delimiters, in strings. -/
def isPrintable (c : Char) : Bool := c == '\t' || (0x20 ≤ c.toNat && c.toNat != 0x7F)

/-- The text behind its leading blanks. -/
def skipSpaces (s : List Char) : List Char := s.dropWhile isSpace

/-- The text behind the line end at its start. -/
def lineEnd? : List Char → Option (List Char)
  | '\n' :: s => some s
  | '\r' :: '\n' :: s => some s
  | _ => none

/-- The value of a hexadecimal digit. -/
def hexDigit? (c : Char) : Option Nat :=
  if c.isDigit then some (c.toNat - 48)
  else if 'a' ≤ c && c ≤ 'f' then some (c.toNat - 87)
  else if 'A' ≤ c && c ≤ 'F' then some (c.toNat - 55)
  else none

/-- The character with the code point that hexadecimal digits spell. -/
def codePoint? (digits : List Char) : Option Char := do
  let values ← digits.mapM hexDigit?
  let n := values.foldl (fun sum digit => sum * 16 + digit) 0
  if n < 0xD800 || (0xDFFF < n && n ≤ 0x10FFFF) then some (Char.ofNat n) else none

/-- The character a short escape stands for. -/
def shortEscape? (c : Char) : Option Char :=
  if c == '"' || c == '\\' then some c
  else if c == 'b' then some '\x08'
  else if c == 'f' then some '\x0c'
  else if c == 'n' then some '\n'
  else if c == 'r' then some '\r'
  else if c == 't' then some '\t'
  else none

/-- Puts a character before what is read. -/
def before (c : Char) (rest : Option (List Char × List Char)) : Option (List Char × List Char) :=
  rest.map fun (text, behind) => (c :: text, behind)

/-- A basic string behind its opening quote. -/
def basic : List Char → Option (List Char × List Char)
  | [] => none
  | '"' :: s => some ([], s)
  | '\\' :: 'u' :: a :: b :: c :: d :: s => do before (← codePoint? [a, b, c, d]) (basic s)
  | '\\' :: 'U' :: a :: b :: c :: d :: e :: f :: g :: h :: s => do
    before (← codePoint? [a, b, c, d, e, f, g, h]) (basic s)
  | '\\' :: c :: s => do before (← shortEscape? c) (basic s)
  | c :: s => if isPrintable c && c != '\\' then before c (basic s) else none

/-- A literal string behind its opening quote. -/
def literal : List Char → Option (List Char × List Char)
  | [] => none
  | '\'' :: s => some ([], s)
  | c :: s => if isPrintable c then before c (literal s) else none

/-- Up to two quotes that stand before the three closing ones. -/
def surplus (quote : Char) : List Char → List Char × List Char
  | a :: b :: s =>
    if a == quote && b == quote then ([a, b], s)
    else if a == quote then ([a], b :: s)
    else ([], a :: b :: s)
  | [a] => if a == quote then ([a], []) else ([], [a])
  | [] => ([], [])

/-- Whether only blanks stand before the end of the line. -/
def endsLine (s : List Char) : Bool := (lineEnd? (skipSpaces s)).isSome

/-- A basic string of several lines behind its opening quotes. `gap` says that a back
slash has ended a line, and that blanks and line ends up to the next character count
for nothing. -/
def basicLines (gap : Bool) : List Char → Option (List Char × List Char)
  | [] => none
  | '"' :: '"' :: '"' :: s => some (surplus '"' s)
  | '\r' :: '\n' :: s => if gap then basicLines true s else before '\n' (basicLines false s)
  | '\n' :: s => if gap then basicLines true s else before '\n' (basicLines false s)
  | '\\' :: 'u' :: a :: b :: c :: d :: s => do
    before (← codePoint? [a, b, c, d]) (basicLines false s)
  | '\\' :: 'U' :: a :: b :: c :: d :: e :: f :: g :: h :: s => do
    before (← codePoint? [a, b, c, d, e, f, g, h]) (basicLines false s)
  | '\\' :: c :: s =>
    if endsLine (c :: s) then basicLines true (c :: s)
    else do before (← shortEscape? c) (basicLines false s)
  | c :: s =>
    if gap && isSpace c then basicLines true s
    else if isPrintable c && c != '\\' then before c (basicLines false s)
    else none

/-- A literal string of several lines behind its opening quotes. -/
def literalLines : List Char → Option (List Char × List Char)
  | [] => none
  | '\'' :: '\'' :: '\'' :: s => some (surplus '\'' s)
  | '\r' :: '\n' :: s => before '\n' (literalLines s)
  | '\n' :: s => before '\n' (literalLines s)
  | c :: s => if isPrintable c then before c (literalLines s) else none

/-- The text without a line end at its very start. -/
def dropLineEnd (s : List Char) : List Char := (lineEnd? s).getD s

/-- A string of any kind. -/
def string? : List Char → Option (List Char × List Char)
  | '"' :: '"' :: '"' :: s => basicLines false (dropLineEnd s)
  | '"' :: s => basic s
  | '\'' :: '\'' :: '\'' :: s => literalLines (dropLineEnd s)
  | '\'' :: s => literal s
  | _ => none

/-- Digits of a class, with single underscores between them, behind a first digit. -/
def moreDigits (isDigit : Char → Bool) : List Char → Option (List Char × List Char)
  | [] => some ([], [])
  | ['_'] => none
  | '_' :: c :: s => if isDigit c then before c (moreDigits isDigit s) else none
  | c :: s => if isDigit c then before c (moreDigits isDigit s) else some ([], c :: s)

/-- Digits of a class, with single underscores between them. -/
def digits? (isDigit : Char → Bool) : List Char → Option (List Char × List Char)
  | c :: s => if isDigit c then before c (moreDigits isDigit s) else none
  | [] => none

/-- Whether the text starts with a minus sign, and the text behind its sign. -/
def sign : List Char → Bool × List Char
  | '-' :: s => (true, s)
  | '+' :: s => (false, s)
  | s => (false, s)

/-- The digits of a decimal number; a zero at the start stands alone. -/
def decimal? : List Char → Option (List Char × List Char)
  | '0' :: s => some (['0'], s)
  | s => digits? Char.isDigit s

/-- The number that digits spell to a base. -/
def valueOf (base : Nat) (digits : List Char) : Nat :=
  digits.foldl (fun sum c => sum * base + (hexDigit? c).getD 0) 0

/-- A whole number, if it has sixty-four bits. -/
def whole? (value : Int) : Option Value :=
  if -(Nat.pow 2 63 : Int) ≤ value && value < (Nat.pow 2 63 : Int) then some (.integer value) else none

/-- Whether a positive decimal is too great for a double. -/
def overflows (significand : Nat) (exponent : Int) : Bool :=
  let leading := ((Nat.toDigits 10 significand).length : Int) - 1 + exponent
  if significand == 0 || leading < 308 then false
  else if 308 < leading then true
  else
    match exponent with
    | .ofNat n => decide (Nat.pow 2 1024 - Nat.pow 2 970 ≤ significand * Nat.pow 10 n)
    | .negSucc n => decide ((Nat.pow 2 1024 - Nat.pow 2 970) * Nat.pow 10 (n + 1) ≤ significand)

/-- A fraction from its parts. One that is too great must be negative. -/
def float? (negative : Bool) (whole fraction : List Char) (smaller : Bool)
    (exponent : List Char) : Option Value :=
  let shift := (valueOf 10 exponent : Int)
  let places := (if smaller then -shift else shift) - (fraction.length : Int)
  if overflows (valueOf 10 (whole ++ fraction)) places && !negative then none
  else
    let sign := if negative then ['-'] else []
    let mark := if exponent.isEmpty then [] else 'e' :: (if smaller then ['-'] else []) ++ exponent
    let point := if fraction.isEmpty then [] else '.' :: fraction
    some (.float (String.ofList (sign ++ whole ++ point ++ mark)))

/-- The exponent of a fraction behind its mark. -/
def exponent? (s : List Char) : Option ((Bool × List Char) × List Char) := do
  let (smaller, s) := sign s
  let (digits, s) ← digits? Char.isDigit s
  some ((smaller, digits), s)

/-- A number in decimal notation. -/
def number? (s : List Char) : Option (Value × List Char) := do
  let (negative, s) := sign s
  match s with
  | 'i' :: 'n' :: 'f' :: s => some (.float (if negative then "-inf" else "inf"), s)
  | 'n' :: 'a' :: 'n' :: s => some (.float "nan", s)
  | s =>
    let (whole, s) ← decimal? s
    let value : Int := valueOf 10 whole
    match s with
    | '.' :: s =>
      let (fraction, s) ← digits? Char.isDigit s
      match s with
      | c :: rest =>
        if c == 'e' || c == 'E' then
          let ((smaller, exponent), s) ← exponent? rest
          some (← float? negative whole fraction smaller exponent, s)
        else some (← float? negative whole fraction false [], c :: rest)
      | [] => some (← float? negative whole fraction false [], [])
    | c :: rest =>
      if c == 'e' || c == 'E' then
        let ((smaller, exponent), s) ← exponent? rest
        some (← float? negative whole [] smaller exponent, s)
      else some (← whole? (if negative then -value else value), c :: rest)
    | [] => some (← whole? (if negative then -value else value), [])

/-- A number in the notation of another base, behind its mark. -/
def based? (base : Nat) (s : List Char) : Option (Value × List Char) := do
  let isDigit := fun c => (hexDigit? c).any (· < base)
  let (digits, s) ← digits? isDigit s
  some (← whole? (valueOf base digits), s)

/-- Two digits that spell a number within bounds. -/
def twoDigits? (low high : Nat) : List Char → Option (Nat × List Char)
  | a :: b :: s =>
    let n := valueOf 10 [a, b]
    if a.isDigit && b.isDigit && low ≤ n && n ≤ high then some (n, s) else none
  | _ => none

/-- The days of a month. -/
def daysIn (year month : Nat) : Nat :=
  if month == 2 then
    if year % 4 == 0 && (year % 100 != 0 || year % 400 == 0) then 29 else 28
  else if month == 4 || month == 6 || month == 9 || month == 11 then 30
  else 31

/-- A number written with at least the given count of digits. -/
def padded (width n : Nat) : String :=
  let digits := Nat.toDigits 10 n
  String.ofList (List.replicate (width - digits.length) '0' ++ digits)

/-- A date, behind the four digits of its year and a hyphen. -/
def date? (year : Nat) (s : List Char) : Option (String × List Char) := do
  let (month, s) ← twoDigits? 1 12 s
  match s with
  | '-' :: s =>
    let (day, s) ← twoDigits? 1 31 s
    if daysIn year month < day then none
    else some (padded 4 year ++ "-" ++ padded 2 month ++ "-" ++ padded 2 day, s)
  | _ => none

/-- The fraction of a second: nine places, without the zeros at their end. -/
def secondFraction (digits : List Char) : String :=
  let kept := ((digits.take 9).reverse.dropWhile (· == '0')).reverse
  if kept.isEmpty then "" else "." ++ String.ofList kept

/-- A time behind its hour and a colon. -/
def time? (hour : Nat) (s : List Char) : Option (String × List Char) := do
  let (minute, s) ← twoDigits? 0 59 s
  match s with
  | ':' :: s =>
    let (second, s) ← twoDigits? 0 60 s
    let text := padded 2 hour ++ ":" ++ padded 2 minute ++ ":" ++ padded 2 second
    match s with
    | '.' :: s =>
      let digits := s.takeWhile Char.isDigit
      if digits.isEmpty then some (text, '.' :: s)
      else some (text ++ secondFraction digits, s.dropWhile Char.isDigit)
    | s => some (text, s)
  | _ => none

/-- A time. -/
def clock? (s : List Char) : Option (String × List Char) := do
  let (hour, s) ← twoDigits? 0 23 s
  match s with
  | ':' :: s => time? hour s
  | _ => none

/-- The distance from universal time, if one is given. -/
def offset? (s : List Char) : Option (String × List Char) := do
  let numeric := fun (negative : Bool) (s : List Char) => do
    let (hour, s) ← twoDigits? 0 23 s
    match s with
    | ':' :: s =>
      let (minute, s) ← twoDigits? 0 59 s
      let sign := if negative && (hour != 0 || minute != 0) then "-" else "+"
      some (sign ++ padded 2 hour ++ ":" ++ padded 2 minute, s)
    | _ => none
  match s with
  | 'Z' :: s => some ("Z", s)
  | 'z' :: s => some ("Z", s)
  | '+' :: s => numeric false s
  | '-' :: s => numeric true s
  | s => some ("", s)

/-- A date with what may follow it: a time, and a distance from universal time. -/
def moment? (year : Nat) (s : List Char) : Option (Value × List Char) := do
  let (date, s) ← date? year s
  match s with
  | c :: rest =>
    let hour := (twoDigits? 0 23 rest).filter fun (_, s) => s.head? == some ':'
    if (c == 'T' || c == 't' || c == ' ') && hour.isSome then
      let (time, s) ← clock? rest
      let (offset, s) ← offset? s
      some (.moment (date ++ "T" ++ time ++ offset), s)
    else some (.moment date, s)
  | [] => some (.moment date, [])

/-- A number, a date or a time. Four digits and a hyphen start a date, and two digits
and a colon a time. -/
def numberOrMoment? : List Char → Option (Value × List Char)
  | '0' :: 'x' :: s => based? 16 s
  | '0' :: 'o' :: s => based? 8 s
  | '0' :: 'b' :: s => based? 2 s
  | s =>
    let lead := s.takeWhile Char.isDigit
    let rest := s.dropWhile Char.isDigit
    match lead.length, rest with
    | 4, '-' :: rest => moment? (valueOf 10 lead) rest
    | 2, ':' :: _ => (clock? s).map fun (time, s) => (.moment time, s)
    | _, _ => number? s

/-- A scalar value of any kind. -/
def scalar? : List Char → Option (Value × List Char)
  | 't' :: 'r' :: 'u' :: 'e' :: s => some (.boolean true, s)
  | 'f' :: 'a' :: 'l' :: 's' :: 'e' :: s => some (.boolean false, s)
  | c :: s =>
    if c == '"' || c == '\'' then
      (string? (c :: s)).map fun (text, s) => (.string (String.ofList text), s)
    else if c.isDigit || c == '+' || c == '-' || c == 'i' || c == 'n' then numberOrMoment? (c :: s)
    else none
  | [] => none

/-- Characters of a bare key. -/
def isBare (c : Char) : Bool := c.isAlphanum || c == '_' || c == '-'

/-- One part of a key: a string of one line, or a run of bare characters. -/
def keyPart? : List Char → Option (String × List Char)
  | '"' :: s => (basic s).map fun (text, s) => (String.ofList text, s)
  | '\'' :: s => (literal s).map fun (text, s) => (String.ofList text, s)
  | s =>
    let part := s.takeWhile isBare
    if part.isEmpty then none else some (String.ofList part, s.dropWhile isBare)

end Scalar

end TypeStubs.Toml

/-! Documents in JSON as they are written. A node keeps strings and numbers in their
written form, because a value that nobody asks for is only looked at as text. A text
that stops being JSON still has a node: it holds all that stands before the flaw, and
says where the flaw is, so that a reader meets the flaw exactly when it gets there. -/
namespace TypeStubs.Json

/-- Why a text is no JSON from some point on. -/
inductive Flaw where
  /-- The text ends where more has to follow. -/
  | ended
  /-- Something stands there that must not. -/
  | malformed
  deriving DecidableEq, Repr

/-- How a node ends. -/
inductive Closing where
  | closed
  | broken (flaw : Flaw)
  deriving DecidableEq, Repr

/-- One piece of a written string. -/
inductive Piece where
  /-- A character, written plainly or by its short escape. -/
  | char (c : Char)
  /-- A sixteen-bit unit written as four hexadecimal digits. -/
  | unit (n : Nat)
  /-- A byte that is part of no character. -/
  | stray
  deriving DecidableEq, Repr

/-- A string as it is written, up to its closing quote or to a flaw. -/
structure Written where
  pieces : List Piece
  closing : Closing
  deriving DecidableEq, Repr

/-- A value as it is written. The items of an array and the members of an object
stand in their order, repeated members included. -/
inductive Node where
  | null
  | bool (value : Bool)
  | number (text : List Char) (closing : Closing)
  | string (text : Written)
  | array (items : List Node) (closing : Closing)
  | object (members : List (Written × Node)) (closing : Closing)
  /-- No value: the flaw is where one has to start, or inside a literal name. -/
  | broken (flaw : Flaw)
  deriving Repr, Inhabited

/-- A whole text: its value, and whether anything but blanks follows it. -/
structure Document where
  root : Node
  closing : Closing
  deriving Repr

namespace Closing

/-- Succeeds when nothing is broken. -/
def check : Closing → Except Flaw Unit
  | .closed => .ok ()
  | .broken flaw => .error flaw

end Closing

namespace Written

/-- Whether the unit is the first half of a surrogate pair. -/
def isLead (n : Nat) : Bool := 0xD800 ≤ n && n ≤ 0xDBFF

/-- Whether the unit is the second half of a surrogate pair. -/
def isTrail (n : Nat) : Bool := 0xDC00 ≤ n && n ≤ 0xDFFF

/-- The characters that pieces spell, with `none` for each stray byte. Surrogates
have to come in pairs; where the text ends behind a first half, the end is what is
wrong with it. -/
def spell : List Piece → Closing → Except Flaw (List (Option Char))
  | [], .closed => .ok []
  | [], .broken flaw => .error flaw
  | .char c :: rest, closing => (some c :: ·) <$> spell rest closing
  | .stray :: rest, closing => (none :: ·) <$> spell rest closing
  | .unit n :: .unit m :: rest, closing =>
    if isTrail n then .error .malformed
    else if isLead n then
      if isTrail m then
        (some (Char.ofNat (0x10000 + (n - 0xD800) * 0x400 + (m - 0xDC00))) :: ·) <$> spell rest closing
      else .error .malformed
    else (some (Char.ofNat n) :: ·) <$> spell (.unit m :: rest) closing
  | .unit n :: rest, closing =>
    if isTrail n then .error .malformed
    else if isLead n then
      match rest, closing with
      | [], .broken flaw => .error flaw
      | _, _ => .error .malformed
    else (some (Char.ofNat n) :: ·) <$> spell rest closing

/-- The text that a written string stands for. Stray bytes are noticed last. -/
def text (written : Written) : Except Flaw String := do
  match (← spell written.pieces written.closing).mapM id with
  | some chars => .ok (String.ofList chars)
  | none => .error .malformed

end Written

end TypeStubs.Json

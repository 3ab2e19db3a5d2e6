import TypeStubs.Json.Node
import TypeStubs.Json.Number
import TypeStubs.Keyed

/-! JSON values, with their compact text. An object keeps its members in order; of a
repeated member the first place and the last value count. -/
namespace TypeStubs.Json

/-- A value in which every string and number has been understood. -/
inductive Value where
  | null
  | bool (value : Bool)
  | number (value : Number)
  | string (value : String)
  | array (items : List Value)
  | object (members : List (String × Value))
  deriving Repr, Inhabited

namespace Value

/-- A hexadecimal digit. -/
def hexDigit (n : Nat) : Char := if n < 10 then Char.ofNat (48 + n) else Char.ofNat (87 + n)

/-- How a character is written between quotes: quotes, back slashes and control
characters by an escape, all else as it is. -/
def escape (c : Char) : List Char :=
  if c == '"' then ['\\', '"']
  else if c == '\\' then ['\\', '\\']
  else if c == '\n' then ['\\', 'n']
  else if c == '\r' then ['\\', 'r']
  else if c == '\t' then ['\\', 't']
  else if c == '\x08' then ['\\', 'b']
  else if c == '\x0c' then ['\\', 'f']
  else if c.toNat < 0x20 then
    ['\\', 'u', '0', '0', hexDigit (c.toNat / 16), hexDigit (c.toNat % 16)]
  else [c]

/-- A text between quotes. -/
def quote (text : String) : List Char := '"' :: text.toList.flatMap escape ++ ['"']

mutual

/-- The compact text of a value. -/
def chars : Value → List Char
  | .null => "null".toList
  | .bool true => "true".toList
  | .bool false => "false".toList
  | .number value => value.text.toList
  | .string value => quote value
  | .array items => '[' :: itemChars items ++ [']']
  | .object members => '\x7b' :: memberChars members ++ ['\x7d']

/-- The items of an array with commas between them. -/
def itemChars : List Value → List Char
  | [] => []
  | [value] => chars value
  | value :: rest => chars value ++ ',' :: itemChars rest

/-- The members of an object with commas between them. -/
def memberChars : List (String × Value) → List Char
  | [] => []
  | [(key, value)] => quote key ++ ':' :: chars value
  | (key, value) :: rest => quote key ++ ':' :: chars value ++ ',' :: memberChars rest

end

/-- The compact text of a value: no blanks, members in order. -/
def compact (value : Value) : String := String.ofList value.chars

mutual

/-- Understands a node in which containers may nest `room` deep. A number without bound
is refused before its end is looked at. -/
def ofNode (room : Nat) : Node → Except Flaw Value
  | .null => .ok .null
  | .bool value => .ok (.bool value)
  | .number text closing =>
    if Number.isBoundless text then .error .malformed
    else do
      closing.check
      match Number.ofChars? text with
      | some meant => .ok (.number meant)
      | none => .error .malformed
  | .string text => .string <$> text.text
  | .array items closing =>
    match room with
    | 0 => .error .malformed
    | room + 1 => do
      let values ← ofItems room items
      closing.check
      .ok (.array values)
  | .object members closing =>
    match room with
    | 0 => .error .malformed
    | room + 1 => do
      let entries ← ofMembers room members
      closing.check
      .ok (.object (Keyed.ofList entries))
  | .broken flaw => .error flaw

/-- Understands the items of an array in order. -/
def ofItems (room : Nat) : List Node → Except Flaw (List Value)
  | [] => .ok []
  | node :: rest => do
    let value ← ofNode room node
    let values ← ofItems room rest
    .ok (value :: values)

/-- Understands the members of an object in order. -/
def ofMembers (room : Nat) : List (Written × Node) → Except Flaw (List (String × Value))
  | [] => .ok []
  | (key, node) :: rest => do
    let name ← key.text
    let value ← ofNode room node
    let entries ← ofMembers room rest
    .ok ((name, value) :: entries)

end

/-- How deep containers may nest in a document whose values are asked for. -/
def nestingLimit : Nat := 127

end Value

end TypeStubs.Json

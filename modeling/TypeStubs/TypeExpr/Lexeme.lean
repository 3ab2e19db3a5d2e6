import TypeStubs.Text.Blank
import TypeStubs.Text.Letter

/-! The lexemes of a type signature, each with the stretch of the signature that it
covers. Blanks separate lexemes and are otherwise passed over. -/
namespace TypeStubs.TypeExpr

/-- What a lexeme is. -/
inductive Mark where
  | name (text : List Char)
  | openAngle
  | closeAngle
  | comma
  | brackets
  | question
  deriving DecidableEq, Repr

/-- A mark with the offsets of its first character and of the one after its last. -/
structure Lexeme where
  mark : Mark
  start : Nat
  stop : Nat
  deriving DecidableEq, Repr

namespace Lexeme

/-- Characters of a name: letters, digits, underscores and dots. -/
def isNameChar (c : Char) : Bool := isAlphanumeric c || c == '_' || c == '.'

/-- The marks of a single character. -/
def single? (c : Char) : Option Mark :=
  if c == '<' then some .openAngle
  else if c == '>' then some .closeAngle
  else if c == ',' then some .comma
  else if c == '?' then some .question
  else none

/-- The name read so far, its characters last first, as a lexeme that ends before
`offset`; nothing when no name is begun. -/
def ofBegun (begun : List Char) (offset : Nat) : List Lexeme :=
  if begun.isEmpty then [] else [⟨.name begun.reverse, offset - begun.length, offset⟩]

/-- The lexemes of a text at an offset behind the begun name, if every character
belongs to one. A name starts with a name character or an at sign, and goes on as
long as name characters follow. -/
def scan (begun : List Char) (offset : Nat) : List Char → Option (List Lexeme)
  | [] => some (ofBegun begun offset)
  | '[' :: ']' :: s =>
    (scan [] (offset + 2) s).map fun rest =>
      ofBegun begun offset ++ ⟨.brackets, offset, offset + 2⟩ :: rest
  | c :: s =>
    if !begun.isEmpty && isNameChar c then scan (c :: begun) (offset + 1) s
    else if isNameChar c || c == '@' then
      (scan [c] (offset + 1) s).map fun rest => ofBegun begun offset ++ rest
    else if isBlank c then
      (scan [] (offset + 1) s).map fun rest => ofBegun begun offset ++ rest
    else
      match single? c with
      | some mark =>
        (scan [] (offset + 1) s).map fun rest =>
          ofBegun begun offset ++ ⟨mark, offset, offset + 1⟩ :: rest
      | none => none

end Lexeme

end TypeStubs.TypeExpr

import TypeStubs.Declaration.Style

/-! Enumerations as exported enums, or as unions of string literals. -/
namespace TypeStubs.Style

/-- A text as it stands in a string literal between single quotes. The back slashes that are
put before quotes come last, so that they are not taken for those of the text. -/
def escapeQuoted (text : List Char) : List Char :=
  Chars.replaceChar '\'' ['\\', '\''] (Chars.replaceChar '\\' ['\\', '\\'] text)

/-- The string literal for the name of an entry. -/
def entryLiteral (style : Style) (name : String) : String :=
  let text := Identifier.normalize style.settings.enumNaming name
  "'" ++ String.ofList (escapeQuoted text.toList) ++ "'"

/-- The members of a union, one a line. -/
def unionMembers (style : Style) : List EnumEntry → List String
  | [] => []
  | [entry] => [indent (style.entryLiteral entry.name ++ style.terminator)]
  | entry :: rest => indent (style.entryLiteral entry.name ++ " |") :: unionMembers style rest

/-- An enumeration as a union. -/
def unionLines (style : Style) (enumeration : Enumeration) : List String :=
  if enumeration.entries.isEmpty then
    ["export type " ++ enumeration.name ++ " = never" ++ style.terminator]
  else
    ("export type " ++ enumeration.name ++ " =") :: style.unionMembers enumeration.entries

/-- The value of the entry at a place: a number where numbers are asked for, which is
the one given or else the place, and otherwise the literal of its name. -/
def entryValue (style : Style) (place : Nat) (entry : EnumEntry) : String :=
  if style.settings.numericEnums then entry.value.elim (toString place) Text.trim
  else style.entryLiteral entry.name

/-- The entries of an enum from the given place on, one a line. -/
def entryLines (style : Style) (place : Nat) : List EnumEntry → List String
  | [] => []
  | entry :: rest =>
    indent (Text.trim entry.name ++ " = " ++ style.entryValue place entry ++ ",") ::
      entryLines style (place + 1) rest

/-- The lines of an enumeration from a source file, with an empty line behind them. -/
def enumLines (style : Style) (source : String) (enumeration : Enumeration) : List String :=
  style.pathComment source ++
    (if style.settings.unionEnums then style.unionLines enumeration
    else
      ["export enum " ++ enumeration.name ++ " \x7b"] ++
        style.entryLines 0 enumeration.entries ++ ["\x7d"]) ++
    [""]

end TypeStubs.Style

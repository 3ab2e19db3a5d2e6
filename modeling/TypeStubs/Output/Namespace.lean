import TypeStubs.Text.Blank
import TypeStubs.Text.Pieces

/-! Declarations inside a namespace. -/
namespace TypeStubs.Namespace

/-- A line inside a namespace: one level further in, unless it is empty. -/
def inner (line : List Char) : List Char :=
  if line.isEmpty then [] else "    ".toList ++ line

/-- The lines of a text without the line feeds at its end. -/
def bodyLines (body : List Char) : List (List Char) :=
  Chars.lines (Chars.dropEndWhile (· == '\n') body)

/-- Puts a namespace around a text. -/
def wrap (name body : String) : String :=
  "export namespace " ++ name ++ " \x7b\n" ++
    String.ofList ((bodyLines body.toList).flatMap fun line => inner line ++ ['\n']) ++ "\x7d\n"

/-- Puts a namespace around a text where there is one. -/
def wrap? (name : Option String) (body : String) : String :=
  match name with
  | some name => wrap name body
  | none => body

end TypeStubs.Namespace

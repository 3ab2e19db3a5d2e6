import TypeStubs.Layout
import TypeStubs.Source.Basic
import TypeStubs.TypeExpr.Render

/-! What all emitted declarations have in common: how they end their lines, name
themselves and their members, and say where they come from. -/
namespace TypeStubs

/-- The settings that declarations are printed with, and what is made from them. -/
structure Style where
  settings : Settings
  table : TypeTable
  layout : Layout

namespace Style

/-- The style that the settings ask for. -/
def ofSettings (settings : Settings) : Style :=
  ⟨settings, settings.typeTable, Layout.ofSettings settings⟩

/-- What stands at the end of a member. -/
def terminator (style : Style) : String := if style.settings.omitSemicolon then "" else ";"

/-- The comment that names the source file, if there is to be one. -/
def pathComment (style : Style) (source : String) : List String :=
  if style.settings.omitPathComment then []
  else ["// " ++ style.layout.relativeSource source]

/-- A declared name with its type parameters. -/
def declarationName (name : String) : String := (GenericName.ofString name).declaration

/-- The identifier for the name of a member or method. -/
def memberName (style : Style) (name : String) : String :=
  Identifier.normalize style.settings.memberNaming name

/-- A type signature, read. -/
def read (style : Style) (signature : String) : TypeExpr := TypeExpr.parse style.table signature

/-- A type expression, printed. -/
def print (style : Style) (expr : TypeExpr) : String := expr.render style.table

/-- The line of a field or property. -/
def memberLine (style : Style) (member : Member) : String :=
  let expr := style.read member.signature
  style.memberName member.identifier ++ (if expr.isNullable then "?" else "") ++ ": " ++
    style.print expr ++ style.terminator

/-- A line one level further in. -/
def indent (line : String) : String := "    " ++ line

end Style

end TypeStubs

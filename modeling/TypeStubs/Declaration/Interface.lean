import TypeStubs.Declaration.Style
import TypeStubs.Heritage

/-! Models as exported interfaces. -/
namespace TypeStubs.Style

/-- What a declaration with bases inherits. -/
def heritage (style : Style) (bases : List String) : Heritage :=
  Heritage.split style.table style.settings.omittedBases bases

/-- The line of the index signature, if the declaration has one. -/
def indexLines (style : Style) (heritage : Heritage) : List String :=
  ((heritage.indexLine? style.table).map fun line => indent (line ++ style.terminator)).toList

/-- The lines of a model from a source file, with an empty line behind them. -/
def interfaceLines (style : Style) (source : String) (model : Model) : List String :=
  let heritage := style.heritage model.bases
  style.pathComment source ++
    ["export interface " ++ declarationName model.name ++ heritage.extendsClause style.table ++
      " \x7b"] ++
    style.indexLines heritage ++
    (model.members.map fun member => indent (style.memberLine member)) ++
    ["\x7d", ""]

end TypeStubs.Style

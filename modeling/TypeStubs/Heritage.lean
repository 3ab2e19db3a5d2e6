import TypeStubs.TypeExpr.Render

/-! What a declaration inherits: its bases, without those that are omitted, and the
index signature that a dictionary among them stands for. -/
namespace TypeStubs

/-- The bases of a declaration, sorted by what becomes of them. -/
structure Heritage where
  /-- The first base that is a dictionary. -/
  index : Option TypeExpr
  /-- The bases that are no dictionaries, in order. -/
  bases : List TypeExpr

namespace Heritage

/-- The bases that are kept, trimmed: those that are neither empty nor omitted. -/
def kept (omitted bases : List String) : List String :=
  (bases.map Text.trim).filter fun base =>
    !base.isEmpty && !(omitted.map Text.trim).contains base

/-- Reads the bases of a declaration. A second dictionary is dropped. -/
def split (table : TypeTable) (omitted bases : List String) : Heritage :=
  let exprs := (kept omitted bases).map (TypeExpr.parse table)
  { index := exprs.find? (·.isDictionary)
    bases := exprs.filter fun expr => !expr.isDictionary }

/-- The clause that names the bases, or nothing without them. -/
def extendsClause (table : TypeTable) (heritage : Heritage) : String :=
  if heritage.bases.isEmpty then ""
  else " extends " ++ Text.join ", " (heritage.bases.map (·.render table))

/-- The line of the index signature. -/
def indexLine? (table : TypeTable) (heritage : Heritage) : Option String :=
  heritage.index.bind (·.indexSignature? table)

/-- The names that the index signature and then the bases refer to. -/
def names (table : TypeTable) (heritage : Heritage) : List String :=
  (heritage.index.toList ++ heritage.bases).flatMap (·.names table)

end Heritage

end TypeStubs

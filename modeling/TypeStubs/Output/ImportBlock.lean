import TypeStubs.Declaration.Style
import TypeStubs.Imports.Resolve

/-! The imports of an emitted module as text. A module whose declarations stand in a
namespace exports only the namespace, so what it declares is reached through an alias
of the namespace and one alias for each name. -/
namespace TypeStubs

/-- Import lines, and the aliases that stand with the declarations. -/
structure ImportBlock where
  lines : List String := []
  aliases : List String := []
  deriving DecidableEq, Repr, Inhabited

/-- The names that a module takes from another one. -/
structure ImportEdge where
  specifier : String
  /-- The path of the source file that declares the names. -/
  path : String
  names : List String
  deriving DecidableEq, Repr, Inhabited

namespace ImportEdge

/-- Whether an edge stands before another: by specifier, then by path. -/
def before (a b : ImportEdge) : Bool :=
  a.specifier < b.specifier || (a.specifier == b.specifier && a.path < b.path)

/-- Puts an edge at its place among edges in order. -/
def insert (edge : ImportEdge) : List ImportEdge → List ImportEdge
  | [] => [edge]
  | head :: rest => if head.before edge then head :: insert edge rest else edge :: head :: rest

/-- The edges in order. -/
def sort (edges : List ImportEdge) : List ImportEdge := edges.foldr insert []

end ImportEdge

namespace Alias

/-- A character in an alias. -/
def cleanChar (c : Char) : Char := if c.isAlphanum || c == '_' || c == '$' then c else '_'

/-- The alias for a namespace from a module, before it is told apart from others. -/
def base (root specifier : String) : String :=
  root ++ "_" ++ String.ofList ((Chars.lastPiece '/' specifier.toList).map cleanChar)

/-- An alias with a number. -/
def numbered (base : String) (number : Nat) : String := base ++ "_" ++ toString number

/-- The first numbered alias from a number on that is not taken, among as many as are
tried. -/
def firstFree (taken : List String) (base : String) : Nat → Nat → String
  | 0, number => numbered base number
  | tries + 1, number =>
    if taken.contains (numbered base number) then firstFree taken base tries (number + 1)
    else numbered base number

/-- An alias that is not taken: the base, or else the first numbered one from 2 on.
There is one among as many as are taken. -/
def fresh (taken : List String) (base : String) : String :=
  if taken.contains base then firstFree taken base taken.length 2 else base

end Alias

namespace ImportBlock

/-- The line that imports names from a module. -/
def importLine (names specifier : String) : String :=
  "import \x7b " ++ names ++ " \x7d from '" ++ specifier ++ "';"

/-- The root of a namespace and what follows it. -/
def splitNamespace (name : String) : String × Option String :=
  match Chars.cutFirst? '.' name.toList with
  | some (root, rest) => (String.ofList root, some (String.ofList rest))
  | none => (name, none)

/-- The alias declarations for names that are reached through a qualifier. -/
def aliasLines (qualifier : String) (names : List String) : List String :=
  names.map fun name => "import " ++ name ++ " = " ++ qualifier ++ "." ++ name ++ ";"

/-- The lines and aliases for edges in order, given the namespace of each path and the
aliases taken so far. -/
def ofEdges (namespaceOf : String → Option String) (taken : List String) :
    List ImportEdge → ImportBlock
  | [] => {}
  | edge :: rest =>
    match namespaceOf edge.path with
    | some name =>
      let (root, inside) := splitNamespace name
      let label := Alias.fresh taken (Alias.base root edge.specifier)
      let qualifier := inside.elim label fun inside => label ++ "." ++ inside
      let behind := ofEdges namespaceOf (label :: taken) rest
      ⟨importLine (root ++ " as " ++ label) edge.specifier :: behind.lines,
        aliasLines qualifier edge.names ++ behind.aliases⟩
    | none =>
      let behind := ofEdges namespaceOf taken rest
      ⟨importLine (Text.join ", " edge.names) edge.specifier :: behind.lines, behind.aliases⟩

/-- The edges of a source file's imports in order. -/
def edges (layout : Layout) (source : String) (imports : Imports) : List ImportEdge :=
  ImportEdge.sort (imports.edges.map fun (path, names) =>
    ⟨layout.specifier source path, path, names⟩)

/-- The line for the names that no file declares, where it is asked for. -/
def unresolvedLines (settings : Settings) (imports : Imports) : List String :=
  if imports.unresolved.isEmpty || settings.omitUnresolved then []
  else [importLine (Text.join ", " imports.unresolved) ""]

/-- The line that imports the environment. -/
def environmentLine (style : Style) (source : String) : String :=
  let client := style.settings.client
  importLine client.environmentSymbol (style.layout.rootSpecifier source client.environmentModule)

/-- The import block of a source file: the environment, the edges, and the names that
no file declares. -/
def ofImports (style : Style) (namespaceOf : String → Option String) (source : String)
    (imports : Imports) : ImportBlock :=
  let block := ofEdges namespaceOf [] (edges style.layout source imports)
  ⟨environmentLine style source :: block.lines ++ unresolvedLines style.settings imports,
    block.aliases⟩

end ImportBlock

end TypeStubs

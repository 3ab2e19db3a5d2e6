import TypeStubs.Heritage
import TypeStubs.Imports.Symbols
import TypeStubs.Ordered

/-! The imports of a file: for every type name that the file refers to, the file that
declares it, or the fact that none does. -/
namespace TypeStubs

/-- A type name in a file, with the type parameters that can be meant by it. -/
structure Reference where
  scope : List String
  name : String
  deriving DecidableEq, Repr

/-- What a file imports. -/
structure Imports where
  /-- Paths of other files, each with the names imported from it. -/
  edges : List (String × List String) := []
  /-- Names that no file declares. -/
  unresolved : List String := []
  deriving DecidableEq, Repr, Inhabited

namespace Imports

/-- Whether nothing is imported. -/
def isEmpty (imports : Imports) : Bool := imports.edges.isEmpty && imports.unresolved.isEmpty

/-- Whether the name is imported from the path. -/
def importsFrom (imports : Imports) (path name : String) : Bool :=
  (imports.edges.lookup path).any (·.contains name)

/-- Adds a name imported from a path. -/
def addEdge (path name : String) (imports : Imports) : Imports :=
  { imports with edges := Ordered.alter path (fun names => Ordered.insert name (names.getD [])) imports.edges }

/-- Adds a name that no file declares. -/
def addUnresolved (name : String) (imports : Imports) : Imports :=
  { imports with unresolved := Ordered.insert name imports.unresolved }

end Imports

/-- What references are resolved against. -/
structure Resolver where
  symbols : SymbolTable
  table : TypeTable
  omittedBases : List String

namespace Resolver

/-- The names that a signature refers to. -/
def signatureNames (resolver : Resolver) (signature : String) : List String :=
  (TypeExpr.parse resolver.table signature).names resolver.table

/-- The names that a list of bases refers to. -/
def baseNames (resolver : Resolver) (bases : List String) : List String :=
  (Heritage.split resolver.table resolver.omittedBases bases).names resolver.table

/-- The names that members refer to. -/
def memberNames (resolver : Resolver) (members : List Member) : List String :=
  members.flatMap fun member => resolver.signatureNames member.signature

/-- The references of a model. -/
def modelReferences (resolver : Resolver) (model : Model) : List Reference :=
  (resolver.baseNames model.bases ++ resolver.memberNames model.members).map
    (⟨model.genericName.params, ·⟩)

/-- The names that a method refers to. -/
def methodNames (resolver : Resolver) (method : Method) : List String :=
  resolver.signatureNames method.returns ++ resolver.memberNames method.parameters

/-- The references of a controller. -/
def controllerReferences (resolver : Resolver) (controller : Controller) : List Reference :=
  (resolver.baseNames controller.bases ++ controller.methods.flatMap resolver.methodNames).map
    (⟨controller.genericName.params, ·⟩)

/-- The references of a file, in order. -/
def references (resolver : Resolver) (file : SourceFile) : List Reference :=
  file.models.flatMap resolver.modelReferences ++
    file.controllers.flatMap resolver.controllerReferences

/-- Whether a reference needs no import whatever the files declare: the name is
translated, is a type parameter, or is declared in the file itself. -/
def isSettled (resolver : Resolver) (file : SourceFile) (reference : Reference) : Bool :=
  let name := reference.name
  resolver.table.isScalar name || resolver.table.isScalar (TypeTable.shortName name) ||
    reference.scope.contains name || file.declaredNames.contains name

/-- The file that declares a name, and the name it declares: the name itself, or else
its short name. -/
def find? (resolver : Resolver) (name : String) : Option (String × String) :=
  match resolver.symbols.lookup name with
  | some path => some (path, name)
  | none =>
    let short := TypeTable.shortName name
    (resolver.symbols.lookup short).map fun path => (path, short)

/-- Adds what a reference of a file imports. What a name means by itself counts only
when no file declares it. -/
def record (resolver : Resolver) (file : SourceFile) (imports : Imports)
    (reference : Reference) : Imports :=
  let name := reference.name
  if resolver.isSettled file reference then imports
  else
    match resolver.find? name with
    | some (path, symbol) => if path == file.path then imports else imports.addEdge path symbol
    | none =>
      if resolver.table.isBuiltin name || resolver.table.isBuiltin (TypeTable.shortName name) then
        imports
      else imports.addUnresolved name

/-- The imports of a file. -/
def resolve (resolver : Resolver) (file : SourceFile) : Imports :=
  (resolver.references file).foldl (resolver.record file) {}

end Resolver

end TypeStubs

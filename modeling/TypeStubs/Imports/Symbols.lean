import TypeStubs.Source.Basic

/-! Which file declares a name. -/
namespace TypeStubs

/-- The declared names of all files with the paths of the files, in order. -/
structure SymbolTable where
  declarations : List (String × String)
  deriving DecidableEq, Repr

namespace SymbolTable

/-- The symbols of the files. -/
def ofFiles (files : List SourceFile) : SymbolTable :=
  ⟨files.flatMap fun file => file.declaredNames.map fun name => (name, file.path)⟩

/-- The path of the first file that declares the name. -/
def lookup (symbols : SymbolTable) (name : String) : Option String :=
  symbols.declarations.lookup name

/-- The number of different names. -/
def size (symbols : SymbolTable) : Nat := (symbols.declarations.map (·.1)).eraseDups.length

/-- Whether no file declares anything. -/
def isEmpty (symbols : SymbolTable) : Bool := symbols.declarations.isEmpty

end SymbolTable

end TypeStubs

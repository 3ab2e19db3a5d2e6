import TypeStubs.Settings.Basic
import TypeStubs.Storage.Path

/-! Where things are: the path of a source file below the source root, the path of the
module emitted for it, and how one emitted module is named from another. -/
namespace TypeStubs

/-- The source root with slashes, the output directory and the extension of modules. -/
structure Layout where
  root : String
  output : String
  extension : String
  deriving DecidableEq, Repr

namespace Layout

/-- The layout that the settings ask for. -/
def ofSettings (settings : Settings) : Layout :=
  ⟨settings.normalizedRoot, settings.output, settings.extension⟩

/-- The segments of a path: what stands between slashes, without empty ones and
single dots. -/
def segments (path : String) : List String :=
  (Text.splitOn '/' path).filter fun segment => !segment.isEmpty && segment != "."

/-- A path with slashes from behind the root: behind the root at its start, else behind
the first place where the root occurs, else all of it. -/
def belowRoot (root path : List Char) : List Char :=
  if root.isEmpty then path
  else
    match Chars.dropLead? root path with
    | some rest => rest
    | none => (Chars.afterFirst? root path).getD path

/-- The segments of a source path below the root. -/
def sourceSegments (layout : Layout) (source : String) : List String :=
  segments (String.ofList (belowRoot layout.root.toList (Text.withSlashes source).toList))

/-- The path of a source file below the root. -/
def relativeSource (layout : Layout) (source : String) : String :=
  Text.join "/" (layout.sourceSegments source)

/-- The name of a file without its extension. A dot at the start begins none. -/
def stem (file : String) : String :=
  match Chars.cutLast? '.' file.toList with
  | some (before, _) => if before.isEmpty then file else String.ofList before
  | none => file

/-- The path of the module emitted for a source file. -/
def outputPath (layout : Layout) (source : String) : String :=
  let parts := layout.sourceSegments source
  let file := stem (parts.getLastD "") ++ layout.extension
  let dirs := parts.dropLast
  let base := if dirs.isEmpty then layout.output else Path.push layout.output (Text.join "/" dirs)
  Path.push base file

/-- The segments of the module emitted for a source file, without extension. -/
def moduleSegments (layout : Layout) (source : String) : List String :=
  let parts := layout.sourceSegments source
  match parts.getLast? with
  | some file => parts.dropLast ++ [stem file]
  | none => []

/-- The number of equal elements at the start of two lists. -/
def commonLength : List String → List String → Nat
  | a :: as, b :: bs => if a == b then commonLength as bs + 1 else 0
  | _, _ => 0

/-- The parts of the way from one module to another: up to the directory that both
share, or a dot when that is where it starts, and then down. -/
def relativeParts (source target : List String) : List String :=
  let common := commonLength source.dropLast target.dropLast
  let ups := source.dropLast.length - common
  (if ups = 0 then ["."] else List.replicate ups "..") ++ target.drop common

/-- The specifier that names one module from another. -/
def relativeImport (source target : List String) : String :=
  Text.join "/" (relativeParts source target)

/-- The specifier of the module for one source file in the module for another. -/
def specifier (layout : Layout) (source target : String) : String :=
  relativeImport (layout.moduleSegments source) (layout.moduleSegments target)

/-- The specifier of a module named from the root of the output. -/
def rootSpecifier (layout : Layout) (source module : String) : String :=
  relativeImport (layout.moduleSegments source) (segments module)

end Layout

end TypeStubs

import TypeStubs.Declaration.Client
import TypeStubs.Declaration.Enum
import TypeStubs.Output.ImportBlock
import TypeStubs.Output.Namespace

/-! The emitted modules: one for each source file, and the text of all declarations
together. -/
namespace TypeStubs

/-- The module emitted for a source file. -/
structure Module where
  /-- The path of the source file. -/
  source : String
  /-- The path of the module. -/
  path : String
  contents : String
  /-- The declarations alone. -/
  body : String
  imports : Imports
  deriving DecidableEq, Repr, Inhabited

/-- All modules of a run. -/
structure Bundle where
  modules : List Module
  /-- The declarations of all modules in one text. -/
  aggregate : String
  deriving DecidableEq, Repr, Inhabited

namespace Module

/-- The lines of all declarations of a file. -/
def bodyLines (style : Style) (file : SourceFile) : List String :=
  file.models.flatMap (style.interfaceLines file.path) ++
    file.enums.flatMap (style.enumLines file.path) ++
    file.controllers.flatMap (style.clientLines file.path)

/-- The declarations of a file. -/
def bodyText (style : Style) (file : SourceFile) : String :=
  Text.join "\n" (bodyLines style file)

/-- The namespace around the declarations of a file: its own, or else that of the
settings. -/
def namespaceOf? (settings : Settings) (file : SourceFile) : Option String :=
  file.nameSpace.or settings.nameSpace

/-- The declarations with the aliases before them. -/
def withAliases (aliases : List String) (body : String) : String :=
  if aliases.isEmpty then body else Text.join "\n" aliases ++ "\n\n" ++ body

/-- The text of a module with the given import block and body. -/
def text (nameSpace : Option String) (block : ImportBlock) (body : String) : String :=
  String.join (block.lines.map (· ++ "\n")) ++ "\n" ++
    Namespace.wrap? nameSpace (withAliases block.aliases body)

/-- The module of a file, given the namespace of each path. -/
def ofFile (style : Style) (resolver : Resolver) (namespaceOf : String → Option String)
    (file : SourceFile) : Module :=
  let imports := resolver.resolve file
  let body := bodyText style file
  let block := ImportBlock.ofImports style namespaceOf file.path imports
  { source := file.path
    path := style.layout.outputPath file.path
    contents := text (namespaceOf? style.settings file) block body
    body
    imports }

end Module

namespace Bundle

/-- The namespace of the declarations in the file of a path: that of the first file
with this path that has one. -/
def namespaceOf (settings : Settings) (files : List SourceFile) (path : String) : Option String :=
  files.findSome? fun file =>
    if file.path == path then Module.namespaceOf? settings file else none

/-- The resolver for files. -/
def resolver (style : Style) (files : List SourceFile) : Resolver :=
  ⟨SymbolTable.ofFiles files, style.table, style.settings.omittedBases⟩

/-- The declarations of all files in one text, each in the file's own namespace and all
in that of the settings. -/
def aggregateText (style : Style) (files : List SourceFile) : String :=
  Namespace.wrap? style.settings.nameSpace
    (Text.join "\n" (files.map fun file => Namespace.wrap? file.nameSpace (Module.bodyText style file)))

/-- The modules for files. -/
def ofFiles (settings : Settings) (files : List SourceFile) : Bundle :=
  let style := Style.ofSettings settings
  let resolver := resolver style files
  { modules := files.map (Module.ofFile style resolver (namespaceOf settings files))
    aggregate := aggregateText style files }

end Bundle

end TypeStubs

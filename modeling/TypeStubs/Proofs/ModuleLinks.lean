import TypeStubs.Output.Module
import TypeStubs.Proofs.ImportRelation
import TypeStubs.Proofs.TextPieces

/-! Every import of an emitted module points at something that the other module
exports. The two modules are written apart from each other: what one exports follows
from its declarations and its namespace, what the other imports from the symbols of all
files and the namespace of each path. -/
namespace TypeStubs.ModuleLinks
open ImportRelation OrderedMaps TextPieces

/-- The text that a declaration of a name in a file starts with. The type parameters,
where there are some, stand directly behind the name, and a blank ends both. -/
inductive DeclarationStart (settings : Settings) (file : SourceFile) (name : String) : String → Prop where
  | interface (model : Model) (declared : model ∈ file.models) (named : model.genericName.bare = name) :
      DeclarationStart settings file name
        ("export interface " ++ GenericName.declaration ⟨name, model.genericName.params⟩ ++ " ")
  | enumeration (enumeration : Enumeration) (declared : enumeration ∈ file.enums)
      (named : enumeration.name = name) (kept : settings.unionEnums = false) :
      DeclarationStart settings file name ("export enum " ++ name ++ " ")
  | union (enumeration : Enumeration) (declared : enumeration ∈ file.enums)
      (named : enumeration.name = name) (asUnion : settings.unionEnums = true) :
      DeclarationStart settings file name ("export type " ++ name ++ " ")
  | client (controller : Controller) (declared : controller ∈ file.controllers)
      (named : controller.genericName.bare = name) :
      DeclarationStart settings file name
        ("export class " ++ GenericName.declaration ⟨name, controller.genericName.params⟩ ++ " ")

/-- A module is made of these import lines and these aliases, with its declarations
behind the aliases and its file's namespace, if it has one, around both. -/
def HasParts (settings : Settings) (file : SourceFile) (module : Module) (head aliases : String) :
    Prop :=
  module.contents = head ++ "\n" ++
    Namespace.wrap? (Module.namespaceOf? settings file) (aliases ++ module.body)

/-- A namespace cut at its first dot. The dot stays with the second part. -/
structure CutAtRoot (space root rest : String) : Prop where
  whole : space = root ++ rest
  undotted : '.' ∉ root.toList
  dotted : rest = "" ∨ ∃ inside, rest = "." ++ inside

/-- The module of one file reaches a name that another file declares. -/
inductive Reaches (settings : Settings) (source target : SourceFile) (importer : Module)
    (name : String) : Prop where
  | plain (unwrapped : Module.namespaceOf? settings target = none)
      (parts : HasParts settings source importer head aliases)
      (line : HasLine head ("import \x7b " ++ Text.join ", " names ++ " \x7d from '" ++
        (Layout.ofSettings settings).specifier source.path target.path ++ "';"))
      (listed : name ∈ names)
  | through (wrapped : Module.namespaceOf? settings target = some space)
      (cut : CutAtRoot space root rest) (parts : HasParts settings source importer head aliases)
      (line : HasLine head ("import \x7b " ++ root ++ " as " ++ label ++ " \x7d from '" ++
        (Layout.ofSettings settings).specifier source.path target.path ++ "';"))
      (aliased : HasLine aliases ("import " ++ name ++ " = " ++ label ++ rest ++ "." ++ name ++ ";"))

/-- What has to hold of two modules for an import of a name to make sense. -/
structure Linked (settings : Settings) (source target : SourceFile) (importer exporter : Module)
    (name : String) : Prop where
  declared : name ∈ target.declaredNames
  exported : ∃ start tail, DeclarationStart settings target name start ∧
    HasLine exporter.body (start ++ tail)
  parts : ∃ head aliases, HasParts settings target exporter head aliases
  reached : Reaches settings source target importer name

private theorem extends_starts_blank (table : TypeTable) (heritage : Heritage) :
    ∃ tail, heritage.extendsClause table ++ " \x7b" = " " ++ tail := by
  unfold Heritage.extendsClause
  split
  · exact ⟨"\x7b", rfl⟩
  · exact ⟨"extends " ++ _ ++ " \x7b", by simp only [← String.append_assoc]; rfl⟩

private theorem declaration_line (keyword : String) (name : GenericName) (table : TypeTable)
    (heritage : Heritage) :
    ∃ tail, keyword ++ name.declaration ++ heritage.extendsClause table ++ " \x7b" =
      keyword ++ name.declaration ++ " " ++ tail := by
  obtain ⟨tail, clause⟩ := extends_starts_blank table heritage
  exact ⟨tail, by rw [String.append_assoc, clause, ← String.append_assoc]⟩

theorem model_exported (settings : Settings) (file : SourceFile) (model : Model)
    (declared : model ∈ file.models) :
    ∃ tail, "export interface " ++ model.genericName.declaration ++ " " ++ tail ∈
      Module.bodyLines (.ofSettings settings) file := by
  obtain ⟨tail, line⟩ := declaration_line "export interface " model.genericName
    settings.typeTable (Style.heritage (.ofSettings settings) model.bases)
  refine ⟨tail, List.mem_append_left _ (List.mem_append_left _ (List.mem_flatMap.mpr ⟨model, declared, ?_⟩))⟩
  rw [← line]
  simp [Style.interfaceLines, Style.declarationName, Model.genericName, Style.ofSettings]

theorem controller_exported (settings : Settings) (file : SourceFile) (controller : Controller)
    (declared : controller ∈ file.controllers) :
    ∃ tail, "export class " ++ controller.genericName.declaration ++ " " ++ tail ∈
      Module.bodyLines (.ofSettings settings) file := by
  obtain ⟨tail, line⟩ := declaration_line "export class " controller.genericName
    settings.typeTable (Style.heritage (.ofSettings settings) controller.bases)
  refine ⟨tail, List.mem_append_right _ (List.mem_flatMap.mpr ⟨controller, declared, ?_⟩)⟩
  rw [← line]
  simp [Style.clientLines, Style.declarationName, Controller.genericName, Style.ofSettings]

private theorem enum_exported (settings : Settings) (file : SourceFile) (enumeration : Enumeration)
    (declared : enumeration ∈ file.enums) :
    ∃ start tail, DeclarationStart settings file enumeration.name start ∧
      start ++ tail ∈ Module.bodyLines (.ofSettings settings) file := by
  have inBody (line : String) (member : line ∈ Style.enumLines (.ofSettings settings) file.path enumeration) :
      line ∈ Module.bodyLines (.ofSettings settings) file :=
    List.mem_append_left _ (List.mem_append_right _ (List.mem_flatMap.mpr
      ⟨enumeration, declared, member⟩))
  cases asUnion : settings.unionEnums with
  | false =>
    refine ⟨_, "\x7b", .enumeration enumeration declared rfl asUnion, inBody _ ?_⟩
    simp [Style.enumLines, Style.ofSettings, asUnion, String.append_assoc]
  | true =>
    by_cases empty : enumeration.entries = []
    · refine ⟨_, "= never" ++ Style.terminator (.ofSettings settings),
        .union enumeration declared rfl asUnion, inBody _ ?_⟩
      have never (tail : String) : " " ++ ("= never" ++ tail) = " = never" ++ tail := by
        rw [← String.append_assoc]
        rfl
      simp [Style.enumLines, Style.unionLines, Style.ofSettings, asUnion, empty, never,
        String.append_assoc]
    · refine ⟨_, "=", .union enumeration declared rfl asUnion, inBody _ ?_⟩
      simp [Style.enumLines, Style.unionLines, Style.ofSettings, asUnion, empty, String.append_assoc]

/-- The body of a module has the declaration of each name that its file declares. -/
theorem declared_exported (settings : Settings) (file : SourceFile) (name : String)
    (declared : name ∈ file.declaredNames) :
    ∃ start tail, DeclarationStart settings file name start ∧
      HasLine (Module.bodyText (.ofSettings settings) file) (start ++ tail) := by
  simp only [SourceFile.declaredNames, List.mem_append, List.mem_map] at declared
  rcases declared with (⟨model, inside, rfl⟩ | ⟨enumeration, inside, rfl⟩) | ⟨controller, inside, rfl⟩
  · obtain ⟨tail, line⟩ := model_exported settings file model inside
    exact ⟨_, tail, .interface model inside rfl, join_has_line line⟩
  · obtain ⟨start, tail, declaration, line⟩ := enum_exported settings file enumeration inside
    exact ⟨start, tail, declaration, join_has_line line⟩
  · obtain ⟨tail, line⟩ := controller_exported settings file controller inside
    exact ⟨_, tail, .client controller inside rfl, join_has_line line⟩

theorem mem_insert_edge (edge probe : ImportEdge) (edges : List ImportEdge) :
    probe ∈ ImportEdge.insert edge edges ↔ probe = edge ∨ probe ∈ edges := by
  induction edges with
  | nil => simp [ImportEdge.insert]
  | cons head rest ih =>
    simp only [ImportEdge.insert]
    split
    · simp only [List.mem_cons, ih]
      exact or_left_comm
    · simp

private theorem mem_sort_edges (probe : ImportEdge) (edges : List ImportEdge) :
    probe ∈ ImportEdge.sort edges ↔ probe ∈ edges := by
  unfold ImportEdge.sort
  induction edges with
  | nil => simp
  | cons head rest ih => rw [List.foldr_cons, mem_insert_edge, ih, List.mem_cons]

/-- What follows the root of a namespace, with its dot. -/
def behindRoot (space : String) : String :=
  (ImportBlock.splitNamespace space).2.elim "" fun inside => "." ++ inside

private theorem split_cuts_at_root (space : String) :
    CutAtRoot space (ImportBlock.splitNamespace space).1 (behindRoot space) := by
  unfold behindRoot ImportBlock.splitNamespace
  cases cut : Chars.cutFirst? '.' space.toList with
  | none => exact ⟨by simp, by simpa using (cut_first_none_iff ..).mp cut, .inl rfl⟩
  | some parts =>
    obtain ⟨root, inside⟩ := parts
    obtain ⟨whole, absent⟩ := cut_first_some cut
    refine ⟨?_, by simpa using absent, .inr ⟨_, rfl⟩⟩
    apply String.toList_inj.mp
    simp [whole]

theorem qualifier_eq (space label : String) :
    ((ImportBlock.splitNamespace space).2.elim label fun inside => label ++ "." ++ inside) =
      label ++ behindRoot space := by
  unfold behindRoot
  cases (ImportBlock.splitNamespace space).2 <;> simp [String.append_assoc]

/-- An edge to a module without a namespace has its import line. -/
theorem plain_edge_line (namespaceOf : String → Option String) (edges : List ImportEdge)
    (taken : List String) (member : edge ∈ edges) (unwrapped : namespaceOf edge.path = none) :
    ImportBlock.importLine (Text.join ", " edge.names) edge.specifier ∈
      (ImportBlock.ofEdges namespaceOf taken edges).lines := by
  induction edges generalizing taken with
  | nil => cases member
  | cons head rest ih =>
    rcases List.mem_cons.mp member with rfl | behind
    · simp [ImportBlock.ofEdges, unwrapped]
    · rw [ImportBlock.ofEdges]
      split
      · exact List.mem_cons_of_mem _ (ih _ behind)
      · exact List.mem_cons_of_mem _ (ih _ behind)

/-- An edge to a module with a namespace has a line that imports the root of the
namespace under an alias, and a line for each name that goes through this alias. -/
theorem through_edge_lines (namespaceOf : String → Option String) (edges : List ImportEdge)
    (taken : List String) (member : edge ∈ edges) (wrapped : namespaceOf edge.path = some space) :
    ∃ label,
      ImportBlock.importLine ((ImportBlock.splitNamespace space).1 ++ " as " ++ label)
          edge.specifier ∈ (ImportBlock.ofEdges namespaceOf taken edges).lines ∧
      ∀ name ∈ edge.names, "import " ++ name ++ " = " ++ (label ++ behindRoot space) ++ "." ++ name ++ ";" ∈
        (ImportBlock.ofEdges namespaceOf taken edges).aliases := by
  induction edges generalizing taken with
  | nil => cases member
  | cons head rest ih =>
    rcases List.mem_cons.mp member with rfl | behind
    · rw [ImportBlock.ofEdges, wrapped]
      refine ⟨_, List.mem_cons_self, fun name listed => List.mem_append_left _ ?_⟩
      rw [qualifier_eq]
      exact List.mem_map.mpr ⟨name, listed, rfl⟩
    · rw [ImportBlock.ofEdges]
      split
      · obtain ⟨label, line, aliases⟩ := ih (_ :: taken) behind
        exact ⟨label, List.mem_cons_of_mem _ line, fun name listed =>
          List.mem_append_right _ (aliases name listed)⟩
      · obtain ⟨label, line, aliases⟩ := ih taken behind
        exact ⟨label, List.mem_cons_of_mem _ line, aliases⟩

private theorem find_some_filter (choose : α → Bool) (value : α → Option β) (members : List α) :
    members.findSome? (fun member => if choose member then value member else none) =
      (members.filter choose).findSome? value := by
  induction members with
  | nil => rfl
  | cons head rest ih => cases chosen : choose head <;> simp [chosen, List.findSome?_cons, ih]

/-- The namespace that is looked up for a path is that of the file with this path. -/
theorem namespace_of_path (settings : Settings) (distinct : (files.map SourceFile.path).Nodup)
    (inside : target ∈ files) :
    Bundle.namespaceOf settings files target.path = Module.namespaceOf? settings target := by
  rw [Bundle.namespaceOf, find_some_filter, filter_key distinct inside]
  cases own : Module.namespaceOf? settings target <;> simp [own]

/-- The module for one of the files. -/
def moduleOf (settings : Settings) (files : List SourceFile) (file : SourceFile) : Module :=
  Module.ofFile (.ofSettings settings) (Bundle.resolver (.ofSettings settings) files)
    (Bundle.namespaceOf settings files) file

/-- The import block of the module for one of the files. -/
def blockOf (settings : Settings) (files : List SourceFile) (file : SourceFile) : ImportBlock :=
  ImportBlock.ofImports (.ofSettings settings) (Bundle.namespaceOf settings files) file.path
    (moduleOf settings files file).imports

/-- The text of aliases before a body. -/
def aliasText (aliases : List String) : String :=
  if aliases.isEmpty then "" else Text.join "\n" aliases ++ "\n\n"

private theorem module_parts (settings : Settings) (files : List SourceFile) (file : SourceFile) :
    HasParts settings file (moduleOf settings files file)
      (String.join ((blockOf settings files file).lines.map (· ++ "\n")))
      (aliasText (blockOf settings files file).aliases) := by
  have aliased (aliases : List String) (body : String) :
      Module.withAliases aliases body = aliasText aliases ++ body := by
    unfold Module.withAliases aliasText
    split <;> simp
  rw [HasParts, ← aliased]
  rfl

private theorem alias_has_line (member : line ∈ aliases) : HasLine (aliasText aliases) line := by
  have some : aliases ≠ [] := List.ne_nil_of_mem member
  have inside := has_line_before "\n" (join_has_line member)
  simpa [aliasText, some, String.append_assoc] using inside

/-- An edge of a module's imports is among the edges of its import block. -/
theorem edge_in_block (settings : Settings) (imports : Imports) (source : String)
    (edge : (path, names) ∈ imports.edges) :
    ⟨(Layout.ofSettings settings).specifier source path, path, names⟩ ∈
      ImportBlock.edges (Layout.ofSettings settings) source imports := by
  rw [ImportBlock.edges, mem_sort_edges]
  exact List.mem_map.mpr ⟨(path, names), edge, rfl⟩

private theorem edge_reached (settings : Settings) (files : List SourceFile)
    (distinct : (files.map SourceFile.path).Nodup) (source target : SourceFile)
    (inside : target ∈ files) (edge : (target.path, names) ∈ (moduleOf settings files source).imports.edges)
    (listed : name ∈ names) :
    Reaches settings source target (moduleOf settings files source) name := by
  have parts := module_parts settings files source
  have member := edge_in_block settings _ source.path edge
  have inHead (line : String) (inLines : line ∈ (ImportBlock.ofEdges (Bundle.namespaceOf settings files) []
      (ImportBlock.edges (Layout.ofSettings settings) source.path
        (moduleOf settings files source).imports)).lines) :
      line ∈ (blockOf settings files source).lines :=
    List.mem_append_left _ (List.mem_cons_of_mem _ inLines)
  -- The importer looks the namespace up by path; the target is the only file it can be of.
  have space := namespace_of_path settings distinct inside
  cases wrapped : Module.namespaceOf? settings target with
  | none =>
    rw [wrapped] at space
    have line := plain_edge_line _ _ [] member space
    simp only [ImportBlock.importLine] at line
    exact .plain wrapped parts (ended_has_line (inHead _ line)) listed
  | some whole =>
    rw [wrapped] at space
    obtain ⟨label, line, aliases⟩ := through_edge_lines _ _ [] member space
    have imported := ended_has_line (inHead _ line)
    have aliased := alias_has_line (aliases name listed)
    simp only [ImportBlock.importLine, ← String.append_assoc] at imported aliased
    exact .through wrapped (split_cuts_at_root whole) parts imported aliased

private theorem declared_as_file (declared : DeclaredAs files reference path name) :
    ∃ target ∈ files, target.path = path ∧ name ∈ target.declaredNames := by
  cases declared with
  | full declared => exact declaring_file declared
  | short _ declared => exact declaring_file declared

private theorem edge_declared (settings : Settings) (files : List SourceFile) (source : SourceFile)
    (edge : (path, names) ∈ (moduleOf settings files source).imports.edges) (listed : name ∈ names) :
    ∃ target ∈ files, target.path = path ∧ name ∈ target.declaredNames := by
  have sorted := resolve_sorted files settings.typeTable settings.omittedBases source
  have held := (mem_iff_lookup sorted).mp edge
  have imported : ((Resolver.mk (.ofFiles files) settings.typeTable settings.omittedBases).resolve
      source).importsFrom path name = true := by
    simp [Imports.importsFrom, held, listed]
  obtain ⟨_, _, _, _, _, declared⟩ := (resolve_edges ..).mp imported
  exact declared_as_file declared

/-- Where no two files have the same path, every import points at an export: the path
belongs to one file and one module, that file declares the name, that module has its
declaration, and the name is reached in the way that fits the module's namespace. -/
theorem imports_reach_exports (settings : Settings) (files : List SourceFile)
    (distinct : (files.map SourceFile.path).Nodup)
    (emitted : importer ∈ (Bundle.ofFiles settings files).modules)
    (edge : (path, names) ∈ importer.imports.edges) (listed : name ∈ names) :
    ∃ source ∈ files, importer.source = source.path ∧
      ∃ target exporter, files.filter (·.path == path) = [target] ∧
        (Bundle.ofFiles settings files).modules.filter (·.source == path) = [exporter] ∧
        Linked settings source target importer exporter name := by
  obtain ⟨source, member, rfl⟩ := List.mem_map.mp emitted
  obtain ⟨target, inside, rfl, declared⟩ := edge_declared settings files source edge listed
  refine ⟨source, member, rfl, target, moduleOf settings files target, filter_key distinct inside, ?_,
    declared, declared_exported settings target name declared, ⟨_, _, module_parts settings files target⟩,
    edge_reached settings files distinct source target inside edge listed⟩
  have sources : ((Bundle.ofFiles settings files).modules.map Module.source).Nodup := by
    simpa [Bundle.ofFiles, Module.ofFile, Function.comp_def] using distinct
  have exporter : moduleOf settings files target ∈ (Bundle.ofFiles settings files).modules :=
    List.mem_map.mpr ⟨target, inside, rfl⟩
  exact filter_key sources exporter

/-- Two files: a type with a parameter in a namespace with a dot, and a field of that
type, which is named through another namespace. -/
def shopFiles : List SourceFile := [
  { path := "shop/item.cs", nameSpace := some "Shop.Core", models := [{ name := "Item<T>" }] },
  { path := "order.cs", models := [{ name := "Order", fields := [⟨"First", "Acme.Item<int>?"⟩] }] }]

theorem imports_reach_exports_shop :
    ∃ importer ∈ (Bundle.ofFiles {} shopFiles).modules,
      (shopFiles.map SourceFile.path).Nodup ∧
      ("shop/item.cs", ["Item"]) ∈ importer.imports.edges ∧
      ∃ source ∈ shopFiles, importer.source = source.path ∧
        ∃ target exporter, shopFiles.filter (·.path == "shop/item.cs") = [target] ∧
          (Bundle.ofFiles {} shopFiles).modules.filter (·.source == "shop/item.cs") = [exporter] ∧
          Linked {} source target importer exporter "Item" := by
  have distinct : (shopFiles.map SourceFile.path).Nodup := by decide
  have emitted : moduleOf {} shopFiles shopFiles[1] ∈ (Bundle.ofFiles {} shopFiles).modules :=
    List.mem_map.mpr ⟨shopFiles[1], by simp, rfl⟩
  have edge : ("shop/item.cs", ["Item"]) ∈ (moduleOf {} shopFiles shopFiles[1]).imports.edges := by
    decide +kernel
  exact ⟨_, emitted, distinct, edge,
    imports_reach_exports {} shopFiles distinct emitted edge (List.mem_singleton_self _)⟩

end TypeStubs.ModuleLinks

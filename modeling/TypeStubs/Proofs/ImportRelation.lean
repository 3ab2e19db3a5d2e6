import TypeStubs.Imports.Resolve
import TypeStubs.Proofs.OrderedMaps

/-! The import relation, stated over the files alone, and the proof that resolving a
file computes it. The target names the places where a type can stand in a file, the
file that declares a name, and the references that need an import at all; the proof
says what one reference adds and follows the references in order. -/
namespace TypeStubs.ImportRelation
open OrderedMaps

/-- A type expression stands in a file, in a declaration with these type parameters. -/
inductive Occurs (table : TypeTable) (omitted : List String) (file : SourceFile) :
    List String → TypeExpr → Prop where
  | modelBase (model : Model) (declared : model ∈ file.models)
      (base : expr ∈ (Heritage.split table omitted model.bases).bases) :
      Occurs table omitted file model.genericName.params expr
  | modelIndex (model : Model) (declared : model ∈ file.models)
      (index : (Heritage.split table omitted model.bases).index = some expr) :
      Occurs table omitted file model.genericName.params expr
  | field (model : Model) (declared : model ∈ file.models) (member : Member)
      (inside : member ∈ model.fields) :
      Occurs table omitted file model.genericName.params (.parse table member.signature)
  | property (model : Model) (declared : model ∈ file.models) (member : Member)
      (inside : member ∈ model.properties) :
      Occurs table omitted file model.genericName.params (.parse table member.signature)
  | controllerBase (controller : Controller) (declared : controller ∈ file.controllers)
      (base : expr ∈ (Heritage.split table omitted controller.bases).bases) :
      Occurs table omitted file controller.genericName.params expr
  | controllerIndex (controller : Controller) (declared : controller ∈ file.controllers)
      (index : (Heritage.split table omitted controller.bases).index = some expr) :
      Occurs table omitted file controller.genericName.params expr
  | returned (controller : Controller) (declared : controller ∈ file.controllers) (method : Method)
      (answers : method ∈ controller.methods) :
      Occurs table omitted file controller.genericName.params (.parse table method.returns)
  | parameter (controller : Controller) (declared : controller ∈ file.controllers) (method : Method)
      (answers : method ∈ controller.methods) (member : Member) (inside : member ∈ method.parameters) :
      Occurs table omitted file controller.genericName.params (.parse table member.signature)

/-- A file refers to a name, in a declaration with these type parameters. -/
def Refers (table : TypeTable) (omitted : List String) (file : SourceFile) (scope : List String)
    (name : String) : Prop :=
  ∃ expr, Occurs table omitted file scope expr ∧ name ∈ expr.names table

/-- A name has a translation of its own. -/
def Translated (table : TypeTable) (name : String) : Prop := name ∈ table.translations.map (·.1)

/-- A reference that nothing in its own file and no translation settles. -/
structure Open (table : TypeTable) (file : SourceFile) (scope : List String) (name : String) :
    Prop where
  untranslated : ¬ Translated table name
  shortUntranslated : ¬ Translated table (TypeTable.shortName name)
  noParameter : name ∉ scope
  notLocal : name ∉ file.declaredNames

/-- The path of the first file that declares a name. -/
def declaringPath (files : List SourceFile) (name : String) : Option String :=
  (files.find? fun file => decide (name ∈ file.declaredNames)).map (·.path)

/-- A name is declared in the file at a path, as itself or else as its short name. -/
inductive DeclaredAs (files : List SourceFile) (name path : String) : String → Prop where
  | full (declared : declaringPath files name = some path) : DeclaredAs files name path name
  | short (undeclared : declaringPath files name = none)
      (declared : declaringPath files (TypeTable.shortName name) = some path) :
      DeclaredAs files name path (TypeTable.shortName name)

/-- A name that no file declares and that means nothing by itself either. -/
structure Unknown (files : List SourceFile) (table : TypeTable) (name : String) : Prop where
  undeclared : declaringPath files name = none
  shortUndeclared : declaringPath files (TypeTable.shortName name) = none
  noBuiltin : table.isBuiltin name = false
  shortNoBuiltin : table.isBuiltin (TypeTable.shortName name) = false

theorem scalar_iff (table : TypeTable) (name : String) :
    table.isScalar name = true ↔ Translated table name := by
  rw [TypeTable.isScalar, Option.isSome_iff_ne_none, Ne, List.lookup_eq_none_iff]
  simp [Translated]

private theorem lookup_declared (path name : String) (names : List String)
    (rest : List (String × String)) :
    (names.map (·, path) ++ rest).lookup name =
      if name ∈ names then some path else rest.lookup name := by
  induction names with
  | nil => simp
  | cons head others ih =>
    rw [List.map_cons, List.cons_append, lookup_entry, ih]
    by_cases same : name = head <;> simp [same]

/-- The symbol table answers with the first file that declares the name. -/
theorem lookup_symbols (files : List SourceFile) (name : String) :
    (SymbolTable.ofFiles files).lookup name = declaringPath files name := by
  unfold SymbolTable.lookup SymbolTable.ofFiles declaringPath
  induction files with
  | nil => rfl
  | cons file rest ih =>
    rw [List.flatMap_cons, lookup_declared, ih, List.find?_cons]
    by_cases declared : name ∈ file.declaredNames <;> simp [declared]

theorem declaring_file (found : declaringPath files name = some path) :
    ∃ file ∈ files, file.path = path ∧ name ∈ file.declaredNames := by
  obtain ⟨file, first, rfl⟩ := Option.map_eq_some_iff.mp found
  exact ⟨file, List.mem_of_find?_eq_some first, rfl, by simpa using List.find?_some first⟩

/-- Where no two members have the same key, a key selects one member. -/
theorem filter_key {key : α → String} {members : List α} (distinct : (members.map key).Nodup)
    (inside : member ∈ members) : members.filter (fun other => key other == key member) = [member] := by
  induction members with
  | nil => cases inside
  | cons head rest ih =>
    rw [List.map_cons, List.nodup_cons, List.mem_map] at distinct
    obtain ⟨fresh, distinct⟩ := distinct
    rcases List.mem_cons.mp inside with rfl | behind
    · have others : rest.filter (fun other => key other == key member) = [] := by
        rw [List.filter_eq_nil_iff]
        intro other there same
        exact fresh ⟨other, there, by simpa using same⟩
      simp [others]
    · have different : key head ≠ key member := fun same => fresh ⟨member, behind, same.symm⟩
      simp [different, ih distinct behind]

/-- Where no two files have the same path, a path belongs to one file. -/
theorem same_path {files : List SourceFile} (distinct : (files.map SourceFile.path).Nodup)
    (inside : file ∈ files) (other : SourceFile) (there : other ∈ files) (same : other.path = file.path) :
    other = file := by
  have selected : other ∈ files.filter (fun candidate => candidate.path == file.path) :=
    List.mem_filter.mpr ⟨there, by simpa using same⟩
  rw [filter_key distinct inside] at selected
  exact List.mem_singleton.mp selected

private theorem mem_base_names (resolver : Resolver) (bases : List String) (name : String) :
    name ∈ resolver.baseNames bases ↔
      ∃ expr, (expr ∈ (Heritage.split resolver.table resolver.omittedBases bases).bases ∨
        (Heritage.split resolver.table resolver.omittedBases bases).index = some expr) ∧
        name ∈ expr.names resolver.table := by
  simp only [Resolver.baseNames, Heritage.names, List.mem_flatMap, List.mem_append,
    Option.mem_toList, or_comm]

private theorem mem_member_names (resolver : Resolver) (members : List Member) (name : String) :
    name ∈ resolver.memberNames members ↔
      ∃ member ∈ members, name ∈ (TypeExpr.parse resolver.table member.signature).names resolver.table := by
  simp [Resolver.memberNames, Resolver.signatureNames]

private theorem mem_method_names (resolver : Resolver) (method : Method) (name : String) :
    name ∈ resolver.methodNames method ↔
      name ∈ (TypeExpr.parse resolver.table method.returns).names resolver.table ∨
      ∃ member ∈ method.parameters,
        name ∈ (TypeExpr.parse resolver.table member.signature).names resolver.table := by
  rw [Resolver.methodNames, List.mem_append, mem_member_names, Resolver.signatureNames]

private theorem mem_scoped (params names : List String) (reference : Reference) :
    reference ∈ names.map (⟨params, ·⟩) ↔ reference.scope = params ∧ reference.name ∈ names := by
  obtain ⟨scope, name⟩ := reference
  simp only [List.mem_map, Reference.mk.injEq]
  constructor
  · rintro ⟨_, member, rfl, rfl⟩
    exact ⟨rfl, member⟩
  · rintro ⟨rfl, member⟩
    exact ⟨name, member, rfl, rfl⟩

private theorem mem_model_references (resolver : Resolver) (model : Model) (reference : Reference) :
    reference ∈ resolver.modelReferences model ↔
      reference.scope = model.genericName.params ∧
        (reference.name ∈ resolver.baseNames model.bases ∨
          reference.name ∈ resolver.memberNames model.members) := by
  rw [Resolver.modelReferences, mem_scoped, List.mem_append]

private theorem mem_controller_references (resolver : Resolver) (controller : Controller)
    (reference : Reference) :
    reference ∈ resolver.controllerReferences controller ↔
      reference.scope = controller.genericName.params ∧
        (reference.name ∈ resolver.baseNames controller.bases ∨
          ∃ method ∈ controller.methods, reference.name ∈ resolver.methodNames method) := by
  rw [Resolver.controllerReferences, mem_scoped, List.mem_append, List.mem_flatMap]

private theorem model_refers (resolver : Resolver) (file : SourceFile) (model : Model)
    (declared : model ∈ file.models) (member : ⟨scope, name⟩ ∈ resolver.modelReferences model) :
    Refers resolver.table resolver.omittedBases file scope name := by
  obtain ⟨rfl, inBases | inMembers⟩ := (mem_model_references ..).mp member
  · obtain ⟨expr, base | index, names⟩ := (mem_base_names ..).mp inBases
    · exact ⟨expr, .modelBase model declared base, names⟩
    · exact ⟨expr, .modelIndex model declared index, names⟩
  · obtain ⟨member, inside, names⟩ := (mem_member_names ..).mp inMembers
    rcases List.mem_append.mp inside with field | property
    · exact ⟨_, .field model declared member field, names⟩
    · exact ⟨_, .property model declared member property, names⟩

private theorem controller_refers (resolver : Resolver) (file : SourceFile) (controller : Controller)
    (declared : controller ∈ file.controllers)
    (member : ⟨scope, name⟩ ∈ resolver.controllerReferences controller) :
    Refers resolver.table resolver.omittedBases file scope name := by
  obtain ⟨rfl, inBases | ⟨method, answers, inMethod⟩⟩ := (mem_controller_references ..).mp member
  · obtain ⟨expr, base | index, names⟩ := (mem_base_names ..).mp inBases
    · exact ⟨expr, .controllerBase controller declared base, names⟩
    · exact ⟨expr, .controllerIndex controller declared index, names⟩
  · rcases (mem_method_names ..).mp inMethod with names | ⟨member, inside, names⟩
    · exact ⟨_, .returned controller declared method answers, names⟩
    · exact ⟨_, .parameter controller declared method answers member inside, names⟩

private theorem occurs_referenced (resolver : Resolver)
    (occurs : Occurs resolver.table resolver.omittedBases file scope expr)
    (names : name ∈ expr.names resolver.table) : ⟨scope, name⟩ ∈ resolver.references file := by
  have ofModel {model : Model} (declared : model ∈ file.models)
      (member : name ∈ resolver.baseNames model.bases ∨ name ∈ resolver.memberNames model.members) :
      ⟨model.genericName.params, name⟩ ∈ resolver.references file :=
    List.mem_append_left _ (List.mem_flatMap.mpr
      ⟨model, declared, (mem_model_references ..).mpr ⟨rfl, member⟩⟩)
  have ofController {controller : Controller} (declared : controller ∈ file.controllers)
      (member : name ∈ resolver.baseNames controller.bases ∨
        ∃ method ∈ controller.methods, name ∈ resolver.methodNames method) :
      ⟨controller.genericName.params, name⟩ ∈ resolver.references file :=
    List.mem_append_right _ (List.mem_flatMap.mpr
      ⟨controller, declared, (mem_controller_references ..).mpr ⟨rfl, member⟩⟩)
  cases occurs with
  | modelBase model declared base =>
    exact ofModel declared (.inl ((mem_base_names ..).mpr ⟨expr, .inl base, names⟩))
  | modelIndex model declared index =>
    exact ofModel declared (.inl ((mem_base_names ..).mpr ⟨expr, .inr index, names⟩))
  | field model declared member inside =>
    exact ofModel declared (.inr ((mem_member_names ..).mpr
      ⟨member, List.mem_append_left _ inside, names⟩))
  | property model declared member inside =>
    exact ofModel declared (.inr ((mem_member_names ..).mpr
      ⟨member, List.mem_append_right _ inside, names⟩))
  | controllerBase controller declared base =>
    exact ofController declared (.inl ((mem_base_names ..).mpr ⟨expr, .inl base, names⟩))
  | controllerIndex controller declared index =>
    exact ofController declared (.inl ((mem_base_names ..).mpr ⟨expr, .inr index, names⟩))
  | returned controller declared method answers =>
    exact ofController declared (.inr ⟨method, answers, (mem_method_names ..).mpr (.inl names)⟩)
  | parameter controller declared method answers member inside =>
    exact ofController declared (.inr ⟨method, answers,
      (mem_method_names ..).mpr (.inr ⟨member, inside, names⟩)⟩)

/-- The references that are followed are those of the file. -/
theorem mem_references (resolver : Resolver) (file : SourceFile) (scope : List String) (name : String) :
    ⟨scope, name⟩ ∈ resolver.references file ↔
      Refers resolver.table resolver.omittedBases file scope name := by
  constructor
  · intro member
    rcases List.mem_append.mp member with inModels | inControllers
    · obtain ⟨model, declared, member⟩ := List.mem_flatMap.mp inModels
      exact model_refers resolver file model declared member
    · obtain ⟨controller, declared, member⟩ := List.mem_flatMap.mp inControllers
      exact controller_refers resolver file controller declared member
  · rintro ⟨expr, occurs, names⟩
    exact occurs_referenced resolver occurs names

private theorem settled_eq_false_iff (resolver : Resolver) (file : SourceFile) (reference : Reference) :
    resolver.isSettled file reference = false ↔
      Open resolver.table file reference.scope reference.name := by
  simp only [Resolver.isSettled, Bool.or_eq_false_iff]
  simp only [← Bool.not_eq_true, scalar_iff, List.contains_iff_mem]
  constructor
  · rintro ⟨⟨⟨name, short⟩, parameter⟩, declared⟩
    exact ⟨name, short, parameter, declared⟩
  · rintro ⟨name, short, parameter, declared⟩
    exact ⟨⟨⟨name, short⟩, parameter⟩, declared⟩

private theorem find_eq_some_iff (files : List SourceFile) (table : TypeTable) (omitted : List String)
    (name path symbol : String) :
    (Resolver.mk (.ofFiles files) table omitted).find? name = some (path, symbol) ↔
      DeclaredAs files name path symbol := by
  simp only [Resolver.find?, lookup_symbols]
  constructor
  · intro found
    split at found
    · rename_i declared
      cases found
      exact .full declared
    · rename_i undeclared
      obtain ⟨_, declared, same⟩ := Option.map_eq_some_iff.mp found
      cases same
      exact .short undeclared declared
  · rintro (declared | ⟨undeclared, declared⟩)
    · rw [declared]
    · rw [undeclared, declared]
      rfl

private theorem find_eq_none_iff (files : List SourceFile) (table : TypeTable) (omitted : List String)
    (name : String) :
    (Resolver.mk (.ofFiles files) table omitted).find? name = none ↔
      declaringPath files name = none ∧ declaringPath files (TypeTable.shortName name) = none := by
  simp only [Resolver.find?, lookup_symbols]
  cases declaringPath files name <;> simp

/-- A reference makes its file import a name from a path. -/
structure Needs (files : List SourceFile) (table : TypeTable) (file : SourceFile)
    (reference : Reference) (path symbol : String) : Prop where
  unsettled : Open table file reference.scope reference.name
  declared : DeclaredAs files reference.name path symbol
  elsewhere : path ≠ file.path

/-- A reference that stays unresolved. -/
structure Fails (files : List SourceFile) (table : TypeTable) (file : SourceFile)
    (reference : Reference) : Prop where
  unsettled : Open table file reference.scope reference.name
  unknown : Unknown files table reference.name

private theorem declared_unique (first : DeclaredAs files name path symbol)
    (second : DeclaredAs files name otherPath otherSymbol) :
    path = otherPath ∧ symbol = otherSymbol := by
  cases first <;> cases second <;> simp_all

private theorem unknown_undeclared (unknown : Unknown files table name)
    (declared : DeclaredAs files name path symbol) : False := by
  cases declared with
  | full declared => simp [unknown.undeclared] at declared
  | short _ declared => simp [unknown.shortUndeclared] at declared

/-- What recording a reference can make of the imports so far. -/
inductive Recorded (files : List SourceFile) (table : TypeTable) (file : SourceFile)
    (reference : Reference) (imports : Imports) : Imports → Prop where
  | edge (needs : Needs files table file reference path symbol) :
      Recorded files table file reference imports (imports.addEdge path symbol)
  | unresolved (fails : Fails files table file reference) :
      Recorded files table file reference imports (imports.addUnresolved reference.name)
  | nothing (noEdge : ∀ path symbol, ¬ Needs files table file reference path symbol)
      (known : ¬ Fails files table file reference) :
      Recorded files table file reference imports imports

theorem record_cases (files : List SourceFile) (table : TypeTable) (omitted : List String)
    (file : SourceFile) (imports : Imports) (reference : Reference) :
    Recorded files table file reference imports
      ((Resolver.mk (.ofFiles files) table omitted).record file imports reference) := by
  have isOpen := settled_eq_false_iff ⟨.ofFiles files, table, omitted⟩ file reference
  unfold Resolver.record
  cases settled : Resolver.isSettled ⟨.ofFiles files, table, omitted⟩ file reference with
  | true =>
    have closed : ¬ Open table file reference.scope reference.name := by simp [← isOpen, settled]
    exact .nothing (fun _ _ needs => closed needs.unsettled) (fun fails => closed fails.unsettled)
  | false =>
    have unsettled := isOpen.mp settled
    cases found : Resolver.find? ⟨.ofFiles files, table, omitted⟩ reference.name with
    | some entry =>
      obtain ⟨path, symbol⟩ := entry
      have declared := (find_eq_some_iff ..).mp found
      have known : ¬ Fails files table file reference := fun fails =>
        unknown_undeclared fails.unknown declared
      by_cases own : path = file.path
      · simp only [found, own, beq_self_eq_true, Bool.false_eq_true, ↓reduceIte]
        refine .nothing (fun other _ needs => needs.elsewhere ?_) known
        exact (declared_unique needs.declared declared).1.trans own
      · simp only [found, own, beq_iff_eq, Bool.false_eq_true, ↓reduceIte]
        exact .edge ⟨unsettled, declared, own⟩
    | none =>
      -- What a name means by itself is asked only now, when no file declares it.
      have undeclared := (find_eq_none_iff ..).mp found
      have noEdge (path symbol : String) : ¬ Needs files table file reference path symbol := by
        intro needs
        rw [(find_eq_some_iff files table omitted ..).mpr needs.declared] at found
        cases found
      simp only [found, Bool.false_eq_true, ↓reduceIte]
      split
      · rename_i builtin
        refine .nothing noEdge fun fails => ?_
        simp [fails.unknown.noBuiltin, fails.unknown.shortNoBuiltin] at builtin
      · rename_i noBuiltin
        simp only [Bool.or_eq_true, not_or, Bool.not_eq_true] at noBuiltin
        exact .unresolved ⟨unsettled, undeclared.1, undeclared.2, noBuiltin.1, noBuiltin.2⟩

private theorem imports_from_add_edge (imports : Imports) (path symbol target name : String)
    (sorted : Sorted imports.edges) :
    (imports.addEdge path symbol).importsFrom target name = true ↔
      imports.importsFrom target name = true ∨ (target = path ∧ name = symbol) := by
  simp only [Imports.importsFrom, Imports.addEdge, lookup_alter _ _ _ _ sorted]
  by_cases same : target = path
  · subst same
    cases imports.edges.lookup target <;> simp [mem_insert, or_comm]
  · simp [same]

/-- One reference adds the edge it needs and no other. -/
theorem recorded_edges (recorded : Recorded files table file reference before after)
    (sorted : Sorted before.edges) (path name : String) :
    after.importsFrom path name = true ↔
      before.importsFrom path name = true ∨ Needs files table file reference path name := by
  cases recorded with
  | edge needs =>
    rw [imports_from_add_edge _ _ _ _ _ sorted]
    refine or_congr_right ⟨?_, fun other => declared_unique other.declared needs.declared⟩
    rintro ⟨rfl, rfl⟩
    exact needs
  | unresolved fails =>
    have noEdge : ¬ Needs files table file reference path name := fun needs =>
      unknown_undeclared fails.unknown needs.declared
    simp [Imports.importsFrom, Imports.addUnresolved, noEdge]
  | nothing noEdge known => simp [noEdge]

/-- One reference adds itself to the unresolved names when it fails, and else nothing. -/
theorem recorded_unresolved (recorded : Recorded files table file reference before after)
    (name : String) :
    name ∈ after.unresolved ↔
      name ∈ before.unresolved ∨ (name = reference.name ∧ Fails files table file reference) := by
  cases recorded with
  | edge needs =>
    have known : ¬ Fails files table file reference := fun fails =>
      unknown_undeclared fails.unknown needs.declared
    simp [Imports.addEdge, known]
  | unresolved fails => simp [Imports.addUnresolved, mem_insert, fails, or_comm]
  | nothing noEdge known => simp [known]

private theorem recorded_sorted (recorded : Recorded files table file reference before after)
    (sorted : Sorted before.edges) : Sorted after.edges := by
  cases recorded with
  | edge needs => exact sorted_alter _ _ _ sorted
  | unresolved fails => exact sorted
  | nothing noEdge known => exact sorted

section
variable (files : List SourceFile) (table : TypeTable) (omitted : List String) (file : SourceFile)

private theorem run_sorted (references : List Reference) (start : Imports) (sorted : Sorted start.edges) :
    Sorted (references.foldl ((Resolver.mk (.ofFiles files) table omitted).record file) start).edges := by
  induction references generalizing start with
  | nil => exact sorted
  | cons reference rest ih =>
    exact ih _ (recorded_sorted (record_cases files table omitted file start reference) sorted)

private theorem run_edges (references : List Reference) (start : Imports) (sorted : Sorted start.edges)
    (path name : String) :
    (references.foldl ((Resolver.mk (.ofFiles files) table omitted).record file) start).importsFrom
        path name = true ↔
      start.importsFrom path name = true ∨
        ∃ reference ∈ references, Needs files table file reference path name := by
  induction references generalizing start with
  | nil => simp
  | cons reference rest ih =>
    have recorded := record_cases files table omitted file start reference
    rw [List.foldl_cons, ih _ (recorded_sorted recorded sorted), recorded_edges recorded sorted]
    simp [or_assoc]

private theorem run_unresolved (references : List Reference) (start : Imports) (name : String) :
    name ∈ (references.foldl ((Resolver.mk (.ofFiles files) table omitted).record file) start).unresolved ↔
      name ∈ start.unresolved ∨
        ∃ reference ∈ references, name = reference.name ∧ Fails files table file reference := by
  induction references generalizing start with
  | nil => simp
  | cons reference rest ih =>
    have recorded := record_cases files table omitted file start reference
    rw [List.foldl_cons, ih, recorded_unresolved recorded]
    simp [or_assoc]

/-- The paths of the edges stand in order, each once. -/
theorem resolve_sorted : Sorted ((Resolver.mk (.ofFiles files) table omitted).resolve file).edges :=
  run_sorted files table omitted file _ {} (by simp [Sorted])

theorem resolve_edges (path name : String) :
    ((Resolver.mk (.ofFiles files) table omitted).resolve file).importsFrom path name = true ↔
      ∃ scope reference, Refers table omitted file scope reference ∧ Open table file scope reference ∧
        path ≠ file.path ∧ DeclaredAs files reference path name := by
  rw [Resolver.resolve, run_edges files table omitted file _ {} (by simp [Sorted])]
  constructor
  · rintro (none | ⟨⟨scope, reference⟩, member, needs⟩)
    · simp [Imports.importsFrom] at none
    · exact ⟨scope, reference, (mem_references ..).mp member, needs.unsettled, needs.elsewhere,
        needs.declared⟩
  · rintro ⟨scope, reference, refers, unsettled, elsewhere, declared⟩
    exact .inr ⟨⟨scope, reference⟩, (mem_references ..).mpr refers, unsettled, declared, elsewhere⟩

theorem resolve_unresolved (name : String) :
    name ∈ ((Resolver.mk (.ofFiles files) table omitted).resolve file).unresolved ↔
      ∃ scope, Refers table omitted file scope name ∧ Open table file scope name ∧
        Unknown files table name := by
  rw [Resolver.resolve, run_unresolved]
  constructor
  · rintro (none | ⟨⟨scope, reference⟩, member, rfl, fails⟩)
    · simp at none
    · exact ⟨scope, (mem_references ..).mp member, fails.unsettled, fails.unknown⟩
  · rintro ⟨scope, refers, unsettled, unknown⟩
    exact .inr ⟨⟨scope, name⟩, (mem_references ..).mpr refers, rfl, unsettled, unknown⟩

/-- Resolving a file computes the import relation: a name is imported from a path
exactly when some open reference of the file is declared there under that name, and it
stays unresolved exactly when it is an open reference that nothing declares or knows. -/
theorem resolve_is_import_relation :
    (∀ path name, ((Resolver.mk (.ofFiles files) table omitted).resolve file).importsFrom path name =
        true ↔
      ∃ scope reference, Refers table omitted file scope reference ∧ Open table file scope reference ∧
        path ≠ file.path ∧ DeclaredAs files reference path name) ∧
    (∀ name, name ∈ ((Resolver.mk (.ofFiles files) table omitted).resolve file).unresolved ↔
      ∃ scope, Refers table omitted file scope name ∧ Open table file scope name ∧
        Unknown files table name) :=
  ⟨resolve_edges files table omitted file, resolve_unresolved files table omitted file⟩

end

end TypeStubs.ImportRelation

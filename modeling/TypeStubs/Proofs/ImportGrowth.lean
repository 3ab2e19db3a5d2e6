import TypeStubs.Proofs.ImportRelation
import TypeStubs.Proofs.TextPieces

/-! What one more file does to the imports of the others. The file stands behind all
files that are there, so it declares only what none of them declares; names with dots are
the one way in which it could take an import over, because a reference is looked up under
its full name before its short name. -/
namespace TypeStubs.ImportGrowth
open ImportRelation TextPieces

/-- A file gains an import of a name from an added file: it has an open reference that no
file declared, and the added file declares it as this name. -/
structure Gains (files : List SourceFile) (table : TypeTable) (omitted : List String)
    (file added : SourceFile) (name : String) : Prop where
  elsewhere : added.path ≠ file.path
  declared : name ∈ added.declaredNames
  referred : ∃ scope reference, Refers table omitted file scope reference ∧
    Open table file scope reference ∧ declaringPath files reference = none ∧
    declaringPath files (TypeTable.shortName reference) = none ∧
    (name = reference ∨ name = TypeTable.shortName reference)

/-- The files that were there come first. -/
theorem declaring_path_added (files : List SourceFile) (added : SourceFile) (name : String) :
    declaringPath (files ++ [added]) name =
      (declaringPath files name).or (if name ∈ added.declaredNames then some added.path else none) := by
  unfold declaringPath
  rw [List.find?_append]
  cases files.find? fun file => decide (name ∈ file.declaredNames) with
  | some first => rfl
  | none => by_cases declared : name ∈ added.declaredNames <;> simp [declared]

private theorem declaring_path_kept (added : SourceFile) (found : declaringPath files name = some path) :
    declaringPath (files ++ [added]) name = some path := by
  rw [declaring_path_added, found, Option.some_or]

private theorem declaring_path_new (found : declaringPath (files ++ [added]) name = some path) :
    declaringPath files name = some path ∨
      (declaringPath files name = none ∧ path = added.path ∧ name ∈ added.declaredNames) := by
  rw [declaring_path_added] at found
  cases before : declaringPath files name with
  | some first =>
    rw [before, Option.some_or] at found
    exact .inl found
  | none =>
    rw [before, Option.none_or] at found
    split at found
    · rename_i declared
      cases found
      exact .inr ⟨rfl, rfl, declared⟩
    · cases found

private theorem declaring_path_added_none (files : List SourceFile) (added : SourceFile) (name : String) :
    declaringPath (files ++ [added]) name = none ↔
      declaringPath files name = none ∧ name ∉ added.declaredNames := by
  rw [declaring_path_added, Option.or_eq_none_iff]
  by_cases declared : name ∈ added.declaredNames <;> simp [declared]

private theorem short_of_undotted (undotted : '.' ∉ name.toList) : TypeTable.shortName name = name := by
  unfold TypeTable.shortName Text.lastPiece
  rw [last_piece_of_free '.' name.toList undotted, String.ofList_toList]

section
variable {files : List SourceFile} {added : SourceFile}
  (undotted : ∀ name ∈ added.declaredNames, '.' ∉ name.toList)
include undotted

/-- A name that was declared under its short name still is: with a dot in it the added
file cannot declare it, and without one it is its own short name. -/
theorem declared_kept (declared : DeclaredAs files reference path name) :
    DeclaredAs (files ++ [added]) reference path name := by
  cases declared with
  | full declared => exact .full (declaring_path_kept added declared)
  | short undeclared declared =>
    have notAdded : reference ∉ added.declaredNames := by
      intro member
      rw [short_of_undotted (undotted reference member), undeclared] at declared
      cases declared
    exact .short ((declaring_path_added_none ..).mpr ⟨undeclared, notAdded⟩)
      (declaring_path_kept added declared)

private theorem declared_new (declared : DeclaredAs (files ++ [added]) reference path name) :
    DeclaredAs files reference path name ∨
      (path = added.path ∧ name ∈ added.declaredNames ∧ declaringPath files reference = none ∧
        declaringPath files (TypeTable.shortName reference) = none ∧
        (name = reference ∨ name = TypeTable.shortName reference)) := by
  cases declared with
  | full declared =>
    rcases declaring_path_new declared with before | ⟨undeclared, here, member⟩
    · exact .inl (.full before)
    · have plain := short_of_undotted (undotted _ member)
      exact .inr ⟨here, member, undeclared, by rw [plain, undeclared], .inl rfl⟩
  | short undeclared declared =>
    have undeclaredBefore := ((declaring_path_added_none ..).mp undeclared).1
    rcases declaring_path_new declared with before | ⟨shortUndeclared, here, member⟩
    · exact .inl (.short undeclaredBefore before)
    · exact .inr ⟨here, member, undeclaredBefore, shortUndeclared, .inr rfl⟩

private theorem declared_in_added (member : name ∈ added.declaredNames)
    (undeclared : declaringPath files reference = none)
    (shortUndeclared : declaringPath files (TypeTable.shortName reference) = none)
    (either : name = reference ∨ name = TypeTable.shortName reference) :
    DeclaredAs (files ++ [added]) reference added.path name := by
  by_cases full : reference ∈ added.declaredNames
  · have plain := short_of_undotted (undotted reference full)
    have same : name = reference := either.elim id fun short => short.trans plain
    subst same
    exact .full (by simp [declaring_path_added, undeclared, full])
  · have short : name = TypeTable.shortName reference := by
      rcases either with same | short
      · exact absurd (same ▸ member) full
      · exact short
    subst short
    exact .short ((declaring_path_added_none ..).mpr ⟨undeclared, full⟩)
      (by simp [declaring_path_added, shortUndeclared, member])

end

private theorem unknown_added_iff (files : List SourceFile) (added : SourceFile) (table : TypeTable)
    (name : String) :
    Unknown (files ++ [added]) table name ↔
      Unknown files table name ∧ name ∉ added.declaredNames ∧
        TypeTable.shortName name ∉ added.declaredNames := by
  constructor
  · intro unknown
    obtain ⟨undeclared, notAdded⟩ := (declaring_path_added_none ..).mp unknown.undeclared
    obtain ⟨shortUndeclared, shortNotAdded⟩ := (declaring_path_added_none ..).mp unknown.shortUndeclared
    exact ⟨⟨undeclared, shortUndeclared, unknown.noBuiltin, unknown.shortNoBuiltin⟩, notAdded,
      shortNotAdded⟩
  · rintro ⟨unknown, notAdded, shortNotAdded⟩
    exact ⟨(declaring_path_added_none ..).mpr ⟨unknown.undeclared, notAdded⟩,
      (declaring_path_added_none ..).mpr ⟨unknown.shortUndeclared, shortNotAdded⟩,
      unknown.noBuiltin, unknown.shortNoBuiltin⟩

section
variable (files : List SourceFile) (table : TypeTable) (omitted : List String) (file added : SourceFile)

private theorem grown_edges (undotted : ∀ name ∈ added.declaredNames, '.' ∉ name.toList) (path name : String) :
    ((Resolver.mk (.ofFiles (files ++ [added])) table omitted).resolve file).importsFrom path name =
        true ↔
      ((Resolver.mk (.ofFiles files) table omitted).resolve file).importsFrom path name = true ∨
        (path = added.path ∧ Gains files table omitted file added name) := by
  rw [resolve_edges, resolve_edges]
  constructor
  · rintro ⟨scope, reference, refers, unsettled, elsewhere, declared⟩
    rcases declared_new undotted declared with before | ⟨rfl, member, undeclared, shortUndeclared, either⟩
    · exact .inl ⟨scope, reference, refers, unsettled, elsewhere, before⟩
    · exact .inr ⟨rfl, elsewhere, member, scope, reference, refers, unsettled, undeclared,
        shortUndeclared, either⟩
  · rintro (⟨scope, reference, refers, unsettled, elsewhere, before⟩ | ⟨rfl, gains⟩)
    · exact ⟨scope, reference, refers, unsettled, elsewhere, declared_kept undotted before⟩
    · obtain ⟨scope, reference, refers, unsettled, undeclared, shortUndeclared, either⟩ := gains.referred
      exact ⟨scope, reference, refers, unsettled, gains.elsewhere,
        declared_in_added undotted gains.declared undeclared shortUndeclared either⟩

private theorem grown_unresolved (name : String) :
    name ∈ ((Resolver.mk (.ofFiles (files ++ [added])) table omitted).resolve file).unresolved ↔
      name ∈ ((Resolver.mk (.ofFiles files) table omitted).resolve file).unresolved ∧
        name ∉ added.declaredNames ∧ TypeTable.shortName name ∉ added.declaredNames := by
  rw [resolve_unresolved, resolve_unresolved]
  constructor
  · rintro ⟨scope, refers, unsettled, unknown⟩
    obtain ⟨before, absent⟩ := (unknown_added_iff ..).mp unknown
    exact ⟨⟨scope, refers, unsettled, before⟩, absent⟩
  · rintro ⟨⟨scope, refers, unsettled, before⟩, absent⟩
    exact ⟨scope, refers, unsettled, (unknown_added_iff ..).mpr ⟨before, absent⟩⟩

/-- One more file, whose names have no dots, keeps every import of the others and adds
only imports from itself, and a name stops being unresolved exactly when the new file
declares it or its short name. -/
theorem imports_grow (undotted : ∀ name ∈ added.declaredNames, '.' ∉ name.toList) :
    (∀ path name,
      ((Resolver.mk (.ofFiles files) table omitted).resolve file).importsFrom path name = true →
      ((Resolver.mk (.ofFiles (files ++ [added])) table omitted).resolve file).importsFrom path name =
        true) ∧
    (∀ path name,
      ((Resolver.mk (.ofFiles (files ++ [added])) table omitted).resolve file).importsFrom path name =
        true →
      ((Resolver.mk (.ofFiles files) table omitted).resolve file).importsFrom path name = true ∨
        (path = added.path ∧ Gains files table omitted file added name)) ∧
    (∀ name,
      name ∈ ((Resolver.mk (.ofFiles (files ++ [added])) table omitted).resolve file).unresolved ↔
      name ∈ ((Resolver.mk (.ofFiles files) table omitted).resolve file).unresolved ∧
        name ∉ added.declaredNames ∧ TypeTable.shortName name ∉ added.declaredNames) := by
  refine ⟨fun path name before => ?_, fun path name after => ?_, ?_⟩
  · exact (grown_edges files table omitted file added undotted path name).mpr (.inl before)
  · exact (grown_edges files table omitted file added undotted path name).mp after
  · exact grown_unresolved files table omitted file added

end

/-- A type that is named through a namespace, one that nothing declares, and one that
means something by itself. -/
def eventFile : SourceFile :=
  { path := "event.cs"
    models := [{ name := "Event", fields := [⟨"Place", "Acme.Place"⟩, ⟨"Kind", "Acme.Kind"⟩, ⟨"On", "Date"⟩] }] }

/-- The file that declares the first of these types. -/
def placeFile : SourceFile := { path := "place.cs", models := [{ name := "Place" }] }

/-- A file that declares all three. -/
def calendarFile : SourceFile :=
  { path := "calendar.cs", models := [{ name := "Place" }, { name := "Kind" }, { name := "Date" }] }

theorem imports_grow_calendar :
    (∀ name ∈ calendarFile.declaredNames, '.' ∉ name.toList) ∧
    ((Resolver.mk (.ofFiles [eventFile, placeFile]) .standard []).resolve eventFile).edges =
      [("place.cs", ["Place"])] ∧
    ((Resolver.mk (.ofFiles ([eventFile, placeFile] ++ [calendarFile])) .standard []).resolve
      eventFile).importsFrom "place.cs" "Place" = true ∧
    "Acme.Kind" ∉ ((Resolver.mk (.ofFiles ([eventFile, placeFile] ++ [calendarFile])) .standard
      []).resolve eventFile).unresolved := by
  have undotted : ∀ name ∈ calendarFile.declaredNames, '.' ∉ name.toList := by decide +kernel
  have grown := imports_grow [eventFile, placeFile] .standard [] eventFile calendarFile undotted
  have edges : ((Resolver.mk (.ofFiles [eventFile, placeFile]) .standard []).resolve eventFile).edges =
      [("place.cs", ["Place"])] := by decide +kernel
  refine ⟨undotted, edges, grown.1 _ _ ?_, fun unresolved => ?_⟩
  · rw [Imports.importsFrom, edges]
    rfl
  · have absent := ((grown.2.2 "Acme.Kind").mp unresolved).2.2
    exact absent (by decide +kernel)

end TypeStubs.ImportGrowth

import TypeStubs.Proofs.ImportRelation
import TypeStubs.Proofs.TextPieces

/-! Whether a type name that a declaration shows means something in its module. What is
shown for a reference is its translation or its short name, while references are settled
and recorded under their full names; the two agree for names without a qualifier and for
qualified names whose short name some file declares, and not in general. -/
namespace TypeStubs.NameClosure
open ImportRelation TextPieces

/-- A name that stands in a declaration of a file is accounted for. -/
inductive Accounted (table : TypeTable) (file : SourceFile) (imports : Imports) (scope : List String)
    (shown : String) : Prop where
  | target (member : shown ∈ table.translations.map (·.2))
  | builtin (member : shown ∈ TypeTable.scriptBuiltins)
  | parameter (member : shown ∈ scope)
  | declared (member : shown ∈ file.declaredNames)
  | imported (path : String) (listed : imports.importsFrom path shown = true)
  | unresolved (member : shown ∈ imports.unresolved)

/-- The name under which a reference is recorded when it needs an import: its own, or its
short name where only that is declared. -/
inductive RecordedAs (files : List SourceFile) (reference : String) : String → Prop where
  | itself : RecordedAs files reference reference
  | shortened (undeclared : declaringPath files reference = none)
      (declared : declaringPath files (TypeTable.shortName reference) ≠ none) :
      RecordedAs files reference (TypeTable.shortName reference)

/-- What makes up for a name that is shown short: a translation, a meaning of the short
name in itself or in its file, or some reference that is recorded as the short name. -/
inductive Covered (files : List SourceFile) (table : TypeTable) (omitted : List String)
    (file : SourceFile) (scope : List String) (name : String) : Prop where
  | translated (either : Translated table name ∨ Translated table (TypeTable.shortName name))
  | known (builtin : table.isBuiltin (TypeTable.shortName name) = true)
  | parameter (member : TypeTable.shortName name ∈ scope)
  | declared (member : TypeTable.shortName name ∈ file.declaredNames)
  | recorded (refers : Refers table omitted file other reference)
      (unsettled : Open table file other reference)
      (elsewhere : declaringPath files (TypeTable.shortName name) ≠ some file.path)
      (recordedAs : RecordedAs files reference (TypeTable.shortName name))

private theorem short_short (name : String) :
    TypeTable.shortName (TypeTable.shortName name) = TypeTable.shortName name :=
  last_piece_idempotent '.' name

private theorem lookup_translated (table : TypeTable) (name : String) :
    Translated table name ↔ ∃ target, table.translations.lookup name = some target := by
  rw [← scalar_iff, TypeTable.isScalar, Option.isSome_iff_exists]

theorem translate_target (either : Translated table name ∨ Translated table (TypeTable.shortName name)) :
    table.translate name ∈ table.translations.map (·.2) := by
  have target (key value : String) (found : table.translations.lookup key = some value) :
      value ∈ table.translations.map (·.2) := by
    obtain ⟨front, behind, whole, _⟩ := List.lookup_eq_some_iff.mp found
    simp [whole]
  unfold TypeTable.translate
  cases own : table.translations.lookup name with
  | some value => exact target name value own
  | none =>
    rcases either with translated | translated
    · obtain ⟨value, found⟩ := (lookup_translated table name).mp translated
      rw [own] at found
      cases found
    · obtain ⟨value, found⟩ := (lookup_translated table _).mp translated
      rw [found]
      exact target _ value found

theorem translate_short (untranslated : ¬ Translated table name)
    (shortUntranslated : ¬ Translated table (TypeTable.shortName name)) :
    table.translate name = TypeTable.shortName name := by
  rw [lookup_translated, not_exists] at untranslated shortUntranslated
  have own := Option.eq_none_iff_forall_ne_some.mpr untranslated
  have short := Option.eq_none_iff_forall_ne_some.mpr shortUntranslated
  simp [TypeTable.translate, own, short]

private theorem builtin_iff (table : TypeTable) (name : String) :
    table.isBuiltin name = true ↔
      Translated table name ∨ name ∈ TypeTable.scriptBuiltins ∨ name ∈ table.translations.map (·.2) := by
  simp only [TypeTable.isBuiltin, Bool.or_eq_true, scalar_iff, List.contains_iff_mem, List.any_eq_true,
    beq_iff_eq, List.mem_map, or_assoc]

section
variable (files : List SourceFile) (table : TypeTable) (omitted : List String) (file : SourceFile)

/-- A reference that needs an import is recorded, as itself or as its short name. -/
theorem recorded_listed (refers : Refers table omitted file scope reference)
    (unsettled : Open table file scope reference) (plain : TypeTable.shortName name = name)
    (elsewhere : declaringPath files name ≠ some file.path) (unknown : table.isBuiltin name = false)
    (recordedAs : RecordedAs files reference name) :
    (∃ path, ((Resolver.mk (.ofFiles files) table omitted).resolve file).importsFrom path name = true) ∨
      name ∈ ((Resolver.mk (.ofFiles files) table omitted).resolve file).unresolved := by
  cases declared : declaringPath files name with
  | some path =>
    have away : path ≠ file.path := fun same => elsewhere (by rw [declared, same])
    refine .inl ⟨path, (resolve_edges ..).mpr ⟨scope, reference, refers, unsettled, away, ?_⟩⟩
    cases recordedAs with
    | itself => exact .full declared
    | shortened undeclared _ => exact .short undeclared declared
  | none =>
    -- A reference that is recorded short is declared short, so this one is the name itself.
    cases recordedAs with
    | itself =>
      refine .inr ((resolve_unresolved ..).mpr ⟨scope, refers, unsettled, declared, ?_, unknown, ?_⟩)
      · rw [plain, declared]
      · rw [plain, unknown]
    | shortened _ someDeclared => exact absurd declared someDeclared

/-- What is imported or unresolved under a name comes from a reference recorded as it. -/
theorem listed_recorded
    (listed : (∃ path, ((Resolver.mk (.ofFiles files) table omitted).resolve file).importsFrom path name =
      true) ∨ name ∈ ((Resolver.mk (.ofFiles files) table omitted).resolve file).unresolved) :
    ∃ scope reference, Refers table omitted file scope reference ∧ Open table file scope reference ∧
      declaringPath files name ≠ some file.path ∧ RecordedAs files reference name := by
  rcases listed with ⟨path, imported⟩ | unresolved
  · obtain ⟨scope, reference, refers, unsettled, away, declared⟩ := (resolve_edges ..).mp imported
    refine ⟨scope, reference, refers, unsettled, ?_⟩
    cases declared with
    | full declared => exact ⟨by simp [declared, away], .itself⟩
    | short undeclared declared => exact ⟨by simp [declared, away], .shortened undeclared (by simp [declared])⟩
  · obtain ⟨scope, refers, unsettled, unknown⟩ := (resolve_unresolved ..).mp unresolved
    exact ⟨scope, name, refers, unsettled, by simp [unknown.undeclared], .itself⟩

private theorem covered_of_accounted (accounted : Accounted table file
      ((Resolver.mk (.ofFiles files) table omitted).resolve file) scope (TypeTable.shortName name)) :
    Covered files table omitted file scope name := by
  have recorded (listed : (∃ path, ((Resolver.mk (.ofFiles files) table omitted).resolve file).importsFrom
        path (TypeTable.shortName name) = true) ∨
      TypeTable.shortName name ∈ ((Resolver.mk (.ofFiles files) table omitted).resolve file).unresolved) :
      Covered files table omitted file scope name := by
    obtain ⟨_, _, refers, unsettled, elsewhere, recordedAs⟩ :=
      listed_recorded files table omitted file listed
    exact .recorded refers unsettled elsewhere recordedAs
  cases accounted with
  | target member => exact .known ((builtin_iff ..).mpr (.inr (.inr member)))
  | builtin member => exact .known ((builtin_iff ..).mpr (.inr (.inl member)))
  | parameter member => exact .parameter member
  | declared member => exact .declared member
  | imported path listed => exact recorded (.inl ⟨path, listed⟩)
  | unresolved member => exact recorded (.inr member)

private theorem accounted_of_covered (untranslated : ¬ Translated table name)
    (shortUntranslated : ¬ Translated table (TypeTable.shortName name))
    (covered : Covered files table omitted file scope name) :
    Accounted table file ((Resolver.mk (.ofFiles files) table omitted).resolve file) scope
      (TypeTable.shortName name) := by
  have known (builtin : table.isBuiltin (TypeTable.shortName name) = true) :
      Accounted table file ((Resolver.mk (.ofFiles files) table omitted).resolve file) scope
        (TypeTable.shortName name) := by
    rcases (builtin_iff ..).mp builtin with translated | builtin | target
    · exact absurd translated shortUntranslated
    · exact .builtin builtin
    · exact .target target
  cases covered with
  | translated either => exact absurd either (not_or.mpr ⟨untranslated, shortUntranslated⟩)
  | known builtin => exact known builtin
  | parameter member => exact .parameter member
  | declared member => exact .declared member
  | recorded refers unsettled elsewhere recordedAs =>
    cases builtin : table.isBuiltin (TypeTable.shortName name) with
    | true => exact known builtin
    | false =>
      rcases recorded_listed files table omitted file refers unsettled (short_short name) elsewhere
        builtin recordedAs with ⟨path, listed⟩ | member
      · exact .imported path listed
      · exact .unresolved member

private theorem accounted_iff_covered (scope : List String) (name : String) :
    Accounted table file ((Resolver.mk (.ofFiles files) table omitted).resolve file) scope
        (table.translate name) ↔
      Covered files table omitted file scope name := by
  by_cases translated : Translated table name ∨ Translated table (TypeTable.shortName name)
  · exact ⟨fun _ => .translated translated, fun _ => .target (translate_target translated)⟩
  · obtain ⟨untranslated, shortUntranslated⟩ := not_or.mp translated
    rw [translate_short untranslated shortUntranslated]
    exact ⟨covered_of_accounted files table omitted file,
      accounted_of_covered files table omitted file untranslated shortUntranslated⟩

private theorem declared_elsewhere (distinct : (files.map SourceFile.path).Nodup)
    (inside : file ∈ files) (absent : name ∉ file.declaredNames) :
    declaringPath files name ≠ some file.path := by
  intro found
  obtain ⟨other, there, same, declared⟩ := declaring_file found
  rw [same_path distinct inside other there same] at declared
  exact absent declared

private theorem undeclared_absent (inside : file ∈ files) (undeclared : declaringPath files name = none) :
    name ∉ file.declaredNames := by
  rw [declaringPath, Option.map_eq_none_iff, List.find?_eq_none] at undeclared
  simpa using undeclared file inside

/-- A reference is recorded under the name that is shown for it when it has no
qualifier, and when its short name is declared while it is not. -/
def ShownAsRecorded (scope : List String) (name : String) : Prop :=
  TypeTable.shortName name = name ∨
    (name ∉ scope ∧ declaringPath files name = none ∧
      declaringPath files (TypeTable.shortName name) ≠ none)

private theorem covered_by_itself (distinct : (files.map SourceFile.path).Nodup) (inside : file ∈ files)
    (refers : Refers table omitted file scope name) (agrees : ShownAsRecorded files scope name) :
    Covered files table omitted file scope name := by
  by_cases translated : Translated table name ∨ Translated table (TypeTable.shortName name)
  · exact .translated translated
  by_cases parameter : TypeTable.shortName name ∈ scope
  · exact .parameter parameter
  by_cases declared : TypeTable.shortName name ∈ file.declaredNames
  · exact .declared declared
  obtain ⟨untranslated, shortUntranslated⟩ := not_or.mp translated
  have elsewhere := declared_elsewhere files file distinct inside declared
  rcases agrees with plain | ⟨noParameter, undeclared, shortDeclared⟩
  · have unsettled : Open table file scope name :=
      ⟨untranslated, shortUntranslated, plain ▸ parameter, plain ▸ declared⟩
    exact .recorded refers unsettled elsewhere (by rw [plain]; exact .itself)
  · have unsettled : Open table file scope name :=
      ⟨untranslated, shortUntranslated, noParameter, undeclared_absent files file inside undeclared⟩
    exact .recorded refers unsettled elsewhere (.shortened undeclared shortDeclared)

/-- The name that is shown for a reference is accounted for exactly when the reference is
covered, and it always is where the reference is recorded under the name that is shown. -/
theorem shown_names_accounted :
    (∀ scope name, Accounted table file ((Resolver.mk (.ofFiles files) table omitted).resolve file)
        scope (table.translate name) ↔ Covered files table omitted file scope name) ∧
    ((files.map SourceFile.path).Nodup → file ∈ files → ∀ scope name,
      Refers table omitted file scope name → ShownAsRecorded files scope name →
        Accounted table file ((Resolver.mk (.ofFiles files) table omitted).resolve file) scope
          (table.translate name)) := by
  refine ⟨accounted_iff_covered files table omitted file, fun distinct inside scope name refers agrees => ?_⟩
  rw [accounted_iff_covered]
  exact covered_by_itself files table omitted file distinct inside refers agrees

end

/-- One file with a field of a qualified type that no file declares. -/
def missingFile : SourceFile :=
  { path := "a.cs", models := [{ name := "A", fields := [⟨"B", "Acme.Missing"⟩] }] }

/-- The field is shown with the type `Missing`, while `Acme.Missing` is unresolved. -/
theorem qualified_missing_unaccounted :
    Refers .standard [] missingFile [] "Acme.Missing" ∧
    ¬ Accounted .standard missingFile
      ((Resolver.mk (.ofFiles [missingFile]) .standard []).resolve missingFile) []
      (TypeTable.translate .standard "Acme.Missing") := by
  refine ⟨(mem_references ⟨.ofFiles [missingFile], .standard, []⟩ ..).mp (by decide +kernel), ?_⟩
  have shown : TypeTable.translate .standard "Acme.Missing" = "Missing" := by decide +kernel
  have imports : (Resolver.mk (.ofFiles [missingFile]) .standard []).resolve missingFile =
      { unresolved := ["Acme.Missing"] } := by decide +kernel
  rw [shown, imports]
  rintro (member | member | member | member | ⟨path, listed⟩ | member)
  · revert member; decide +kernel
  · revert member; decide +kernel
  · cases member
  · revert member; decide +kernel
  · simp [Imports.importsFrom] at listed
  · revert member; decide +kernel

/-- A file with the same field, and one that declares its type. -/
def declaredFiles : List SourceFile :=
  [missingFile, { path := "b.cs", models := [{ name := "Missing" }] }]

theorem shown_names_accounted_declared :
    Refers .standard [] missingFile [] "Acme.Missing" ∧
    Accounted .standard missingFile
      ((Resolver.mk (.ofFiles declaredFiles) .standard []).resolve missingFile) []
      (TypeTable.translate .standard "Acme.Missing") := by
  have refers : Refers .standard [] missingFile [] "Acme.Missing" :=
    (mem_references ⟨.ofFiles declaredFiles, .standard, []⟩ ..).mp (by decide +kernel)
  have agrees : ShownAsRecorded declaredFiles [] "Acme.Missing" :=
    .inr ⟨by simp, by decide +kernel, by decide +kernel⟩
  exact ⟨refers, (shown_names_accounted declaredFiles .standard [] missingFile).2 (by decide) (by decide)
    [] "Acme.Missing" refers agrees⟩

end TypeStubs.NameClosure

import TypeStubs.Proofs.ImportRelation
import TypeStubs.Proofs.TextPieces

/-! Names that a file declares and imports all the same. A reference by the name itself is
settled in the file. A reference with a qualifier is not, and is looked up by its short
name among all files, where another file may come first: this is the one way in which a
module can import what it declares. -/
namespace TypeStubs.OwnNames
open ImportRelation TextPieces

/-- The reference is the name behind a qualifier and a dot. -/
def Qualified (name reference : String) : Prop :=
  ∃ qualifier, reference = qualifier ++ "." ++ name ∧ '.' ∉ name.toList

/-- A name of the file is imported from a path: the first file that declares it is the one
at this path and not the file itself, and the file refers to the name with a qualifier,
under which no file declares it. -/
structure Displaced (files : List SourceFile) (table : TypeTable) (omitted : List String)
    (file : SourceFile) (path name : String) : Prop where
  own : name ∈ file.declaredNames
  first : declaringPath files name = some path
  elsewhere : path ≠ file.path
  referred : ∃ scope reference, Refers table omitted file scope reference ∧
    Open table file scope reference ∧ Qualified name reference ∧ declaringPath files reference = none

/-- A name with a qualifier is another name with the same short name. -/
theorem qualified_iff (name reference : String) :
    Qualified name reference ↔ TypeTable.shortName reference = name ∧ reference ≠ name := by
  rw [TypeTable.shortName, Text.lastPiece]
  constructor
  · rintro ⟨qualifier, rfl, undotted⟩
    have whole : (qualifier ++ "." ++ name).toList = qualifier.toList ++ '.' :: name.toList := by
      simp
    refine ⟨by rw [whole, last_piece_behind '.' _ _ undotted, String.ofList_toList], fun same => ?_⟩
    rw [← same, whole] at undotted
    exact undotted (by simp)
  · rintro ⟨rfl, longer⟩
    rcases last_piece_cases '.' reference.toList with ⟨_, whole⟩ | ⟨front, whole⟩
    · exact absurd (by rw [whole, String.ofList_toList]) longer
    · refine ⟨String.ofList front, ?_, by simpa using last_piece_free '.' reference.toList⟩
      rw [← String.toList_inj]
      simpa using whole

section
variable (files : List SourceFile) (table : TypeTable) (omitted : List String) (file : SourceFile)

/-- An open reference that is declared as a name of its own file has a qualifier. -/
theorem declared_own (own : name ∈ file.declaredNames) (unsettled : Open table file scope reference)
    (declared : DeclaredAs files reference path name) :
    declaringPath files name = some path ∧ Qualified name reference ∧
      declaringPath files reference = none := by
  cases declared with
  | full _ => exact absurd own unsettled.notLocal
  | short undeclared declared =>
    have longer : reference ≠ TypeTable.shortName reference := fun same =>
      unsettled.notLocal (same ▸ own)
    exact ⟨declared, (qualified_iff ..).mpr ⟨rfl, longer⟩, undeclared⟩

private theorem own_imported_iff (path : String) (own : name ∈ file.declaredNames) :
    ((Resolver.mk (.ofFiles files) table omitted).resolve file).importsFrom path name = true ↔
      Displaced files table omitted file path name := by
  rw [resolve_edges]
  constructor
  · rintro ⟨scope, reference, refers, unsettled, elsewhere, declared⟩
    obtain ⟨first, qualified, undeclared⟩ := declared_own files table file own unsettled declared
    exact ⟨own, first, elsewhere, scope, reference, refers, unsettled, qualified, undeclared⟩
  · intro displaced
    obtain ⟨scope, reference, refers, unsettled, qualified, undeclared⟩ := displaced.referred
    have short := ((qualified_iff ..).mp qualified).1
    refine ⟨scope, reference, refers, unsettled, displaced.elsewhere, ?_⟩
    rw [← short]
    exact .short undeclared (by rw [short, displaced.first])

/-- A file imports a name that it declares exactly when another file declares the name
first and a reference to it has a qualifier. So it never does where it comes first itself,
nor where it refers to the name only by the name itself. -/
theorem own_names_imported (own : name ∈ file.declaredNames) :
    (∀ path, ((Resolver.mk (.ofFiles files) table omitted).resolve file).importsFrom path name = true ↔
      Displaced files table omitted file path name) ∧
    (declaringPath files name = some file.path → ∀ path,
      ((Resolver.mk (.ofFiles files) table omitted).resolve file).importsFrom path name = false) ∧
    ((∀ scope reference, Refers table omitted file scope reference → ¬ Qualified name reference) → ∀ path,
      ((Resolver.mk (.ofFiles files) table omitted).resolve file).importsFrom path name = false) := by
  refine ⟨fun path => own_imported_iff files table omitted file path own, fun comesFirst path => ?_,
    fun plain path => ?_⟩
  · rw [Bool.eq_false_iff, Ne, own_imported_iff files table omitted file path own]
    intro displaced
    have same := displaced.first.symm.trans comesFirst
    exact displaced.elsewhere (Option.some.inj same)
  · rw [Bool.eq_false_iff, Ne, own_imported_iff files table omitted file path own]
    intro displaced
    obtain ⟨scope, reference, refers, _, qualified, _⟩ := displaced.referred
    exact plain scope reference refers qualified

end

/-- The file that declares a name first. -/
def firstFile : SourceFile := { path := "a.cs", models := [{ name := "Foo" }] }

/-- A file that declares the name again and has a field of that type. -/
def secondFile (signature : String) : SourceFile :=
  { path := "b.cs", models := [{ name := "Foo" }, { name := "Bar", fields := [⟨"Other", signature⟩] }] }

/-- With a qualifier the field makes the file import the name that it declares. -/
theorem qualified_own_name_imported :
    "Foo" ∈ (secondFile "Acme.Foo").declaredNames ∧
    ((Resolver.mk (.ofFiles [firstFile, secondFile "Acme.Foo"]) .standard []).resolve
      (secondFile "Acme.Foo")).edges = [("a.cs", ["Foo"])] := by
  decide +kernel

/-- Without one it does not, although the other file still comes first. -/
theorem own_names_imported_plain :
    "Foo" ∈ (secondFile "Foo").declaredNames ∧
    declaringPath [firstFile, secondFile "Foo"] "Foo" = some "a.cs" ∧
    ∀ path, ((Resolver.mk (.ofFiles [firstFile, secondFile "Foo"]) .standard []).resolve
      (secondFile "Foo")).importsFrom path "Foo" = false := by
  have own : "Foo" ∈ (secondFile "Foo").declaredNames := by decide +kernel
  have plain (scope : List String) (reference : String)
      (refers : Refers .standard [] (secondFile "Foo") scope reference) : ¬ Qualified "Foo" reference := by
    have listed : Resolver.references ⟨.ofFiles [], .standard, []⟩ (secondFile "Foo") = [⟨[], "Foo"⟩] := by
      decide +kernel
    have member := (mem_references ⟨.ofFiles [], .standard, []⟩ ..).mpr refers
    rw [listed] at member
    cases List.mem_singleton.mp member
    exact fun qualified => ((qualified_iff ..).mp qualified).2 rfl
  exact ⟨own, by decide +kernel, (own_names_imported [firstFile, secondFile "Foo"] .standard []
    (secondFile "Foo") own).2.2 plain⟩

end TypeStubs.OwnNames

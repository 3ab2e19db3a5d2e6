import Mathlib.Data.Finset.Dedup
import TypeStubs.Proofs.ModuleLinks

/-! What the module of one file can depend on in the other files: their paths, their
namespaces and which names they declare. Neither the order of the files nor anything
inside their declarations reaches another module, as long as paths and declared names
each belong to one file. -/
namespace TypeStubs.FileOutlines
open ImportRelation ModuleLinks

/-- What other files can see of a file. -/
structure Outline where
  path : String
  nameSpace : Option String
  names : Finset String
  deriving DecidableEq

namespace Outline

/-- The outline of a file. -/
def ofFile (file : SourceFile) : Outline := ⟨file.path, file.nameSpace, file.declaredNames.toFinset⟩

end Outline

/-- No name is declared by two of the files. -/
def DeclaredOnce (files : List SourceFile) : Prop :=
  files.Pairwise fun first second => ∀ name ∈ first.declaredNames, name ∉ second.declaredNames

section
variable {symbols others : SymbolTable} (same : ∀ name, symbols.lookup name = others.lookup name)
  (table : TypeTable) (omitted : List String)
include same

private theorem find_same_symbols (name : String) :
    (Resolver.mk symbols table omitted).find? name = (Resolver.mk others table omitted).find? name := by
  simp only [Resolver.find?, same]

private theorem record_same_symbols (file : SourceFile) (imports : Imports) (reference : Reference) :
    (Resolver.mk symbols table omitted).record file imports reference =
      (Resolver.mk others table omitted).record file imports reference := by
  simp only [Resolver.record, find_same_symbols same]
  rfl

private theorem resolve_same_symbols (file : SourceFile) :
    (Resolver.mk symbols table omitted).resolve file = (Resolver.mk others table omitted).resolve file := by
  have steps : (Resolver.mk symbols table omitted).record file =
      (Resolver.mk others table omitted).record file := by
    funext imports reference
    exact record_same_symbols same table omitted file imports reference
  unfold Resolver.resolve
  rw [steps]
  rfl

end

/-- Where no name is declared twice, the order of the files does not decide which file
declares a name. -/
theorem declaring_path_iff (once : DeclaredOnce files) (name path : String) :
    declaringPath files name = some path ↔
      ∃ file ∈ files, file.path = path ∧ name ∈ file.declaredNames := by
  refine ⟨declaring_file, ?_⟩
  rintro ⟨file, inside, rfl, declared⟩
  unfold declaringPath
  induction files with
  | nil => cases inside
  | cons head rest ih =>
    obtain ⟨apart, onceRest⟩ := List.pairwise_cons.mp once
    rcases List.mem_cons.mp inside with rfl | behind
    · simp [declared]
    · have absent : name ∉ head.declaredNames := fun first => apart file behind name first declared
      rw [List.find?_cons_of_neg (by simpa using absent)]
      exact ih onceRest behind

section
variable {files others : List SourceFile}
  (same : (files.map Outline.ofFile).Perm (others.map Outline.ofFile))
include same

private theorem counterpart (inside : file ∈ files) :
    ∃ other ∈ others, other.path = file.path ∧ other.nameSpace = file.nameSpace ∧
      ∀ name, name ∈ other.declaredNames ↔ name ∈ file.declaredNames := by
  have listed : Outline.ofFile file ∈ others.map Outline.ofFile :=
    same.mem_iff.mp (List.mem_map_of_mem inside)
  obtain ⟨other, there, outline⟩ := List.mem_map.mp listed
  simp only [Outline.ofFile, Outline.mk.injEq] at outline
  obtain ⟨path, nameSpace, names⟩ := outline
  refine ⟨other, there, path, nameSpace, fun name => ?_⟩
  rw [← List.mem_toFinset, names, List.mem_toFinset]

private theorem declaring_path_carried (once : DeclaredOnce files) (otherOnce : DeclaredOnce others)
    (found : declaringPath files name = some path) : declaringPath others name = some path := by
  obtain ⟨file, inside, rfl, declared⟩ := (declaring_path_iff once ..).mp found
  obtain ⟨other, there, path, _, names⟩ := counterpart same inside
  exact (declaring_path_iff otherOnce ..).mpr ⟨other, there, path, (names name).mpr declared⟩

private theorem declaring_path_same (once : DeclaredOnce files) (otherOnce : DeclaredOnce others)
    (name : String) : declaringPath files name = declaringPath others name := by
  apply Option.ext
  intro path
  constructor
  · intro found
    exact declaring_path_carried same once otherOnce found
  · intro found
    exact declaring_path_carried same.symm otherOnce once found

end

private theorem namespace_of_absent (settings : Settings) (absent : ∀ file ∈ files, file.path ≠ path) :
    Bundle.namespaceOf settings files path = none := by
  unfold Bundle.namespaceOf
  rw [List.findSome?_eq_none_iff]
  intro file inside
  simp [absent file inside]

section
variable {files others : List SourceFile} (settings : Settings)
  (same : (files.map Outline.ofFile).Perm (others.map Outline.ofFile))
  (distinct : (files.map SourceFile.path).Nodup) (otherDistinct : (others.map SourceFile.path).Nodup)
include same distinct otherDistinct

private theorem namespace_same (path : String) :
    Bundle.namespaceOf settings files path = Bundle.namespaceOf settings others path := by
  by_cases present : ∃ file ∈ files, file.path = path
  · obtain ⟨file, inside, rfl⟩ := present
    obtain ⟨other, there, path, nameSpace, _⟩ := counterpart same inside
    rw [namespace_of_path settings distinct inside, ← path,
      namespace_of_path settings otherDistinct there, Module.namespaceOf?, Module.namespaceOf?, nameSpace]
  · have absent : ∀ file ∈ files, file.path ≠ path := fun file inside here => present ⟨file, inside, here⟩
    have otherAbsent : ∀ other ∈ others, other.path ≠ path := by
      intro other there here
      obtain ⟨file, inside, path, _⟩ := counterpart same.symm there
      exact absent file inside (path.trans here)
    rw [namespace_of_absent settings absent, namespace_of_absent settings otherAbsent]

private theorem module_same (once : DeclaredOnce files) (otherOnce : DeclaredOnce others) (file : SourceFile) :
    moduleOf settings files file = moduleOf settings others file := by
  have symbols (name : String) :
      (SymbolTable.ofFiles files).lookup name = (SymbolTable.ofFiles others).lookup name := by
    rw [lookup_symbols, lookup_symbols]
    exact declaring_path_same same once otherOnce name
  have imports := resolve_same_symbols symbols (Style.ofSettings settings).table
    (Style.ofSettings settings).settings.omittedBases file
  have spaces : Bundle.namespaceOf settings files = Bundle.namespaceOf settings others :=
    funext (namespace_same settings same distinct otherDistinct)
  simp only [moduleOf, Module.ofFile, Bundle.resolver, imports, spaces]

end

/-- Where no two files have the same path, a run has one module for each file. -/
theorem module_of_source (settings : Settings) (distinct : (files.map SourceFile.path).Nodup)
    (inside : file ∈ files) :
    (Bundle.ofFiles settings files).modules.filter (·.source == file.path) =
      [moduleOf settings files file] := by
  have sources : ((Bundle.ofFiles settings files).modules.map Module.source).Nodup := by
    simpa [Bundle.ofFiles, Module.ofFile, Function.comp_def] using distinct
  have emitted : moduleOf settings files file ∈ (Bundle.ofFiles settings files).modules :=
    List.mem_map.mpr ⟨file, inside, rfl⟩
  exact filter_key sources emitted

/-- Two runs over files with the same outlines have the same module for a file that both
have, in whatever order the files stand and whatever else the other files contain. -/
theorem module_depends_on_outlines (settings : Settings) (files others : List SourceFile)
    (file : SourceFile) (inside : file ∈ files) (there : file ∈ others)
    (distinct : (files.map SourceFile.path).Nodup) (otherDistinct : (others.map SourceFile.path).Nodup)
    (once : DeclaredOnce files) (otherOnce : DeclaredOnce others)
    (same : (files.map Outline.ofFile).Perm (others.map Outline.ofFile)) :
    ∃ module, (Bundle.ofFiles settings files).modules.filter (·.source == file.path) = [module] ∧
      (Bundle.ofFiles settings others).modules.filter (·.source == file.path) = [module] := by
  refine ⟨moduleOf settings files file, module_of_source settings distinct inside, ?_⟩
  rw [module_same settings same distinct otherDistinct once otherOnce file]
  exact module_of_source settings otherDistinct there

/-- The files of the shop in the other order, with a member and a second use of the name
in the file of the item. -/
def restockedFiles : List SourceFile := [
  { path := "order.cs", models := [{ name := "Order", fields := [⟨"First", "Acme.Item<int>?"⟩] }] },
  { path := "shop/item.cs", nameSpace := some "Shop.Core",
    models := [{ name := "Item<T>", properties := [⟨"Stock", "Order"⟩] }, { name := "Item" }] }]

theorem module_depends_on_outlines_shop :
    shopFiles[1] ∈ restockedFiles ∧ (shopFiles.map SourceFile.path).Nodup ∧
    (restockedFiles.map SourceFile.path).Nodup ∧ DeclaredOnce shopFiles ∧
    DeclaredOnce restockedFiles ∧
    (shopFiles.map Outline.ofFile).Perm (restockedFiles.map Outline.ofFile) ∧
    ∃ module, (Bundle.ofFiles {} shopFiles).modules.filter (·.source == "order.cs") = [module] ∧
      (Bundle.ofFiles {} restockedFiles).modules.filter (·.source == "order.cs") = [module] := by
  have inside : shopFiles[1] ∈ restockedFiles := by decide
  have distinct : (shopFiles.map SourceFile.path).Nodup := by decide
  have otherDistinct : (restockedFiles.map SourceFile.path).Nodup := by decide
  have once : DeclaredOnce shopFiles := by unfold DeclaredOnce; decide +kernel
  have otherOnce : DeclaredOnce restockedFiles := by unfold DeclaredOnce; decide +kernel
  have same : (shopFiles.map Outline.ofFile).Perm (restockedFiles.map Outline.ofFile) := by
    decide +kernel
  exact ⟨inside, distinct, otherDistinct, once, otherOnce, same,
    module_depends_on_outlines {} shopFiles restockedFiles shopFiles[1] (by decide) inside distinct
      otherDistinct once otherOnce same⟩

end TypeStubs.FileOutlines

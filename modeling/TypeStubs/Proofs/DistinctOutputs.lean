import TypeStubs.Proofs.RunAccounts

/-! When two sources overwrite each other. Their modules are stored under one key exactly
when they have the same segments; so files with different segments all keep their modules,
and a run into an empty memory leaves one file for each of them. -/
namespace TypeStubs.DistinctOutputs
open MemoryFiles ModuleLinks OutputPaths RunAccounts

/-- Modules are stored under one key exactly when they have the same segments. -/
theorem same_key_iff (layout : Layout) (dotted : layout.extension.toList.head? = some '.')
    (source other : String) :
    Path.components (layout.outputPath source) = Path.components (layout.outputPath other) ↔
      layout.moduleSegments source = layout.moduleSegments other := by
  constructor
  · exact segments_of_components layout dotted
  · intro same
    rw [output_path_eq layout dotted, output_path_eq layout dotted, same]

/-- Modules under different keys, none of which is taken, add one file each. -/
theorem put_modules_fresh (refused : List String) (modules : List Module) (memory : Memory)
    (unrefused : ∀ module ∈ modules, module.path ∉ refused)
    (apart : modules.Pairwise fun first second =>
      Path.components first.path ≠ Path.components second.path)
    (fresh : ∀ module ∈ modules, ∀ file ∈ memory.files,
      Path.components module.path ≠ Path.components file.1) :
    (modules.foldl (putModule refused) memory).files.Perm
      (modules.map (fun module => (module.path, module.contents)) ++ memory.files) := by
  induction modules generalizing memory with
  | nil => exact List.Perm.refl _
  | cons module rest ih =>
    obtain ⟨headApart, restApart⟩ := List.pairwise_cons.mp apart
    have put : putModule refused memory module = memory.put module.path module.contents :=
      if_neg (unrefused module List.mem_cons_self)
    have added := put_file_fresh module.path module.contents memory.files (fresh module List.mem_cons_self)
    -- What is taken now is what was taken before and the key of this module.
    have behind := ih (memory.put module.path module.contents)
      (fun later member => unrefused later (List.mem_cons_of_mem _ member)) restApart
      (fun later member file taken => by
        rcases List.mem_cons.mp (added.mem_iff.mp taken) with rfl | before
        · exact (headApart later member).symm
        · exact fresh later (List.mem_cons_of_mem _ member) file before)
    rw [List.foldl_cons, put]
    exact behind.trans ((added.append_left _).trans List.perm_middle)

/-- Two sources share a stored module exactly when their modules have the same segments.
Hence a run without failures over files with different segments, into an empty memory,
leaves one entry for each file: the path of its module with the contents of its module. -/
theorem distinct_segments_kept (settings : Settings)
    (dotted : settings.extension.toList.head? = some '.') :
    (∀ source other,
      Path.components ((Layout.ofSettings settings).outputPath source) =
          Path.components ((Layout.ofSettings settings).outputPath other) ↔
        (Layout.ofSettings settings).moduleSegments source =
          (Layout.ofSettings settings).moduleSegments other) ∧
    ∀ run : RunAccounts.Run,
      (run.files.map fun file => (Layout.ofSettings settings).moduleSegments file.path).Nodup →
      (run.perform settings {}).1.isSuccess = true →
      (run.perform settings {}).2.files.Perm
        (run.files.map fun file => (storedAt settings file, (moduleOf settings run.files file).contents)) := by
  have sameKey := same_key_iff (Layout.ofSettings settings) dotted
  refine ⟨sameKey, fun run distinct success => ?_⟩
  have unrefused : ∀ file ∈ run.files, storedAt settings file ∉ run.refused := by
    simpa [perform_eq, Report.isSuccess] using success
  have apart : (run.files.map (moduleOf settings run.files)).Pairwise fun first second =>
      Path.components first.path ≠ Path.components second.path := by
    rw [List.pairwise_map]
    refine (List.pairwise_map.mp distinct).imp fun {first second} different same => different ?_
    rw [module_path, module_path] at same
    exact (sameKey first.path second.path).mp same
  have kept := put_modules_fresh run.refused (run.files.map (moduleOf settings run.files)) {}
    (by simpa [module_path] using unrefused) apart (by simp)
  rw [perform_eq]
  simpa [module_path, Function.comp_def] using kept

/-- A file whose name has two dots, and one that has nothing but an extension. -/
def versionFile : SourceFile := { path := "/src/shape.v2.cs", models := [{ name := "Shape" }] }

def nameless : SourceFile := { path := "/src/.cs", enums := [{ identifier := "Color" }] }

/-- The spelling of a directory and the extension make no difference, a dot inside the name
does. -/
theorem distinct_segments_kept_versions :
    plainSettings.extension.toList.head? = some '.' ∧
    Path.components ((Layout.ofSettings plainSettings).outputPath "/src/a/shape.v2.cs") =
      Path.components ((Layout.ofSettings plainSettings).outputPath "C:\\src\\.\\a//shape.v2.vb") ∧
    Path.components ((Layout.ofSettings plainSettings).outputPath "/src/a/shape.v2.cs") ≠
      Path.components ((Layout.ofSettings plainSettings).outputPath "/src/a/shape.cs") ∧
    (RunAccounts.Run.perform plainSettings ⟨[firstShape, versionFile, nameless], []⟩ {}).2.files.Perm
      ([firstShape, versionFile, nameless].map fun file => (storedAt plainSettings file,
        (moduleOf plainSettings [firstShape, versionFile, nameless] file).contents)) := by
  have dotted : plainSettings.extension.toList.head? = some '.' := by decide
  obtain ⟨sameKey, kept⟩ := distinct_segments_kept plainSettings dotted
  refine ⟨dotted, (sameKey ..).mpr (by decide +kernel), ?_, ?_⟩
  · intro same
    exact absurd ((sameKey ..).mp same) (by decide +kernel)
  · refine kept ⟨[firstShape, versionFile, nameless], []⟩ (by decide +kernel) ?_
    rw [perform_eq]
    rfl

end TypeStubs.DistinctOutputs

import TypeStubs.Output.Report
import TypeStubs.Proofs.MemoryFiles
import TypeStubs.Proofs.ModuleLinks
import TypeStubs.Proofs.OutputPaths

/-! Runs one after the other over one memory, in which some paths cannot be written. A
run reports each of its files once, as written or as failed. What it leaves under a key
is the text of its last file there, unless that path is refused, and else what was there
before; so a run that is repeated changes nothing. -/
namespace TypeStubs.RunAccounts
open MemoryFiles ModuleLinks OutputPaths

/-- A run: its files, and the paths at which nothing can be written. -/
structure Run where
  files : List SourceFile
  refused : List String

/-- What a run reports, and the memory that it leaves. -/
def Run.perform (settings : Settings) (run : Run) (memory : Memory) : Report × Memory :=
  ((Bundle.ofFiles settings run.files).storeInMemory run.refused).run memory

/-- The memory after runs one after the other. -/
def memoryAfter (settings : Settings) (runs : List Run) (start : Memory) : Memory :=
  runs.foldl (fun memory run => (run.perform settings memory).2) start

/-- The path at which the module for a file is stored. -/
def storedAt (settings : Settings) (file : SourceFile) : String :=
  (Layout.ofSettings settings).outputPath file.path

/-- The last of the files whose module is stored under a key. -/
def lastUnder (settings : Settings) (files : List SourceFile) (key : String) : Option SourceFile :=
  files.reverse.find? fun file => decide (Path.components key = Path.components (storedAt settings file))

/-- What a run has to report and to leave, given the memory before it. -/
structure Accounted (settings : Settings) (run : Run) (before : Memory) (report : Report)
    (after : Memory) : Prop where
  written : report.written =
    (run.files.filter fun file => storedAt settings file ∉ run.refused).map (storedAt settings)
  failed : report.failed =
    (run.files.filter fun file => storedAt settings file ∈ run.refused).map (storedAt settings)
  success : report.isSuccess = true ↔ report.failed = []
  aggregate : ∀ refused memory,
    (Run.perform settings ⟨run.files, refused⟩ memory).1.aggregate = report.aggregate
  stored : ∀ key file, lastUnder settings run.files key = some file →
    storedAt settings file ∉ run.refused →
    after.get? key = some (moduleOf settings run.files file).contents
  kept : ∀ key, (∀ file, lastUnder settings run.files key = some file →
    storedAt settings file ∈ run.refused) → after.get? key = before.get? key
  repeated : run.perform settings after = (report, after)

section
variable (refused : List String)

/-- Puts a module into a memory, unless its path is refused. -/
def putModule (memory : Memory) (module : Module) : Memory :=
  if module.path ∈ refused then memory else memory.put module.path module.contents

private theorem write_run (module : Module) (memory : Memory) :
    (Bundle.writeToMemory refused module.path module.contents).run memory =
      (if module.path ∈ refused then .error () else .ok (), putModule refused memory module) := by
  unfold Bundle.writeToMemory putModule
  by_cases refuses : module.path ∈ refused
  · rw [if_pos (List.contains_iff_mem.mpr refuses), if_pos refuses, if_pos refuses]
    rfl
  · rw [if_neg (mt List.contains_iff_mem.mp refuses), if_neg refuses, if_neg refuses]
    rfl

theorem run_step (first : StateM σ α) (next : α → StateM σ β) (state : σ) :
    (first >>= next).run state = (next (first.run state).1).run (first.run state).2 := rfl

/-- Storing modules reports each of them once and puts those that are not refused. -/
theorem store_modules_run (modules : List Module) (memory : Memory) :
    (Bundle.storeModules (Bundle.writeToMemory refused) modules).run memory =
      (((modules.filter fun module => module.path ∉ refused).map (·.path),
        (modules.filter fun module => module.path ∈ refused).map (·.path)),
        modules.foldl (putModule refused) memory) := by
  induction modules generalizing memory with
  | nil => rfl
  | cons module rest ih =>
    rw [Bundle.storeModules, run_step, write_run, run_step, ih, List.foldl_cons]
    by_cases refuses : module.path ∈ refused
    · rw [if_pos refuses, List.filter_cons_of_neg (by simpa using refuses),
        List.filter_cons_of_pos (by simpa using refuses)]
      rfl
    · rw [if_neg refuses, List.filter_cons_of_pos (by simpa using refuses),
        List.filter_cons_of_neg (by simpa using refuses)]
      rfl

theorem store_run (bundle : Bundle) (memory : Memory) :
    (bundle.storeInMemory refused).run memory =
      ({ written := (bundle.modules.filter fun module => module.path ∉ refused).map (·.path)
         failed := (bundle.modules.filter fun module => module.path ∈ refused).map (·.path)
         aggregate := bundle.aggregate }, bundle.modules.foldl (putModule refused) memory) := by
  rw [Bundle.storeInMemory, Bundle.store, run_step, store_modules_run]
  rfl

private theorem put_module_in_order (module : Module) (ordered : InOrder memory) :
    InOrder (putModule refused memory module) := by
  unfold putModule
  split
  · exact ordered
  · exact put_in_order _ _ ordered

private theorem put_modules_in_order (modules : List Module) (ordered : InOrder memory) :
    InOrder (modules.foldl (putModule refused) memory) := by
  induction modules generalizing memory with
  | nil => exact ordered
  | cons module rest ih => exact ih (put_module_in_order refused module ordered)

/-- The last module that is put under a key decides what is kept there. -/
theorem get_put_modules (modules : List Module) (memory : Memory) (key : String) :
    (modules.foldl (putModule refused) memory).get? key =
      ((modules.reverse.find? fun module =>
        decide (Path.components key = Path.components module.path) && decide (module.path ∉ refused)).map
          (·.contents)).or (memory.get? key) := by
  induction modules generalizing memory with
  | nil => rfl
  | cons module rest ih =>
    rw [List.foldl_cons, ih, List.reverse_cons, List.find?_append]
    cases rest.reverse.find? fun module =>
        decide (Path.components key = Path.components module.path) && decide (module.path ∉ refused) with
    | some later => rfl
    | none =>
      -- No later module is put there, so this one is the last if it is put there itself.
      unfold putModule
      by_cases refuses : module.path ∈ refused
      · simp [refuses]
      · by_cases here : Path.components key = Path.components module.path <;> simp [refuses, here, get_put]

private theorem put_modules_keeps_paths (modules : List Module) (ordered : InOrder memory)
    (present : ∀ module ∈ modules, module.path ∉ refused →
      ∃ path ∈ memory.files.map (·.1), Path.components module.path = Path.components path) :
    (modules.foldl (putModule refused) memory).files.map (·.1) = memory.files.map (·.1) := by
  induction modules generalizing memory with
  | nil => rfl
  | cons module rest ih =>
    have head : (putModule refused memory module).files.map (·.1) = memory.files.map (·.1) := by
      unfold putModule
      split
      · rfl
      · rename_i unrefused
        obtain ⟨path, inside, same⟩ := present module List.mem_cons_self unrefused
        obtain ⟨file, member, rfl⟩ := List.mem_map.mp inside
        exact put_keeps_paths _ _ ordered ⟨file, member, same⟩
    rw [List.foldl_cons, ih (put_module_in_order refused module ordered), head]
    intro later member unrefused
    rw [head]
    exact present later (List.mem_cons_of_mem _ member) unrefused

/-- Putting the same modules again changes nothing. -/
theorem put_modules_again (modules : List Module) (ordered : InOrder memory) :
    modules.foldl (putModule refused) (modules.foldl (putModule refused) memory) =
      modules.foldl (putModule refused) memory := by
  have after := put_modules_in_order refused modules ordered
  apply memory_ext (put_modules_in_order refused modules after)
  · apply put_modules_keeps_paths refused modules after
    intro module member unrefused
    have found : (modules.reverse.find? fun other =>
        decide (Path.components module.path = Path.components other.path) &&
          decide (other.path ∉ refused)).isSome :=
      List.find?_isSome.mpr ⟨module, List.mem_reverse.mpr member, by simp [unrefused]⟩
    have kept : ((modules.foldl (putModule refused) memory).get? module.path).isSome := by
      rw [get_put_modules, Option.isSome_or, Option.isSome_map, found, Bool.true_or]
    obtain ⟨text, held⟩ := Option.isSome_iff_exists.mp kept
    obtain ⟨file, inside, same⟩ := get_present held
    exact ⟨file.1, List.mem_map_of_mem inside, same⟩
  · intro key
    rw [get_put_modules, get_put_modules, ← Option.or_assoc, Option.or_self]

end

theorem module_path (settings : Settings) (files : List SourceFile) (file : SourceFile) :
    (moduleOf settings files file).path = storedAt settings file := by
  simp only [moduleOf, Module.ofFile, Style.ofSettings, storedAt]

section
variable (settings : Settings) (run : Run) (memory : Memory)

/-- What a run puts, and what it reports whatever the memory holds. -/
theorem perform_eq :
    run.perform settings memory =
      ({ written := (run.files.filter fun file => storedAt settings file ∉ run.refused).map (storedAt settings)
         failed := (run.files.filter fun file => storedAt settings file ∈ run.refused).map (storedAt settings)
         aggregate := (Bundle.ofFiles settings run.files).aggregate },
        (run.files.map (moduleOf settings run.files)).foldl (putModule run.refused) memory) := by
  have modules : (Bundle.ofFiles settings run.files).modules =
      run.files.map (moduleOf settings run.files) := rfl
  rw [Run.perform, store_run, modules, List.filter_map, List.filter_map, List.map_map, List.map_map]
  simp only [Function.comp_def, module_path]

private theorem perform_in_order (ordered : InOrder memory) : InOrder (run.perform settings memory).2 := by
  rw [perform_eq]
  exact put_modules_in_order _ _ ordered

/-- A run that is repeated reports the same and changes nothing. -/
theorem perform_again (ordered : InOrder memory) :
    run.perform settings (run.perform settings memory).2 = run.perform settings memory := by
  simp only [perform_eq]
  rw [put_modules_again run.refused _ ordered]

end

private theorem runs_in_order (settings : Settings) (runs : List Run) (ordered : InOrder start) :
    InOrder (memoryAfter settings runs start) := by
  unfold memoryAfter
  induction runs generalizing start with
  | nil => exact ordered
  | cons run rest ih => exact ih (perform_in_order settings run start ordered)

private theorem valid_dotted (valid : settings.validate = .ok ()) :
    (Layout.ofSettings settings).extension.toList.head? = some '.' := by
  by_cases dotted : settings.extension.toList.head? = some '.'
  · exact dotted
  · simp only [Settings.validate, bne_iff_ne.mpr dotted, Bool.true_or, ↓reduceIte] at valid
    split at valid <;> cases valid

/-- Where the members that are chosen agree on a second condition, the first of them
decides whether any meets both. -/
theorem find_both (choose keep : α → Bool) (members : List α)
    (agree : ∀ first ∈ members, ∀ second ∈ members, choose first → choose second →
      keep first = keep second) :
    members.find? (fun member => choose member && keep member) = (members.find? choose).filter keep := by
  induction members with
  | nil => rfl
  | cons head rest ih =>
    cases chosen : choose head with
    | false =>
      have later := ih fun first inside second there =>
        agree first (List.mem_cons_of_mem _ inside) second (List.mem_cons_of_mem _ there)
      simpa [chosen] using later
    | true =>
      cases kept : keep head with
      | true => simp [chosen, kept, Option.filter]
      | false =>
        have none : rest.find? (fun member => choose member && keep member) = none := by
          rw [List.find?_eq_none]
          intro other inside both
          obtain ⟨alsoChosen, alsoKept⟩ := Bool.and_eq_true_iff.mp both
          have same := agree head List.mem_cons_self other (List.mem_cons_of_mem _ inside) chosen alsoChosen
          rw [kept, alsoKept] at same
          cases same
        simp [chosen, kept, none, Option.filter]

section
variable (settings : Settings) (valid : settings.validate = .ok ()) (run : Run) (memory : Memory)
include valid

/-- What is kept under a key after a run: the text of its last file there unless that
path is refused, and else what was there before. -/
theorem get_performed (key : String) :
    (run.perform settings memory).2.get? key =
      (((lastUnder settings run.files key).filter fun file => storedAt settings file ∉ run.refused).map
        fun file => (moduleOf settings run.files file).contents).or (memory.get? key) := by
  -- Files under one key are stored at one path, so that all of them are refused or none.
  have agree : ∀ first ∈ run.files.reverse, ∀ second ∈ run.files.reverse,
      decide (Path.components key = Path.components (storedAt settings first)) →
      decide (Path.components key = Path.components (storedAt settings second)) →
      decide (storedAt settings first ∉ run.refused) = decide (storedAt settings second ∉ run.refused) := by
    intro first _ second _ here there
    have same : storedAt settings first = storedAt settings second :=
      output_path_of_components _ (valid_dotted valid)
        ((of_decide_eq_true here).symm.trans (of_decide_eq_true there))
    rw [same]
  have found := find_both _ _ run.files.reverse agree
  rw [perform_eq, get_put_modules, ← List.map_reverse, List.find?_map, Option.map_map, lastUnder, ← found]
  simp only [Function.comp_def, module_path]

/-- A run accounts for its files, given any memory in order. -/
theorem run_accounted (ordered : InOrder memory) :
    Accounted settings run memory (run.perform settings memory).1 (run.perform settings memory).2 where
  written := by rw [perform_eq]
  failed := by rw [perform_eq]
  success := by simp [Report.isSuccess]
  aggregate refused other := by rw [perform_eq, perform_eq]
  stored key file last unrefused := by
    rw [get_performed settings valid, last, Option.filter_some, if_pos (by simpa using unrefused)]
    rfl
  kept key refused := by
    have none : (lastUnder settings run.files key).filter
        (fun file => storedAt settings file ∉ run.refused) = none := by
      cases last : lastUnder settings run.files key with
      | none => rfl
      | some file => simp [Option.filter_some, refused file last]
    rw [get_performed settings valid, none]
    rfl
  repeated := by rw [perform_again settings run memory ordered]

end

/-- In every sequence of runs over one memory, each run accounts for its files: it
reports every file once, depends on what is refused in nothing else than what fails, and
leaves under each key the text of its last file there or what was there before. -/
theorem runs_accounted (settings : Settings) (valid : settings.validate = .ok ()) (start : Memory)
    (ordered : InOrder start) (earlier : List Run) (run : Run) :
    Accounted settings run (memoryAfter settings earlier start)
      (run.perform settings (memoryAfter settings earlier start)).1
      (run.perform settings (memoryAfter settings earlier start)).2 :=
  run_accounted settings valid run _ (runs_in_order settings earlier ordered)

/-- Settings that are valid. -/
def plainSettings : Settings := { root := "/src/" }

/-- Two files that are stored at one path. -/
def firstShape : SourceFile := { path := "/src/shape.cs", models := [{ name := "Shape" }] }

def secondShape : SourceFile := { path := "/src/shape.vb", models := [{ name := "Figure" }] }

/-- A file that is stored at a path of its own. -/
def colorFile : SourceFile := { path := "/src/color.cs", enums := [{ identifier := "Color" }] }

/-- A second run over all three files, in which the third cannot be written. -/
theorem runs_accounted_shapes :
    Settings.validate plainSettings = .ok () ∧ InOrder {} ∧
    ∃ before report after, before = memoryAfter plainSettings [⟨[firstShape, colorFile], []⟩] {} ∧
      Run.perform plainSettings ⟨[firstShape, secondShape, colorFile], ["generated/color.ts"]⟩ before =
        (report, after) ∧
      report.written = ["generated/shape.ts", "generated/shape.ts"] ∧
      report.failed = ["generated/color.ts"] ∧
      after.get? "generated/./shape.ts" =
        some (moduleOf plainSettings [firstShape, secondShape, colorFile] secondShape).contents ∧
      after.get? "generated/color.ts" = before.get? "generated/color.ts" := by
  have valid : Settings.validate plainSettings = .ok () := rfl
  have accounted := runs_accounted plainSettings valid {} empty_in_order [⟨[firstShape, colorFile], []⟩]
    ⟨[firstShape, secondShape, colorFile], ["generated/color.ts"]⟩
  refine ⟨valid, empty_in_order, _, _, _, rfl, rfl, ?_, ?_, ?_, ?_⟩
  · exact accounted.written.trans (by decide +kernel)
  · exact accounted.failed.trans (by decide +kernel)
  · exact accounted.stored "generated/./shape.ts" secondShape (by decide +kernel) (by decide +kernel)
  · refine accounted.kept "generated/color.ts" fun file last => ?_
    have color : lastUnder plainSettings [firstShape, secondShape, colorFile] "generated/color.ts" =
        some colorFile := by decide +kernel
    cases Option.some.inj (color.symm.trans last)
    decide +kernel

end TypeStubs.RunAccounts

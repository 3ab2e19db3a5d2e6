import Mathlib.Data.List.Basic
import TypeStubs.Command.Run
import TypeStubs.Proofs.DiskFiles
import TypeStubs.Proofs.RunAccounts

/-! What the commands do to the disk. A run that has no settings or no description to work
with leaves the disk as it is, and so does a dry run. Any other run leaves at each place the
module of its last file that could be written there, and else what was there before. -/
namespace TypeStubs.CommandEffects
open Command DiskFiles ModuleLinks RunAccounts

/-! ## What a run works with -/

/-- The settings in the bytes of a file, if it can be read. -/
def settingsIn (env : Environment) : Except SystemError ByteArray → Except SettingsFault Settings
  | .error error => .error (.unreadable error.message)
  | .ok bytes =>
    match Utf8.text? bytes with
    | none => .error (.unreadable SystemError.notText.message)
    | some text => Settings.parse env text

/-- The settings that the disk and the options give: valid ones, or a fault. -/
def settingsOn (env : Environment) (options : GenerateOptions) (disk : Disk) :
    Except SettingsFault Settings := do
  let found ← if disk.has options.settingsPath then settingsIn env (disk.read options.settingsPath)
    else .ok {}
  let settings := options.override found
  settings.validate
  return settings

/-- The description in the file that the options name, or else from standard input. -/
def filesOn (input : ByteArray) (options : GenerateOptions) (disk : Disk) :
    Except Failure (List SourceFile) :=
  match options.inputPath? with
  | some path => (Source.load (disk.read path)).mapError fun _ => .badFile path
  | none => (Source.ofBytes input).mapError fun _ => .badInput

section
variable (env : Environment) (input : ByteArray) (options : GenerateOptions) (disk : Disk)

private theorem substitute_agree (other : Environment) (text : List Char)
    (agree : ∀ name ∈ Environment.references text, other (String.ofList name) = env (String.ofList name)) :
    other.substitute text = env.substitute text := by
  unfold Environment.substitute
  apply List.foldl_ext
  intro held name member
  rw [Environment.replaceOne, Environment.replaceOne, agree name member]

private theorem lookup_listed (names : List (List Char)) (name : List Char) (member : name ∈ names) :
    (names.map fun name => (String.ofList name, env (String.ofList name))).lookup (String.ofList name) =
      some (env (String.ofList name)) := by
  induction names with
  | nil => cases member
  | cons first rest ih =>
    rw [List.map_cons, List.lookup_cons]
    by_cases same : String.ofList name = String.ofList first
    · simp [same]
    · have later : name ∈ rest := by
        rcases List.mem_cons.mp member with rfl | later
        · exact absurd rfl same
        · exact later
      have apart : (String.ofList name == String.ofList first) = false := by simpa using same
      rw [apart]
      exact ih later

/-- The variables that a text refers to are looked up, and nothing else happens. -/
theorem environment_run (text : String) :
    (environmentFor (Host.ofDisk env input) text).run disk =
      (fun name => (((Environment.references text.toList).map fun name =>
        (String.ofList name, env (String.ofList name))).lookup name).join, disk) := by
  have values : (Environment.references text.toList).mapM (m := StateM Disk) (fun name => do
      return (String.ofList name, ← (Host.ofDisk env input).lookup (String.ofList name))) =
      pure ((Environment.references text.toList).map fun name =>
        (String.ofList name, env (String.ofList name))) :=
    List.mapM_pure
  rw [environmentFor, run_step, values]
  rfl

private theorem parse_environment (text : String) :
    Settings.parse ((environmentFor (Host.ofDisk env input) text).run disk).1 text =
      Settings.parse env text := by
  rw [environment_run]
  have same := substitute_agree env (fun name => (((Environment.references text.toList).map
    fun name => (String.ofList name, env (String.ofList name))).lookup name).join) text.toList
    fun name member => by rw [lookup_listed env _ name member]; rfl
  delta Settings.parse
  rw [same]

private theorem read_settings_run (path : String) :
    (readSettings (Host.ofDisk env input) path).run disk = (settingsIn env (disk.read path), disk) := by
  have answer : ((Host.ofDisk env input).read path).run disk = (disk.read path, disk) := rfl
  rw [readSettings, run_step, answer]
  dsimp only
  cases disk.read path with
  | error error => rfl
  | ok bytes =>
    rw [settingsIn]
    dsimp only
    cases Utf8.text? bytes with
    | none => rfl
    | some text =>
      have parsed := parse_environment env input disk text
      have kept : ((environmentFor (Host.ofDisk env input) text).run disk).2 = disk := by
        rw [environment_run]
      dsimp only
      rw [run_step, kept]
      exact congrArg (·, disk) parsed

private theorem settings_run :
    (options.settings (Host.ofDisk env input)).run disk = (settingsOn env options disk, disk) := by
  have answer : ((Host.ofDisk env input).has options.settingsPath).run disk =
    (disk.has options.settingsPath, disk) := rfl
  have read := read_settings_run env input disk options.settingsPath
  unfold GenerateOptions.settings settingsOn
  rw [run_step, answer]
  dsimp only
  cases disk.has options.settingsPath with
  | false => rfl
  | true =>
    simp only [if_true]
    rw [run_step, read]
    rfl

private theorem modify_get_run (change : σ → α × σ) (state : σ) :
    (modifyGet change : StateM σ α).run state = change state := rfl

private theorem save_run (path text : String) :
    ((Host.ofDisk env input).save path text).run disk = disk.saveText path text := by
  rw [Host.ofDisk]
  exact modify_get_run (fun held : Disk => held.saveText path text) disk

private theorem files_run :
    (options.files (Host.ofDisk env input)).run disk = (filesOn input options disk, disk) := by
  unfold GenerateOptions.files filesOn
  cases options.inputPath? <;> rfl

end

/-! ## Files written one after the other -/

section
variable (settings : Settings) (files : List SourceFile)

/-- What the disk answers to the module of a file of the run, and the disk behind it. -/
def writeFile (disk : Disk) (file : SourceFile) : Except SystemError Unit × Disk :=
  disk.saveText (storedAt settings file) (moduleOf settings files file).contents

/-- The given files with the answers of the disk, when they are written in order. -/
def attempts : Disk → List SourceFile → List (SourceFile × Except SystemError Unit)
  | _, [] => []
  | disk, file :: rest =>
    (file, (writeFile settings files disk file).1) :: attempts (writeFile settings files disk file).2 rest

/-- The files that are written. -/
def written (disk : Disk) (todo : List SourceFile) : List SourceFile :=
  ((attempts settings files disk todo).filter fun attempt => attempt.2.isOk).map (·.1)

/-- The files that cannot be written. -/
def unwritten (disk : Disk) (todo : List SourceFile) : List SourceFile :=
  ((attempts settings files disk todo).filter fun attempt => !attempt.2.isOk).map (·.1)

/-- The disk behind the last of them. -/
def diskAfter (disk : Disk) (todo : List SourceFile) : Disk :=
  todo.foldl (fun disk file => (writeFile settings files disk file).2) disk

/-- The last of the files whose path leads to a place. -/
def lastAt (here : Place) (files : List SourceFile) (place : Place) : Option SourceFile :=
  files.reverse.find? fun file => decide (placeOf here (storedAt settings file) = place)

private theorem last_at_cons (here : Place) (file : SourceFile) (rest : List SourceFile) (place : Place) :
    lastAt settings here (file :: rest) place =
      (lastAt settings here rest place).or
        (if placeOf here (storedAt settings file) = place then some file else none) := by
  rw [lastAt, lastAt, List.reverse_cons, List.find?_append, List.find?_singleton]
  simp only [decide_eq_true_eq]

private theorem disk_after_cons (disk : Disk) (file : SourceFile) (rest : List SourceFile) :
    diskAfter settings files disk (file :: rest) =
      diskAfter settings files (writeFile settings files disk file).2 rest :=
  List.foldl_cons ..

private theorem written_cons (disk : Disk) (file : SourceFile) (rest : List SourceFile) :
    written settings files disk (file :: rest) =
      (if (writeFile settings files disk file).1.isOk then [file] else []) ++
        written settings files (writeFile settings files disk file).2 rest := by
  rw [written, attempts, List.filter_cons]
  split <;> rfl

private theorem unwritten_cons (disk : Disk) (file : SourceFile) (rest : List SourceFile) :
    unwritten settings files disk (file :: rest) =
      (if (writeFile settings files disk file).1.isOk then [] else [file]) ++
        unwritten settings files (writeFile settings files disk file).2 rest := by
  rw [unwritten, attempts, List.filter_cons]
  cases (writeFile settings files disk file).1.isOk <;> rfl

/-- Storing the modules of files writes the files in order, and reports which were written
and which were not. -/
theorem store_on_disk (env : Environment) (input : ByteArray) (todo : List SourceFile) (disk : Disk) :
    (Bundle.storeModules (Host.ofDisk env input).save (todo.map (moduleOf settings files))).run disk =
      (((written settings files disk todo).map (storedAt settings),
        (unwritten settings files disk todo).map (storedAt settings)),
        diskAfter settings files disk todo) := by
  induction todo generalizing disk with
  | nil => rfl
  | cons file rest ih =>
    have path := module_path settings files file
    have saved : ((Host.ofDisk env input).save (storedAt settings file)
        (moduleOf settings files file).contents).run disk = writeFile settings files disk file :=
      save_run env input disk _ _
    rw [List.map_cons, Bundle.storeModules, path, run_step, saved, run_step, ih,
      written_cons, unwritten_cons, disk_after_cons]
    generalize writeFile settings files disk file = answer
    obtain ⟨result, after⟩ := answer
    cases result <;> rfl

/-- What a disk has behind the files: at each place the module of the last file that was
written there, and else what it had before. -/
theorem file_after (todo : List SourceFile) (grounded : Grounded disk) (place : Place) :
    fileAt (diskAfter settings files disk todo) place =
      ((lastAt settings disk.here (written settings files disk todo) place).map
        fun file => (moduleOf settings files file).contents.toUTF8).or (fileAt disk place) := by
  induction todo generalizing disk with
  | nil => rfl
  | cons file rest ih =>
    rw [disk_after_cons, written_cons]
    cases answer : writeFile settings files disk file with
    | mk result after =>
      rw [writeFile, Disk.saveText] at answer
      cases result with
      | error error =>
        have kept := save_kept grounded answer
        have later := ih kept.grounded
        rw [kept.here, kept.files] at later
        exact later
      | ok done =>
        have put := save_written grounded answer
        have later := ih put.grounded
        rw [put.here, put.files] at later
        have first : (if (Except.ok done : Except SystemError Unit).isOk = true then [file] else []) =
          [file] := rfl
        rw [later, first, List.singleton_append, last_at_cons]
        cases lastAt settings disk.here (written settings files after rest) place with
        | some last => rfl
        | none =>
          by_cases same : placeOf disk.here (storedAt settings file) = place
          · simp [same]
          · simp [same, Ne.symm same]

end

/-! ## Runs -/

section
variable (env : Environment) (input : ByteArray) (options : GenerateOptions) (disk : Disk)

/-- What a run that writes has to leave. It ends with zero exactly when every file could be
written, and names the paths of those that could not. At each place there is the module of
the last file that was written there, and else what was there before. -/
structure Stored (settings : Settings) (files : List SourceFile) (outcome : Outcome) (after : Disk) :
    Prop where
  code : outcome.code = 0 ↔ unwritten settings files disk files = []
  failed : outcome.unwritten = (unwritten settings files disk files).map (storedAt settings)
  files : Grounded disk → ∀ place, fileAt after place =
    ((lastAt settings disk.here (written settings files disk files) place).map
      fun file => (moduleOf settings files file).contents.toUTF8).or (fileAt disk place)

/-- What a run of `generate` has to leave: the disk as it was if settings or description
cannot be used or the run is dry, and else what it could write. -/
structure Effects (outcome : Outcome) (after : Disk) : Prop where
  badSettings : ∀ fault, settingsOn env options disk = .error fault → outcome.code = 1 ∧ after = disk
  badFiles : ∀ failure, filesOn input options disk = .error failure → outcome.code = 1 ∧ after = disk
  dry : options.dryRun = true → after = disk
  dryCode : ∀ settings files, settingsOn env options disk = .ok settings →
    filesOn input options disk = .ok files → options.dryRun = true → outcome.code = 0
  stored : ∀ settings files, settingsOn env options disk = .ok settings →
    filesOn input options disk = .ok files → options.dryRun = false →
    Stored disk settings files outcome after

/-- The report of a run, and the disk that it leaves. -/
theorem stored_run (settings : Settings) (files : List SourceFile) :
    (options.store (Host.ofDisk env input) (Bundle.ofFiles settings files)).run disk =
      if options.dryRun then
        ({ written := files.map (storedAt settings)
           aggregate := (Bundle.ofFiles settings files).aggregate }, disk)
      else
        ({ written := (written settings files disk files).map (storedAt settings)
           failed := (unwritten settings files disk files).map (storedAt settings)
           aggregate := (Bundle.ofFiles settings files).aggregate }, diskAfter settings files disk files) := by
  have modules : (Bundle.ofFiles settings files).modules = files.map (moduleOf settings files) := rfl
  unfold GenerateOptions.store
  cases options.dryRun with
  | true =>
    have paths : (files.map (moduleOf settings files)).map (·.path) = files.map (storedAt settings) := by
      rw [List.map_map]
      exact List.map_congr_left fun file _ => module_path settings files file
    have none : (files.map (moduleOf settings files)).filter (fun module => module.path ∈ []) = [] := by
      simp
    have all : (files.map (moduleOf settings files)).filter (fun module => module.path ∉ []) =
        files.map (moduleOf settings files) := by
      simp
    simp only [if_true]
    rw [store_run, modules, none, all, paths]
    rfl
  | false =>
    simp only [Bool.false_eq_true, if_false]
    rw [Bundle.store, run_step, modules, store_on_disk]
    rfl

private theorem generate_run :
    (generate (Host.ofDisk env input) options).run disk =
      match settingsOn env options disk, filesOn input options disk with
      | .error fault, _ => (.failed (.settings fault), disk)
      | .ok _, .error failure => (.failed failure, disk)
      | .ok settings, .ok files =>
        let stored := (options.store (Host.ofDisk env input) (Bundle.ofFiles settings files)).run disk
        (generated options settings files stored.1, stored.2) := by
  rw [generate, run_step, settings_run]
  dsimp only
  cases settingsOn env options disk with
  | error fault => rfl
  | ok settings =>
    dsimp only
    rw [run_step, files_run]
    dsimp only
    cases filesOn input options disk with
    | error failure => rfl
    | ok files => rfl

private theorem generated_code (settings : Settings) (files : List SourceFile) (report : Report) :
    (generated options settings files report).code = 0 ↔ report.failed = [] := by
  cases failed : report.failed <;> simp [generated, Report.isSuccess, failed]

private theorem generated_unwritten (settings : Settings) (files : List SourceFile) (report : Report) :
    (generated options settings files report).unwritten = report.failed := by
  cases failed : report.failed <;> simp [generated, Report.isSuccess, failed]

private theorem generated_print (print : options.print = true) (settings : Settings)
    (files : List SourceFile) (report : Report) :
    (generated options settings files report).output = report.aggregate := by
  cases failed : report.failed <;> simp [generated, Report.isSuccess, failed, print]

private theorem generate_effects :
    Effects env input options disk ((generate (Host.ofDisk env input) options).run disk).1
      ((generate (Host.ofDisk env input) options).run disk).2 where
  badSettings fault found := by
    rw [generate_run, found]
    exact ⟨rfl, rfl⟩
  badFiles failure found := by
    rw [generate_run, found]
    cases settingsOn env options disk <;> exact ⟨rfl, rfl⟩
  dry dry := by
    rw [generate_run]
    cases settingsOn env options disk with
    | error fault => rfl
    | ok settings =>
      cases filesOn input options disk with
      | error failure => rfl
      | ok files =>
        dsimp only
        rw [stored_run, dry, if_pos rfl]
  dryCode settings files set read dry := by
    rw [generate_run, set, read]
    dsimp only
    rw [stored_run, dry, if_pos rfl]
    rfl
  stored settings files set read wet := by
    rw [generate_run, set, read]
    dsimp only
    rw [stored_run, wet]
    refine ⟨?_, ?_, file_after settings files files⟩
    · rw [generated_code]
      exact List.map_eq_nil_iff
    · rw [generated_unwritten]
      rfl

/-- What a run prints when it prints the declarations. -/
def printed : String :=
  match settingsOn env options disk, filesOn input options disk with
  | .ok settings, .ok files => (Bundle.ofFiles settings files).aggregate
  | _, _ => ""

private theorem generate_printed (print : options.print = true) :
    ((generate (Host.ofDisk env input) options).run disk).1.output = printed env input options disk := by
  rw [generate_run, printed]
  cases settingsOn env options disk with
  | error fault => rfl
  | ok settings =>
    cases filesOn input options disk with
    | error failure => rfl
    | ok files =>
      dsimp only
      rw [generated_print options print, stored_run]
      cases options.dryRun <;> rfl

private theorem init_refused (options : InitOptions) (kept : options.force = false)
    (there : disk.has options.settingsPath = true) :
    (init (Host.ofDisk env input) options).run disk =
      (.failed (.settingsThere options.settingsPath), disk) := by
  have answer : ((Host.ofDisk env input).has options.settingsPath).run disk =
    (disk.has options.settingsPath, disk) := rfl
  rw [init, run_step, answer, there, kept]
  rfl

end

/-- The commands change the disk only where they write. A run of `generate` that fails
before it writes changes nothing, and neither does a dry run; any other run leaves the
modules of its files where they could be written, and ends with zero exactly when all could.
What it prints of the declarations does not depend on its being dry. And `init` does not
touch settings that are there unless it is forced to. -/
theorem disk_changed_by_writes_only (env : Environment) (input : ByteArray) (disk : Disk) :
    (∀ arguments options, Request.ofArguments? arguments = some (.generate options) →
      Effects env input options disk (runOnDisk env input arguments disk).1
        (runOnDisk env input arguments disk).2) ∧
    (∀ arguments others options dryRun,
      Request.ofArguments? arguments = some (.generate options) → options.print = true →
      Request.ofArguments? others = some (.generate { options with dryRun }) →
      (runOnDisk env input arguments disk).1.output = (runOnDisk env input others disk).1.output) ∧
    (∀ arguments options, Request.ofArguments? arguments = some (.init options) →
      options.force = false → disk.has options.settingsPath = true →
      (runOnDisk env input arguments disk).1.code = 1 ∧ (runOnDisk env input arguments disk).2 = disk) := by
  refine ⟨?_, ?_, ?_⟩
  · intro arguments options accepted
    rw [runOnDisk, run, accepted]
    exact generate_effects env input options disk
  · intro arguments others options dryRun accepted print alike
    rw [runOnDisk, run, accepted, runOnDisk, run, alike]
    rw [generate_printed env input options disk print,
      generate_printed env input { options with dryRun } disk print]
    rfl
  · intro arguments options accepted kept there
    rw [runOnDisk, run, accepted]
    dsimp only
    rw [init_refused env input disk options kept there]
    exact ⟨rfl, rfl⟩

/-- A description of three files, two of which are stored at one path. -/
def shapesText : String :=
  "[[\"/src/shape.cs\",null,[[\"Shape\"]]],[\"/src/shape.vb\",null,[[\"Figure\"]]]," ++
    "[\"/src/color.cs\",null,null,[[\"Color\"]]]]"

/-- A disk with a directory where the third of them is to go. -/
def blockedDisk : Disk where
  top := .directory [("work", .directory [("keep.txt", .file "kept".toUTF8),
    ("generated", .directory [("color.ts", .directory [])])])]
  here := ["work"]

/-- What is asked for by a root alone. -/
def rootOptions : GenerateOptions := { settingsPath := "dtsgen.toml", root := some "/src/" }

/-- A run in which the third file cannot be written, the same run dry, and `init` at a path
that is taken. -/
theorem disk_changed_by_writes_only_shapes :
    Grounded blockedDisk ∧
    (∃ outcome after, runOnDisk (fun _ => none) shapesText.toUTF8 ["generate", "--root", "/src/"]
        blockedDisk = (outcome, after) ∧
      outcome.code ≠ 0 ∧ outcome.unwritten = ["generated/color.ts"] ∧
      fileAt after ["work", "generated", "shape.ts"] =
        some (moduleOf plainSettings [firstShape, secondShape, colorFile] secondShape).contents.toUTF8 ∧
      fileAt after ["work", "keep.txt"] = some "kept".toUTF8) ∧
    (runOnDisk (fun _ => none) shapesText.toUTF8 ["generate", "--root", "/src/", "--dry-run"]
      blockedDisk).2 = blockedDisk ∧
    (runOnDisk (fun _ => none) shapesText.toUTF8 ["generate", "--root", "/src/", "--print"]
        blockedDisk).1.output =
      (runOnDisk (fun _ => none) shapesText.toUTF8 ["generate", "--dry-run", "--print", "--root=/src/"]
        blockedDisk).1.output ∧
    (runOnDisk (fun _ => none) shapesText.toUTF8 ["init", "-c", "./keep.txt"] blockedDisk).1.code = 1 := by
  obtain ⟨effects, prints, inits⟩ :=
    disk_changed_by_writes_only (fun _ => none) shapesText.toUTF8 blockedDisk
  have grounded : Grounded blockedDisk := rfl
  have set : settingsOn (fun _ => none) rootOptions blockedDisk = .ok plainSettings :=
    RecordReading.eq_ok_of_to_option (by decide +kernel)
  have read : filesOn shapesText.toUTF8 rootOptions blockedDisk =
      .ok [firstShape, secondShape, colorFile] :=
    RecordReading.eq_ok_of_to_option (by decide +kernel)
  have failed : unwritten plainSettings [firstShape, secondShape, colorFile] blockedDisk
    [firstShape, secondShape, colorFile] = [colorFile] := by decide +kernel
  have stored : written plainSettings [firstShape, secondShape, colorFile] blockedDisk
    [firstShape, secondShape, colorFile] = [firstShape, secondShape] := by decide +kernel
  have shape : lastAt plainSettings blockedDisk.here [firstShape, secondShape]
    ["work", "generated", "shape.ts"] = some secondShape := by decide +kernel
  have other : lastAt plainSettings blockedDisk.here [firstShape, secondShape]
    ["work", "keep.txt"] = none := by decide +kernel
  have run := effects ["generate", "--root", "/src/"] rootOptions (by decide +kernel)
  have wrote := run.stored plainSettings _ set read rfl
  have dry := effects ["generate", "--root", "/src/", "--dry-run"] { rootOptions with dryRun := true }
    (by decide +kernel)
  refine ⟨grounded, ⟨_, _, (Prod.eta _).symm, ?_, ?_, ?_, ?_⟩, dry.dry rfl, ?_, ?_⟩
  · rw [ne_eq, wrote.code, failed]
    simp
  · rw [wrote.failed, failed]
    decide +kernel
  · rw [wrote.files grounded, stored, shape, Option.map_some, Option.some_or]
  · rw [wrote.files grounded, stored, other, Option.map_none, Option.none_or]
    rfl
  · exact prints _ _ { rootOptions with print := true } true (by decide +kernel) rfl (by decide +kernel)
  · exact (inits _ { settingsPath := "./keep.txt" } (by decide +kernel) rfl (by decide +kernel)).1

end TypeStubs.CommandEffects

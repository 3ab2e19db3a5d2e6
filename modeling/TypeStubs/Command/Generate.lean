import TypeStubs.Command.Arguments
import TypeStubs.Command.Host
import TypeStubs.Command.Outcome
import TypeStubs.Output.Report
import TypeStubs.Source.Load

/-! The command that emits modules: settings, then the description, then the modules.
Nothing is written unless settings and description can be used. -/
namespace TypeStubs.Command

variable {m : Type → Type} [Monad m]

/-- The variables that a text refers to, with their values. -/
def environmentFor (host : Host m) (text : String) : m Environment := do
  let names := Environment.references text.toList
  let values ← names.mapM fun name => do
    let name := String.ofList name
    return (name, ← host.lookup name)
  return fun name => (values.lookup name).join

/-- Reads the settings in a file. -/
def readSettings (host : Host m) (path : String) : m (Except SettingsFault Settings) := do
  match ← host.read path with
  | .error error => return .error (.unreadable error.message)
  | .ok bytes =>
    match Utf8.text? bytes with
    | none => return .error (.unreadable SystemError.notText.message)
    | some text => return Settings.parse (← environmentFor host text) text

namespace GenerateOptions

/-- Settings with what the options say in their place. -/
def override (options : GenerateOptions) (settings : Settings) : Settings :=
  { settings with
    output := options.output.getD settings.output
    root := options.root.getD settings.root
    nameSpace := options.nameSpace.or settings.nameSpace }

/-- The settings of the run: those of the file, if there is one, with what the options
say in their place. -/
def settings (host : Host m) (options : GenerateOptions) : m (Except SettingsFault Settings) := do
  let found ← if ← host.has options.settingsPath then readSettings host options.settingsPath
    else pure (.ok {})
  return do
    let settings := options.override (← found)
    settings.validate
    return settings

/-- The path of the description, if it is in a file. -/
def inputPath? (options : GenerateOptions) : Option String := options.input.filter (· != "-")

/-- The description of the run. -/
def files (host : Host m) (options : GenerateOptions) : m (Except Failure (List SourceFile)) := do
  match options.inputPath? with
  | some path => return (Source.load (← host.read path)).mapError fun _ => .badFile path
  | none => return (Source.ofBytes (← host.input)).mapError fun _ => .badInput

/-- Stores the modules, or only tells what would be stored. -/
def store (host : Host m) (options : GenerateOptions) (bundle : Bundle) : m Report :=
  if options.dryRun then pure ((bundle.storeInMemory []).run {}).1
  else bundle.store host.save

end GenerateOptions

/-- What is printed about a run. -/
def summary (options : GenerateOptions) (settings : Settings) (files : List SourceFile)
    (written : Nat) : String :=
  let models := (files.flatMap (·.models)).length
  let enums := (files.flatMap (·.enums)).length
  let controllers := (files.flatMap (·.controllers)).length
  "\n  ✓ Generated " ++ toString models ++ " models, " ++ toString enums ++ " enums and " ++
    toString controllers ++ " controllers\n" ++
    (if options.dryRun then
      "  ℹ Dry run, " ++ toString files.length ++ " files rendered and not written\n"
    else "  📁 " ++ toString written ++ " files written to " ++ settings.output ++ "\n") ++ "\n"

/-- How a run ends whose modules have been stored. -/
def generated (options : GenerateOptions) (settings : Settings) (files : List SourceFile)
    (report : Report) : Outcome :=
  let output :=
    if options.print then report.aggregate
    else summary options settings files report.written.length
  if report.isSuccess then { output }
  else
    { code := 1
      output
      unwritten := report.failed
      failure := some (.unwritten report.failed.length) }

/-- Emits the modules. -/
def generate (host : Host m) (options : GenerateOptions) : m Outcome := do
  match ← options.settings host with
  | .error fault => return .failed (.settings fault)
  | .ok settings =>
    match ← options.files host with
    | .error failure => return .failed failure
    | .ok files =>
      let report ← options.store host (Bundle.ofFiles settings files)
      return generated options settings files report

end TypeStubs.Command

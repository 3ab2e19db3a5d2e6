import TypeStubs.Command.Generate
import TypeStubs.Command.Init

/-! The command line as a whole. -/
namespace TypeStubs.Command

/-- What is printed for the version. -/
def versionText : String := "dtsgen 0.1.0\n"

/-- What is printed for help. -/
def helpText : String :=
  "Usage: dtsgen generate [-c FILE] [-i FILE] [-o DIR] [--root PATH] [--namespace NAME] " ++
    "[--dry-run] [--print] [-v]\n       dtsgen init [-c FILE] [--force]\n"

/-- Runs what the arguments ask for. -/
def run [Monad m] (host : Host m) (arguments : List String) : m Outcome :=
  match Request.ofArguments? arguments with
  | none => pure .misuse
  | some .version => pure { output := versionText }
  | some .help => pure { output := helpText }
  | some (.generate options) => generate host options
  | some (.init options) => init host options

/-- Runs the command line on a disk. -/
def runOnDisk (env : Environment) (input : ByteArray) (arguments : List String) (disk : Disk) :
    Outcome × Disk :=
  (run (Host.ofDisk env input) arguments).run disk

end TypeStubs.Command

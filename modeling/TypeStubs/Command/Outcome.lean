import TypeStubs.Settings.Basic
import TypeStubs.Storage.SystemError

/-! How a command ends. -/
namespace TypeStubs.Command

/-- Why a command fails. -/
inductive Failure where
  | settings (fault : SettingsFault)
  /-- The description at a path cannot be loaded. -/
  | badFile (path : String)
  /-- The description from standard input cannot be read. -/
  | badInput
  | unwritten (count : Nat)
  /-- There is a file already where the settings are to go. -/
  | settingsThere (path : String)
  | system (error : SystemError)
  deriving DecidableEq, Repr

/-- The text of a fault in settings as it is reported. -/
def settingsMessage (fault : SettingsFault) : String := "Configuration error: " ++ fault.message

namespace Failure

/-- The text of a failure. -/
def message : Failure → String
  | .settings fault => settingsMessage fault
  | .badFile path => "Failed to load IR from " ++ path
  | .badInput => "Failed to read IR from stdin"
  | .unwritten count => toString count ++ " file(s) could not be written"
  | .settingsThere path =>
    "Config file already exists: " ++ path ++ " (use --force to overwrite)"
  | .system error => error.message

end Failure

/-- How a command ends: its exit code, what it prints, the paths it could not write to
and why it failed, if it did. -/
structure Outcome where
  code : Nat := 0
  output : String := ""
  unwritten : List String := []
  failure : Option Failure := none
  deriving DecidableEq, Repr, Inhabited

namespace Outcome

/-- The command line is wrong. -/
def misuse : Outcome := { code := 2 }

/-- The command fails and prints nothing. -/
def failed (failure : Failure) : Outcome := { code := 1, failure := some failure }

end Outcome

end TypeStubs.Command

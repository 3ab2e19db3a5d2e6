import TypeStubs.Settings.Environment
import TypeStubs.Storage.Disk

/-! What a command needs from the system it runs on, and a system that is a value. -/
namespace TypeStubs.Command

/-- The system that a command runs on. -/
structure Host (m : Type → Type) where
  /-- Whether there is something at a path. -/
  has : String → m Bool
  read : String → m (Except SystemError ByteArray)
  /-- Writes a text, and makes the directories on the way. -/
  save : String → String → m (Except SystemError Unit)
  /-- The value of an environment variable. -/
  lookup : String → m (Option String)
  /-- All of standard input. -/
  input : m ByteArray

/-- A disk as a host, with an environment and a standard input. -/
def Host.ofDisk (env : Environment) (input : ByteArray) : Host (StateM Disk) where
  has path := do return (← get).has path
  read path := do return (← get).read path
  save path text := modifyGet fun disk => disk.saveText path text
  lookup name := pure (env name)
  input := pure input

end TypeStubs.Command

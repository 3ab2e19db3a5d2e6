import TypeStubs.Command.Run

/-! The program: the command line on the system it runs on. -/
namespace TypeStubs.Main

/-- A refusal of the system, told apart by its kind. -/
def systemError : IO.Error → SystemError
  | .noFileOrDirectory .. => .notFound
  | .alreadyExists .. => .alreadyThere
  | .inappropriateType .. => .notDirectory
  | error => .other (toString error)

/-- Does something and keeps a refusal of the system. -/
def attempt (action : IO α) : IO (Except SystemError α) := do
  try
    return .ok (← action)
  catch error => return .error (systemError error)

/-- All bytes of a stream, behind those already read. -/
partial def readAll (stream : IO.FS.Stream) (bytes : ByteArray) : IO ByteArray := do
  let more ← stream.read 65536
  if more.isEmpty then return bytes else readAll stream (bytes ++ more)

/-- Writes a text at a path, and makes the directories on the way. -/
def saveText (path text : String) : IO Unit := do
  if let some parent := ((← IO.currentDir) / path).parent then
    IO.FS.createDirAll parent
  IO.FS.writeFile path text

/-- The system as a host. -/
def host : Command.Host IO where
  has path := do ((← IO.currentDir) / path).pathExists
  read path := attempt (IO.FS.readBinFile path)
  save path text := attempt (saveText path text)
  lookup name := IO.getEnv name
  input := do readAll (← IO.getStdin) ByteArray.empty

end TypeStubs.Main

/-- Runs the command line, prints what it gives and exits with its code. -/
def main (arguments : List String) : IO UInt32 := do
  let outcome ← TypeStubs.Command.run TypeStubs.Main.host arguments
  IO.print outcome.output
  for path in outcome.unwritten do
    IO.eprintln ("  ✗ " ++ path)
  if let some failure := outcome.failure then
    IO.eprintln ("Error: " ++ failure.message)
  return UInt32.ofNat outcome.code

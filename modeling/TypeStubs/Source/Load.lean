import TypeStubs.Source.Json
import TypeStubs.Storage.SystemError
import TypeStubs.Text.Utf8

/-! Descriptions read from bytes that the system gives. -/
namespace TypeStubs

/-- Why a description cannot be loaded. -/
inductive LoadFault where
  /-- The bytes cannot be had. -/
  | unreadable (error : SystemError)
  /-- The bytes are no description. -/
  | document (fault : Json.Fault)
  deriving DecidableEq, Repr

namespace Source

/-- Reads a description from bytes. -/
def ofBytes (bytes : ByteArray) : Except LoadFault (List SourceFile) :=
  (ofDocument (Json.Reader.read (Utf8.decode bytes.toList) .complete)).mapError .document

/-- Reads a description from bytes behind which reading breaks off. The break shows only
if it comes before any other fault. -/
def ofBrokenBytes (bytes : ByteArray) (error : SystemError) : Except LoadFault (List SourceFile) :=
  match ofDocument (Json.Reader.read (Utf8.decode bytes.toList) .interrupted) with
  | .ok files => .ok files
  | .error (.flaw .ended) => .error (.unreadable error)
  | .error fault => .error (.document fault)

/-- Reads a description from what the system answers. -/
def load (answer : Except SystemError ByteArray) : Except LoadFault (List SourceFile) :=
  match answer with
  | .ok bytes => ofBytes bytes
  | .error error => .error (.unreadable error)

end Source

end TypeStubs

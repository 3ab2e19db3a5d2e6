import TypeStubs.Storage.Path

/-! Files kept in memory, in the order of their paths. Paths with the same components
are the same key. -/
namespace TypeStubs

/-- Paths with the texts of their files, in order. -/
structure Memory where
  files : List (String × String) := []
  deriving DecidableEq, Repr, Inhabited

namespace Memory

/-- Puts a text under a path into files in order. A path that is there keeps its
spelling. -/
def putFile (path text : String) : List (String × String) → List (String × String)
  | [] => [(path, text)]
  | (head, old) :: rest =>
    match Path.compare path head with
    | .lt => (path, text) :: (head, old) :: rest
    | .eq => (head, text) :: rest
    | .gt => (head, old) :: putFile path text rest

/-- Puts a text under a path. -/
def put (path text : String) (memory : Memory) : Memory := ⟨putFile path text memory.files⟩

/-- The text under a path. -/
def get? (memory : Memory) (path : String) : Option String :=
  (memory.files.find? fun file => Path.compare path file.1 == .eq).map (·.2)

/-- The number of files. -/
def size (memory : Memory) : Nat := memory.files.length

/-- Whether there are no files. -/
def isEmpty (memory : Memory) : Bool := memory.files.isEmpty

end Memory

end TypeStubs

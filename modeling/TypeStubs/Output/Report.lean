import TypeStubs.Output.Module
import TypeStubs.Storage.Memory

/-! Storing the modules of a run. A module that cannot be stored does not keep the
others from being stored. -/
namespace TypeStubs

/-- What became of the modules of a run, in their order. -/
structure Report where
  written : List String := []
  failed : List String := []
  aggregate : String
  deriving DecidableEq, Repr, Inhabited

namespace Report

/-- Whether every module was stored. -/
def isSuccess (report : Report) : Bool := report.failed.isEmpty

end Report

namespace Bundle

/-- Stores modules one after the other, and gives the paths of those that were stored
and of those that were not. -/
def storeModules [Monad m] (write : String → String → m (Except ε Unit)) :
    List Module → m (List String × List String)
  | [] => pure ([], [])
  | module :: rest => do
    let result ← write module.path module.contents
    let (written, failed) ← storeModules write rest
    match result with
    | .ok _ => pure (module.path :: written, failed)
    | .error _ => pure (written, module.path :: failed)

/-- Stores all modules of a run. -/
def store [Monad m] (write : String → String → m (Except ε Unit)) (bundle : Bundle) : m Report := do
  let (written, failed) ← storeModules write bundle.modules
  pure { written, failed, aggregate := bundle.aggregate }

/-- Writes to a memory that refuses some paths. -/
def writeToMemory (refused : List String) (path text : String) : StateM Memory (Except Unit Unit) :=
  if refused.contains path then pure (.error ())
  else do
    modify (·.put path text)
    pure (.ok ())

/-- Stores all modules of a run in a memory that refuses some paths. -/
def storeInMemory (refused : List String) (bundle : Bundle) : StateM Memory Report :=
  bundle.store (writeToMemory refused)

end Bundle

end TypeStubs

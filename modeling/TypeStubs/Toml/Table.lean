import TypeStubs.Keyed
import TypeStubs.Toml.Scalar

/-! The tables of a TOML document while it is read. How a table came to be decides what
may still be done to it: a table with a header of its own is not opened by a second
header or by a dotted key, and a table made by dotted keys is not opened by a header. -/
namespace TypeStubs.Toml

/-- How a table came to be. -/
inductive Origin where
  /-- It has a header of its own, or is the table of the whole document. -/
  | header
  /-- It stands on the way to the table of some header. -/
  | passing
  /-- It stands on the way to the value of a dotted key. -/
  | dotted
  deriving DecidableEq, Repr

/-- An entry of a table that is being read. -/
inductive Item where
  | value (value : Value)
  | table (origin : Origin) (entries : List (String × Item))
  /-- The tables of an array, the last one first. -/
  | tables (latest : List (String × Item)) (earlier : List (List (String × Item)))
  deriving Inhabited

/-- The entries of a table. -/
abbrev Entries := List (String × Item)

namespace Entries

/-- Changes the table at a path. Tables on the way that are missing are made with the
given origin, and those that are there must be allowed; an array of tables stands for
its last one. -/
def update (made : Origin) (allowed : Origin → Bool) :
    List String → (Origin → Entries → Option Entries) → Origin → Entries → Option Entries
  | [], change, origin, entries => change origin entries
  | key :: path, change, _, entries =>
    match entries.lookup key with
    | none => do
      let inner ← update made allowed path change made []
      some (Keyed.put key (.table made inner) entries)
    | some (.value _) => none
    | some (.table origin inner) =>
      if allowed origin then do
        let inner ← update made allowed path change origin inner
        some (Keyed.put key (.table origin inner) entries)
      else none
    | some (.tables latest earlier) => do
      let latest ← update made allowed path change .header latest
      some (Keyed.put key (.tables latest earlier) entries)

/-- Enters a value under a dotted key, which neither may be taken nor may go through
tables that have headers. -/
def insert (path : List String) (key : String) (value : Value) (entries : Entries) :
    Option Entries :=
  update .dotted (· != .header) path
    (fun origin inner =>
      if (!path.isEmpty && origin != .dotted) || (inner.lookup key).isSome then none
      else some (Keyed.put key (.value value) inner))
    .header entries

/-- Opens the table of a header. -/
def openTable (path : List String) (key : String) (root : Entries) : Option Entries :=
  update .passing (fun _ => true) path
    (fun _ entries =>
      match entries.lookup key with
      | none => some (Keyed.put key (.table .header []) entries)
      | some (.table .passing inner) => some (Keyed.put key (.table .header inner) entries)
      | some _ => none)
    .header root

/-- Opens one more table of an array of tables. -/
def openArray (path : List String) (key : String) (root : Entries) : Option Entries :=
  update .passing (fun _ => true) path
    (fun _ entries =>
      match entries.lookup key with
      | none => some (Keyed.put key (.tables [] []) entries)
      | some (.tables latest earlier) =>
        some (Keyed.put key (.tables [] (latest :: earlier)) entries)
      | some _ => none)
    .header root

mutual

/-- The value of an entry that will not change any more. -/
def freezeItem : Item → Value
  | .value value => value
  | .table _ entries => .table (freeze entries)
  | .tables latest earlier => .array (freezeAll earlier [.table (freeze latest)])

/-- The values of entries that will not change any more. -/
def freeze : List (String × Item) → List (String × Value)
  | [] => []
  | (key, item) :: rest => (key, freezeItem item) :: freeze rest

/-- The tables of an array in their order, before those in `behind`. -/
def freezeAll : List (List (String × Item)) → List Value → List Value
  | [], behind => behind
  | entries :: earlier, behind => freezeAll earlier (.table (freeze entries) :: behind)

end

end Entries

end TypeStubs.Toml

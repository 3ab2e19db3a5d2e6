/-! Lists of keyed values. A key stands in such a list once, at the place where it
was first put, with the value it was given last. -/
namespace TypeStubs.Keyed

variable {κ : Type u} {ν : Type v} [BEq κ]

/-- Gives the key a value: at its old place if it has one, at the end otherwise. -/
def put (key : κ) (value : ν) : List (κ × ν) → List (κ × ν)
  | [] => [(key, value)]
  | entry :: rest =>
    if entry.1 == key then (entry.1, value) :: rest else entry :: put key value rest

/-- Puts the entries in order, so that of two values for one key the later stays. -/
def putAll (entries : List (κ × ν)) (start : List (κ × ν)) : List (κ × ν) :=
  entries.foldl (fun table entry => put entry.1 entry.2 table) start

/-- The entries with each repeated key at its first place with its last value. -/
def ofList (entries : List (κ × ν)) : List (κ × ν) := putAll entries []

end TypeStubs.Keyed

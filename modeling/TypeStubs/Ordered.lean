/-! Sets of texts, and maps with texts as keys, as lists in the order of code points.
An element or key stands in such a list once. -/
namespace TypeStubs.Ordered

/-- Adds a text to a set. -/
def insert (text : String) : List String → List String
  | [] => [text]
  | head :: rest =>
    if text < head then text :: head :: rest
    else if text == head then head :: rest
    else head :: insert text rest

/-- Changes the value of a key, or gives the key the value that nothing is changed to. -/
def alter (key : String) (change : Option α → α) : List (String × α) → List (String × α)
  | [] => [(key, change none)]
  | (head, value) :: rest =>
    if key < head then (key, change none) :: (head, value) :: rest
    else if key == head then (head, change (some value)) :: rest
    else (head, value) :: alter key change rest

/-- Gives a key a value. -/
def put (key : String) (value : α) (map : List (String × α)) : List (String × α) :=
  alter key (fun _ => value) map

/-- The map with the given entries; of two values for one key the later stays. -/
def mapOfList (entries : List (String × α)) : List (String × α) :=
  entries.foldl (fun map entry => put entry.1 entry.2 map) []

end TypeStubs.Ordered

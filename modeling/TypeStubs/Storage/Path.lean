import TypeStubs.Text.Pieces

/-! Paths of stored files, as texts. Paths are compared by their components, so that
repeated slashes and dots inside a path make no difference. -/
namespace TypeStubs.Path

/-- A path with one more part: a slash is put between them unless one is there or the
path is empty, and an absolute part replaces the path. -/
def push (path part : String) : String :=
  if part.toList.head? == some '/' then part
  else if path.isEmpty || path.toList.getLast? == some '/' then path ++ part
  else path ++ "/" ++ part

/-- One step of a path, in the order in which steps are sorted. -/
inductive Component where
  /-- The slash of an absolute path. -/
  | root
  /-- A dot at the start of a path. -/
  | here
  | parent
  | name (text : String)
  deriving DecidableEq, Repr

/-- The steps that the parts of a path behind its start take: empty parts and dots
take none. -/
def steps (parts : List String) : List Component :=
  parts.filterMap fun part =>
    if part.isEmpty || part == "." then none
    else if part == ".." then some .parent
    else some (.name part)

/-- The components of a path. -/
def components (path : String) : List Component :=
  let parts := Text.splitOn '/' path
  if path.toList.head? == some '/' then .root :: steps parts
  else if parts.head? == some "." then .here :: steps parts
  else steps parts

namespace Component

/-- The place of a component in the order of the kinds. -/
def rank : Component → Nat
  | .root => 0
  | .here => 1
  | .parent => 2
  | .name _ => 3

/-- Orders components: by kind, and names by their characters. -/
def compare : Component → Component → Ordering
  | .name a, .name b => if a < b then .lt else if a == b then .eq else .gt
  | a, b => Ord.compare a.rank b.rank

end Component

/-- Orders lists of components, a list before its extensions. -/
def compareComponents : List Component → List Component → Ordering
  | [], [] => .eq
  | [], _ :: _ => .lt
  | _ :: _, [] => .gt
  | a :: as, b :: bs => (a.compare b).then (compareComponents as bs)

/-- Orders paths by their components. -/
def compare (a b : String) : Ordering := compareComponents (components a) (components b)

/-- The start of a path that is no part of its names, a slash or a dot, and the rest. -/
def cutStart : List Char → List Char × List Char
  | '/' :: rest => (['/'], rest)
  | ['.'] => (['.'], [])
  | '.' :: '/' :: rest => (['.'], '/' :: rest)
  | rest => ([], rest)

/-- Whether a part of a path takes no step. -/
def isIdle (part : List Char) : Bool := part.isEmpty || part == ['.']

/-- The paths made of a start and parts, and of fewer and fewer of the parts, which come
last one first. Only a part that takes a step ends a path, and a lone slash is none. -/
def shorten (start : List Char) : List (List Char) → List String
  | [] => if start == ['.'] then ["."] else []
  | part :: before =>
    if isIdle part then shorten start before
    else
      String.ofList (start ++ ['/'].intercalate (part :: before).reverse) :: shorten start before

/-- The paths of the directories on the way to a path, the nearest first. -/
def directoriesAbove (path : String) : List String :=
  let (start, rest) := cutStart path.toList
  shorten start (((Chars.splitOn '/' rest).reverse.dropWhile isIdle).drop 1)

end TypeStubs.Path

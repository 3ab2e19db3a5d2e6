import TypeStubs.Keyed

/-! Directories and files as a tree of names. -/
namespace TypeStubs

/-- The names on the way to something. -/
abbrev Place := List String

/-- A file, or a directory with what is in it. -/
inductive Tree where
  | file (bytes : ByteArray)
  | directory (entries : List (String × Tree))

namespace Tree

/-- What is in a directory; nothing is in a file. -/
def entries : Tree → List (String × Tree)
  | .file _ => []
  | .directory entries => entries

/-- What has a name in a directory. -/
def child? (tree : Tree) (name : String) : Option Tree := tree.entries.lookup name

/-- What is at a place. -/
def at? (tree : Tree) : Place → Option Tree
  | [] => some tree
  | name :: rest =>
    match tree.child? name with
    | some child => child.at? rest
    | none => none

/-- Puts something at a place, below directories. -/
def put (tree : Tree) (new : Tree) : Place → Tree
  | [] => new
  | name :: rest =>
    .directory (Keyed.put name (((tree.child? name).getD (.directory [])).put new rest) tree.entries)

mutual

/-- The files of a tree, with their places behind the names above, which come last one
first. -/
def filesBelow (above : Place) : Tree → List (Place × ByteArray)
  | .file bytes => [(above.reverse, bytes)]
  | .directory entries => entryFiles above entries

/-- The files of the entries of a directory. -/
def entryFiles (above : Place) : List (String × Tree) → List (Place × ByteArray)
  | [] => []
  | (name, tree) :: rest => filesBelow (name :: above) tree ++ entryFiles above rest

end

/-- The files of a tree with their places. -/
def files (tree : Tree) : List (Place × ByteArray) := filesBelow [] tree

end Tree

end TypeStubs

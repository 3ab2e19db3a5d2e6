import TypeStubs.Toml.Table

/-! TOML documents. A document is a list of lines, each a blank or comment, a header, or a
key with its value; a value may go over several lines inside brackets and long strings. Every
step uses up some of the text, so a count of its characters bounds the number of steps. -/
namespace TypeStubs.Toml

open Scalar

/-- How deep arrays, inline tables and dotted keys may go. -/
def nestingLimit : Nat := 79

/-- The text behind a comment, which ends before the end of its line. -/
def skipComment : List Char → List Char
  | '#' :: s => s.dropWhile isPrintable
  | s => s

/-- The text behind blanks, comments and line ends. -/
def skipLines (fuel : Nat) (s : List Char) : Option (List Char) :=
  match fuel with
  | 0 => none
  | fuel + 1 =>
    match skipSpaces s with
    | '#' :: s => (lineEnd? (skipComment ('#' :: s))).bind (skipLines fuel)
    | '\n' :: s => skipLines fuel s
    | '\r' :: s => (lineEnd? ('\r' :: s)).bind (skipLines fuel)
    | s => some s

/-- The text behind the end of a line that may hold a comment. -/
def endLine? (s : List Char) : Option (List Char) :=
  match skipComment (skipSpaces s) with
  | [] => some []
  | s => lineEnd? s

/-- The parts of a dotted key, with the blanks around them. -/
def keyParts (fuel : Nat) (s : List Char) : Option (List String × List Char) :=
  match fuel with
  | 0 => none
  | fuel + 1 => do
    let (part, s) ← keyPart? (skipSpaces s)
    match skipSpaces s with
    | '.' :: s =>
      let (parts, s) ← keyParts fuel s
      some (part :: parts, s)
    | s => some ([part], s)

/-- A dotted key: the path to its table and its last part. -/
def key? (s : List Char) : Option ((List String × String) × List Char) := do
  let (parts, s) ← keyParts (s.length + 1) s
  if nestingLimit < parts.length then none
  else some ((parts.dropLast, ← parts.getLast?), s)

mutual

/-- A value inside which arrays and inline tables may nest `room` deep. -/
def value? (fuel room : Nat) (s : List Char) : Option (Value × List Char) :=
  match fuel with
  | 0 => none
  | fuel + 1 =>
    match s with
    | '[' :: s =>
      match room with
      | 0 => none
      | room + 1 => do
        let (items, s) ← items? fuel room s
        some (.array items, s)
    | '\x7b' :: s =>
      match room with
      | 0 => none
      | room + 1 =>
        match skipSpaces s with
        | '\x7d' :: s => some (.table [], s)
        | s => do
          let (entries, s) ← pairs? fuel room [] s
          some (.table (Entries.freeze entries), s)
    | s => scalar? s

/-- The items of an array behind its opening bracket or a comma. -/
def items? (fuel room : Nat) (s : List Char) : Option (List Value × List Char) :=
  match fuel with
  | 0 => none
  | fuel + 1 => do
    match ← skipLines (s.length + 1) s with
    | ']' :: s => some ([], s)
    | s =>
      let (item, s) ← value? fuel room s
      match ← skipLines (s.length + 1) s with
      | ']' :: s => some ([item], s)
      | ',' :: s =>
        let (items, s) ← items? fuel room s
        some (item :: items, s)
      | _ => none

/-- The pairs of an inline table behind its opening brace or a comma, entered into
what has been read of it. -/
def pairs? (fuel room : Nat) (entries : Entries) (s : List Char) : Option (Entries × List Char) :=
  match fuel with
  | 0 => none
  | fuel + 1 => do
    let ((path, key), s) ← key? s
    match s with
    | '=' :: s =>
      let (value, s) ← value? fuel room (skipSpaces s)
      let entries ← Entries.insert path key value entries
      match skipSpaces s with
      | '\x7d' :: s => some (entries, s)
      | ',' :: s => pairs? fuel room entries s
      | _ => none
    | _ => none

end

/-- A document that is being read: its tables and the path of the open one. -/
structure Draft where
  root : Entries
  path : List String

/-- One line of a document, or several where a value goes over them. -/
def line? (draft : Draft) (s : List Char) : Option (Draft × List Char) :=
  match s with
  | '#' :: s => (endLine? ('#' :: s)).map fun s => (draft, s)
  | '\n' :: s => some (draft, s)
  | '\r' :: s => (lineEnd? ('\r' :: s)).map fun s => (draft, s)
  | '[' :: '[' :: s => do
    let ((path, key), s) ← key? s
    match s with
    | ']' :: ']' :: s =>
      let root ← Entries.openArray path key draft.root
      some (⟨root, path ++ [key]⟩, ← endLine? s)
    | _ => none
  | '[' :: s => do
    let ((path, key), s) ← key? s
    match s with
    | ']' :: s =>
      let root ← Entries.openTable path key draft.root
      some (⟨root, path ++ [key]⟩, ← endLine? s)
    | _ => none
  | s => do
    let ((path, key), s) ← key? s
    match s with
    | '=' :: s =>
      let s := skipSpaces s
      let (value, s) ← value? (2 * s.length + 2) nestingLimit s
      let root ← Entries.update .passing (fun _ => true) draft.path
        (fun _ entries => Entries.insert path key value entries) .header draft.root
      some ({ draft with root }, ← endLine? s)
    | _ => none

/-- The lines of a document. -/
def lines? (fuel : Nat) (draft : Draft) (s : List Char) : Option Draft :=
  match fuel with
  | 0 => none
  | fuel + 1 =>
    match skipSpaces s with
    | [] => some draft
    | s => (line? draft s).bind fun (draft, s) => lines? fuel draft s

/-- Reads a document: the entries of its table, or nothing when it is no TOML. A byte
order mark at its start counts for nothing. -/
def parse (text : String) : Option (List (String × Value)) :=
  let chars := text.toList
  let chars := if chars.head? == some '\uFEFF' then chars.drop 1 else chars
  (lines? (chars.length + 1) ⟨[], []⟩ chars).map fun draft => Entries.freeze draft.root

end TypeStubs.Toml

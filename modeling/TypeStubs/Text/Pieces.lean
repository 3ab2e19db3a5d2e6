/-! Cutting texts into pieces and putting pieces in place of others. Everything
here is structural recursion on the characters, so that what a cut keeps can be
read off the definition. -/
namespace TypeStubs

namespace Chars

/-- The pieces between the separators; one separator more gives one piece more,
and a text without a separator is its own single piece. -/
def splitOn (sep : Char) : List Char → List (List Char)
  | [] => [[]]
  | c :: s =>
    if c == sep then [] :: splitOn sep s
    else
      match splitOn sep s with
      | [] => [[c]]
      | piece :: pieces => (c :: piece) :: pieces

/-- The text with a leading `lead` removed, if it starts with it. -/
def dropLead? (lead : List Char) (s : List Char) : Option (List Char) :=
  if lead.isPrefixOf s then some (s.drop lead.length) else none

/-- The text with a trailing `tail` removed, if it ends with it. -/
def dropTail? (tail : List Char) (s : List Char) : Option (List Char) :=
  if tail.isSuffixOf s then some (s.take (s.length - tail.length)) else none

/-- What follows the first occurrence of `word`, if there is one. -/
def afterFirst? (word : List Char) : List Char → Option (List Char)
  | [] => if word.isEmpty then some [] else none
  | c :: s =>
    if word.isPrefixOf (c :: s) then some ((c :: s).drop word.length) else afterFirst? word s

/-- The parts before and after the first `sep`, if there is one. -/
def cutFirst? (sep : Char) : List Char → Option (List Char × List Char)
  | [] => none
  | c :: s =>
    if c == sep then some ([], s)
    else (cutFirst? sep s).map fun (before, after) => (c :: before, after)

/-- The parts before and after the last `sep`, if there is one. -/
def cutLast? (sep : Char) (s : List Char) : Option (List Char × List Char) :=
  (cutFirst? sep s.reverse).map fun (after, before) => (before.reverse, after.reverse)

/-- The part after the last `sep`, or all of the text when it has none. -/
def lastPiece (sep : Char) (s : List Char) : List Char :=
  match cutLast? sep s with
  | some (_, after) => after
  | none => s

/-- Passes over `skip` characters, then puts `new` in place of each occurrence of
`old`, left to right and without overlap. -/
def replaceFrom (old new : List Char) : Nat → List Char → List Char
  | _, [] => []
  | skip + 1, _ :: s => replaceFrom old new skip s
  | 0, c :: s =>
    if old.isPrefixOf (c :: s) then new ++ replaceFrom old new (old.length - 1) s
    else c :: replaceFrom old new 0 s

/-- Puts `new` in place of each occurrence of the non-empty `old`, left to right
and without overlap. The text put in is not searched again. -/
def replace (old new : List Char) (s : List Char) : List Char := replaceFrom old new 0 s

/-- Puts `new` in place of each character `old`. -/
def replaceChar (old : Char) (new : List Char) (s : List Char) : List Char :=
  s.flatMap fun c => if c == old then new else [c]

/-- The lines of a text, each ended by a line feed or by a carriage return and a
line feed. A last line needs no end, and after an end nothing is no line. -/
def lines : List Char → List (List Char)
  | [] => []
  | '\n' :: s => [] :: lines s
  | '\r' :: '\n' :: s => [] :: lines s
  | c :: s =>
    match lines s with
    | [] => [[c]]
    | line :: rest => (c :: line) :: rest

/-- The letters A to Z in small, everything else kept. -/
def asciiLower (s : List Char) : List Char := s.map Char.toLower

end Chars

namespace Text

/-- The pieces between the separators. -/
def splitOn (sep : Char) (s : String) : List String :=
  (Chars.splitOn sep s.toList).map String.ofList

/-- The part after the last `sep`, or all of the text when it has none. -/
def lastPiece (sep : Char) (s : String) : String := String.ofList (Chars.lastPiece sep s.toList)

/-- Back slashes turned into slashes. -/
def withSlashes (s : String) : String := String.ofList (Chars.replaceChar '\\' ['/'] s.toList)

/-- The texts in order with `sep` between neighbours. -/
def join (sep : String) (texts : List String) : String := sep.intercalate texts

end Text

end TypeStubs

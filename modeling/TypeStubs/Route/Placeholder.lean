import TypeStubs.Text.Blank
import TypeStubs.Text.Pieces

/-! Placeholders in routes: names in braces that parameters are put in place of. -/
namespace TypeStubs.Route

/-- A part of a route. -/
inductive Piece where
  | text (chars : List Char)
  /-- A pair of braces with what stands between them. -/
  | hole (inner : List Char)
  deriving DecidableEq, Repr

namespace Piece

/-- The pieces of a route: texts and holes in turn, a text first and last. Given are
the characters of the text before, and of the hole if one is open, last first. A
brace that is never closed belongs to the last text with all that follows it. -/
def scan (outside : List Char) (inside : Option (List Char)) : List Char → List Piece
  | [] =>
    match inside with
    | none => [.text outside.reverse]
    | some inner => [.text (outside.reverse ++ '\x7b' :: inner.reverse)]
  | c :: s =>
    match inside with
    | none =>
      if c == '\x7b' then scan outside (some []) s else scan (c :: outside) none s
    | some inner =>
      if c == '\x7d' then .text outside.reverse :: .hole inner.reverse :: scan [] none s
      else scan outside (some (c :: inner)) s

/-- The pieces of a route. -/
def ofChars (route : List Char) : List Piece := scan [] none route

/-- A piece as it is written. -/
def chars : Piece → List Char
  | .text chars => chars
  | .hole inner => '\x7b' :: inner ++ ['\x7d']

/-- Characters that begin a default value, a constraint or the mark of an option. -/
def isModifier (c : Char) : Bool := c == '=' || c == ':' || c == '?'

/-- The name that a hole holds: without stars before it, and without a modifier behind
it. -/
def holeName (inner : List Char) : List Char :=
  Chars.trim ((inner.dropWhile (· == '*')).takeWhile fun c => !isModifier c)

/-- A piece with its hole, if it is one, reduced to its name. -/
def reduce : Piece → Piece
  | .text chars => .text chars
  | .hole inner => .hole (holeName inner)

end Piece

/-- A route with every hole reduced to its name. -/
def reduceHoles (route : List Char) : List Char :=
  ((Piece.ofChars route).map Piece.reduce).flatMap Piece.chars

/-- Whether a text starts with a word, whatever the case of the letters A to Z in it;
the word itself is in small letters. -/
def startsWith (word : List Char) (s : List Char) : Bool :=
  match word, s with
  | [], _ => true
  | _ :: _, [] => false
  | w :: word, c :: s => c.toLower == w && startsWith word s

/-- What happens to the characters of an occurrence that has been found. -/
inductive Found where
  | keep
  | drop
  deriving DecidableEq, Repr

/-- Puts `new` in place of every occurrence of `word` that does not follow a dollar
sign, and says whether there was an occurrence at all. Given are the character before
the text, and how many characters of it belong to an occurrence found before, with
what happens to them. -/
def bindFrom (word new : List Char) (before : Option Char) (found : Found) :
    Nat → List Char → List Char × Bool
  | _, [] => ([], false)
  | more + 1, c :: s =>
    let (rest, bound) := bindFrom word new (some c) found more s
    (match found with
    | .keep => c :: rest
    | .drop => rest, bound)
  | 0, c :: s =>
    if startsWith word (c :: s) then
      if before == some '$' then
        let (rest, _) := bindFrom word new (some c) .keep (word.length - 1) s
        (c :: rest, true)
      else
        let (rest, _) := bindFrom word new (some c) .drop (word.length - 1) s
        (new ++ rest, true)
    else
      let (rest, bound) := bindFrom word new (some c) found 0 s
      (c :: rest, bound)

/-- Puts an interpolation of `ident` in place of every hole named `key`, whatever the
case of the letters A to Z. A hole behind a dollar sign is an interpolation already,
and stays. Says also whether there was any such hole. -/
def bindHole (path key ident : List Char) : List Char × Bool :=
  let hole := '\x7b' :: Chars.asciiLower key ++ ['\x7d']
  let interpolation := '$' :: '\x7b' :: ident ++ ['\x7d']
  bindFrom hole interpolation none .keep 0 path

end TypeStubs.Route

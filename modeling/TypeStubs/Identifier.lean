import TypeStubs.Text.Blank
import TypeStubs.Text.Case

/-! Identifiers of the emitted code, made from the names the service uses. A name
is cut into words at separators and at changes of case, and the words are put
together again in camel case or Pascal case. -/
namespace TypeStubs

/-- How the words of a name are cased. -/
structure Casing where
  /-- The first word is capitalised like the others. -/
  pascal : Bool := false
  /-- A word of two or more characters without a lowercase one stays as it is. -/
  keepCapitals : Bool := false
  deriving DecidableEq, Repr, Inhabited

/-- How a name becomes an identifier. -/
structure Naming where
  /-- Whether the words of the name are cased at all. -/
  recase : Bool := false
  casing : Casing := {}
  deriving DecidableEq, Repr, Inhabited

namespace Identifier

/-- Characters that stand between words and belong to none. -/
def isSeparator (c : Char) : Bool := c == '_' || c == '-' || c == '.' || isBlank c

/-- Whether a new word starts at `c`, which follows `before` in the same word and
is itself followed by `next`: a capital after a small letter, the last capital of
a row of capitals, and a letter after a digit. -/
def startsWord (before c : Char) (next : Option Char) : Bool :=
  (isLowercase before && isUppercase c) ||
    (isUppercase before && isUppercase c && next.any isLowercase) ||
    (before.isDigit && isAlphabetic c)

/-- The words of a text, the characters of the word begun before it given last
first. -/
def wordsAfter (begun : List Char) : List Char → List (List Char)
  | [] => if begun.isEmpty then [] else [begun.reverse]
  | c :: s =>
    if isSeparator c then
      if begun.isEmpty then wordsAfter [] s else begun.reverse :: wordsAfter [] s
    else
      match begun with
      | [] => wordsAfter [c] s
      | before :: _ =>
        if startsWord before c s.head? then begun.reverse :: wordsAfter [c] s
        else wordsAfter (c :: begun) s

/-- The words of a name. -/
def words (name : List Char) : List (List Char) := wordsAfter [] name

/-- A word that has more than one character and none in lower case. -/
def isCapitals (word : List Char) : Bool :=
  decide (1 < word.length) && word.all fun c => !isLowercase c

/-- A word with its first character in upper case and the others in lower case. -/
def capitalize : List Char → List Char
  | [] => []
  | c :: s => upperOf c ++ Chars.toLower s

/-- One word of a name, cased by its place. -/
def recaseWord (casing : Casing) (first : Bool) (word : List Char) : List Char :=
  if casing.keepCapitals && isCapitals word then word
  else if first && !casing.pascal then Chars.toLower word
  else capitalize word

/-- The words put together, each cased by its place. -/
def joinWords (casing : Casing) : List (List Char) → List Char
  | [] => []
  | word :: rest => recaseWord casing true word ++ rest.flatMap (recaseWord casing false)

/-- The characters of a name in camel case, or in Pascal case. -/
def camelChars (casing : Casing) (name : List Char) : List Char := joinWords casing (words name)

/-- A name in camel case, or in Pascal case. -/
def camelCase (casing : Casing) (name : String) : String :=
  String.ofList (camelChars casing name.toList)

/-- The first token of a name without the mark that makes keywords into names. -/
def bareToken (raw : List Char) : List Char :=
  match Chars.firstToken raw with
  | '@' :: rest => rest
  | token => token

/-- The identifier for a name: its bare token, cased if the naming says so. A token
made of separators alone would leave nothing, and is kept as it is. -/
def normalize (naming : Naming) (raw : String) : String :=
  let token := bareToken raw.toList
  if naming.recase then
    let cased := camelChars naming.casing token
    String.ofList (if cased.isEmpty then token else cased)
  else String.ofList token

end Identifier

end TypeStubs

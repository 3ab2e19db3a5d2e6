import TypeStubs.Settings.Basic

/-! Settings that refer to the environment: a dollar sign and a name in braces stands
for the value of the variable of that name. -/
namespace TypeStubs

/-- The values of the variables that are set. -/
abbrev Environment := String → Option String

namespace Environment

/-- First characters of a variable name. -/
def isNameStart (c : Char) : Bool := c.isUpper || c == '_'

/-- Further characters of a variable name. -/
def isNameChar (c : Char) : Bool := c.isUpper || c.isDigit || c == '_'

/-- The variable that a reference at the start of the text names. -/
def reference? : List Char → Option (List Char)
  | '$' :: '\x7b' :: c :: s =>
    let name := c :: s.takeWhile isNameChar
    if isNameStart c && (s.dropWhile isNameChar).head? == some '\x7d' then some name else none
  | _ => none

/-- The variables that a text refers to, in order. -/
def references : List Char → List (List Char)
  | [] => []
  | c :: s =>
    match reference? (c :: s) with
    | some name => name :: references s
    | none => references s

/-- How a variable is referred to. -/
def written (name : List Char) : List Char := '$' :: '\x7b' :: name ++ ['\x7d']

/-- Puts the value of a variable in place of every reference to it. -/
def replaceOne (env : Environment) (text name : List Char) : List Char :=
  match env (String.ofList name) with
  | some value => Chars.replace (written name) value.toList text
  | none => text

/-- Puts values in place of references, one variable after the other in the order in
which the text first given refers to them. A reference to a variable that is not set
stays. -/
def substitute (env : Environment) (text : List Char) : List Char :=
  (references text).foldl env.replaceOne text

end Environment

namespace Settings

/-- Reads settings from the text of a TOML document that may refer to the environment. -/
def parse (env : Environment) (text : String) : Except SettingsFault Settings :=
  match (Toml.parse (String.ofList (env.substitute text.toList))).bind ofToml? with
  | some settings => .ok settings
  | none => .error .unparsable

end Settings

end TypeStubs

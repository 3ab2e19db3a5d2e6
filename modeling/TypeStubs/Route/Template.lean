import TypeStubs.Identifier
import TypeStubs.Route.Placeholder
import TypeStubs.Route.Verb
import TypeStubs.Source.Basic

/-! Request templates: the route of a method as a template literal, with the parameters
that the route does not use and the verb. -/
namespace TypeStubs

namespace Member

/-- Words that cannot name a parameter. -/
def reserved : List String :=
  ["arguments", "await", "break", "case", "catch", "class", "const", "continue", "debugger",
    "default", "delete", "do", "else", "enum", "eval", "export", "extends", "false", "finally",
    "for", "function", "if", "implements", "import", "in", "instanceof", "interface", "let",
    "new", "null", "package", "private", "protected", "public", "return", "static", "super",
    "switch", "this", "throw", "true", "try", "typeof", "var", "void", "while", "with", "yield"]

/-- The name of a parameter as requests have it. -/
def key (param : Member) : String :=
  String.ofList (Identifier.bareToken param.identifier.toList)

/-- The name of a parameter in the emitted code. A reserved word gets an underscore. -/
def ident (param : Member) : String :=
  if reserved.contains param.key then param.key ++ "_" else param.key

end Member

namespace Route

/-- A parameter that the route does not use. -/
structure Param where
  /-- Its place among the parameters of the method. -/
  index : Nat
  key : String
  ident : String
  deriving DecidableEq, Repr

/-- A request template. -/
structure Template where
  /-- The path as the text of a template literal, without a slash before it. -/
  path : String
  /-- The parameters that the path does not use, in order. -/
  unbound : List Param
  verb : Verb
  deriving DecidableEq, Repr

/-- Whether the character is a quote. -/
def isQuote (c : Char) : Bool := c == '"' || c == '\''

/-- The text of a route without its quotes and the mark before them. -/
def unquote (route : List Char) : List Char :=
  let route := Chars.trim route
  let route :=
    match route with
    | '@' :: rest => rest
    | route => route
  Chars.dropEndWhile isQuote (route.dropWhile isQuote)

/-- The route of a method as written, or its name where it has none. -/
def rawPath (method : Method) : List Char :=
  let route := method.route.elim [] fun route => unquote route.toList
  if route.isEmpty then Chars.trim method.identifier.toList else route

/-- Binds parameters in order, the first of which has the given index: the path with
their interpolations, and the parameters for which it has no hole. -/
def bindParams (index : Nat) (path : List Char) : List Member → List Char × List Param
  | [] => (path, [])
  | param :: rest =>
    let (path, bound) := bindHole path param.key.toList param.ident.toList
    let (path, unbound) := bindParams (index + 1) path rest
    (path, if bound then unbound else ⟨index, param.key, param.ident⟩ :: unbound)

/-- A path without what stands before its first segment, and with its backticks
escaped. -/
def literalText (path : List Char) : List Char :=
  Chars.replaceChar '`' ['\\', '`'] ((path.dropWhile (· == '~')).dropWhile (· == '/'))

/-- The request template of a method. -/
def template (method : Method) : Template :=
  let (path, unbound) := bindParams 0 (reduceHoles (rawPath method)) method.parameters
  { path := String.ofList (literalText path)
    unbound
    verb := Verb.choose method.verbTag (!unbound.isEmpty) }

namespace Template

/-- The parameter that a body would be made of. -/
def body? (template : Template) : Option String := template.unbound.head?.map (·.ident)

/-- The parameters that go into the query: all that are unbound, but for the first
where it makes the body. -/
def query (template : Template) : List Param :=
  if template.verb.sendsBody then template.unbound.drop 1 else template.unbound

/-- The template literal for the address of the request. -/
def url (base : String) (template : Template) : String :=
  "`$\x7b" ++ base ++ "\x7d" ++
    (if template.path.isEmpty then "" else "/" ++ template.path) ++
    (if template.query.isEmpty then "" else "$\x7bqueryString ? `?$\x7bqueryString\x7d` : ''\x7d") ++
    "`"

end Template

end Route

end TypeStubs

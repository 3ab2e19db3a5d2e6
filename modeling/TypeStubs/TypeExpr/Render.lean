import TypeStubs.TypeExpr.Parse

/-! Printing a type expression as a TypeScript type, and listing the names it refers
to, from one and the same tree. -/
namespace TypeStubs.TypeExpr

/-- A text without one question mark at its end. -/
def dropQuestion (text : String) : String :=
  String.ofList ((Chars.dropTail? ['?'] text.toList).getD text.toList)

mutual

/-- The TypeScript type. Null is not part of it: question marks leave no trace. -/
def render (table : TypeTable) : TypeExpr → String
  | .atomic name => table.translate name
  | .nullable inner => render table inner
  | .array inner => render table inner ++ "[]"
  | .collection _ element => render table element ++ "[]"
  | .dictionary _ key value => "Record<" ++ table.translate key ++ ", " ++ render table value ++ ">"
  | .generic name args =>
    match table.isTransparent name, renderAll table args with
    | true, [arg] => arg
    | _, texts => table.translate name ++ "<" ++ Text.join ", " texts ++ ">"
  | .verbatim text => dropQuestion text

/-- The TypeScript types of a list of expressions. -/
def renderAll (table : TypeTable) : List TypeExpr → List String
  | [] => []
  | expr :: rest => render table expr :: renderAll table rest

end

mutual

/-- The names an expression refers to, in the order in which they appear. Names of
collection and dictionary wrappers and transparent names are no references, and
verbatim text has none. -/
def names (table : TypeTable) : TypeExpr → List String
  | .atomic name => [name]
  | .nullable inner => names table inner
  | .array inner => names table inner
  | .collection _ element => names table element
  | .dictionary _ key value => key :: names table value
  | .generic name args =>
    if table.isTransparent name then namesAll table args else name :: namesAll table args
  | .verbatim _ => []

/-- The names a list of expressions refers to. -/
def namesAll (table : TypeTable) : List TypeExpr → List String
  | [] => []
  | expr :: rest => names table expr ++ namesAll table rest

end

/-- A dictionary as an index signature: the line that makes any key a member. -/
def indexSignature? (table : TypeTable) (expr : TypeExpr) : Option String :=
  match expr.nonNull with
  | .dictionary _ key value =>
    some ("[key: " ++ table.translate key ++ "]: " ++ render table value)
  | _ => none

/-- The TypeScript type a signature stands for. -/
def translate (table : TypeTable) (signature : String) : String :=
  (parse table signature).render table

end TypeStubs.TypeExpr

/-! Type expressions: what a type signature of the service says, in the shapes that
matter for printing it as a TypeScript type. -/
namespace TypeStubs

/-- A type signature that has been read. -/
inductive TypeExpr where
  /-- A bare name. -/
  | atomic (name : String)
  /-- A type followed by a question mark. -/
  | nullable (inner : TypeExpr)
  /-- A type followed by a pair of square brackets. -/
  | array (inner : TypeExpr)
  /-- A collection wrapper around its one argument. -/
  | collection (wrapper : String) (element : TypeExpr)
  /-- A dictionary wrapper around a bare key name and a value. -/
  | dictionary (wrapper : String) (key : String) (value : TypeExpr)
  /-- Any other name with arguments. -/
  | generic (name : String) (args : List TypeExpr)
  /-- Text that is no signature, kept as it stands. -/
  | verbatim (text : String)
  deriving Repr, Inhabited

namespace TypeExpr

/-- Whether the outermost layer allows null. Verbatim text does when it ends in a
question mark. -/
def isNullable : TypeExpr → Bool
  | .nullable _ => true
  | .verbatim text => text.toList.getLast? == some '?'
  | _ => false

/-- The expression under its outer question marks. -/
def nonNull : TypeExpr → TypeExpr
  | .nullable inner => inner.nonNull
  | expr => expr

/-- Whether a dictionary stands under the outer question marks. -/
def isDictionary (expr : TypeExpr) : Bool :=
  match expr.nonNull with
  | .dictionary .. => true
  | _ => false

end TypeExpr

end TypeStubs

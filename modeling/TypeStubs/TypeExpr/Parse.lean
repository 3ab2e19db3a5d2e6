import TypeStubs.TypeExpr.Basic
import TypeStubs.TypeExpr.Table
import TypeStubs.TypeExpr.Lexeme

/-! Reading a type signature. A type is a name, with arguments between angle brackets
if it has any, followed by any number of square bracket pairs and question marks. The
lexemes are read once from left to right; names whose arguments are still open wait on
a stack, so that nesting has no limit. -/
namespace TypeStubs.TypeExpr

/-- A name whose arguments are being read: where it starts, and the arguments read so
far, last first. -/
structure Pending where
  name : String
  start : Nat
  args : List TypeExpr

/-- What has been read since the last open bracket or comma. -/
inductive Progress where
  /-- Nothing: a type has to start here. -/
  | none
  /-- A name, which may still get arguments. -/
  | named (name : String) (start : Nat)
  /-- A type that is complete but for further brackets and question marks. -/
  | built (expr : TypeExpr)

namespace Progress

/-- The type read so far, if there is one. -/
def expr? : Progress → Option TypeExpr
  | .none => Option.none
  | .named name _ => some (.atomic name)
  | .built expr => some expr

end Progress

/-- The characters of `source` from offset `start` up to offset `stop`. -/
def slice (source : List Char) (start stop : Nat) : String :=
  String.ofList ((source.drop start).take (stop - start))

/-- What a name with arguments means that covers `source` from `start` up to `stop`. A
collection has one argument. A dictionary has two, of which the first is a bare name;
with another first argument the source text stands for itself. -/
def classify (table : TypeTable) (source : List Char) (start stop : Nat) (name : String)
    (args : List TypeExpr) : TypeExpr :=
  match table.isCollection name, table.isDictionary name, args with
  | true, _, [element] => .collection name element
  | _, true, [.atomic key, value] => .dictionary name key value
  | _, true, [_, _] => .verbatim (slice source start stop)
  | _, _, args => .generic name args

/-- Reads lexemes of `source` given the names whose arguments are open, innermost
first, and the type under way. -/
def assemble (table : TypeTable) (source : List Char) :
    List Pending → Progress → List Lexeme → Option TypeExpr
  | [], progress, [] => progress.expr?
  | _ :: _, _, [] => none
  | stack, progress, lexeme :: rest =>
    match lexeme.mark, progress, progress.expr?, stack with
    | .name text, .none, _, _ =>
      assemble table source stack (.named (String.ofList text) lexeme.start) rest
    | .openAngle, .named name start, _, _ =>
      assemble table source (⟨name, start, []⟩ :: stack) .none rest
    | .brackets, _, some expr, _ => assemble table source stack (.built (.array expr)) rest
    | .question, _, some expr, _ => assemble table source stack (.built (.nullable expr)) rest
    | .comma, _, some expr, top :: below =>
      assemble table source ({ top with args := expr :: top.args } :: below) .none rest
    | .closeAngle, _, some expr, top :: below =>
      let args := (expr :: top.args).reverse
      assemble table source below
        (.built (classify table source top.start lexeme.stop top.name args)) rest
    | _, _, _, _ => none

/-- The type a trimmed text spells, if it spells one. -/
def parseChars? (table : TypeTable) (source : List Char) : Option TypeExpr :=
  (Lexeme.scan [] 0 source).bind (assemble table source [] .none)

/-- Reads a signature. Text that spells no type is kept verbatim, without the blanks
around it. -/
def parse (table : TypeTable) (signature : String) : TypeExpr :=
  let source := Chars.trim signature.toList
  (parseChars? table source).getD (.verbatim (String.ofList source))

end TypeStubs.TypeExpr

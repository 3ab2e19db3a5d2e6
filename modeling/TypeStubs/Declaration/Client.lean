import TypeStubs.Declaration.Interface
import TypeStubs.Route.Template

/-! Controllers as exported client classes, with one asynchronous method for each of
their methods. -/
namespace TypeStubs.Style

/-- The place from which on parameters of these types are optional: those that may be null
are counted from the end. -/
def firstOptional (exprs : List TypeExpr) : Nat :=
  exprs.length - (exprs.reverse.takeWhile (·.isNullable)).length

/-- A parameter at a place in the list of a method, where `first` is the place from which on
parameters are optional. -/
def paramText (style : Style) (first place : Nat) (param : Member) : String :=
  let expr := style.read param.signature
  let type := style.print expr
  if first ≤ place then param.ident ++ "?: " ++ type
  else if expr.isNullable then param.ident ++ ": " ++ type ++ " | null"
  else param.ident ++ ": " ++ type

/-- The parameters of a method as they are declared. -/
def paramTexts (style : Style) (params : List Member) : List String :=
  let first := firstOptional (params.map fun param => style.read param.signature)
  params.mapIdx (style.paramText first)

/-- The parameter list of a method. -/
def parameterList (style : Style) (method : Method) : String :=
  Text.join ", " (style.paramTexts method.parameters)

/-- How a parameter goes into the query. -/
inductive QueryForm where
  /-- Each of its elements under its key. -/
  | each
  /-- Its text under its key. -/
  | plain
  /-- The fields of an object under their own names, anything else as its text. -/
  | spread
  deriving DecidableEq, Repr

/-- The form in which values of a type go into the query. -/
def queryForm (style : Style) (expr : TypeExpr) : QueryForm :=
  match expr.nonNull with
  | .array _ => .each
  | .collection _ _ => .each
  | expr => if ["string", "number", "boolean"].contains (style.print expr) then .plain else .spread

/-- The lines that put a parameter into the query, where it has a value. -/
def queryLines (form : QueryForm) (key ident : String) : List String :=
  match form with
  | .each => [
      "        for (const value of " ++ ident ++ " ?? []) \x7b",
      "            searchParams.append('" ++ key ++ "', String(value));",
      "        \x7d"]
  | .plain => [
      "        if (" ++ ident ++ " !== undefined && " ++ ident ++ " !== null) \x7b",
      "            searchParams.append('" ++ key ++ "', String(" ++ ident ++ "));",
      "        \x7d"]
  | .spread => [
      "        if (" ++ ident ++ " !== undefined && " ++ ident ++ " !== null) \x7b",
      "            if (typeof " ++ ident ++ " === 'object') \x7b",
      "                for (const [key, value] of Object.entries(" ++ ident ++ ")) \x7b",
      "                    if (value !== undefined && value !== null) \x7b",
      "                        searchParams.append(key, String(value));",
      "                    \x7d",
      "                \x7d",
      "            \x7d else \x7b",
      "                searchParams.append('" ++ key ++ "', String(" ++ ident ++ "));",
      "            \x7d",
      "        \x7d"]

/-- The lines that put a parameter of a method into the query. -/
def paramQueryLines (style : Style) (method : Method) (param : Route.Param) : List String :=
  let form := (method.parameters[param.index]?).elim .spread fun member =>
    style.queryForm (style.read member.signature)
  queryLines form param.key param.ident

/-- The lines that build the query, if there is one. -/
def queryBlock (style : Style) (method : Method) (query : List Route.Param) : List String :=
  if query.isEmpty then []
  else
    ["        const searchParams = new URLSearchParams();"] ++
      query.flatMap (style.paramQueryLines method) ++
      ["        const queryString = searchParams.toString();"]

/-- The lines that send the request. -/
def fetchLines (url : String) (template : Route.Template) : List String :=
  let verb := template.verb.text
  match template.verb.sendsBody, template.body? with
  | true, some body => [
      "        const response = await fetch(" ++ url ++ ", \x7b",
      "            method: '" ++ verb ++ "',",
      "            headers: \x7b 'Content-Type': 'application/json' \x7d,",
      "            body: JSON.stringify(" ++ body ++ "),",
      "        \x7d);"]
  | _, _ =>
    if template.verb == .get then ["        const response = await fetch(" ++ url ++ ");"]
    else ["        const response = await fetch(" ++ url ++ ", \x7b method: '" ++ verb ++ "' \x7d);"]

/-- The lines of a method. -/
def methodLines (style : Style) (method : Method) : List String :=
  let template := Route.template method
  let name := style.memberName method.identifier
  let returns := style.print (style.read method.returns)
  ["    public async " ++ name ++ "(" ++ style.parameterList method ++ "): Promise<" ++ returns ++
      "> \x7b"] ++
    style.queryBlock method template.query ++
    fetchLines (template.url style.settings.client.baseUrl) template ++
    ["        if (!response.ok) \x7b",
      "            throw new Error(`" ++ template.verb.text ++ " " ++ name ++
        " failed with status $\x7bresponse.status\x7d`);",
      "        \x7d"] ++
    (if returns == "void" then [] else ["        return response.json();"]) ++
    ["    \x7d"]

/-- The lines of methods, with an empty line before each but the first, and before the
first too where something precedes it. -/
def methodBlock (style : Style) (preceded : Bool) : List Method → List String
  | [] => []
  | method :: rest =>
    (if preceded then [""] else []) ++ style.methodLines method ++ methodBlock style true rest

/-- The lines of a controller from a source file, with an empty line behind them. -/
def clientLines (style : Style) (source : String) (controller : Controller) : List String :=
  let heritage := style.heritage controller.bases
  style.pathComment source ++
    ["export class " ++ declarationName controller.name ++ heritage.extendsClause style.table ++
      " \x7b"] ++
    style.indexLines heritage ++
    style.methodBlock heritage.index.isSome controller.methods ++
    ["\x7d", ""]

end TypeStubs.Style

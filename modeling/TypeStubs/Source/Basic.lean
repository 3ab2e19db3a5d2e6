import TypeStubs.Text.Blank
import TypeStubs.Text.Pieces

/-! The described service: source files with the models, enumerations and controllers
that they declare. Names and signatures are kept as the description gives them. -/
namespace TypeStubs

/-- A field, a property or a parameter. -/
structure Member where
  /-- The name as written, perhaps with an initial value behind it. -/
  identifier : String
  /-- The type signature as written. -/
  signature : String
  deriving DecidableEq, Repr, Inhabited

/-- A class, record or interface. -/
structure Model where
  /-- The declared name with its type parameters. -/
  name : String
  bases : List String := []
  fields : List Member := []
  properties : List Member := []
  deriving DecidableEq, Repr, Inhabited

/-- One entry of an enumeration, with its value where one is given. -/
structure EnumEntry where
  name : String
  value : Option String
  deriving DecidableEq, Repr, Inhabited

/-- An enumeration. -/
structure Enumeration where
  identifier : String
  entries : List EnumEntry := []
  deriving DecidableEq, Repr, Inhabited

/-- An action of a controller. -/
structure Method where
  identifier : String
  /-- The signature of the type it returns. -/
  returns : String
  /-- The route as written, quotes included. -/
  route : Option String := none
  /-- The tag that gives the verb of the request. -/
  verbTag : Option String := none
  parameters : List Member := []
  deriving DecidableEq, Repr, Inhabited

/-- A controller: a class whose methods answer requests. -/
structure Controller where
  name : String
  bases : List String := []
  methods : List Method := []
  deriving DecidableEq, Repr, Inhabited

/-- A source file. -/
structure SourceFile where
  path : String
  /-- The namespace around the declarations of this file, where it has its own. -/
  nameSpace : Option String := none
  models : List Model := []
  enums : List Enumeration := []
  controllers : List Controller := []
  deriving DecidableEq, Repr, Inhabited

/-- A declared name cut into the bare name and its type parameters. -/
structure GenericName where
  bare : String
  params : List String
  deriving DecidableEq, Repr, Inhabited

namespace GenericName

/-- Cuts a declared name at its first open angle bracket, if a closing one ends it.
Empty parameters are dropped; a name without such a list is bare as a whole. -/
def ofChars (name : List Char) : GenericName :=
  let name := Chars.trim name
  let whole : GenericName := ⟨String.ofList name, []⟩
  match Chars.cutFirst? '<' name with
  | none => whole
  | some (before, after) =>
    match Chars.dropTail? ['>'] after with
    | none => whole
    | some params =>
      let params := (Chars.splitOn ',' params).map Chars.trim
      ⟨String.ofList (Chars.trimEnd before),
        (params.filter fun param => !param.isEmpty).map String.ofList⟩

/-- Cuts a declared name. -/
def ofString (name : String) : GenericName := ofChars name.toList

/-- The name as it is declared again: bare, or with its parameters. -/
def declaration (name : GenericName) : String :=
  if name.params.isEmpty then name.bare
  else name.bare ++ "<" ++ Text.join ", " name.params ++ ">"

end GenericName

namespace Member

/-- Whether the last character of the signature is a question mark. -/
def isNullable (member : Member) : Bool :=
  (Chars.trimEnd member.signature.toList).getLast? == some '?'

end Member

namespace Model

/-- The bare name and the type parameters. -/
def genericName (model : Model) : GenericName := .ofString model.name

/-- The fields and then the properties. -/
def members (model : Model) : List Member := model.fields ++ model.properties

end Model

namespace Enumeration

/-- The name without the blanks around it. -/
def name (enumeration : Enumeration) : String := Text.trim enumeration.identifier

end Enumeration

namespace Controller

/-- The bare name and the type parameters. -/
def genericName (controller : Controller) : GenericName := .ofString controller.name

end Controller

namespace SourceFile

/-- The bare names the file declares: models, then enumerations, then controllers. -/
def declaredNames (file : SourceFile) : List String :=
  file.models.map (·.genericName.bare) ++ file.enums.map (·.name) ++
    file.controllers.map (·.genericName.bare)

/-- Whether the file declares nothing. -/
def isEmpty (file : SourceFile) : Bool :=
  file.models.isEmpty && file.enums.isEmpty && file.controllers.isEmpty

end SourceFile

end TypeStubs

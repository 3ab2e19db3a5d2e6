import TypeStubs.Json.Decode
import TypeStubs.Json.Reader
import TypeStubs.Source.Basic

/-! Descriptions of services as JSON documents, both ways. Writing gives every field
under its name and in its order. Reading is tolerant: lists may be null or absent, two
fields have a second name, and what is not known is passed over. -/
namespace TypeStubs

open Json Json.Decode

namespace Member

/-- The fields of a member. -/
def slots : List (Slot Member) := [
  ⟨"Identifier", [], true, fun room node m => return { m with identifier := ← string room node }⟩,
  ⟨"Type", [], true, fun room node m => return { m with signature := ← string room node }⟩]

/-- Reads a member. -/
def decoder : Decoder Member := record slots ⟨"", ""⟩

/-- A member as JSON. -/
def toJson (member : Member) : Value :=
  .object [("Identifier", .string member.identifier), ("Type", .string member.signature)]

end Member

namespace Model

/-- The fields of a model. -/
def slots : List (Slot Model) := [
  ⟨"ModelName", ["Name"], true, fun room node m => return { m with name := ← string room node }⟩,
  ⟨"BaseClasses", [], false, fun room node m =>
    return { m with bases := ← listOrNull string room node }⟩,
  ⟨"Fields", [], false, fun room node m =>
    return { m with fields := ← listOrNull Member.decoder room node }⟩,
  ⟨"Properties", [], false, fun room node m =>
    return { m with properties := ← listOrNull Member.decoder room node }⟩]

/-- Reads a model. -/
def decoder : Decoder Model := record slots { name := "" }

/-- A model as JSON. -/
def toJson (model : Model) : Value :=
  .object [
    ("ModelName", .string model.name),
    ("BaseClasses", .array (model.bases.map .string)),
    ("Fields", .array (model.fields.map Member.toJson)),
    ("Properties", .array (model.properties.map Member.toJson))]

end Model

namespace EnumEntry

/-- The entry that a member of the value map stands for. Numbers and truth values
count by their text. -/
def ofValue (name : String) : Value → Except Fault EnumEntry
  | .null => .ok ⟨name, none⟩
  | .string text => .ok ⟨name, some text⟩
  | .number number => .ok ⟨name, some number.text⟩
  | .bool true => .ok ⟨name, some "true"⟩
  | .bool false => .ok ⟨name, some "false"⟩
  | value => .error (.refused
      ("enum value `" ++ name ++ "` must be a string, number or null, got " ++ value.compact))

end EnumEntry

namespace Enumeration

/-- Reads the value map, or null for an empty one. All of the map is understood before
its entries are looked at. -/
def entriesDecoder : Decoder (List EnumEntry) := fun room node =>
  match node with
  | .null => .ok []
  | .object members closing =>
    enter room fun room => do
      let values ← lift (Value.ofMembers room members)
      lift closing.check
      (Keyed.ofList values).mapM fun (name, value) => EnumEntry.ofValue name value
  | node => mismatch node

/-- The fields of an enumeration. -/
def slots : List (Slot Enumeration) := [
  ⟨"Identifier", [], true, fun room node e => return { e with identifier := ← string room node }⟩,
  ⟨"Values", [], false, fun room node e => return { e with entries := ← entriesDecoder room node }⟩]

/-- Reads an enumeration. -/
def decoder : Decoder Enumeration := record slots { identifier := "" }

/-- An enumeration as JSON. -/
def toJson (enumeration : Enumeration) : Value :=
  .object [
    ("Identifier", .string enumeration.identifier),
    ("Values", .object (enumeration.entries.map fun entry =>
      (entry.name, entry.value.elim .null .string)))]

end Enumeration

namespace Method

/-- The fields of a method. -/
def slots : List (Slot Method) := [
  ⟨"Identifier", [], true, fun room node m => return { m with identifier := ← string room node }⟩,
  ⟨"Type", [], true, fun room node m => return { m with returns := ← string room node }⟩,
  ⟨"Route", [], false, fun room node m => return { m with route := ← nullable string room node }⟩,
  ⟨"HttpMethod", [], false, fun room node m =>
    return { m with verbTag := ← nullable string room node }⟩,
  ⟨"Parameters", [], false, fun room node m =>
    return { m with parameters := ← listOrNull Member.decoder room node }⟩]

/-- Reads a method. -/
def decoder : Decoder Method := record slots { identifier := "", returns := "" }

/-- A method as JSON. -/
def toJson (method : Method) : Value :=
  .object [
    ("Identifier", .string method.identifier),
    ("Type", .string method.returns),
    ("Route", method.route.elim .null .string),
    ("HttpMethod", method.verbTag.elim .null .string),
    ("Parameters", .array (method.parameters.map Member.toJson))]

end Method

namespace Controller

/-- The fields of a controller. -/
def slots : List (Slot Controller) := [
  ⟨"ModelName", ["Name"], true, fun room node c => return { c with name := ← string room node }⟩,
  ⟨"BaseClasses", [], false, fun room node c =>
    return { c with bases := ← listOrNull string room node }⟩,
  ⟨"Methods", [], false, fun room node c =>
    return { c with methods := ← listOrNull Method.decoder room node }⟩]

/-- Reads a controller. -/
def decoder : Decoder Controller := record slots { name := "" }

/-- A controller as JSON. -/
def toJson (controller : Controller) : Value :=
  .object [
    ("ModelName", .string controller.name),
    ("BaseClasses", .array (controller.bases.map .string)),
    ("Methods", .array (controller.methods.map Method.toJson))]

end Controller

namespace SourceFile

/-- The fields of a source file. -/
def slots : List (Slot SourceFile) := [
  ⟨"FileName", ["Path"], true, fun room node f => return { f with path := ← string room node }⟩,
  ⟨"Namespace", [], false, fun room node f =>
    return { f with nameSpace := ← nullable string room node }⟩,
  ⟨"Models", [], false, fun room node f =>
    return { f with models := ← listOrNull Model.decoder room node }⟩,
  ⟨"Enums", [], false, fun room node f =>
    return { f with enums := ← listOrNull Enumeration.decoder room node }⟩,
  ⟨"Controllers", [], false, fun room node f =>
    return { f with controllers := ← listOrNull Controller.decoder room node }⟩]

/-- Reads a source file. -/
def decoder : Decoder SourceFile := record slots { path := "" }

/-- A source file as JSON. -/
def toJson (file : SourceFile) : Value :=
  .object [
    ("FileName", .string file.path),
    ("Namespace", file.nameSpace.elim .null .string),
    ("Models", .array (file.models.map Model.toJson)),
    ("Enums", .array (file.enums.map Enumeration.toJson)),
    ("Controllers", .array (file.controllers.map Controller.toJson))]

end SourceFile

namespace Source

/-- Reads a description: the list of the source files. -/
def ofDocument (document : Document) : Except Fault (List SourceFile) :=
  Decode.document (list SourceFile.decoder) document

/-- Reads the text of a description. -/
def parse (text : String) : Except Fault (List SourceFile) := ofDocument (Reader.readText text)

/-- A description as JSON. -/
def toJson (files : List SourceFile) : Value := .array (files.map SourceFile.toJson)

end Source

end TypeStubs

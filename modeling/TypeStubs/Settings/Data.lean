import TypeStubs.Json.Value
import TypeStubs.Toml.Document

/-! The data that settings are read from, whether they are written as TOML or as JSON.
Only the shapes that some setting can have are told apart. -/
namespace TypeStubs

/-- Data of a settings document. -/
inductive Data where
  | nothing
  | truth (value : Bool)
  | text (value : String)
  /-- Any other single value, which no setting can have. -/
  | other
  | list (items : List Data)
  | map (entries : List (String × Data))
  deriving Repr, Inhabited

namespace Data

mutual

/-- JSON as data. -/
def ofJson : Json.Value → Data
  | .null => .nothing
  | .bool value => .truth value
  | .number _ => .other
  | .string value => .text value
  | .array items => .list (ofJsonItems items)
  | .object members => .map (ofJsonMembers members)

/-- The items of a JSON array as data. -/
def ofJsonItems : List Json.Value → List Data
  | [] => []
  | item :: rest => ofJson item :: ofJsonItems rest

/-- The members of a JSON object as data. -/
def ofJsonMembers : List (String × Json.Value) → List (String × Data)
  | [] => []
  | (name, value) :: rest => (name, ofJson value) :: ofJsonMembers rest

end

/-- The key under which a date or a time stands when it is read as a map. -/
def momentKey : String := "$__toml_private_datetime"

mutual

/-- TOML as data. A date or a time is a map of one entry, its text. -/
def ofToml : Toml.Value → Data
  | .string written => .text written
  | .integer _ => .other
  | .float _ => .other
  | .boolean value => .truth value
  | .moment written => .map [(momentKey, .text written)]
  | .array items => .list (ofTomlItems items)
  | .table entries => .map (ofTomlEntries entries)

/-- The items of a TOML array as data. -/
def ofTomlItems : List Toml.Value → List Data
  | [] => []
  | item :: rest => ofToml item :: ofTomlItems rest

/-- The entries of a TOML table as data. -/
def ofTomlEntries : List (String × Toml.Value) → List (String × Data)
  | [] => []
  | (name, value) :: rest => (name, ofToml value) :: ofTomlEntries rest

end

/-- A truth value. -/
def asTruth? : Data → Option Bool
  | .truth value => some value
  | _ => none

/-- A text. -/
def asText? : Data → Option String
  | .text value => some value
  | _ => none

/-- A text, or nothing. -/
def asTextOrNothing? : Data → Option (Option String)
  | .nothing => some none
  | data => data.asText?.map some

/-- A list of texts. -/
def asTexts? : Data → Option (List String)
  | .list items => items.mapM asText?
  | _ => none

/-- A map to texts. -/
def asTextMap? : Data → Option (List (String × String))
  | .map entries => entries.mapM fun (name, data) => data.asText?.map fun value => (name, value)
  | _ => none

/-- How one field of a record is read into it. -/
abbrev Field (α : Type) := String × (Data → α → Option α)

/-- A record: a map of its fields, of which unknown ones count for nothing, or a list
of them in their order. `surplus` says whether such a list may be too long. -/
def asRecord? (surplus : Bool) (fields : List (Field α)) (blank : α) : Data → Option α
  | .map entries =>
    entries.foldlM
      (fun record (name, data) =>
        match fields.lookup name with
        | some read => read data record
        | none => some record)
      blank
  | .list items =>
    if !surplus && fields.length < items.length then none
    else (items.zip fields).foldlM (fun record (data, field) => field.2 data record) blank
  | _ => none

end Data

end TypeStubs

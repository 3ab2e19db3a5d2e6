import TypeStubs.Identifier
import TypeStubs.Ordered
import TypeStubs.Settings.Data
import TypeStubs.TypeExpr.Table

/-! The settings of a run, how they are read, and when a run can work with them. -/
namespace TypeStubs

/-- Generic names that wrap other types, beyond the standard ones. -/
structure WrapperSettings where
  collections : List String := []
  dictionaries : List String := []
  transparent : List String := []
  deriving DecidableEq, Repr, Inhabited

/-- What the emitted client code refers to. -/
structure ClientSettings where
  /-- The module that exports the environment, from the root of the output. -/
  environmentModule : String := "environment"
  environmentSymbol : String := "environment"
  /-- The property of the environment that holds the base address. -/
  apiBaseProperty : String := "apiUrl"
  deriving DecidableEq, Repr, Inhabited

namespace ClientSettings

/-- The expression for the base address. -/
def baseUrl (client : ClientSettings) : String :=
  client.environmentSymbol ++ "." ++ client.apiBaseProperty

end ClientSettings

/-- The settings of a run. -/
structure Settings where
  /-- The directory for the emitted modules. -/
  output : String := "generated"
  /-- The path of the source root, which is cut off the paths of source files. -/
  root : String := ""
  /-- The namespace around everything. -/
  nameSpace : Option String := none
  extension : String := ".ts"
  omitPathComment : Bool := false
  omittedBases : List String := []
  omitSemicolon : Bool := false
  recaseMembers : Bool := false
  casing : Casing := {}
  recaseEnums : Bool := false
  numericEnums : Bool := false
  /-- Enumerations become unions of string literals. -/
  unionEnums : Bool := false
  /-- Translations beyond the standard ones, in the order of their names. -/
  translations : List (String × String) := []
  omitUnresolved : Bool := false
  wrappers : WrapperSettings := {}
  client : ClientSettings := {}
  deriving DecidableEq, Repr, Inhabited

/-- What can be wrong with settings. -/
inductive SettingsFault where
  | unreadable (reason : String)
  | unparsable
  | missingRoot
  | badExtension (extension : String)
  | emptyNamespace
  deriving DecidableEq, Repr

namespace SettingsFault

/-- The text of a fault. -/
def message : SettingsFault → String
  | .unreadable reason => "Failed to read config file: " ++ reason
  | .unparsable => "Failed to parse config"
  | .missingRoot => "`root` must be set to the source root path"
  | .badExtension extension => "`extension` must start with a dot, got `" ++ extension ++ "`"
  | .emptyNamespace => "`namespace` must not be empty when set"

end SettingsFault

namespace Settings

/-- Refuses settings that a run cannot work with: an empty root, an extension that is
not a dot with something behind it, an empty namespace. -/
def validate (settings : Settings) : Except SettingsFault Unit :=
  let extension := settings.extension.toList
  if (Text.trim settings.root).isEmpty then .error .missingRoot
  else if extension.head? != some '.' || extension.length < 2 then
    .error (.badExtension settings.extension)
  else if settings.nameSpace.any fun name => (Text.trim name).isEmpty then .error .emptyNamespace
  else .ok ()

/-- The root with slashes. -/
def normalizedRoot (settings : Settings) : String := Text.withSlashes settings.root

/-- How names of members and methods become identifiers. -/
def memberNaming (settings : Settings) : Naming := ⟨settings.recaseMembers, settings.casing⟩

/-- How names of enumeration entries become identifiers. -/
def enumNaming (settings : Settings) : Naming := ⟨settings.recaseEnums, {}⟩

/-- The table for type signatures: the standard one with what the settings add. -/
def typeTable (settings : Settings) : TypeTable :=
  TypeTable.standard.extend settings.translations settings.wrappers.collections
    settings.wrappers.dictionaries settings.wrappers.transparent

/-- The fields of the casing. -/
def casingFields : List (Data.Field Casing) := [
  ("pascal_case", fun data c => data.asTruth?.map ({ c with pascal := · })),
  ("preserve_consecutive_uppercase", fun data c => data.asTruth?.map ({ c with keepCapitals := · }))]

/-- The fields of the wrappers. -/
def wrapperFields : List (Data.Field WrapperSettings) := [
  ("collections", fun data w => data.asTexts?.map ({ w with collections := · })),
  ("dictionaries", fun data w => data.asTexts?.map ({ w with dictionaries := · })),
  ("transparent", fun data w => data.asTexts?.map ({ w with transparent := · }))]

/-- The fields of the client. -/
def clientFields : List (Data.Field ClientSettings) := [
  ("environment_module", fun data c => data.asText?.map ({ c with environmentModule := · })),
  ("environment_symbol", fun data c => data.asText?.map ({ c with environmentSymbol := · })),
  ("api_base_property", fun data c => data.asText?.map ({ c with apiBaseProperty := · }))]

/-- The fields of the settings in their order. -/
def fields (surplus : Bool) : List (Data.Field Settings) := [
  ("output", fun data s => data.asText?.map ({ s with output := · })),
  ("root", fun data s => data.asText?.map ({ s with root := · })),
  ("namespace", fun data s => data.asTextOrNothing?.map ({ s with nameSpace := · })),
  ("extension", fun data s => data.asText?.map ({ s with extension := · })),
  ("omit_file_path_comment", fun data s => data.asTruth?.map ({ s with omitPathComment := · })),
  ("omit_base_classes", fun data s => data.asTexts?.map ({ s with omittedBases := · })),
  ("omit_semicolon", fun data s => data.asTruth?.map ({ s with omitSemicolon := · })),
  ("camel_case", fun data s => data.asTruth?.map ({ s with recaseMembers := · })),
  ("camel_case_options", fun data s =>
    (data.asRecord? surplus casingFields {}).map ({ s with casing := · })),
  ("camel_case_enums", fun data s => data.asTruth?.map ({ s with recaseEnums := · })),
  ("numeric_enums", fun data s => data.asTruth?.map ({ s with numericEnums := · })),
  ("string_literal_types_instead_of_enums", fun data s =>
    data.asTruth?.map ({ s with unionEnums := · })),
  ("custom_type_translations", fun data s =>
    data.asTextMap?.map fun entries => { s with translations := Ordered.mapOfList entries }),
  ("omit_unresolved_imports", fun data s => data.asTruth?.map ({ s with omitUnresolved := · })),
  ("wrappers", fun data s =>
    (data.asRecord? surplus wrapperFields {}).map ({ s with wrappers := · })),
  ("client", fun data s =>
    (data.asRecord? surplus clientFields {}).map ({ s with client := · }))]

/-- Reads settings from JSON. -/
def ofJson? (value : Json.Value) : Option Settings :=
  (Data.ofJson value).asRecord? false (fields false) {}

/-- Reads settings from the entries of a TOML table. -/
def ofToml? (entries : List (String × Toml.Value)) : Option Settings :=
  (Data.ofToml (.table entries)).asRecord? true (fields true) {}

end Settings

end TypeStubs

import TypeStubs.Keyed
import TypeStubs.Text.Pieces

/-! The table that type signatures are read and printed with: which names are
translated to which TypeScript names, and which generic names wrap a collection, a
dictionary or nothing at all. -/
namespace TypeStubs

/-- Translations and wrapper names. A translated name stands in the table once. -/
structure TypeTable where
  translations : List (String × String)
  collections : List String
  dictionaries : List String
  transparent : List String
  deriving DecidableEq, Repr

namespace TypeTable

/-- Names of scalar types with the TypeScript type of each. -/
def scalars : List (String × String) := [
  ("int", "number"), ("double", "number"), ("float", "number"), ("Int32", "number"),
  ("Int64", "number"), ("short", "number"), ("long", "number"), ("decimal", "number"),
  ("byte", "number"), ("uint", "number"), ("ulong", "number"), ("ushort", "number"),
  ("sbyte", "number"), ("Int16", "number"), ("UInt16", "number"), ("UInt32", "number"),
  ("UInt64", "number"), ("Single", "number"), ("Double", "number"), ("Decimal", "number"),
  ("bool", "boolean"), ("Boolean", "boolean"), ("string", "string"), ("String", "string"),
  ("char", "string"), ("DateTime", "string"), ("DateTimeOffset", "string"),
  ("DateOnly", "string"), ("TimeOnly", "string"), ("TimeSpan", "string"), ("Guid", "string"),
  ("dynamic", "any"), ("object", "any"), ("void", "void"), ("Task", "void"),
  ("ValueTask", "void"), ("IActionResult", "any"), ("ActionResult", "any")]

/-- Names that mean something in TypeScript and are never imported. -/
def scriptBuiltins : List String :=
  ["string", "number", "boolean", "any", "unknown", "never", "void", "null", "undefined",
    "object", "Date", "Record", "Array", "Promise"]

/-- The table used when the settings add nothing. -/
def standard : TypeTable where
  translations := scalars
  collections := ["List", "IList", "IReadOnlyList", "IEnumerable", "ICollection",
    "IReadOnlyCollection", "HashSet"]
  dictionaries := ["Dictionary", "IDictionary", "SortedDictionary", "IReadOnlyDictionary"]
  transparent := ["Task", "ValueTask", "ActionResult", "Nullable"]

/-- Adds a translation, or changes the one the name has. -/
def addTranslation (source target : String) (table : TypeTable) : TypeTable :=
  { table with translations := Keyed.put source target table.translations }

/-- Adds translations in order and wrapper names of each kind. -/
def extend (translations : List (String × String))
    (collections dictionaries transparent : List String) (table : TypeTable) : TypeTable where
  translations := Keyed.putAll translations table.translations
  collections := table.collections ++ collections
  dictionaries := table.dictionaries ++ dictionaries
  transparent := table.transparent ++ transparent

/-- The part of a qualified name after its last dot. -/
def shortName (name : String) : String := Text.lastPiece '.' name

/-- The TypeScript name for a name: its own translation, else the translation of its
short name, else the short name itself. -/
def translate (table : TypeTable) (name : String) : String :=
  match table.translations.lookup name with
  | some target => target
  | none => (table.translations.lookup (shortName name)).getD (shortName name)

/-- Whether the name itself has a translation. -/
def isScalar (table : TypeTable) (name : String) : Bool :=
  (table.translations.lookup name).isSome

/-- Whether the name is translated, is the target of a translation, or means
something in TypeScript by itself. -/
def isBuiltin (table : TypeTable) (name : String) : Bool :=
  table.isScalar name || scriptBuiltins.contains name ||
    table.translations.any fun entry => entry.2 == name

/-- Whether the name wraps one element type into a list type. -/
def isCollection (table : TypeTable) (name : String) : Bool := table.collections.contains name

/-- Whether the name wraps a key and a value type into a map type. -/
def isDictionary (table : TypeTable) (name : String) : Bool := table.dictionaries.contains name

/-- Whether the name stands for its single argument. -/
def isTransparent (table : TypeTable) (name : String) : Bool := table.transparent.contains name

end TypeTable

end TypeStubs

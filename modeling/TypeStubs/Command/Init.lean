import TypeStubs.Command.Arguments
import TypeStubs.Command.Host
import TypeStubs.Command.Outcome

/-! The command that writes settings to start from. -/
namespace TypeStubs.Command

/-- The lines of the settings to start from. -/
def starterLines : List String := [
  "# dtsgen configuration",
  "#",
  "# Values may reference environment variables as $\x7bVAR_NAME\x7d.",
  "",
  "# Source root prefix stripped from every IR file path (required).",
  "root = \"src/\"",
  "",
  "# Directory the generated modules are written under.",
  "output = \"frontend/src/app/api\"",
  "",
  "# Extension of generated files.",
  "extension = \".ts\"",
  "",
  "# namespace = \"Api\"",
  "",
  "omit_file_path_comment = false",
  "omit_semicolon = false",
  "omit_base_classes = [\"ControllerBase\", \"Controller\"]",
  "omit_unresolved_imports = false",
  "",
  "camel_case = true",
  "camel_case_enums = false",
  "numeric_enums = false",
  "string_literal_types_instead_of_enums = false",
  "",
  "[camel_case_options]",
  "pascal_case = false",
  "preserve_consecutive_uppercase = false",
  "",
  "[custom_type_translations]",
  "# DateTime = \"Date\"",
  "",
  "[wrappers]",
  "collections = []",
  "dictionaries = []",
  "transparent = []",
  "",
  "[client]",
  "environment_module = \"environments/environment\"",
  "environment_symbol = \"environment\"",
  "api_base_property = \"apiUrl\""]

/-- The settings to start from. -/
def starter : String := String.join (starterLines.map (· ++ "\n"))

/-- What is printed when the settings are written. -/
def starterNotice (path : String) : String :=
  "\n✓ Created " ++ path ++
    "\n\nNext steps:\n  Set root to your backend source root\n" ++
    "  dtsgen generate --input models.json to generate\n\n"

/-- Writes the settings to start from. A file that is there is replaced only if that is
asked for. -/
def init [Monad m] (host : Host m) (options : InitOptions) : m Outcome := do
  let path := options.settingsPath
  if (← host.has path) && !options.force then return .failed (.settingsThere path)
  match ← host.save path starter with
  | .ok _ => return { output := starterNotice path }
  | .error error => return .failed (.system error)

end TypeStubs.Command

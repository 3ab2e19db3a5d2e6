/-! The arguments of the command line: which options a command takes, and how they are
written. An option is given at most once. -/
namespace TypeStubs.Command

/-- What an option is given with. -/
inductive OptionKind where
  /-- Nothing. -/
  | flag
  /-- A text, which may be empty. -/
  | text
  /-- A path, which may not. -/
  | path
  deriving DecidableEq, Repr

/-- An option. -/
structure OptionSpec where
  /-- The name behind two dashes. -/
  long : String
  /-- The letter behind one dash. -/
  short : Option Char
  kind : OptionKind
  deriving DecidableEq, Repr

/-- Options given so far, with their values. -/
abbrev Given := List (OptionSpec × String)

/-- How far the reading of arguments has come. -/
inductive Reading where
  /-- The arguments are wrong. -/
  | refused
  /-- Help is asked for; nothing behind that matters. -/
  | help
  /-- An option or nothing comes next. -/
  | ready (given : Given)
  /-- The value of an option comes next. -/
  | waiting (spec : OptionSpec) (given : Given)
  /-- No option can come any more. -/
  | closed (given : Given)
  deriving DecidableEq, Repr

namespace Reading

/-- Gives an option a value. -/
def give (spec : OptionSpec) (value : String) (given : Given) : Reading :=
  if given.any fun entry => entry.1.long == spec.long then .refused
  else if spec.kind == .path && value.isEmpty then .refused
  else .ready (given ++ [(spec, value)])

/-- Reads letters behind one dash. A letter that takes a value takes all that follows,
behind an equals sign if one is there, or the next argument when nothing follows. -/
def letters (specs : List OptionSpec) (given : Given) : List Char → Reading
  | [] => .ready given
  | c :: rest =>
    if c == 'h' then .help
    else
      match specs.find? fun spec => spec.short == some c with
      | none => .refused
      | some spec =>
        if spec.kind == .flag then
          match give spec "" given with
          | .ready given => letters specs given rest
          | other => other
        else
          match rest with
          | [] => .waiting spec given
          | '=' :: value => give spec (String.ofList value) given
          | value => give spec (String.ofList value) given

/-- The name and the value of a long option. -/
def cutLong (text : List Char) : String × Option String :=
  let name := text.takeWhile (· != '=')
  match text.dropWhile (· != '=') with
  | [] => (String.ofList name, none)
  | _ :: value => (String.ofList name, some (String.ofList value))

/-- Reads what stands behind two dashes. -/
def long (specs : List OptionSpec) (given : Given) (text : List Char) : Reading :=
  let (name, value) := cutLong text
  if name == "help" then if value.isSome then .refused else .help
  else
    match specs.find? fun spec => spec.long == name with
    | none => .refused
    | some spec =>
      match spec.kind, value with
      | .flag, none => give spec "" given
      | .flag, some _ => .refused
      | _, some value => give spec value given
      | _, none => .waiting spec given

/-- Reads one argument. -/
def step (specs : List OptionSpec) : Reading → String → Reading
  | .refused, _ => .refused
  | .help, _ => .help
  | .closed _, _ => .refused
  | .ready given, argument =>
    match argument.toList with
    | ['-', '-'] => .closed given
    | '-' :: '-' :: text => long specs given text
    | '-' :: c :: text => letters specs given (c :: text)
    | _ => .refused
  | .waiting spec given, argument =>
    match argument.toList with
    | '-' :: _ :: _ => .refused
    | _ => give spec argument given

/-- Reads the arguments of a command. -/
def ofArguments (specs : List OptionSpec) (arguments : List String) : Reading :=
  arguments.foldl (step specs) (.ready [])

end Reading

namespace Given

/-- The value of an option. -/
def value? (given : Given) (long : String) : Option String :=
  (given.find? fun entry => entry.1.long == long).map (·.2)

/-- Whether an option is given. -/
def has (given : Given) (long : String) : Bool := (value? given long).isSome

end Given

/-- What `generate` is asked to do. -/
structure GenerateOptions where
  settingsPath : String
  /-- The path of the description; without one it comes from standard input. -/
  input : Option String := none
  output : Option String := none
  root : Option String := none
  nameSpace : Option String := none
  dryRun : Bool := false
  /-- Print the declarations instead of a summary. -/
  print : Bool := false
  verbose : Bool := false
  deriving DecidableEq, Repr, Inhabited

/-- What `init` is asked to do. -/
structure InitOptions where
  settingsPath : String
  /-- Replace a file that is there. -/
  force : Bool := false
  deriving DecidableEq, Repr, Inhabited

/-- What the command line asks for. -/
inductive Request where
  | version
  | help
  | generate (options : GenerateOptions)
  | init (options : InitOptions)
  deriving DecidableEq, Repr

/-- The options of `generate`. -/
def generateSpecs : List OptionSpec := [
  ⟨"config", some 'c', .path⟩, ⟨"input", some 'i', .path⟩, ⟨"output", some 'o', .path⟩,
  ⟨"root", none, .text⟩, ⟨"namespace", none, .text⟩, ⟨"dry-run", none, .flag⟩,
  ⟨"print", none, .flag⟩, ⟨"verbose", some 'v', .flag⟩]

/-- The options of `init`. -/
def initSpecs : List OptionSpec := [⟨"config", some 'c', .path⟩, ⟨"force", none, .flag⟩]

/-- The default path of the settings. -/
def defaultSettingsPath : String := "dtsgen.toml"

/-- What `generate` is asked to do by the given options. -/
def GenerateOptions.ofGiven (given : Given) : GenerateOptions where
  settingsPath := (Given.value? given "config").getD defaultSettingsPath
  input := Given.value? given "input"
  output := Given.value? given "output"
  root := Given.value? given "root"
  nameSpace := Given.value? given "namespace"
  dryRun := Given.has given "dry-run"
  print := Given.has given "print"
  verbose := Given.has given "verbose"

/-- What `init` is asked to do by the given options. -/
def InitOptions.ofGiven (given : Given) : InitOptions where
  settingsPath := (Given.value? given "config").getD defaultSettingsPath
  force := Given.has given "force"

/-- The request of a command whose arguments have been read. -/
def Reading.request? (make : Given → Request) : Reading → Option Request
  | .refused => none
  | .help => some .help
  | .waiting _ _ => none
  | .ready given => some (make given)
  | .closed given => some (make given)

/-- What the arguments ask for; nothing if they are wrong. -/
def Request.ofArguments? : List String → Option Request
  | [] => none
  | "generate" :: rest =>
    (Reading.ofArguments generateSpecs rest).request? fun given => .generate (.ofGiven given)
  | "init" :: rest =>
    (Reading.ofArguments initSpecs rest).request? fun given => .init (.ofGiven given)
  | "help" :: rest =>
    if rest == [] || rest == ["generate"] || rest == ["init"] || rest == ["help"] then some .help
    else none
  | "--version" :: _ => some .version
  | "--help" :: _ => some .help
  | argument :: _ =>
    match argument.toList with
    | '-' :: 'V' :: _ => some .version
    | '-' :: 'h' :: _ => some .help
    | _ => none

end TypeStubs.Command

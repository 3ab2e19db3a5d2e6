import TypeStubs.Json.Node

/-! Reading JSON, one symbol at a time. The containers that are open wait on a stack,
so that a text may nest as deeply as it likes, and what is under way is a mode. The
step from symbol to symbol is total; reading a text is folding the step over it. -/
namespace TypeStubs.Json.Reader

/-- The part of a string escape that has been read. -/
inductive Escape where
  | none
  | begun
  /-- The bytes read so far of the four that have to be hexadecimal digits, and the
  number they spell if they are. -/
  | hex (count : Nat) (value : Option Nat)

/-- A string under way: its pieces, last first, and the escape begun in it. -/
structure Quoted where
  pieces : List Piece := []
  escape : Escape := .none

/-- The part of a number that has been read. -/
inductive Phase where
  | sign
  | zero
  | whole
  | point
  | fraction
  | mark
  | markSign
  | exponent

/-- A container whose value is being read: an array with its items, last first, or an
object with its members, last first, and the key of the value. -/
inductive Frame where
  | array (items : List Node)
  | member (members : List (Written × Node)) (key : Written)

/-- What is under way. -/
inductive Mode where
  /-- A value has to start. -/
  | value
  /-- An array has just been opened. -/
  | firstItem
  /-- An array goes on or ends. -/
  | afterItem (items : List Node)
  /-- An object has just been opened. -/
  | firstKey
  /-- A key has to start. -/
  | key (members : List (Written × Node))
  | inKey (members : List (Written × Node)) (quoted : Quoted)
  /-- A colon has to follow the key. -/
  | colon (members : List (Written × Node)) (key : Written)
  /-- An object goes on or ends. -/
  | afterMember (members : List (Written × Node))
  | inString (quoted : Quoted)
  /-- A literal name of which the characters `rest` are still to come. -/
  | literal (rest : List Char) (node : Node)
  /-- A number, its characters last first. -/
  | number (chars : List Char) (phase : Phase)
  /-- The value of the text is complete. -/
  | done (root : Node)

/-- A reader at work, or one that has met a flaw. -/
inductive State where
  | running (stack : List Frame) (mode : Mode)
  | stopped (document : Document)

/-- Blanks between the parts of a text: space, tab, line feed, carriage return. -/
def isGap (c : Char) : Bool := c == ' ' || c == '\n' || c == '\t' || c == '\r'

/-- The value of a hexadecimal digit. -/
def hexValue? (c : Char) : Option Nat :=
  if '0' ≤ c && c ≤ '9' then some (c.toNat - '0'.toNat)
  else if 'a' ≤ c && c ≤ 'f' then some (c.toNat - 'a'.toNat + 10)
  else if 'A' ≤ c && c ≤ 'F' then some (c.toNat - 'A'.toNat + 10)
  else none

/-- The character a short escape stands for. -/
def shortEscape? (c : Char) : Option Char :=
  if c == '"' || c == '\\' || c == '/' then some c
  else if c == 'b' then some '\x08'
  else if c == 'f' then some '\x0c'
  else if c == 'n' then some '\n'
  else if c == 'r' then some '\r'
  else if c == 't' then some '\t'
  else none

/-- The string read so far, ending in the given way. -/
def Quoted.written (quoted : Quoted) (closing : Closing) : Written :=
  ⟨quoted.pieces.reverse, closing⟩

/-- What a symbol does to a string under way. -/
inductive StringStep where
  | more (quoted : Quoted)
  | finished
  | refused

/-- The number of bytes that a symbol takes. -/
def width (symbol : Option Char) : Nat := symbol.elim 1 Char.utf8Size

/-- The number that hexadecimal digits spell with one more symbol behind them, if it is
a digit too. -/
def appendHex (value : Option Nat) (symbol : Option Char) : Option Nat := do
  return (← value) * 16 + (← hexValue? (← symbol))

/-- One symbol of a string. Four bytes follow the mark of a hexadecimal escape before
they are looked at, so a text that ends among them is one that ends too early. -/
def Quoted.step (quoted : Quoted) (symbol : Option Char) : StringStep :=
  match quoted.escape, symbol with
  | .none, none => .more { quoted with pieces := .stray :: quoted.pieces }
  | .none, some c =>
    if c == '"' then .finished
    else if c == '\\' then .more { quoted with escape := .begun }
    else if c.toNat < 0x20 then .refused
    else .more { quoted with pieces := .char c :: quoted.pieces }
  | .begun, some c =>
    if c == 'u' then .more { quoted with escape := .hex 0 (some 0) }
    else
      match shortEscape? c with
      | some meant => .more ⟨.char meant :: quoted.pieces, .none⟩
      | none => .refused
  | .begun, none => .refused
  | .hex count value, symbol =>
    let count := count + width symbol
    let value := appendHex value symbol
    if count < 4 then .more { quoted with escape := .hex count value }
    else
      match value with
      | some n => .more ⟨.unit n :: quoted.pieces, .none⟩
      | none => .refused

/-- What a character does to a number under way. -/
inductive NumberStep where
  | more (phase : Phase)
  | finished
  | refused

/-- One character after a number that has come to the given phase. A number starts
with a zero only if that is all of its whole part. -/
def Phase.step : Phase → Char → NumberStep
  | .sign, c =>
    if c == '0' then .more .zero else if c.isDigit then .more .whole else .refused
  | .zero, c =>
    if c.isDigit then .refused
    else if c == '.' then .more .point
    else if c == 'e' || c == 'E' then .more .mark
    else .finished
  | .whole, c =>
    if c.isDigit then .more .whole
    else if c == '.' then .more .point
    else if c == 'e' || c == 'E' then .more .mark
    else .finished
  | .point, c => if c.isDigit then .more .fraction else .refused
  | .fraction, c =>
    if c.isDigit then .more .fraction
    else if c == 'e' || c == 'E' then .more .mark
    else .finished
  | .mark, c =>
    if c == '+' || c == '-' then .more .markSign
    else if c.isDigit then .more .exponent
    else .refused
  | .markSign, c => if c.isDigit then .more .exponent else .refused
  | .exponent, c => if c.isDigit then .more .exponent else .finished

/-- Whether a number may end in the phase. -/
def Phase.isComplete : Phase → Bool
  | .zero | .whole | .fraction | .exponent => true
  | _ => false

/-- Goes on behind a complete value. -/
def complete (stack : List Frame) (node : Node) : List Frame × Mode :=
  match stack with
  | [] => ([], .done node)
  | .array items :: rest => (rest, .afterItem (node :: items))
  | .member members key :: rest => (rest, .afterMember ((key, node) :: members))

/-- Starts a value with its first character, if one can start with it. -/
def start? (stack : List Frame) (c : Char) : Option (List Frame × Mode) :=
  if c == '\x7b' then some (stack, .firstKey)
  else if c == '[' then some (stack, .firstItem)
  else if c == '"' then some (stack, .inString {})
  else if c == 'n' then some (stack, .literal "ull".toList .null)
  else if c == 't' then some (stack, .literal "rue".toList (.bool true))
  else if c == 'f' then some (stack, .literal "alse".toList (.bool false))
  else if c == '-' then some (stack, .number ['-'] .sign)
  else if c == '0' then some (stack, .number ['0'] .zero)
  else if c.isDigit then some (stack, .number [c] .whole)
  else none

/-- The containers that are open, closed by a flaw around the value inside them. -/
def enclose (flaw : Flaw) : List Frame → Node → Node
  | [], node => node
  | .array items :: rest, node => enclose flaw rest (.array (node :: items).reverse (.broken flaw))
  | .member members key :: rest, node =>
    enclose flaw rest (.object ((key, node) :: members).reverse (.broken flaw))

/-- What is under way, cut off by a flaw. -/
def Mode.cut (flaw : Flaw) : Mode → Node
  | .value => .broken flaw
  | .firstItem => .array [] (.broken flaw)
  | .afterItem items => .array items.reverse (.broken flaw)
  | .firstKey => .object [] (.broken flaw)
  | .key members => .object members.reverse (.broken flaw)
  | .inKey members quoted =>
    .object ((quoted.written (.broken flaw), .broken flaw) :: members).reverse (.broken flaw)
  | .colon members name => .object ((name, .broken flaw) :: members).reverse (.broken flaw)
  | .afterMember members => .object members.reverse (.broken flaw)
  | .inString quoted => .string (quoted.written (.broken flaw))
  | .literal _ _ => .broken flaw
  | .number chars _ => .number chars.reverse (.broken flaw)
  | .done root => root

/-- Stops at a flaw with all that has been read before it. -/
def stop (flaw : Flaw) (stack : List Frame) (mode : Mode) : Document :=
  match mode with
  | .done root => ⟨root, .broken flaw⟩
  | mode => ⟨enclose flaw stack (mode.cut flaw), .broken flaw⟩

/-- One character where no string and no number is under way. A mode left as it is
has passed over a blank; `none` refuses the character. -/
def stepBetween (stack : List Frame) (mode : Mode) (c : Char) : Option (List Frame × Mode) :=
  match mode with
  | .literal (next :: rest) node =>
    if c != next then none
    else if rest.isEmpty then some (complete stack node)
    else some (stack, .literal rest node)
  | .literal [] _ => none
  | mode =>
    if isGap c then some (stack, mode)
    else
      match mode with
      | .value => start? stack c
      | .firstItem =>
        if c == ']' then some (complete stack (.array [] .closed)) else start? (.array [] :: stack) c
      | .afterItem items =>
        if c == ',' then some (.array items :: stack, .value)
        else if c == ']' then some (complete stack (.array items.reverse .closed))
        else none
      | .firstKey =>
        if c == '"' then some (stack, .inKey [] {})
        else if c == '\x7d' then some (complete stack (.object [] .closed))
        else none
      | .key members => if c == '"' then some (stack, .inKey members {}) else none
      | .colon members key => if c == ':' then some (.member members key :: stack, .value) else none
      | .afterMember members =>
        if c == ',' then some (stack, .key members)
        else if c == '\x7d' then some (complete stack (.object members.reverse .closed))
        else none
      | _ => none

/-- Goes on to the next mode, or stops at a refused symbol. -/
def proceed (stack : List Frame) (mode : Mode) : Option (List Frame × Mode) → State
  | some (stack, mode) => .running stack mode
  | none => .stopped (stop .malformed stack mode)

/-- One symbol of the text. -/
def step (state : State) (symbol : Option Char) : State :=
  match state with
  | .stopped document => .stopped document
  | .running stack mode =>
    match mode, symbol with
    | .inString quoted, symbol =>
      match quoted.step symbol with
      | .more quoted => .running stack (.inString quoted)
      | .finished => proceed stack mode (some (complete stack (.string (quoted.written .closed))))
      | .refused => proceed stack mode none
    | .inKey members quoted, symbol =>
      match quoted.step symbol with
      | .more quoted => .running stack (.inKey members quoted)
      | .finished => .running stack (.colon members (quoted.written .closed))
      | .refused => proceed stack mode none
    | .number chars phase, some c =>
      match phase.step c with
      | .more phase => .running stack (.number (c :: chars) phase)
      | .finished =>
        let (stack, mode) := complete stack (.number chars.reverse .closed)
        proceed stack mode (stepBetween stack mode c)
      | .refused => proceed stack mode none
    | mode, some c => proceed stack mode (stepBetween stack mode c)
    | mode, none => proceed stack mode none

/-- How the symbols of a text come to an end. -/
inductive Ending where
  /-- There is no more text. -/
  | complete
  /-- There would be more text, but it cannot be had. -/
  | interrupted
  deriving DecidableEq, Repr

/-- The document of a text that ends here. A number is complete at the end of a text,
but nobody knows whether an interrupted one goes on. -/
def finish (ending : Ending) : State → Document
  | .stopped document => document
  | .running stack mode =>
    match mode, ending with
    | .done root, .complete => ⟨root, .closed⟩
    | .number chars phase, .complete =>
      if phase.isComplete then
        match complete stack (.number chars.reverse .closed) with
        | (_, .done root) => ⟨root, .closed⟩
        | (stack, mode) => stop .ended stack mode
      else stop .ended stack mode
    | mode, _ => stop .ended stack mode

/-- Reads the symbols of a text; `none` stands for a byte that is no text. -/
def read (symbols : List (Option Char)) (ending : Ending) : Document :=
  finish ending (symbols.foldl step (.running [] .value))

/-- Reads a text. -/
def readText (text : String) : Document := read (text.toList.map some) .complete

end TypeStubs.Json.Reader

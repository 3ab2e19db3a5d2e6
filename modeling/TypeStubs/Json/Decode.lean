import TypeStubs.Json.Value

/-! Decoding nodes into records. A record is written as an object whose members come in
any order, or as an array of its fields in their fixed order. Members nobody knows are
passed over. The first fault in the order of the text is the one reported. -/
namespace TypeStubs.Json

/-- Why a node does not decode. -/
inductive Fault where
  /-- The text is no JSON. -/
  | flaw (flaw : Flaw)
  /-- The text is JSON of another shape. -/
  | shape
  /-- The value has the right shape and is refused for a reason of its own. -/
  | refused (reason : String)
  deriving DecidableEq, Repr

/-- A way to decode nodes, given how deep containers may nest in them. -/
abbrev Decoder (α : Type) := Nat → Node → Except Fault α

namespace Decode

/-- A flaw of the text as a fault. -/
def lift (result : Except Flaw α) : Except Fault α := result.mapError .flaw

/-- Passes over a node. A flaw inside it shows at its end, because every container
around a flaw is broken by it. -/
def ignore : Node → Except Flaw Unit
  | .null => .ok ()
  | .bool _ => .ok ()
  | .number _ closing => closing.check
  | .string text => text.closing.check
  | .array _ closing => closing.check
  | .object _ closing => closing.check
  | .broken flaw => .error flaw

/-- Refuses a node for its shape. Strings and numbers are looked at first, and may
turn out to be flawed; containers are refused at once. -/
def mismatch (node : Node) : Except Fault α := do
  match node with
  | .array .. => .error .shape
  | .object .. => .error .shape
  | node =>
    let _ ← lift (Value.ofNode 0 node)
    .error .shape

/-- A string. -/
def string : Decoder String := fun _ node =>
  match node with
  | .string text => lift text.text
  | node => mismatch node

/-- A value, or null for none. -/
def nullable (decoder : Decoder α) : Decoder (Option α) := fun room node =>
  match node with
  | .null => .ok none
  | node => some <$> decoder room node

/-- Enters a container, if there is room for one more. -/
def enter (room : Nat) (inside : Nat → Except Fault α) : Except Fault α :=
  match room with
  | 0 => .error (.flaw .malformed)
  | room + 1 => inside room

/-- An array of values. -/
def list (decoder : Decoder α) : Decoder (List α) := fun room node =>
  match node with
  | .array items closing =>
    enter room fun room => do
      let values ← items.mapM (decoder room)
      lift closing.check
      .ok values
  | node => mismatch node

/-- An array of values, or null for an empty one. -/
def listOrNull (decoder : Decoder α) : Decoder (List α) := fun room node =>
  (·.getD []) <$> nullable (list decoder) room node

/-- One field of a record: its name, the other names it may have, whether it has to be
there, and how it is read into the record. -/
structure Slot (α : Type) where
  name : String
  aliases : List String
  required : Bool
  read : Nat → Node → α → Except Fault α

namespace Slot

/-- Whether the slot goes by the name. -/
def answers (slot : Slot α) (name : String) : Bool :=
  slot.name == name || slot.aliases.contains name

end Slot

/-- Reads members in order into a record, given the names of the fields read already.
No field may be read twice. -/
def fillMembers (slots : List (Slot α)) (room : Nat) :
    α → List String → List (Written × Node) → Except Fault (α × List String)
  | record, filled, [] => .ok (record, filled)
  | record, filled, (key, node) :: rest => do
    let name ← lift key.text
    match slots.find? (·.answers name) with
    | some slot =>
      if filled.contains slot.name then .error .shape
      else
        let record ← slot.read room node record
        fillMembers slots room record (slot.name :: filled) rest
    | none =>
      lift (ignore node)
      fillMembers slots room record filled rest

/-- Reads items in order into the fields of a record, and gives back the names of the
fields read. The array may end early, but may not go on behind the last field. -/
def fillItems (room : Nat) (closing : Closing) :
    List (Slot α) → α → List String → List Node → Except Fault (α × List String)
  | _, record, filled, [] => do
    lift closing.check
    .ok (record, filled)
  | [], _, _, _ :: _ => .error .shape
  | slot :: slots, record, filled, node :: rest => do
    let record ← slot.read room node record
    fillItems room closing slots record (slot.name :: filled) rest

/-- Requires every required field to have been read. -/
def require (slots : List (Slot α)) (result : α × List String) : Except Fault α :=
  if slots.all fun slot => !slot.required || result.2.contains slot.name then .ok result.1
  else .error .shape

/-- A record, starting from a blank one. -/
def record (slots : List (Slot α)) (blank : α) : Decoder α := fun room node =>
  match node with
  | .object members closing =>
    enter room fun room => do
      let result ← fillMembers slots room blank [] members
      lift closing.check
      require slots result
  | .array items closing =>
    enter room fun room => do
      let result ← fillItems room closing slots blank [] items
      require slots result
  | node => mismatch node

/-- Decodes a whole document. -/
def document (decoder : Decoder α) (document : Document) : Except Fault α := do
  let value ← decoder Value.nestingLimit document.root
  lift document.closing.check
  .ok value

end Decode

end TypeStubs.Json

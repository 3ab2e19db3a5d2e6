import TypeStubs.Json.Reader
import TypeStubs.Json.Value

/-! Reading the compact text of a value gives the value back as a node, string by string
and container by container. Numbers are left out: they end only where something else
starts, and no description that is written has any. -/
namespace TypeStubs.CompactText
open Json Json.Reader

/-- The piece that an escaped character is read as: a unit for control characters without
a short escape, and else the character itself. -/
def piece (c : Char) : Piece :=
  if c.toNat < 0x20 ∧ c ∉ ['\n', '\r', '\t', '\x08', '\x0c'] then .unit c.toNat else .char c

/-- A text as it is read between quotes. -/
def written (text : String) : Written := ⟨text.toList.map piece, .closed⟩

mutual

/-- A value as it is read. -/
def node : Value → Node
  | .null => .null
  | .bool value => .bool value
  | .number value => .number value.text.toList .closed
  | .string value => .string (written value)
  | .array items => .array (itemNodes items) .closed
  | .object members => .object (memberNodes members) .closed

/-- The items of an array as they are read. -/
def itemNodes : List Value → List Node
  | [] => []
  | value :: rest => node value :: itemNodes rest

/-- The members of an object as they are read. -/
def memberNodes : List (String × Value) → List (Written × Node)
  | [] => []
  | (key, value) :: rest => (written key, node value) :: memberNodes rest

end

theorem item_nodes_eq (items : List Value) : itemNodes items = items.map node := by
  induction items with
  | nil => rfl
  | cons value rest ih => rw [itemNodes, ih, List.map_cons]

/-- A value in which no number stands. -/
inductive Numberless : Value → Prop where
  | null : Numberless .null
  | bool (value : Bool) : Numberless (.bool value)
  | string (text : String) : Numberless (.string text)
  | array (inside : ∀ item ∈ items, Numberless item) : Numberless (.array items)
  | object (inside : ∀ member ∈ members, Numberless member.2) : Numberless (.object members)

/-- A string under way after some characters, none of which ends or breaks it. -/
def advance (quoted : Quoted) : List Char → Option Quoted
  | [] => some quoted
  | c :: rest =>
    match quoted.step (some c) with
    | .more next => advance next rest
    | _ => none

private theorem advance_append (quoted next : Quoted) (front behind : List Char)
    (goes : advance quoted front = some next) :
    advance quoted (front ++ behind) = advance next behind := by
  induction front generalizing quoted with
  | nil =>
    cases goes
    rfl
  | cons c rest ih =>
    simp only [List.cons_append, advance] at goes ⊢
    split at goes
    · rename_i after step
      exact ih after goes
    · cases goes

private theorem hex_digit_value : ∀ digit < 16, hexValue? (Value.hexDigit digit) = some digit := by decide

private theorem hex_digit_width : ∀ digit < 16, width (some (Value.hexDigit digit)) = 1 := by decide

/-- Four hexadecimal digits behind their mark are read as one unit. -/
theorem advance_unit (pieces : List Piece) (n : Nat) (bound : n < 256) :
    advance ⟨pieces, .none⟩ ['\\', 'u', '0', '0', Value.hexDigit (n / 16), Value.hexDigit (n % 16)] =
      some ⟨.unit n :: pieces, .none⟩ := by
  have high := hex_digit_value (n / 16) (by omega)
  have low := hex_digit_value (n % 16) (by omega)
  have highWidth := hex_digit_width (n / 16) (by omega)
  have lowWidth := hex_digit_width (n % 16) (by omega)
  have zero : hexValue? '0' = some 0 := by decide
  have zeroWidth : width (some '0') = 1 := by decide
  have whole : n / 16 * 16 + n % 16 = n := by omega
  simp [advance, Quoted.step, appendHex, high, low, highWidth, lowWidth, zero, zeroWidth, whole]

/-- An escaped character is read as its piece. -/
theorem advance_escape (pieces : List Piece) (c : Char) :
    advance ⟨pieces, .none⟩ (Value.escape c) = some ⟨piece c :: pieces, .none⟩ := by
  by_cases short : c ∈ ['"', '\\', '\n', '\r', '\t', '\x08', '\x0c']
  · simp only [List.mem_cons, List.not_mem_nil, or_false] at short
    rcases short with rfl | rfl | rfl | rfl | rfl | rfl | rfl <;> rfl
  · simp only [List.mem_cons, List.not_mem_nil, or_false, not_or] at short
    obtain ⟨quote, slash, feed, carriage, tab, back, page⟩ := short
    simp only [Value.escape, beq_iff_eq, quote, slash, feed, carriage, tab, back, page, ↓reduceIte]
    by_cases control : c.toNat < 0x20
    · have unit : piece c = .unit c.toNat := by
        simp [piece, control, feed, carriage, tab, back, page]
      rw [if_pos control, unit]
      exact advance_unit pieces c.toNat (by omega)
    · have plain : piece c = .char c := by simp [piece, control]
      simp [control, plain, advance, Quoted.step, quote, slash]

/-- A text in its escapes is read piece by piece. -/
theorem advance_text (pieces : List Piece) (text : List Char) :
    advance ⟨pieces, .none⟩ (text.flatMap Value.escape) =
      some ⟨(text.map piece).reverse ++ pieces, .none⟩ := by
  induction text generalizing pieces with
  | nil => rfl
  | cons c rest ih =>
    rw [List.flatMap_cons, advance_append _ _ _ _ (advance_escape pieces c), ih]
    simp

/-- The reader after some more characters. -/
def feed (state : State) (text : List Char) : State := (text.map some).foldl step state

private theorem feed_nil (state : State) : feed state [] = state := rfl

private theorem feed_cons (state : State) (c : Char) (rest : List Char) :
    feed state (c :: rest) = feed (step state (some c)) rest := rfl

private theorem feed_append (state : State) (front behind : List Char) :
    feed state (front ++ behind) = feed (feed state front) behind := by
  simp [feed]

/-- The reader behind a complete value. -/
def behind (stack : List Frame) (value : Node) : State :=
  .running (complete stack value).1 (complete stack value).2

/-- A mode that takes a string symbol by symbol takes any text that the string goes on
with. -/
theorem feed_quoted (stack : List Frame) (mode : Quoted → Mode)
    (carries : ∀ quoted next c, quoted.step (some c) = .more next →
      step (.running stack (mode quoted)) (some c) = .running stack (mode next))
    (goes : advance quoted text = some next) :
    feed (.running stack (mode quoted)) text = .running stack (mode next) := by
  induction text generalizing quoted with
  | nil =>
    cases goes
    rfl
  | cons c rest ih =>
    simp only [advance] at goes
    split at goes
    · rename_i after moved
      rw [feed_cons, carries quoted after c moved]
      exact ih goes
    · cases goes

/-- A string is read up to and with its closing quote. -/
theorem feed_string (stack : List Frame) (text : String) :
    feed (.running stack .value) (Value.quote text) = behind stack (.string (written text)) := by
  have inside := feed_quoted stack .inString
    (by
      intro quoted next c moved
      simp only [step, moved])
    (advance_text [] text.toList)
  have opened : step (.running stack .value) (some '"') = .running stack (.inString {}) := rfl
  rw [Value.quote, List.cons_append, feed_cons, opened, feed_append, inside, feed_cons, feed_nil]
  simp [step, Quoted.step, proceed, Quoted.written, behind, written]

/-- A key is read up to and with its closing quote. -/
theorem feed_key (stack : List Frame) (members : List (Written × Node)) (text : String) :
    feed (.running stack (.key members)) (Value.quote text) =
      .running stack (.colon members (written text)) := by
  have inside := feed_quoted stack (.inKey members)
    (by
      intro quoted next c moved
      simp only [step, moved])
    (advance_text [] text.toList)
  have opened : step (.running stack (.key members)) (some '"') =
    .running stack (.inKey members {}) := rfl
  rw [Value.quote, List.cons_append, feed_cons, opened, feed_append, inside, feed_cons, feed_nil]
  simp [step, Quoted.step, Quoted.written, written]

/-- Every value starts with a character of its own kind. -/
theorem chars_head (numberless : Numberless value) :
    ∃ first rest, value.chars = first :: rest ∧ first ∈ ['n', 't', 'f', '"', '[', '\x7b'] := by
  cases numberless with
  | null => exact ⟨'n', _, rfl, by decide⟩
  | bool value =>
    cases value
    · exact ⟨'f', _, rfl, by decide⟩
    · exact ⟨'t', _, rfl, by decide⟩
  | string text => exact ⟨'"', _, rfl, by decide⟩
  | array inside => exact ⟨'[', _, by rw [Value.chars, List.cons_append], by decide⟩
  | object inside => exact ⟨'\x7b', _, by rw [Value.chars, List.cons_append], by decide⟩

/-- The first item of an array is read as any other, with none before it. -/
theorem feed_first_item (stack : List Frame) (numberless : Numberless value) (rest : List Char) :
    feed (.running stack .firstItem) (value.chars ++ rest) =
      feed (.running (.array [] :: stack) .value) (value.chars ++ rest) := by
  obtain ⟨first, behind, starts, kind⟩ := chars_head numberless
  have same : step (.running stack .firstItem) (some first) =
      step (.running (.array [] :: stack) .value) (some first) := by
    simp only [List.mem_cons, List.not_mem_nil, or_false] at kind
    rcases kind with rfl | rfl | rfl | rfl | rfl | rfl <;> rfl
  rw [starts, List.cons_append, feed_cons, feed_cons, same]

private theorem items_start (first : Value) (rest : List Value) :
    ∃ tail, Value.itemChars (first :: rest) = first.chars ++ tail := by
  cases rest with
  | nil => exact ⟨[], by simp [Value.itemChars]⟩
  | cons next later => exact ⟨',' :: Value.itemChars (next :: later), by simp [Value.itemChars]⟩

private theorem members_start (first : String × Value) (rest : List (String × Value)) :
    ∃ tail, Value.memberChars (first :: rest) = '"' :: tail := by
  obtain ⟨key, value⟩ := first
  cases rest with
  | nil => exact ⟨_, by rw [Value.memberChars, Value.quote, List.cons_append, List.cons_append]⟩
  | cons next later => exact ⟨_, by simp [Value.memberChars, Value.quote]; rfl⟩

/-- Items are read in order, behind those that are there already. -/
theorem feed_items (stack : List Frame) (before : List Node) (items : List Value)
    (each : ∀ item ∈ items, ∀ stack,
      feed (.running stack .value) item.chars = behind stack (node item))
    (nonempty : items ≠ []) :
    feed (.running (.array before :: stack) .value) (Value.itemChars items) =
      .running stack (.afterItem ((itemNodes items).reverse ++ before)) := by
  induction items generalizing before with
  | nil => exact absurd rfl nonempty
  | cons item rest ih =>
    have here : feed (.running (.array before :: stack) .value) item.chars =
      .running stack (.afterItem (node item :: before)) := each item (by simp) _
    cases rest with
    | nil => simpa [Value.itemChars, itemNodes] using here
    | cons next later =>
      have comma : step (.running stack (.afterItem (node item :: before))) (some ',') =
        .running (.array (node item :: before) :: stack) .value := rfl
      rw [Value.itemChars, feed_append, here, feed_cons, comma,
        ih (node item :: before) (fun other member => each other (by simp [member])) (by simp)]
      · simp [itemNodes]
      · simp

/-- Members are read in order, behind those that are there already. -/
theorem feed_members (stack : List Frame) (before : List (Written × Node))
    (members : List (String × Value))
    (each : ∀ member ∈ members, ∀ stack,
      feed (.running stack .value) member.2.chars = behind stack (node member.2))
    (nonempty : members ≠ []) :
    feed (.running stack (.key before)) (Value.memberChars members) =
      .running stack (.afterMember ((memberNodes members).reverse ++ before)) := by
  induction members generalizing before with
  | nil => exact absurd rfl nonempty
  | cons member rest ih =>
    obtain ⟨key, value⟩ := member
    have here : feed (.running stack (.key before)) (Value.quote key ++ ':' :: value.chars) =
        .running stack (.afterMember ((written key, node value) :: before)) := by
      have colon : step (.running stack (.colon before (written key))) (some ':') =
        .running (.member before (written key) :: stack) .value := rfl
      rw [feed_append, feed_key, feed_cons, colon, each (key, value) (by simp)]
      rfl
    cases rest with
    | nil => simpa [Value.memberChars, memberNodes] using here
    | cons next later =>
      have comma : step (.running stack (.afterMember ((written key, node value) :: before)))
        (some ',') = .running stack (.key ((written key, node value) :: before)) := rfl
      rw [Value.memberChars, feed_append, here, feed_cons, comma,
        ih _ (fun other member => each other (by simp [member])) (by simp)]
      · simp [memberNodes]
      · simp

/-- An array is read to its closing bracket, if its items are read to their ends. -/
theorem feed_array (stack : List Frame) (items : List Value) (inside : ∀ item ∈ items, Numberless item)
    (each : ∀ item ∈ items, ∀ stack,
      feed (.running stack .value) item.chars = behind stack (node item)) :
    feed (.running stack .value) (Value.array items).chars = behind stack (node (.array items)) := by
  have opened : step (.running stack .value) (some '[') = .running stack .firstItem := rfl
  have closed (nodes : List Node) : step (.running stack (.afterItem nodes)) (some ']') =
    behind stack (.array nodes.reverse .closed) := rfl
  rw [Value.chars, List.cons_append, feed_cons, opened]
  cases items with
  | nil => rfl
  | cons first rest =>
    have start : feed (.running stack .firstItem) (Value.itemChars (first :: rest)) =
        feed (.running (.array [] :: stack) .value) (Value.itemChars (first :: rest)) := by
      obtain ⟨tail, shape⟩ := items_start first rest
      rw [shape]
      exact feed_first_item stack (inside first (by simp)) tail
    rw [feed_append, start, feed_items stack [] _ each (by simp), feed_cons, feed_nil, closed]
    simp [node]

/-- An object is read to its closing brace, if its values are read to their ends. -/
theorem feed_object (stack : List Frame) (members : List (String × Value))
    (each : ∀ member ∈ members, ∀ stack,
      feed (.running stack .value) member.2.chars = behind stack (node member.2)) :
    feed (.running stack .value) (Value.object members).chars =
      behind stack (node (.object members)) := by
  have opened : step (.running stack .value) (some '\x7b') = .running stack .firstKey := rfl
  have closed (nodes : List (Written × Node)) :
    step (.running stack (.afterMember nodes)) (some '\x7d') =
      behind stack (.object nodes.reverse .closed) := rfl
  rw [Value.chars, List.cons_append, feed_cons, opened]
  cases members with
  | nil => rfl
  | cons first rest =>
    have start : feed (.running stack .firstKey) (Value.memberChars (first :: rest)) =
        feed (.running stack (.key [])) (Value.memberChars (first :: rest)) := by
      obtain ⟨tail, shape⟩ := members_start first rest
      rw [shape]
      rfl
    rw [feed_append, start, feed_members stack [] _ each (by simp), feed_cons, feed_nil, closed]
    simp [node]

/-- A value is read to its end, whatever is open around it. -/
theorem feed_value (numberless : Numberless value) (stack : List Frame) :
    feed (.running stack .value) value.chars = behind stack (node value) := by
  induction numberless generalizing stack with
  | null => rfl
  | bool value => cases value <;> rfl
  | string text => exact feed_string stack text
  | array inside ih => exact feed_array stack _ inside ih
  | object inside ih => exact feed_object stack _ ih

/-- Reading the compact text of a value gives the value, and nothing behind it. -/
theorem read_compact (numberless : Numberless value) :
    readText value.compact = ⟨node value, .closed⟩ := by
  have whole : feed (.running [] .value) value.chars = .running [] (.done (node value)) :=
    feed_value numberless []
  have symbols : value.compact.toList = value.chars := by simp [Value.compact]
  rw [readText, symbols]
  calc finish .complete (feed (.running [] .value) value.chars)
      = finish .complete (.running [] (.done (node value))) := by rw [whole]
    _ = ⟨node value, .closed⟩ := rfl

/-- A character read as a unit is no half of a pair, and spells itself. -/
theorem spell_unit (n : Nat) (control : n < 0x20) (rest : List Piece) (closing : Closing) :
    Written.spell (.unit n :: rest) closing =
      (some (Char.ofNat n) :: ·) <$> Written.spell rest closing := by
  have lead : Written.isLead n = false := by simp [Written.isLead]; omega
  have trail : Written.isTrail n = false := by simp [Written.isTrail]; omega
  match rest with
  | [] => simp [Written.spell, lead, trail]
  | .char c :: rest => simp [Written.spell, lead, trail]
  | .unit m :: rest => simp [Written.spell, lead, trail]
  | .stray :: rest => simp [Written.spell, lead, trail]

private theorem spell_pieces (text : List Char) :
    Written.spell (text.map piece) .closed = .ok (text.map some) := by
  induction text with
  | nil => rfl
  | cons c rest ih =>
    have first : Written.spell (piece c :: rest.map piece) .closed =
        (some c :: ·) <$> Written.spell (rest.map piece) .closed := by
      unfold piece
      split
      · rename_i control
        rw [spell_unit c.toNat control.1, Char.ofNat_toNat]
      · rw [Written.spell]
    rw [List.map_cons, first, ih]
    rfl

/-- A text between quotes means itself. -/
@[simp]
theorem written_text (text : String) : (written text).text = .ok text := by
  have all : (text.toList.map some).mapM id = some text.toList := by
    induction text.toList with
    | nil => rfl
    | cons c rest ih => simp [ih]
  have spelled : Written.spell (written text).pieces (written text).closing =
    .ok (text.toList.map some) := spell_pieces text.toList
  simp only [Written.text, spelled]
  simp [bind, Except.bind, all]

end TypeStubs.CompactText

import Mathlib.Logic.Relation
import TypeStubs.Proofs.DescriptionRoundTrip
import TypeStubs.Proofs.RecordTolerance

/-! Descriptions as other programs write them. The members of a record may be reordered,
renamed to their second names, set to null or left out where they are empty, and joined by
members that nobody knows, at any place and any number of times: what is read stays the
same. -/
namespace TypeStubs.LooseDescriptions
open Json Json.Decode CompactText RecordReading RecordTolerance DescriptionRoundTrip

/-! ## Changes to a document -/

/-- One field of a record: its name, its other names, and what it holds. -/
structure Field (σ : Type) where
  name : String
  aliases : List String := []
  shape : σ

/-- All names of a field. -/
def Field.names (field : Field σ) : List String := field.name :: field.aliases

/-- What a part of a description may be. -/
inductive Shape where
  | text
  /-- A text, or null for none. -/
  | optional
  /-- The value map of an enumeration. -/
  | entries
  | list (item : Shape)
  | record (fields : List (Field Shape))

/-- What stands for nothing: no text, no entries or no items. -/
inductive Empty : Shape → Value → Prop where
  | optional : Empty .optional .null
  | entries : Empty .entries (.object [])
  | noEntries : Empty .entries .null
  | list : Empty (.list item) (.array [])
  | noList : Empty (.list item) .null

/-- One change, at one place of a document of the shape. -/
inductive Step : Shape → Value → Value → Prop where
  /-- Inside an item of a list. -/
  | item (front : List Value) (step : Step item value other) :
    Step (.list item) (.array (front ++ value :: rest)) (.array (front ++ other :: rest))
  /-- Inside a member of a record. -/
  | member (front : List (String × Value)) (known : field ∈ fields) (named : name ∈ field.names)
    (step : Step field.shape value other) :
    Step (.record fields) (.object (front ++ (name, value) :: rest))
      (.object (front ++ (name, other) :: rest))
  /-- The members of a record come in another order. -/
  | reordered (order : members.Perm others) :
    Step (.record fields) (.object members) (.object others)
  /-- A member goes by another name of its field. -/
  | renamed (front : List (String × Value)) (known : field ∈ fields)
    (named : name ∈ field.aliases) :
    Step (.record fields) (.object (front ++ (field.name, value) :: rest))
      (.object (front ++ (name, value) :: rest))
  /-- An empty member becomes null. -/
  | nulled (front : List (String × Value)) (known : field ∈ fields) (named : name ∈ field.names)
    (empty : Empty field.shape value) :
    Step (.record fields) (.object (front ++ (name, value) :: rest))
      (.object (front ++ (name, .null) :: rest))
  /-- An empty member is left out. -/
  | dropped (front : List (String × Value)) (known : field ∈ fields) (named : name ∈ field.names)
    (empty : Empty field.shape value) :
    Step (.record fields) (.object (front ++ (name, value) :: rest)) (.object (front ++ rest))
  /-- A member that is for no field is added, with any value that holds no number. -/
  | added (front : List (String × Value)) (foreign : ∀ field ∈ fields, name ∉ field.names)
    (plain : Numberless value) :
    Step (.record fields) (.object (front ++ rest))
      (.object (front ++ (name, value) :: rest))

/-- A member: a field, a property or a parameter. -/
def memberShape : Shape := .record [⟨"Identifier", [], .text⟩, ⟨"Type", [], .text⟩]

/-- A model. -/
def modelShape : Shape := .record [
  ⟨"ModelName", ["Name"], .text⟩,
  ⟨"BaseClasses", [], .list .text⟩,
  ⟨"Fields", [], .list memberShape⟩,
  ⟨"Properties", [], .list memberShape⟩]

/-- An enumeration. -/
def enumerationShape : Shape := .record [⟨"Identifier", [], .text⟩, ⟨"Values", [], .entries⟩]

/-- A method. -/
def methodShape : Shape := .record [
  ⟨"Identifier", [], .text⟩,
  ⟨"Type", [], .text⟩,
  ⟨"Route", [], .optional⟩,
  ⟨"HttpMethod", [], .optional⟩,
  ⟨"Parameters", [], .list memberShape⟩]

/-- A controller. -/
def controllerShape : Shape := .record [
  ⟨"ModelName", ["Name"], .text⟩,
  ⟨"BaseClasses", [], .list .text⟩,
  ⟨"Methods", [], .list methodShape⟩]

/-- A source file. -/
def fileShape : Shape := .record [
  ⟨"FileName", ["Path"], .text⟩,
  ⟨"Namespace", [], .optional⟩,
  ⟨"Models", [], .list modelShape⟩,
  ⟨"Enums", [], .list enumerationShape⟩,
  ⟨"Controllers", [], .list controllerShape⟩]

/-- The document comes from the other by changes, one after another. -/
def Loosened (document other : Value) : Prop :=
  Relation.ReflTransGen (Step (.list fileShape)) document other

/-! ## Readers that do not mind the changes -/

/-- What is read before a change is read after it. -/
def Tolerant (shape : Shape) (decoder : Decoder α) : Prop :=
  ∀ ⦃room value other result⦄, Step shape value other →
    decoder room (node value) = .ok result → decoder room (node other) = .ok result

/-- What stands for nothing is read as the blank value, null among it. -/
structure Blanks (shape : Shape) (decoder : Decoder α) (blank : α) : Prop where
  null : Empty shape value → decoder room (node .null) = .ok blank
  only : Empty shape value → decoder room (node value) = .ok result → result = blank

private theorem text_tolerant : Tolerant .text Decode.string := by
  intro room value other result step
  cases step

private theorem text_blanks (blank : String) : Blanks .text Decode.string blank where
  null empty := by cases empty
  only empty := by cases empty

private theorem optional_tolerant : Tolerant .optional (nullable Decode.string) := by
  intro room value other result step
  cases step

private theorem optional_blanks : Blanks .optional (nullable Decode.string) none where
  null _ := by simp [nullable, node]
  only empty read := by
    cases empty
    cases read
    rfl

private theorem entries_tolerant : Tolerant .entries Enumeration.entriesDecoder := by
  intro room value other result step
  cases step

private theorem entries_blanks : Blanks .entries Enumeration.entriesDecoder [] where
  null _ := by simp [Enumeration.entriesDecoder, node]
  only empty read := by
    cases empty with
    | noEntries =>
      cases read
      rfl
    | entries =>
      obtain ⟨less, entered⟩ := enter_ok read
      cases entered
      rfl

private theorem map_m_replaced {decode : β → Except ε γ} {front behind : List β} {item other : β}
    (same : ∀ value, decode item = .ok value → decode other = .ok value)
    (read : (front ++ item :: behind).mapM decode = .ok values) :
    (front ++ other :: behind).mapM decode = .ok values := by
  induction front generalizing values with
  | nil =>
    obtain ⟨value, later, here, there, rfl⟩ := map_m_cons_eq_ok.mp read
    exact map_m_cons_eq_ok.mpr ⟨value, later, same value here, there, rfl⟩
  | cons first rest ih =>
    obtain ⟨value, later, here, there, rfl⟩ := map_m_cons_eq_ok.mp read
    exact map_m_cons_eq_ok.mpr ⟨value, later, here, ih there, rfl⟩

private theorem list_tolerant {decoder : Decoder α} (tolerant : Tolerant item decoder) :
    Tolerant (.list item) (list decoder) := by
  intro room value other result step read
  cases step with
  | item front step =>
    cases room with
    | zero => cases read
    | succ room =>
      simp only [list, node, enter, item_nodes_eq, List.map_append, List.map_cons] at read ⊢
      obtain ⟨values, items, ended⟩ := bind_eq_ok.mp read
      have replaced := map_m_replaced (fun value here => tolerant step here) items
      exact bind_eq_ok.mpr ⟨values, replaced, ended⟩

private theorem list_or_null_array (decoder : Decoder α) (room : Nat) (items : List Value) :
    listOrNull decoder room (node (.array items)) = list decoder room (node (.array items)) := by
  simp only [listOrNull, node, nullable]
  cases list decoder room (.array (itemNodes items) .closed) <;> rfl

private theorem list_or_null_tolerant {decoder : Decoder α} (tolerant : Tolerant item decoder) :
    Tolerant (.list item) (listOrNull decoder) := by
  intro room value other result step read
  have listed : list decoder room (node value) = .ok result →
    list decoder room (node other) = .ok result := fun read => list_tolerant tolerant step read
  cases step
  rw [list_or_null_array] at read ⊢
  exact listed read

private theorem list_blanks {decoder : Decoder α} : Blanks (.list item) (listOrNull decoder) [] where
  null _ := by simp [listOrNull, nullable, node, Functor.map, Except.map]
  only empty read := by
    cases empty with
    | noList =>
      cases read
      rfl
    | list =>
      rw [list_or_null_array] at read
      obtain ⟨less, entered⟩ := enter_ok read
      cases entered
      rfl

/-- The field of the record is read as its shape says, and empty as it is in a blank one. -/
structure Fits (blank : α) (field : Field Shape) (slot : Slot α) : Prop where
  name : slot.name = field.name
  aliases : slot.aliases = field.aliases
  tolerant : Step field.shape value other → slot.read room (node value) before = .ok after →
    slot.read room (node other) before = .ok after
  free : Empty field.shape value → slot.required = false
  null : Empty field.shape value → slot.read room (node value) before = .ok after →
    slot.read room (node .null) before = .ok after
  idle : Empty field.shape value → slot.read room (node value) blank = .ok after → after = blank

/-- A field that only sets what its decoder reads fits, if the decoder does. -/
theorem setter_fits {decoder : Decoder β} {empty : β} {set : β → α → α}
    (tolerant : Tolerant shape decoder) (blanks : Blanks shape decoder empty)
    (start : set empty blank = blank) (free : ∀ value, Empty shape value → required = false) :
    Fits blank ⟨name, aliases, shape⟩ ⟨name, aliases, required,
      fun room node record => return set (← decoder room node) record⟩ where
  name := rfl
  aliases := rfl
  tolerant step read := by
    obtain ⟨given, here, same⟩ := bind_eq_ok.mp read
    exact bind_eq_ok.mpr ⟨given, tolerant step here, same⟩
  free := free _
  null none read := by
    obtain ⟨given, here, same⟩ := bind_eq_ok.mp read
    cases blanks.only none here
    exact bind_eq_ok.mpr ⟨empty, blanks.null none, same⟩
  idle none read := by
    obtain ⟨given, here, same⟩ := bind_eq_ok.mp read
    cases blanks.only none here
    cases same
    exact start

private theorem fitting_slot {slots : List (Slot α)} {fields : List (Field Shape)}
    (fits : List.Forall₂ (Fits blank) fields slots) (known : field ∈ fields) :
    ∃ slot ∈ slots, Fits blank field slot := by
  induction fits with
  | nil => cases known
  | cons first rest ih =>
    rcases List.mem_cons.mp known with rfl | known
    · exact ⟨_, by simp, first⟩
    · obtain ⟨slot, member, fit⟩ := ih known
      exact ⟨slot, by simp [member], fit⟩

/-- A field is read by one slot, whichever of its names is used. -/
theorem known_slot {slots : List (Slot α)} {fields : List (Field Shape)} (regular : Regular slots)
    (fits : List.Forall₂ (Fits blank) fields slots) (known : field ∈ fields) :
    ∃ slot, Fits blank field slot ∧
      ∀ name ∈ field.names, slots.find? (·.answers name) = some slot := by
  obtain ⟨slot, member, fit⟩ := fitting_slot fits known
  refine ⟨slot, fit, fun name named => regular.found slot member name ?_⟩
  rw [fit.name, fit.aliases]
  exact named

private theorem foreign_slot {slots : List (Slot α)} {fields : List (Field Shape)}
    (fits : List.Forall₂ (Fits blank) fields slots)
    (foreign : ∀ field ∈ fields, name ∉ field.names) :
    slots.find? (·.answers name) = none := by
  induction fits with
  | nil => rfl
  | @cons field slot fields slots first rest ih =>
    have later := ih fun other member => foreign other (by simp [member])
    have apart := foreign field (by simp)
    have silent : slot.answers name = false := by
      simp only [Field.names, List.mem_cons, not_or] at apart
      simp [Slot.answers, first.name, first.aliases, apart, Ne.symm apart.1]
    rw [List.find?_cons, silent]
    exact later

/-- A record is tolerant if its fields are. -/
theorem record_tolerant {slots : List (Slot α)} {fields : List (Field Shape)}
    (regular : Regular slots) (fits : List.Forall₂ (Fits blank) fields slots) :
    Tolerant (.record fields) (record slots blank) := by
  intro room value other result step read
  cases room with
  | zero => cases step <;> cases read
  | succ room =>
    cases step with
    | member front known named step =>
      obtain ⟨slot, fit, found⟩ := known_slot regular fits known
      exact record_rewritten (found _ named) (found _ named)
        (fun before after => fit.tolerant step) read
    | reordered order => exact record_reordered regular order read
    | renamed front known named =>
      obtain ⟨slot, fit, found⟩ := known_slot regular fits known
      have own := found _ List.mem_cons_self
      have second := found _ (List.mem_cons_of_mem _ named)
      exact record_rewritten own second (fun before after => id) read
    | nulled front known named empty =>
      obtain ⟨slot, fit, found⟩ := known_slot regular fits known
      exact record_rewritten (found _ named) (found _ named)
        (fun before after => fit.null empty) read
    | dropped front known named empty =>
      obtain ⟨slot, fit, found⟩ := known_slot regular fits known
      exact record_reduced regular (found _ named) (fit.free empty)
        (fun after => fit.idle empty) read
    | added front foreign plain => exact record_extended (foreign_slot fits foreign) _ read

/-! ## The records of a description -/

/-- A required text. -/
theorem text_fits {set : String → α → α} (start : set "" blank = blank) :
    Fits blank ⟨name, aliases, .text⟩ ⟨name, aliases, true,
      fun room node record => return set (← Decode.string room node) record⟩ :=
  setter_fits text_tolerant (text_blanks "") start (by rintro _ ⟨⟩)

private theorem optional_fits {set : Option String → α → α} (start : set none blank = blank) :
    Fits blank ⟨name, aliases, .optional⟩ ⟨name, aliases, false,
      fun room node record => return set (← nullable Decode.string room node) record⟩ :=
  setter_fits optional_tolerant optional_blanks start fun _ _ => rfl

private theorem list_fits {decoder : Decoder β} {set : List β → α → α} (tolerant : Tolerant item decoder)
    (start : set [] blank = blank) :
    Fits blank ⟨name, aliases, .list item⟩ ⟨name, aliases, false,
      fun room node record => return set (← listOrNull decoder room node) record⟩ :=
  setter_fits (list_or_null_tolerant tolerant) list_blanks start fun _ _ => rfl

private theorem member_regular : Regular Member.slots where
  independent := by
    simp only [Member.slots, List.pairwise_cons, List.forall_mem_cons, List.not_mem_nil,
      false_implies, implies_true, List.Pairwise.nil, and_true]
    exact setters_commute fun _ _ _ => rfl
  found := by simp [Member.slots, Slot.answers]

private theorem member_tolerant : Tolerant memberShape Member.decoder :=
  record_tolerant member_regular (.cons (text_fits rfl) (.cons (text_fits rfl) .nil))

private theorem model_regular : Regular Model.slots where
  independent := by
    simp only [Model.slots, List.pairwise_cons, List.forall_mem_cons, List.not_mem_nil,
      false_implies, implies_true, List.Pairwise.nil, and_true]
    and_intros <;> exact setters_commute fun _ _ _ => rfl
  found := by simp [Model.slots, Slot.answers]

private theorem model_tolerant : Tolerant modelShape Model.decoder :=
  record_tolerant model_regular
    (.cons (text_fits rfl) (.cons (list_fits text_tolerant rfl)
      (.cons (list_fits member_tolerant rfl) (.cons (list_fits member_tolerant rfl) .nil))))

private theorem enumeration_regular : Regular Enumeration.slots where
  independent := by
    simp only [Enumeration.slots, List.pairwise_cons, List.forall_mem_cons, List.not_mem_nil,
      false_implies, implies_true, List.Pairwise.nil, and_true]
    exact setters_commute fun _ _ _ => rfl
  found := by simp [Enumeration.slots, Slot.answers]

private theorem enumeration_tolerant : Tolerant enumerationShape Enumeration.decoder :=
  record_tolerant enumeration_regular
    (.cons (text_fits rfl)
      (.cons (setter_fits entries_tolerant entries_blanks rfl fun _ _ => rfl) .nil))

private theorem method_regular : Regular Method.slots where
  independent := by
    simp only [Method.slots, List.pairwise_cons, List.forall_mem_cons, List.not_mem_nil,
      false_implies, implies_true, List.Pairwise.nil, and_true]
    and_intros <;> exact setters_commute fun _ _ _ => rfl
  found := by simp [Method.slots, Slot.answers]

private theorem method_tolerant : Tolerant methodShape Method.decoder :=
  record_tolerant method_regular
    (.cons (text_fits rfl) (.cons (text_fits rfl) (.cons (optional_fits rfl)
      (.cons (optional_fits rfl) (.cons (list_fits member_tolerant rfl) .nil)))))

private theorem controller_regular : Regular Controller.slots where
  independent := by
    simp only [Controller.slots, List.pairwise_cons, List.forall_mem_cons, List.not_mem_nil,
      false_implies, implies_true, List.Pairwise.nil, and_true]
    and_intros <;> exact setters_commute fun _ _ _ => rfl
  found := by simp [Controller.slots, Slot.answers]

private theorem controller_tolerant : Tolerant controllerShape Controller.decoder :=
  record_tolerant controller_regular
    (.cons (text_fits rfl) (.cons (list_fits text_tolerant rfl)
      (.cons (list_fits method_tolerant rfl) .nil)))

private theorem file_regular : Regular SourceFile.slots where
  independent := by
    simp only [SourceFile.slots, List.pairwise_cons, List.forall_mem_cons, List.not_mem_nil,
      false_implies, implies_true, List.Pairwise.nil, and_true]
    and_intros <;> exact setters_commute fun _ _ _ => rfl
  found := by simp [SourceFile.slots, Slot.answers]

private theorem file_tolerant : Tolerant fileShape SourceFile.decoder :=
  record_tolerant file_regular
    (.cons (text_fits rfl) (.cons (optional_fits rfl) (.cons (list_fits model_tolerant rfl)
      (.cons (list_fits enumeration_tolerant rfl) (.cons (list_fits controller_tolerant rfl) .nil)))))

/-! ## Whole documents -/

variable {document other : Value}

private theorem numberless_array : Numberless (.array items) ↔ ∀ item ∈ items, Numberless item := by
  constructor
  · rintro ⟨inside⟩
    assumption
  · exact .array

private theorem numberless_object :
    Numberless (.object members) ↔ ∀ member ∈ members, Numberless member.2 := by
  constructor
  · rintro ⟨inside⟩
    assumption
  · exact .object

/-- No change brings in a number. -/
theorem step_numberless (step : Step shape value other) (numberless : Numberless value) :
    Numberless other := by
  induction step with
  | item front step ih =>
    rw [numberless_array, List.forall_mem_append, List.forall_mem_cons] at numberless ⊢
    obtain ⟨before, here, later⟩ := numberless
    exact ⟨before, ih here, later⟩
  | reordered order =>
    rw [numberless_object] at numberless ⊢
    exact fun member inside => numberless member (order.mem_iff.mpr inside)
  | added front foreign plain =>
    rw [numberless_object, List.forall_mem_append] at numberless ⊢
    obtain ⟨before, later⟩ := numberless
    exact ⟨before, List.forall_mem_cons.mpr ⟨plain, later⟩⟩
  | dropped front known named empty =>
    rw [numberless_object, List.forall_mem_append] at numberless ⊢
    obtain ⟨before, later⟩ := numberless
    exact ⟨before, (List.forall_mem_cons.mp later).2⟩
  | member front known named step ih =>
    rw [numberless_object, List.forall_mem_append, List.forall_mem_cons] at numberless ⊢
    obtain ⟨before, here, later⟩ := numberless
    exact ⟨before, ih here, later⟩
  | renamed front known named =>
    rw [numberless_object, List.forall_mem_append, List.forall_mem_cons] at numberless ⊢
    exact numberless
  | nulled front known named empty =>
    rw [numberless_object, List.forall_mem_append, List.forall_mem_cons] at numberless ⊢
    obtain ⟨before, -, later⟩ := numberless
    exact ⟨before, .null, later⟩

private theorem parse_compact (numberless : Numberless document) :
    Source.parse document.compact = .ok files ↔
      list SourceFile.decoder Value.nestingLimit (node document) = .ok files := by
  simp only [Source.parse, Source.ofDocument, Decode.document, read_compact numberless, bind_eq_ok,
    Closing.check, lift_ok]
  simp

/-- Changes keep what is read, one after another. -/
theorem loosened_read (loosened : Loosened document other)
    (read : list SourceFile.decoder room (node document) = .ok files) :
    list SourceFile.decoder room (node other) = .ok files := by
  induction loosened with
  | refl => exact read
  | tail _ step ih => exact list_tolerant file_tolerant step ih

private theorem loosened_numberless (loosened : Loosened document other)
    (numberless : Numberless document) : Numberless other := by
  induction loosened with
  | refl => exact numberless
  | tail _ step ih => exact step_numberless step ih

/-- A description is read from its own document and from every document that comes from it
by changes: members in another order, under their second names, null or left out where
they are empty, and others among them. -/
theorem loosened_document_read (files : List SourceFile) (distinct : EntriesDistinct files)
    (loosened : Loosened (Source.toJson files) document) :
    Source.parse document.compact = .ok files := by
  have numberless : Numberless (Source.toJson files) := list_numberless files file_numberless
  have start := (parse_compact numberless).mp (written_read files distinct)
  have changed := loosened_numberless loosened numberless
  exact (parse_compact changed).mpr (loosened_read loosened start)

-- The outer list is no field of a record: null does not stand for it.
example : (Source.parse "null").toOption = none := by decide +kernel

/-- A model whose document has two empty lists. -/
def pageModel : Model := { name := "Page<T>", fields := [⟨"items", "List<T>"⟩] }

/-- A file with the model and an enumeration without entries. -/
def pageFile : SourceFile := { path := "a.cs", models := [pageModel], enums := [⟨"State", []⟩] }

/-- The model under its second name, without its bases and with null for its properties. -/
def loosePage : Value :=
  .object [("Name", .string "Page<T>"),
    ("Fields", .array [.object [("Type", .string "List<T>"), ("Identifier", .string "items")]]),
    ("Properties", .null)]

/-- The file with the model so written, less what is empty, in another order and with a
member of its own. -/
def looseFile : Value :=
  .object [("Note", .bool true), ("Models", .array [loosePage]),
    ("Enums", .array [.object [("Identifier", .string "State")]]), ("Path", .string "a.cs")]

private theorem page_loosened : Relation.ReflTransGen (Step modelShape) pageModel.toJson loosePage :=
  .head (.renamed [] (.head _) (.head _))
    (.head (.dropped [_] (.tail _ (.head _)) (.head _) .list)
      (.head (.member [_] (.tail _ (.tail _ (.head _))) (.head _) (.item [] (.reordered (.swap _ _ _))))
        (.head (.nulled [_, _] (.tail _ (.tail _ (.tail _ (.head _)))) (.head _) .list) .refl)))

private theorem file_loosened : Relation.ReflTransGen (Step fileShape) pageFile.toJson looseFile := by
  let path : String × Value := ("Path", .string "a.cs")
  let enums : String × Value := ("Enums", .array [Enumeration.toJson ⟨"State", []⟩])
  let fewer : String × Value := ("Enums", .array [.object [("Identifier", .string "State")]])
  have front : Relation.ReflTransGen (Step fileShape) pageFile.toJson
      (.object [path, ("Models", .array [pageModel.toJson]), enums, ("Controllers", .array [])]) :=
    .head (.renamed [] (.head _) (.head _))
      (.head (.dropped [_] (.tail _ (.head _)) (.head _) .optional) .refl)
  have model : Relation.ReflTransGen (Step fileShape)
      (.object [path, ("Models", .array [pageModel.toJson]), enums, ("Controllers", .array [])])
      (.object [path, ("Models", .array [loosePage]), enums, ("Controllers", .array [])]) :=
    page_loosened.lift
      (fun model => Value.object [path, ("Models", .array [model]), enums, ("Controllers", .array [])])
      fun _ _ step => Step.member [_] (.tail _ (.tail _ (.head _))) (.head _) (.item [] step)
  have rest : Relation.ReflTransGen (Step fileShape)
      (.object [path, ("Models", .array [loosePage]), enums, ("Controllers", .array [])])
      (.object [path, ("Models", .array [loosePage]), fewer]) :=
    .head (.member [_, _] (.tail _ (.tail _ (.tail _ (.head _)))) (.head _)
        (.item [] (.dropped [_] (.tail _ (.head _)) (.head _) .entries)))
      (.head (.dropped [_, _, _] (.tail _ (.tail _ (.tail _ (.tail _ (.head _))))) (.head _) .list) .refl)
  have order : [("Note", .bool true), path, ("Models", .array [loosePage]), fewer].Perm
      [("Note", .bool true), ("Models", .array [loosePage]), fewer, path] :=
    .cons _ (.trans (.swap _ _ _) (.cons _ (.swap _ _ _)))
  exact front.trans (model.trans (rest.trans
    (.head (.added [] (by simp [Field.names]) (.bool true)) (.head (.reordered order) .refl))))

theorem loosened_page_read :
    EntriesDistinct [pageFile] ∧ Loosened (Source.toJson [pageFile]) (.array [looseFile]) ∧
      Source.parse (Value.array [looseFile]).compact = .ok [pageFile] := by
  have distinct : EntriesDistinct [pageFile] := by
    simp [EntriesDistinct, pageFile, NamesDistinct]
  have loosened : Loosened (Source.toJson [pageFile]) (.array [looseFile]) :=
    file_loosened.lift (fun file => Value.array [file]) fun _ _ step => Step.item [] step
  exact ⟨distinct, loosened, loosened_document_read [pageFile] distinct loosened⟩

end TypeStubs.LooseDescriptions

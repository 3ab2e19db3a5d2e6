import TypeStubs.Source.Json
import TypeStubs.Proofs.KeyedLists
import TypeStubs.Proofs.RecordReading

/-! A description that is written and read again is the same description, as long as no
enumeration has two entries of one name. No description that comes from a text has, so
that reading a second time changes nothing. -/
namespace TypeStubs.DescriptionRoundTrip
open Json Json.Decode CompactText RecordReading

/-- The entries of the enumeration differ in their names. -/
def NamesDistinct (enumeration : Enumeration) : Prop := (enumeration.entries.map (·.name)).Nodup

/-- No enumeration of the description repeats the name of an entry. -/
def EntriesDistinct (files : List SourceFile) : Prop :=
  ∀ file ∈ files, ∀ enumeration ∈ file.enums, NamesDistinct enumeration

private theorem optional_numberless (text : Option String) : Numberless (text.elim .null .string) := by
  cases text with
  | none => exact .null
  | some text => exact .string text

theorem list_numberless {encode : α → Value} (items : List α)
    (each : ∀ item, Numberless (encode item)) : Numberless (.array (items.map encode)) := by
  apply Numberless.array
  intro value member
  obtain ⟨item, _, rfl⟩ := List.mem_map.mp member
  exact each item

private theorem member_numberless (member : Member) : Numberless member.toJson := by
  apply Numberless.object
  simp [Numberless.string]

private theorem model_numberless (model : Model) : Numberless model.toJson := by
  apply Numberless.object
  simp [Numberless.string, list_numberless, member_numberless]

private theorem enumeration_numberless (enumeration : Enumeration) : Numberless enumeration.toJson := by
  have entries : Numberless (.object (enumeration.entries.map fun entry =>
      (entry.name, entry.value.elim .null .string))) := by
    apply Numberless.object
    intro member inside
    obtain ⟨entry, _, rfl⟩ := List.mem_map.mp inside
    exact optional_numberless entry.value
  apply Numberless.object
  simp [Numberless.string, entries]

private theorem method_numberless (method : Method) : Numberless method.toJson := by
  apply Numberless.object
  simp [Numberless.string, optional_numberless, list_numberless, member_numberless]

private theorem controller_numberless (controller : Controller) : Numberless controller.toJson := by
  apply Numberless.object
  simp [Numberless.string, list_numberless, method_numberless]

theorem file_numberless (file : SourceFile) : Numberless file.toJson := by
  apply Numberless.object
  simp [Numberless.string, optional_numberless, list_numberless, model_numberless,
    enumeration_numberless, controller_numberless]

private theorem member_slots : Distinct Member.slots where
  names := by decide
  found := by simp [Member.slots, Slot.answers]

private theorem member_read (room : Nat) (member : Member) :
    Member.decoder (room + 1) (node member.toJson) = .ok member :=
  record_read member_slots
    (.cons (field_read (string_read room member.identifier) _)
      (.cons (field_read (string_read room member.signature) _) (.nil _)))

private theorem members_read (room : Nat) (members : List Member) :
    listOrNull Member.decoder (room + 2) (node (.array (members.map Member.toJson))) = .ok members :=
  list_or_null_read (room + 1) members fun member _ => member_read room member

private theorem bases_read (room : Nat) (bases : List String) :
    listOrNull Decode.string (room + 1) (node (.array (bases.map .string))) = .ok bases :=
  list_or_null_read room bases fun base _ => string_read room base

private theorem model_slots : Distinct Model.slots where
  names := by decide
  found := by simp [Model.slots, Slot.answers]

private theorem model_read (room : Nat) (model : Model) :
    Model.decoder (room + 3) (node model.toJson) = .ok model :=
  record_read model_slots
    (.cons (field_read (string_read (room + 2) model.name) _)
      (.cons (field_read (bases_read (room + 1) model.bases) _)
        (.cons (field_read (members_read room model.fields) _)
          (.cons (field_read (members_read room model.properties) _) (.nil _)))))

/-- An entry as a member of the value map. -/
def entryMember (entry : EnumEntry) : String × Value := (entry.name, entry.value.elim .null .string)

private theorem entry_of_member (entry : EnumEntry) :
    EnumEntry.ofValue (entryMember entry).1 (entryMember entry).2 = .ok entry := by
  obtain ⟨name, value⟩ := entry
  cases value with
  | none => rfl
  | some text => rfl

private theorem entry_members_understood (room : Nat) (entries : List EnumEntry) :
    Value.ofMembers room (memberNodes (entries.map entryMember)) = .ok (entries.map entryMember) := by
  induction entries with
  | nil => rfl
  | cons entry rest ih =>
    have value : Value.ofNode room (node (entry.value.elim .null .string)) =
        .ok (entry.value.elim .null .string) := by
      cases entry.value with
      | none => simp [node, Value.ofNode]
      | some text => simp [node, Value.ofNode, Functor.map, Except.map]
    simp only [List.map_cons, entryMember, memberNodes, Value.ofMembers, written_text] at ih ⊢
    simp [bind, Except.bind, value, ih]

private theorem entries_read (room : Nat) (entries : List EnumEntry)
    (distinct : (entries.map (·.name)).Nodup) :
    Enumeration.entriesDecoder (room + 1) (node (.object (entries.map entryMember))) =
      .ok entries := by
  have once : ((entries.map entryMember).map (·.1)).Nodup := by
    rw [List.map_map]
    exact distinct
  have read : (entries.map entryMember).mapM (fun member => EnumEntry.ofValue member.1 member.2) =
    .ok entries := map_m_read entries fun entry _ => entry_of_member entry
  simp only [Enumeration.entriesDecoder, node, enter, entry_members_understood room entries]
  simp only [lift_ok, bind, Except.bind, Closing.check, KeyedLists.of_list_distinct _ once]
  exact read

private theorem enumeration_slots : Distinct Enumeration.slots where
  names := by decide
  found := by simp [Enumeration.slots, Slot.answers]

private theorem enumeration_read (room : Nat) (enumeration : Enumeration)
    (distinct : NamesDistinct enumeration) :
    Enumeration.decoder (room + 2) (node enumeration.toJson) = .ok enumeration :=
  record_read enumeration_slots
    (.cons (field_read (string_read (room + 1) enumeration.identifier) _)
      (.cons (field_read (entries_read room enumeration.entries distinct) _) (.nil _)))

private theorem method_slots : Distinct Method.slots where
  names := by decide
  found := by simp [Method.slots, Slot.answers]

private theorem method_read (room : Nat) (method : Method) :
    Method.decoder (room + 3) (node method.toJson) = .ok method :=
  record_read method_slots
    (.cons (field_read (string_read (room + 2) method.identifier) _)
      (.cons (field_read (string_read (room + 2) method.returns) _)
        (.cons (field_read (optional_read (room + 2) method.route) _)
          (.cons (field_read (optional_read (room + 2) method.verbTag) _)
            (.cons (field_read (members_read room method.parameters) _) (.nil _))))))

private theorem controller_slots : Distinct Controller.slots where
  names := by decide
  found := by simp [Controller.slots, Slot.answers]

private theorem controller_read (room : Nat) (controller : Controller) :
    Controller.decoder (room + 5) (node controller.toJson) = .ok controller := by
  have methods := list_or_null_read (room + 3) controller.methods fun method _ =>
    method_read room method
  exact record_read controller_slots
    (.cons (field_read (string_read (room + 4) controller.name) _)
      (.cons (field_read (bases_read (room + 3) controller.bases) _)
        (.cons (field_read methods _) (.nil _))))

private theorem file_slots : Distinct SourceFile.slots where
  names := by decide
  found := by simp [SourceFile.slots, Slot.answers]

private theorem file_read (room : Nat) (file : SourceFile)
    (distinct : ∀ enumeration ∈ file.enums, NamesDistinct enumeration) :
    SourceFile.decoder (room + 7) (node file.toJson) = .ok file := by
  have models := list_or_null_read (room + 5) file.models fun model _ =>
    model_read (room + 2) model
  have enums := list_or_null_read (room + 5) file.enums fun enumeration member =>
    enumeration_read (room + 3) enumeration (distinct enumeration member)
  have controllers := list_or_null_read (room + 5) file.controllers fun controller _ =>
    controller_read room controller
  exact record_read file_slots
    (.cons (field_read (string_read (room + 6) file.path) _)
      (.cons (field_read (optional_read (room + 6) file.nameSpace) _)
        (.cons (field_read models _)
          (.cons (field_read enums _) (.cons (field_read controllers _) (.nil _))))))

/-- Distinct entries are all that writing and reading again needs. -/
theorem written_read (files : List SourceFile) (distinct : EntriesDistinct files) :
    Source.parse (Source.toJson files).compact = .ok files := by
  have numberless : Numberless (Source.toJson files) := list_numberless files file_numberless
  have decoded : list SourceFile.decoder Value.nestingLimit (node (Source.toJson files)) =
    .ok files := list_read 126 files fun file member => file_read 119 file (distinct file member)
  simp only [Source.parse, Source.ofDocument, document, read_compact numberless, decoded]
  rfl

private theorem entry_names {members : List (String × Value)}
    (read : members.mapM (fun member => EnumEntry.ofValue member.1 member.2) = .ok entries) :
    entries.map (·.name) = members.map (·.1) := by
  induction members generalizing entries with
  | nil =>
    cases read
    rfl
  | cons member rest ih =>
    obtain ⟨entry, later, here, there, rfl⟩ := map_m_cons_eq_ok.mp read
    have named : entry.name = member.1 := by
      obtain ⟨name, value⟩ := member
      cases value with
      | bool value =>
        cases value <;> cases here <;> rfl
      | array items => cases here
      | object members => cases here
      | _ =>
        cases here
        rfl
    rw [List.map_cons, List.map_cons, named, ih there]

private theorem entries_decoded_distinct (read : Enumeration.entriesDecoder room source = .ok entries) :
    (entries.map (·.name)).Nodup := by
  cases source with
  | null =>
    cases read
    exact List.nodup_nil
  | object members closing =>
    obtain ⟨less, entered⟩ := enter_ok read
    obtain ⟨values, _, ended⟩ := bind_eq_ok.mp entered
    obtain ⟨_, _, named⟩ := bind_eq_ok.mp ended
    rw [entry_names named]
    exact KeyedLists.of_list_nodup values
  | _ =>
    simp only [Enumeration.entriesDecoder] at read
    exact absurd read mismatch_fails

private theorem enumeration_decoded_distinct (read : Enumeration.decoder room source = .ok enumeration) :
    NamesDistinct enumeration := by
  refine record_keeps NamesDistinct read List.nodup_nil ?_
  intro slot member room source before after held set
  simp only [Enumeration.slots, List.mem_cons, List.not_mem_nil, or_false] at member
  rcases member with rfl | rfl
  · obtain ⟨_, _, same⟩ := bind_eq_ok.mp set
    cases same
    exact held
  · obtain ⟨entries, decoded, same⟩ := bind_eq_ok.mp set
    cases same
    exact entries_decoded_distinct decoded

private theorem file_decoded_distinct (read : SourceFile.decoder room source = .ok file) :
    ∀ enumeration ∈ file.enums, NamesDistinct enumeration := by
  refine record_keeps (fun held => ∀ enumeration ∈ held.enums, NamesDistinct enumeration) read
    (by simp) ?_
  intro slot member room source before after held set
  simp only [SourceFile.slots, List.mem_cons, List.not_mem_nil, or_false] at member
  -- Only the fourth field touches the enumerations.
  rcases member with rfl | rfl | rfl | rfl | rfl
  case inr.inr.inr.inl =>
    obtain ⟨enums, decoded, same⟩ := bind_eq_ok.mp set
    cases same
    intro enumeration member
    obtain ⟨_, _, here⟩ := list_or_null_members decoded member
    exact enumeration_decoded_distinct here
  all_goals
    obtain ⟨_, _, same⟩ := bind_eq_ok.mp set
    cases same
    exact held

/-- Whatever the text, the entries of a description that is read are distinct. -/
theorem parsed_distinct (read : Source.parse text = .ok files) : EntriesDistinct files := by
  intro file member
  obtain ⟨decoded, listed, ended⟩ := bind_eq_ok.mp read
  obtain ⟨_, _, same⟩ := bind_eq_ok.mp ended
  cases same
  obtain ⟨_, _, here⟩ := list_members listed member
  exact file_decoded_distinct here

/-- A description is the same after it has been written and read again exactly when no
enumeration repeats the name of an entry; and this holds of every description that has
been read from a text. -/
theorem description_round_trip :
    (∀ files, Source.parse (Source.toJson files).compact = .ok files ↔ EntriesDistinct files) ∧
      ∀ text files, Source.parse text = .ok files →
        Source.parse (Source.toJson files).compact = .ok files := by
  constructor
  · intro files
    exact ⟨parsed_distinct, written_read files⟩
  · intro text files read
    exact written_read files (parsed_distinct read)

/-- A description with escapes in its texts and a record of every kind. -/
def surveyFiles : List SourceFile := [{
  path := "Survey\"\\\x01.cs"
  nameSpace := some "été\n"
  models := [{ name := "Page<T>", bases := ["Base", ""], fields := [⟨"items", "List<T>"⟩] }]
  enums := [⟨"State", [⟨"Open", some "1"⟩, ⟨"Closed", none⟩]⟩]
  controllers := [{ name := "Surveys", methods := [
    { identifier := "get", returns := "Page<int>", route := some "a/b", parameters := [⟨"id", "int?"⟩] }] }] }]

/-- A text with another name for the path, null for the models and an entry given twice. -/
def statesText : String :=
  "[\x7b\"Path\":\"a.cs\",\"Models\":null,\"Enums\":[\x7b\"Identifier\":\"E\",\"Values\":" ++
    "\x7b\"A\":null,\"B\":true,\"A\":\"x\"\x7d\x7d]\x7d]"

/-- What the text describes. -/
def statesFiles : List SourceFile :=
  [{ path := "a.cs", enums := [⟨"E", [⟨"A", some "x"⟩, ⟨"B", some "true"⟩]⟩] }]

theorem description_round_trip_survey :
    EntriesDistinct surveyFiles ∧
    Source.parse (Source.toJson surveyFiles).compact = .ok surveyFiles ∧
    Source.parse statesText = .ok statesFiles ∧
    Source.parse (Source.toJson statesFiles).compact = .ok statesFiles := by
  have distinct : EntriesDistinct surveyFiles := by
    simp [EntriesDistinct, surveyFiles, NamesDistinct]
  have read : Source.parse statesText = .ok statesFiles := by
    have evaluated : (Source.parse statesText).toOption = some statesFiles := by decide +kernel
    cases parsed : Source.parse statesText with
    | error fault => simp [parsed, Except.toOption] at evaluated
    | ok files => simpa [parsed, Except.toOption] using evaluated
  exact ⟨distinct, (description_round_trip.1 surveyFiles).mpr distinct, read,
    description_round_trip.2 statesText statesFiles read⟩

end TypeStubs.DescriptionRoundTrip

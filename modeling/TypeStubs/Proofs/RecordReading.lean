import TypeStubs.Json.Decode
import TypeStubs.Proofs.CompactText

/-! What decoders do with values that have been written. Lists and records are read back
when their parts are; and what holds of a blank record, and is kept by each of its
fields, holds of every record that is read, whatever the text. -/
namespace TypeStubs.RecordReading
open Json Json.Decode CompactText

theorem bind_eq_ok {result : Except ε α} {next : α → Except ε β} :
    result >>= next = .ok value ↔ ∃ given, result = .ok given ∧ next given = .ok value := by
  cases result with
  | error fault => simp [bind, Except.bind]
  | ok given => simp [bind, Except.bind]

theorem eq_ok_of_to_option {result : Except ε α} (given : result.toOption = some value) :
    result = .ok value := by
  cases result with
  | error fault => cases given
  | ok held =>
    cases given
    rfl

theorem map_m_cons_eq_ok {decode : α → Except ε β} {first : α} {rest : List α} :
    (first :: rest).mapM decode = .ok values ↔
      ∃ value later, decode first = .ok value ∧ rest.mapM decode = .ok later ∧
        values = value :: later := by
  simp only [List.mapM_cons, bind_eq_ok, pure, Except.pure, Except.ok.injEq]
  constructor
  · rintro ⟨value, head, later, tail, rfl⟩
    exact ⟨value, later, head, tail, rfl⟩
  · rintro ⟨value, later, head, tail, rfl⟩
    exact ⟨value, head, later, tail, rfl⟩

@[simp]
theorem lift_ok (value : α) : lift (.ok value) = .ok value := rfl

theorem string_read (room : Nat) (text : String) :
    Decode.string room (node (.string text)) = .ok text := by
  simp [Decode.string, node]

theorem optional_read (room : Nat) (text : Option String) :
    nullable Decode.string room (node (text.elim .null .string)) = .ok text := by
  cases text with
  | none => simp [nullable, node]
  | some text =>
    have read := string_read room text
    simp only [Option.elim, node] at read ⊢
    simp only [nullable, read]
    rfl

/-- Items that are each read back are read back together. -/
theorem map_m_read {encode : α → β} {decode : β → Except ε α} (items : List α)
    (each : ∀ item ∈ items, decode (encode item) = .ok item) :
    (items.map encode).mapM decode = .ok items := by
  induction items with
  | nil => rfl
  | cons item rest ih =>
    have later := ih fun other member => each other (by simp [member])
    exact map_m_cons_eq_ok.mpr ⟨item, rest, each item (by simp), later, rfl⟩

theorem list_read {encode : α → Value} {decoder : Decoder α} (room : Nat) (items : List α)
    (each : ∀ item ∈ items, decoder room (node (encode item)) = .ok item) :
    list decoder (room + 1) (node (.array (items.map encode))) = .ok items := by
  have values : ((items.map encode).map node).mapM (decoder room) = .ok items := by
    rw [List.map_map]
    exact map_m_read items each
  simp only [list, node, enter, item_nodes_eq, values]
  rfl

theorem list_or_null_read {encode : α → Value} {decoder : Decoder α} (room : Nat) (items : List α)
    (each : ∀ item ∈ items, decoder room (node (encode item)) = .ok item) :
    listOrNull decoder (room + 1) (node (.array (items.map encode))) = .ok items := by
  have whole := list_read room items each
  simp only [node] at whole
  simp only [listOrNull, node, nullable, whole]
  rfl

/-- A field that decodes sets what it is for. -/
theorem field_read {result : Except Fault β} (read : result = .ok value) (set : β → α) :
    (do return set (← result) : Except Fault α) = .ok (set value) := by
  rw [read]
  rfl

/-- Members that stand in the order of the fields, each under the name of its field, and
take the record from one state to another. -/
inductive Fills (room : Nat) : List (Slot α) → List (String × Value) → α → α → Prop where
  | nil (record : α) : Fills room [] [] record record
  | cons {slot : Slot α} (read : slot.read room (node value) before = .ok between)
    (rest : Fills room slots members between after) :
    Fills room (slot :: slots) ((slot.name, value) :: members) before after

/-- Fields that the names tell apart. -/
structure Distinct (slots : List (Slot α)) : Prop where
  names : (slots.map (·.name)).Nodup
  found : ∀ slot ∈ slots, slots.find? (·.answers slot.name) = some slot

private theorem fill_members_read {slots : List (Slot α)} (distinct : Distinct slots)
    (fills : Fills room rest members before after) (inside : rest ⊆ slots)
    (names : (rest.map (·.name)).Nodup) (fresh : ∀ slot ∈ rest, slot.name ∉ filled) :
    fillMembers slots room before filled (memberNodes members) =
      .ok (after, (rest.map (·.name)).reverse ++ filled) := by
  induction fills generalizing filled with
  | nil record => rfl
  | @cons value before between others members after slot read fills ih =>
    obtain ⟨once, namesLater⟩ := List.nodup_cons.mp names
    have here := distinct.found slot (inside (by simp))
    have unread : filled.contains slot.name = false := by simpa using fresh slot (by simp)
    have freshLater : ∀ other ∈ others, other.name ∉ slot.name :: filled := by
      intro other member again
      rcases List.mem_cons.mp again with same | again
      · exact once (List.mem_map.mpr ⟨other, member, same⟩)
      · exact fresh other (by simp [member]) again
    have later := ih (fun other member => inside (by simp [member])) namesLater freshLater
    have named : lift (written slot.name).text = .ok slot.name := by
      simp
    rw [memberNodes, fillMembers, named]
    simp only [bind, Except.bind, here, unread, read, later]
    simp

/-- A record written field by field is read back. -/
theorem record_read {slots : List (Slot α)} (distinct : Distinct slots)
    (fills : Fills room slots members blank result) :
    record slots blank (room + 1) (node (.object members)) = .ok result := by
  have filled : fillMembers slots room blank [] (memberNodes members) =
      .ok (result, (slots.map (·.name)).reverse ++ []) :=
    fill_members_read distinct fills (List.Subset.refl _) distinct.names (by simp)
  have complete : require slots (result, (slots.map Slot.name).reverse ++ []) = .ok result := by
    have all : ∀ slot ∈ slots, (!slot.required ||
        ((slots.map Slot.name).reverse ++ []).contains slot.name) = true := by
      intro slot member
      simp only [List.append_nil, Bool.or_eq_true, List.contains_iff_mem, List.mem_reverse]
      exact .inr (List.mem_map.mpr ⟨slot, member, rfl⟩)
    rw [require, if_pos (List.all_eq_true.mpr all)]
  simp only [record, node, enter, filled]
  exact complete

private theorem map_m_members {decode : α → Except ε β} {items : List α} {values : List β}
    (read : items.mapM decode = .ok values) (member : value ∈ values) :
    ∃ item ∈ items, decode item = .ok value := by
  induction items generalizing values with
  | nil =>
    cases read
    cases member
  | cons first rest ih =>
    obtain ⟨head, later, here, there, rfl⟩ := map_m_cons_eq_ok.mp read
    rcases List.mem_cons.mp member with rfl | member
    · exact ⟨first, by simp, here⟩
    · obtain ⟨item, inside, decoded⟩ := ih there member
      exact ⟨item, by simp [inside], decoded⟩

theorem mismatch_fails {source : Node} {value : α} : mismatch source ≠ .ok value := by
  intro read
  cases source with
  | array items closing => cases read
  | object members closing => cases read
  | _ =>
    obtain ⟨_, _, impossible⟩ := bind_eq_ok.mp read
    cases impossible

theorem enter_ok {inside : Nat → Except Fault α} (entered : enter room inside = .ok value) :
    ∃ less, inside less = .ok value := by
  cases room with
  | zero => cases entered
  | succ less => exact ⟨less, entered⟩

theorem list_members {decoder : Decoder α} (read : list decoder room source = .ok values)
    (member : value ∈ values) : ∃ room source, decoder room source = .ok value := by
  cases source with
  | array items closing =>
    obtain ⟨less, entered⟩ := enter_ok read
    obtain ⟨decoded, items, ended⟩ := bind_eq_ok.mp entered
    obtain ⟨_, _, same⟩ := bind_eq_ok.mp ended
    cases same
    obtain ⟨item, _, here⟩ := map_m_members items member
    exact ⟨less, item, here⟩
  | _ =>
    simp only [list] at read
    exact absurd read mismatch_fails

theorem list_or_null_members {decoder : Decoder α}
    (read : listOrNull decoder room source = .ok values) (member : value ∈ values) :
    ∃ room source, decoder room source = .ok value := by
  by_cases null : source = .null
  · subst null
    cases read
    cases member
  · have listed : list decoder room source = .ok values := by
      cases whole : list decoder room source with
      | error fault =>
        cases source <;> simp_all [listOrNull, nullable, Functor.map, Except.map]
      | ok values =>
        cases source <;> simp_all [listOrNull, nullable, Functor.map, Except.map]
    exact list_members listed member

/-- One more member keeps what each field keeps. -/
theorem fill_members_keeps {slots : List (Slot α)} {holds : α → Prop}
    (kept : ∀ slot ∈ slots, ∀ room source before after,
      holds before → slot.read room source before = .ok after → holds after)
    (start : holds before) (read : fillMembers slots room before filled members = .ok result) :
    holds result.1 := by
  induction members generalizing before filled with
  | nil =>
    cases read
    exact start
  | cons member rest ih =>
    obtain ⟨key, source⟩ := member
    obtain ⟨name, _, read⟩ := bind_eq_ok.mp read
    split at read
    · rename_i slot found
      split at read
      · cases read
      · obtain ⟨between, here, later⟩ := bind_eq_ok.mp read
        have held := kept slot (List.mem_of_find?_eq_some found) room source before between start here
        exact ih held later
    · obtain ⟨_, _, later⟩ := bind_eq_ok.mp read
      exact ih start later

/-- One more item keeps what each field keeps. -/
theorem fill_items_keeps {slots : List (Slot α)} {holds : α → Prop}
    (kept : ∀ slot ∈ slots, ∀ room source before after,
      holds before → slot.read room source before = .ok after → holds after)
    (start : holds before) (read : fillItems room closing slots before filled items = .ok result) :
    holds result.1 := by
  induction items generalizing slots before filled with
  | nil =>
    simp only [fillItems] at read
    obtain ⟨_, _, same⟩ := bind_eq_ok.mp read
    cases same
    exact start
  | cons item rest ih =>
    cases slots with
    | nil => cases read
    | cons slot slots =>
      obtain ⟨between, here, later⟩ := bind_eq_ok.mp read
      have held := kept slot (by simp) room item before between start here
      exact ih (fun other member => kept other (by simp [member])) held later

/-- What a blank record has and every field keeps, a record that is read has. -/
theorem record_keeps {slots : List (Slot α)} (holds : α → Prop)
    (read : record slots blank room source = .ok result) (start : holds blank)
    (kept : ∀ slot ∈ slots, ∀ room source before after,
      holds before → slot.read room source before = .ok after → holds after) : holds result := by
  have required {filled : α × List String} (complete : require slots filled = .ok result) :
      filled.1 = result := by
    unfold require at complete
    split at complete
    · exact Except.ok.inj complete
    · cases complete
  cases source with
  | object members closing =>
    obtain ⟨less, entered⟩ := enter_ok read
    obtain ⟨filled, reading, ended⟩ := bind_eq_ok.mp entered
    obtain ⟨_, _, complete⟩ := bind_eq_ok.mp ended
    rw [← required complete]
    exact fill_members_keeps kept start reading
  | array items closing =>
    obtain ⟨less, entered⟩ := enter_ok read
    obtain ⟨filled, reading, complete⟩ := bind_eq_ok.mp entered
    rw [← required complete]
    exact fill_items_keeps kept start reading
  | _ =>
    simp only [record] at read
    exact absurd read mismatch_fails

end TypeStubs.RecordReading

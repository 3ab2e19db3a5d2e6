import Mathlib.Data.List.Pairwise
import TypeStubs.Proofs.RecordReading

/-! When an object is read as a record: each known member sets its field, no field is set
twice and no required field is missing. So the order of the members does not matter, nor do
members that nobody knows, nor those that set a field to what it is without them. -/
namespace TypeStubs.RecordTolerance
open Json Json.Decode CompactText RecordReading

variable {α : Type} {slots : List (Slot α)} {members others front behind : List (String × Value)}

/-- Reads one member into a record. -/
def settle (slots : List (Slot α)) (room : Nat) (record : α) (member : String × Value) :
    Except Fault α :=
  match slots.find? (·.answers member.1) with
  | some slot => slot.read room (node member.2) record
  | none => .ok record

/-- The names of the fields that the members are for. -/
def answered (slots : List (Slot α)) (members : List (String × Value)) : List String :=
  members.filterMap fun member => (slots.find? (·.answers member.1)).map (·.name)

private theorem settle_known (found : slots.find? (·.answers name) = some slot) (room : Nat) (record : α)
    (value : Value) :
    settle slots room record (name, value) = slot.read room (node value) record := by
  simp only [settle, found]

private theorem settle_foreign (missing : slots.find? (·.answers name) = none) (room : Nat) (record : α)
    (value : Value) : settle slots room record (name, value) = .ok record := by
  simp only [settle, missing]

private theorem answered_known (found : slots.find? (·.answers name) = some slot) (value : Value) :
    answered slots ((name, value) :: members) = slot.name :: answered slots members := by
  simp [answered, found]

private theorem answered_foreign (missing : slots.find? (·.answers name) = none) (value : Value) :
    answered slots ((name, value) :: members) = answered slots members := by
  simp [answered, missing]

private theorem answered_append :
    answered slots (front ++ behind) = answered slots front ++ answered slots behind :=
  List.filterMap_append

private theorem ignore_node (value : Value) : ignore (node value) = .ok () := by
  cases value <;> simp [node, ignore, Closing.check, written]

private theorem settle_all_cons {first : String × Value} {before after : α} :
    (first :: members).foldlM (settle slots room) before = .ok after ↔
      ∃ between, settle slots room before first = .ok between ∧
        members.foldlM (settle slots room) between = .ok after := by
  rw [List.foldlM_cons]
  exact bind_eq_ok

/-- Members are read in order, each into a field that is not filled yet. -/
theorem fill_members_eq_ok {before after : α} {filled names : List String} :
    fillMembers slots room before filled (memberNodes members) = .ok (after, names) ↔
      members.foldlM (settle slots room) before = .ok after ∧ (answered slots members).Nodup ∧
        (∀ name ∈ answered slots members, name ∉ filled) ∧
        names = (answered slots members).reverse ++ filled := by
  induction members generalizing before filled with
  | nil =>
    simp [memberNodes, fillMembers, answered, pure, Except.pure, eq_comm]
  | cons member rest ih =>
    obtain ⟨name, value⟩ := member
    have named : lift (written name).text = .ok name := by simp
    rw [memberNodes, fillMembers, named, settle_all_cons]
    simp only [bind_eq_ok, Except.ok.injEq, exists_eq_left']
    cases found : slots.find? (·.answers name) with
    | none =>
      simp only [settle_foreign found, answered_foreign found, ignore_node, lift_ok, bind_eq_ok,
        Except.ok.injEq, exists_eq_left']
      rw [ih]
      simp
    | some slot =>
      simp only [settle_known found, answered_known found]
      by_cases again : slot.name ∈ filled
      · simp [again]
      · have unfilled : filled.contains slot.name = false := by simpa using again
        simp only [unfilled, Bool.false_eq_true, if_false, bind_eq_ok, ih]
        constructor
        · rintro ⟨between, read, settled, once, fresh, rfl⟩
          refine ⟨⟨between, read, settled⟩, List.nodup_cons.mpr ⟨?_, once⟩, ?_, by simp⟩
          · intro twice
            exact fresh _ twice (by simp)
          · intro other member
            rcases List.mem_cons.mp member with rfl | member
            · exact again
            · exact fun held => fresh other member (by simp [held])
        · rintro ⟨⟨between, read, settled⟩, once, fresh, rfl⟩
          obtain ⟨new, once⟩ := List.nodup_cons.mp once
          refine ⟨between, read, settled, once, ?_, by simp⟩
          intro other member held
          rcases List.mem_cons.mp held with rfl | held
          · exact new member
          · exact fresh other (by simp [member]) held

private theorem require_eq_ok {after result : α} {names : List String} :
    require slots (after, names) = .ok result ↔
      after = result ∧ ∀ slot ∈ slots, slot.required = true → slot.name ∈ names := by
  have all : (slots.all fun slot => !slot.required || names.contains slot.name) = true ↔
      ∀ slot ∈ slots, slot.required = true → slot.name ∈ names := by
    simp [List.all_eq_true, imp_iff_not_or]
  unfold require
  split
  · rename_i complete
    have named := all.mp complete
    rw [Except.ok.injEq]
    exact ⟨fun same => ⟨same, named⟩, fun read => read.1⟩
  · rename_i missing
    simp only [reduceCtorEq, false_iff]
    exact fun complete => missing (all.mpr complete.2)

/-- An object is read as a record when its members can be read one after another, no two
are for the same field, and each required field has one. -/
theorem record_eq_ok {blank result : α} :
    record slots blank (room + 1) (node (.object members)) = .ok result ↔
      members.foldlM (settle slots room) blank = .ok result ∧ (answered slots members).Nodup ∧
        ∀ slot ∈ slots, slot.required = true → slot.name ∈ answered slots members := by
  simp only [record, node, enter, bind_eq_ok, Closing.check, lift_ok]
  constructor
  · rintro ⟨⟨after, names⟩, filled, _, -, required⟩
    obtain ⟨settled, once, -, rfl⟩ := fill_members_eq_ok.mp filled
    obtain ⟨rfl, complete⟩ := require_eq_ok.mp required
    refine ⟨settled, once, fun slot member required => ?_⟩
    simpa using complete slot member required
  · rintro ⟨settled, once, complete⟩
    refine ⟨(result, (answered slots members).reverse ++ []), ?_, (), trivial, ?_⟩
    · exact fill_members_eq_ok.mpr ⟨settled, once, by simp, rfl⟩
    · refine require_eq_ok.mpr ⟨rfl, fun slot member required => ?_⟩
      simpa using complete slot member required

/-- Two fields that may be read in either order. -/
def Commutes (one two : Slot α) : Prop :=
  ∀ room first second before after,
    (one.read room first before >>= two.read room second) = .ok after ↔
      (two.read room second before >>= one.read room first) = .ok after

instance : Std.Symm (Commutes (α := α)) where
  symm _ _ commute := fun room first second before after =>
    (commute room second first before after).symm

/-- Fields that set different things may be read in either order. -/
theorem setters_commute {first : Decoder β} {second : Decoder γ} {setFirst : β → α → α}
    {setSecond : γ → α → α}
    (apart : ∀ one two record,
      setSecond two (setFirst one record) = setFirst one (setSecond two record)) :
    Commutes
      ⟨name, names, required, fun room node record => return setFirst (← first room node) record⟩
      ⟨other, aliases, asked, fun room node record => return setSecond (← second room node) record⟩ := by
  intro room here there before after
  cases one : first room here with
  | error fault =>
    cases two : second room there <;> simp [one, two, bind, Except.bind, pure, Except.pure]
  | ok value =>
    cases two : second room there <;> simp [one, two, bind, Except.bind, pure, Except.pure, apart]

/-- Members for different fields may be read in either order. -/
theorem settle_commute (independent : slots.Pairwise Commutes) {first second : String × Value}
    (once : (answered slots [first, second]).Nodup) (room : Nat) (before after : α) :
    (settle slots room before first >>= fun record => settle slots room record second) = .ok after ↔
      (settle slots room before second >>= fun record => settle slots room record first) =
        .ok after := by
  obtain ⟨name, value⟩ := first
  obtain ⟨other, held⟩ := second
  cases here : slots.find? (·.answers name) with
  | none =>
    simp [settle_foreign here, bind_eq_ok]
  | some one =>
    cases there : slots.find? (·.answers other) with
    | none => simp [settle_foreign there, bind_eq_ok]
    | some two =>
      have apart : one ≠ two := by
        rintro rfl
        simp [answered_known here, answered_known there] at once
      have commute := independent.forall (List.mem_of_find?_eq_some here)
        (List.mem_of_find?_eq_some there) apart
      simp only [settle_known here, settle_known there]
      exact commute room (node value) (node held) before after

private theorem answered_perm (order : members.Perm others) :
    (answered slots members).Perm (answered slots others) :=
  order.filterMap _

/-- The order of the members does not matter. -/
theorem settle_perm (independent : slots.Pairwise Commutes) (order : members.Perm others)
    (once : (answered slots members).Nodup) (before after : α) :
    members.foldlM (settle slots room) before = .ok after →
      others.foldlM (settle slots room) before = .ok after := by
  induction order generalizing before with
  | nil => exact id
  | @cons member members others order ih =>
    intro settled
    obtain ⟨between, read, settled⟩ := settle_all_cons.mp settled
    have rest : (answered slots members).Nodup := by
      rw [show member :: members = [member] ++ members from rfl, answered_append] at once
      exact (List.nodup_append.mp once).2.1
    exact settle_all_cons.mpr ⟨between, read, ih rest between settled⟩
  | swap first second rest =>
    intro settled
    have pair : (answered slots [second, first]).Nodup := by
      rw [show second :: first :: rest = [second, first] ++ rest from rfl, answered_append] at once
      exact (List.nodup_append.mp once).1
    simp only [List.foldlM_cons, ← bind_assoc] at settled ⊢
    obtain ⟨between, read, settled⟩ := bind_eq_ok.mp settled
    have swapped := (settle_commute independent pair room before between).mp read
    exact bind_eq_ok.mpr ⟨between, swapped, settled⟩
  | trans first second ihFirst ihSecond =>
    intro settled
    exact ihSecond ((answered_perm first).nodup_iff.mp once) before (ihFirst once before settled)

/-- A record whose fields can be told apart by all their names, and read in any order. -/
structure Regular (slots : List (Slot α)) : Prop where
  independent : slots.Pairwise Commutes
  found : ∀ slot ∈ slots, ∀ name ∈ slot.name :: slot.aliases,
    slots.find? (·.answers name) = some slot

theorem record_reordered (regular : Regular slots) (order : members.Perm others)
    (read : record slots blank (room + 1) (node (.object members)) = .ok result) :
    record slots blank (room + 1) (node (.object others)) = .ok result := by
  obtain ⟨settled, once, complete⟩ := record_eq_ok.mp read
  have same : (answered slots members).Perm (answered slots others) := answered_perm order
  refine record_eq_ok.mpr ⟨?_, same.nodup_iff.mp once, ?_⟩
  · exact settle_perm regular.independent order once blank result settled
  · intro slot member required
    exact same.mem_iff.mp (complete slot member required)

/-- A member may be written in another way that its field reads as the same. -/
theorem record_rewritten (here : slots.find? (·.answers name) = some slot)
    (there : slots.find? (·.answers other) = some slot)
    (same : ∀ before after, slot.read room (node value) before = .ok after →
      slot.read room (node held) before = .ok after)
    (read : record slots blank (room + 1) (node (.object (front ++ (name, value) :: behind))) =
      .ok result) :
    record slots blank (room + 1) (node (.object (front ++ (other, held) :: behind))) =
      .ok result := by
  have answers : answered slots (front ++ (other, held) :: behind) =
      answered slots (front ++ (name, value) :: behind) := by
    rw [answered_append, answered_append, answered_known here, answered_known there]
  obtain ⟨settled, complete⟩ := record_eq_ok.mp read
  refine record_eq_ok.mpr ⟨?_, by rwa [answers]⟩
  rw [List.foldlM_append] at settled ⊢
  obtain ⟨before, settledFront, settled⟩ := bind_eq_ok.mp settled
  obtain ⟨between, readHere, settled⟩ := settle_all_cons.mp settled
  rw [settle_known here] at readHere
  refine bind_eq_ok.mpr ⟨before, settledFront, settle_all_cons.mpr ⟨between, ?_, settled⟩⟩
  rw [settle_known there]
  exact same before between readHere

/-- A member that nobody knows may be added. -/
theorem record_extended (missing : slots.find? (·.answers name) = none) (value : Value)
    (read : record slots blank (room + 1) (node (.object (front ++ behind))) = .ok result) :
    record slots blank (room + 1) (node (.object (front ++ (name, value) :: behind))) =
      .ok result := by
  have answers : answered slots (front ++ (name, value) :: behind) =
      answered slots (front ++ behind) := by
    rw [answered_append, answered_append, answered_foreign missing]
  obtain ⟨settled, complete⟩ := record_eq_ok.mp read
  refine record_eq_ok.mpr ⟨?_, by rwa [answers]⟩
  rw [List.foldlM_append] at settled ⊢
  obtain ⟨before, settledFront, settled⟩ := bind_eq_ok.mp settled
  refine bind_eq_ok.mpr ⟨before, settledFront, settle_all_cons.mpr ⟨before, ?_, settled⟩⟩
  exact settle_foreign missing room before value

/-- A member may be left out if its field is not required and a blank record already has
what the member says. -/
theorem record_reduced (regular : Regular slots) (here : slots.find? (·.answers name) = some slot)
    (free : slot.required = false)
    (idle : ∀ after, slot.read room (node value) blank = .ok after → after = blank)
    (read : record slots blank (room + 1) (node (.object (front ++ (name, value) :: behind))) =
      .ok result) :
    record slots blank (room + 1) (node (.object (front ++ behind))) = .ok result := by
  have moved := record_reordered regular List.perm_middle read
  obtain ⟨settled, once, complete⟩ := record_eq_ok.mp moved
  obtain ⟨between, readHere, settled⟩ := settle_all_cons.mp settled
  rw [settle_known here] at readHere
  rw [idle between readHere] at settled
  rw [answered_known here] at once complete
  refine record_eq_ok.mpr ⟨settled, (List.nodup_cons.mp once).2, ?_⟩
  intro other member required
  rcases List.mem_cons.mp (complete other member required) with same | later
  · -- Two fields of one name are one field, and this one is not required.
    have one := regular.found slot (List.mem_of_find?_eq_some here) slot.name (by simp)
    have two := regular.found other member slot.name (by simp [same])
    rw [one, Option.some.injEq] at two
    rw [two, required] at free
    cases free
  · exact later

end TypeStubs.RecordTolerance

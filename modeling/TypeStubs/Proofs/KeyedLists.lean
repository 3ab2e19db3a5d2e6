import TypeStubs.Keyed

/-! Lists of keyed values hold each key once, and entries whose keys differ are kept as
they come. -/
namespace TypeStubs.KeyedLists

variable {κ : Type u} {ν : Type v} [BEq κ] [LawfulBEq κ]

private theorem put_fresh (key : κ) (value : ν) (table : List (κ × ν)) (fresh : key ∉ table.map (·.1)) :
    Keyed.put key value table = table ++ [(key, value)] := by
  induction table with
  | nil => rfl
  | cons entry rest ih =>
    have other : entry.1 ≠ key := by
      intro same
      exact fresh (by simp [same])
    have later := ih fun member => fresh (List.mem_cons_of_mem _ member)
    rw [Keyed.put, if_neg (by simpa using other), later, List.cons_append]

theorem lookup_put (key other : κ) (value : ν) (table : List (κ × ν)) :
    (Keyed.put key value table).lookup other =
      if other == key then some value else table.lookup other := by
  induction table with
  | nil =>
    rw [Keyed.put, List.lookup_cons, List.lookup_nil]
    cases other == key <;> rfl
  | cons entry rest ih =>
    obtain ⟨first, held⟩ := entry
    rw [Keyed.put]
    by_cases here : first = key
    · subst here
      rw [if_pos (by simp), List.lookup_cons, List.lookup_cons]
      cases other == first <;> rfl
    · rw [if_neg (by simpa using here), List.lookup_cons, List.lookup_cons, ih]
      by_cases same : other = first
      · subst same
        simp [here]
      · have apart : (other == first) = false := by simpa using same
        rw [apart]

private theorem put_known (key : κ) (value : ν) (table : List (κ × ν)) (known : key ∈ table.map (·.1)) :
    (Keyed.put key value table).map (·.1) = table.map (·.1) := by
  induction table with
  | nil => cases known
  | cons entry rest ih =>
    rw [Keyed.put]
    split
    · rfl
    · rename_i other
      rcases List.mem_cons.mp known with here | later
      · exact absurd (by simp [here]) other
      · rw [List.map_cons, ih later, List.map_cons]

/-- A key that is put stands in the list once. -/
theorem put_nodup (key : κ) (value : ν) (table : List (κ × ν))
    (once : (table.map (·.1)).Nodup) : ((Keyed.put key value table).map (·.1)).Nodup := by
  by_cases known : key ∈ table.map (·.1)
  · rw [put_known key value table known]
    exact once
  · rw [put_fresh key value table known, List.map_append]
    apply List.nodup_append.mpr
    refine ⟨once, by simp, ?_⟩
    rintro held member added here rfl
    cases List.mem_singleton.mp here
    exact known member

private theorem put_all_nodup (entries table : List (κ × ν)) (once : (table.map (·.1)).Nodup) :
    ((Keyed.putAll entries table).map (·.1)).Nodup := by
  induction entries generalizing table with
  | nil => exact once
  | cons entry rest ih => exact ih _ (put_nodup entry.1 entry.2 table once)

theorem of_list_nodup (entries : List (κ × ν)) : ((Keyed.ofList entries).map (·.1)).Nodup :=
  put_all_nodup entries [] List.nodup_nil

private theorem put_all_distinct (entries table : List (κ × ν))
    (once : ((table ++ entries).map (·.1)).Nodup) :
    Keyed.putAll entries table = table ++ entries := by
  induction entries generalizing table with
  | nil => simp [Keyed.putAll]
  | cons entry rest ih =>
    have fresh : entry.1 ∉ table.map (·.1) := by
      intro member
      rw [List.map_append] at once
      exact (List.nodup_append.mp once).2.2 _ member entry.1 (by simp) rfl
    have next := ih (table ++ [(entry.1, entry.2)]) (by simpa using once)
    rw [← put_fresh entry.1 entry.2 table fresh] at next
    calc Keyed.putAll rest (Keyed.put entry.1 entry.2 table)
        = Keyed.put entry.1 entry.2 table ++ rest := next
      _ = table ++ entry :: rest := by rw [put_fresh entry.1 entry.2 table fresh]; simp

/-- Entries whose keys differ keep their order and their values. -/
theorem of_list_distinct (entries : List (κ × ν)) (once : (entries.map (·.1)).Nodup) :
    Keyed.ofList entries = entries :=
  put_all_distinct entries [] once

end TypeStubs.KeyedLists

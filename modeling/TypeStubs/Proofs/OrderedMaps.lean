import TypeStubs.Ordered

/-! Sets and maps that are kept as lists in the order of their texts. Adding to a set
adds one member; changing a map changes the value of one key, and the keys stay in
order, so that a map is determined by what is looked up in it. -/
namespace TypeStubs.OrderedMaps

/-- The keys stand in strict order, so that each stands once. -/
def Sorted (map : List (String × α)) : Prop := map.Pairwise fun first second => first.1 < second.1

theorem mem_insert (text probe : String) (set : List String) :
    probe ∈ Ordered.insert text set ↔ probe = text ∨ probe ∈ set := by
  induction set with
  | nil => simp [Ordered.insert]
  | cons head rest ih =>
    simp only [Ordered.insert]
    split
    · simp
    · split
      · rename_i same
        have same : text = head := by simpa using same
        simp [same]
      · simp only [List.mem_cons, ih]
        exact or_left_comm

private theorem above {key head : String} (notBelow : ¬ key < head) (different : key ≠ head) :
    head < key :=
  Std.lt_of_le_of_ne (String.not_lt.mp notBelow) (Ne.symm different)

private theorem before_ne {first second : String} (before : first < second) : first ≠ second := by
  rintro rfl
  exact String.lt_irrefl first before

theorem lookup_entry (key probe : String) (value : α) (rest : List (String × α)) :
    List.lookup probe ((key, value) :: rest) = if probe = key then some value else rest.lookup probe := by
  rw [List.lookup_cons]
  cases same : probe == key <;> simp_all

/-- In a map in order, a key before the first one has no value. -/
theorem lookup_before (sorted : Sorted ((head, value) :: rest)) (before : key < head) :
    List.lookup key ((head, value) :: rest) = none := by
  apply List.lookup_eq_none_iff.mpr
  intro entry member
  apply bne_iff_ne.mpr
  rcases List.mem_cons.mp member with rfl | behind
  · exact before_ne before
  · exact before_ne (String.lt_trans before ((List.pairwise_cons.mp sorted).1 entry behind))

/-- A change is seen at its key and nowhere else. -/
theorem lookup_alter (key probe : String) (change : Option α → α) (map : List (String × α))
    (sorted : Sorted map) :
    (Ordered.alter key change map).lookup probe =
      if probe = key then some (change (map.lookup key)) else map.lookup probe := by
  induction map with
  | nil => simp [Ordered.alter, lookup_entry]
  | cons entry rest ih =>
    obtain ⟨head, value⟩ := entry
    by_cases before : key < head
    · rw [Ordered.alter, if_pos before, lookup_before sorted before, lookup_entry]
    · by_cases here : key = head
      · subst here
        simp only [Ordered.alter, before, lookup_entry, beq_self_eq_true, ↓reduceIte]
        by_cases same : probe = key <;> simp [same]
      · rw [Ordered.alter, if_neg before, if_neg (by simpa using here), lookup_entry,
          ih (List.pairwise_cons.mp sorted).2]
        by_cases same : probe = key
        · subst same
          simp [lookup_entry, here]
        · simp [lookup_entry, same]

private theorem mem_alter_key (key : String) (change : Option α → α) (map : List (String × α))
    (member : entry ∈ Ordered.alter key change map) :
    entry.1 = key ∨ ∃ old ∈ map, entry.1 = old.1 := by
  induction map with
  | nil =>
    cases List.mem_singleton.mp member
    exact .inl rfl
  | cons head rest ih =>
    simp only [Ordered.alter] at member
    split at member
    · rcases List.mem_cons.mp member with rfl | member
      · exact .inl rfl
      · exact .inr ⟨entry, member, rfl⟩
    · split at member
      · rcases List.mem_cons.mp member with rfl | member
        · exact .inr ⟨head, by simp, rfl⟩
        · exact .inr ⟨entry, by simp [member], rfl⟩
      · rcases List.mem_cons.mp member with rfl | member
        · exact .inr ⟨head, by simp, rfl⟩
        · rcases ih member with same | ⟨old, inside, same⟩
          · exact .inl same
          · exact .inr ⟨old, by simp [inside], same⟩

theorem sorted_alter (key : String) (change : Option α → α) (map : List (String × α))
    (sorted : Sorted map) : Sorted (Ordered.alter key change map) := by
  induction map with
  | nil => simp [Sorted, Ordered.alter]
  | cons entry rest ih =>
    obtain ⟨head, value⟩ := entry
    obtain ⟨below, restSorted⟩ := List.pairwise_cons.mp sorted
    simp only [Ordered.alter]
    split
    · rename_i before
      refine List.pairwise_cons.mpr ⟨?_, sorted⟩
      intro entry member
      rcases List.mem_cons.mp member with rfl | behind
      · exact before
      · exact String.lt_trans before (below entry behind)
    · rename_i notBelow
      split
      · exact List.pairwise_cons.mpr ⟨below, restSorted⟩
      · rename_i different
        refine List.pairwise_cons.mpr ⟨?_, ih restSorted⟩
        intro entry member
        rcases mem_alter_key key change rest member with same | ⟨old, inside, same⟩
        · rw [same]
          exact above notBelow (by simpa using different)
        · rw [same]
          exact below old inside

/-- The entries of a map in order are what is looked up in it. -/
theorem mem_iff_lookup (sorted : Sorted map) : (key, value) ∈ map ↔ map.lookup key = some value := by
  induction map with
  | nil => simp
  | cons entry rest ih =>
    obtain ⟨head, held⟩ := entry
    obtain ⟨below, restSorted⟩ := List.pairwise_cons.mp sorted
    rw [List.mem_cons, lookup_entry, ih restSorted]
    by_cases same : key = head
    · subst same
      have absent : rest.lookup key = none := List.lookup_eq_none_iff.mpr fun other member =>
        bne_iff_ne.mpr (before_ne (below other member))
      simp [absent, eq_comm]
    · simp [same]

end TypeStubs.OrderedMaps

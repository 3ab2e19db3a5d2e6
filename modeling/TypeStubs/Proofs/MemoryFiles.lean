import TypeStubs.Storage.Memory

/-! Files kept in memory, as a map from paths to texts. Two spellings of a path are one
key when they have the same components. Putting a text changes what is kept under one
key; the files stay in the order of their paths, so that a path that is there is found
again and keeps its spelling. -/
namespace TypeStubs.MemoryFiles

/-- The text of a component that is a name. -/
def nameText : Path.Component → String
  | .name text => text
  | _ => ""

/-- Components are ordered by kind and then by name. -/
theorem component_compare :
    Path.Component.compare = compareLex (compareOn Path.Component.rank) (compareOn nameText) := by
  funext first second
  cases first <;> cases second <;> try rfl
  simp only [Path.Component.compare, beq_iff_eq, compareLex, compareOn, Path.Component.rank]
  rfl

private theorem compare_components :
    Path.compareComponents = List.compareLex Path.Component.compare := by
  funext first second
  induction first generalizing second with
  | nil => cases second <;> rfl
  | cons a as ih =>
    cases second with
    | nil => rfl
    | cons b bs =>
      rw [Path.compareComponents, ih, List.compareLex_cons_cons]

instance : Std.TransCmp Path.Component.compare := by
  rw [component_compare]
  infer_instance

instance : Std.LawfulEqCmp Path.Component.compare where
  eq_of_compare {first second} same := by
    rw [component_compare, compareLex_eq_eq] at same
    have kind : first.rank = second.rank := Std.LawfulEqCmp.eq_of_compare same.1
    have text : nameText first = nameText second := Std.LawfulEqCmp.eq_of_compare same.2
    cases first <;> cases second <;> simp_all [Path.Component.rank, nameText]

instance : Std.TransCmp Path.compare where
  eq_swap := by
    intro first second
    rw [Path.compare, Path.compare, compare_components]
    exact Std.OrientedCmp.eq_swap
  isLE_trans := by
    intro first second third
    simp only [Path.compare, compare_components]
    exact Std.TransCmp.isLE_trans

/-- Paths are the same key when they have the same components. -/
theorem compare_eq_iff (first second : String) :
    Path.compare first second = .eq ↔ Path.components first = Path.components second := by
  rw [Path.compare, compare_components]
  exact Std.LawfulEqCmp.compare_eq_iff_eq

/-- The files stand in the order of their paths, each path once. -/
def InOrder (memory : Memory) : Prop :=
  memory.files.Pairwise fun first second => Path.compare first.1 second.1 = .lt

theorem empty_in_order : InOrder {} := List.Pairwise.nil

private theorem get_entry (head text key : String) (rest : List (String × String)) :
    Memory.get? ⟨(head, text) :: rest⟩ key =
      if Path.components key = Path.components head then some text else Memory.get? ⟨rest⟩ key := by
  unfold Memory.get?
  by_cases same : Path.components key = Path.components head
  · simp [(compare_eq_iff ..).mpr same, same]
  · have different : Path.compare key head ≠ .eq := fun equal => same ((compare_eq_iff ..).mp equal)
    rw [List.find?_cons_of_neg (by simpa using different), if_neg same]

/-- Putting a text changes what is kept under its path and nothing else. -/
theorem get_put (memory : Memory) (path text key : String) :
    (memory.put path text).get? key =
      if Path.components key = Path.components path then some text else memory.get? key := by
  obtain ⟨files⟩ := memory
  unfold Memory.put
  induction files with
  | nil => exact get_entry path text key []
  | cons file rest ih =>
    obtain ⟨head, old⟩ := file
    simp only [Memory.putFile]
    cases order : Path.compare path head with
    | lt => exact get_entry path text key ((head, old) :: rest)
    | eq =>
      have same := (compare_eq_iff ..).mp order
      simp only [get_entry, same]
      by_cases here : Path.components key = Path.components head <;> simp [here]
    | gt =>
      have apart : Path.components path ≠ Path.components head := by
        intro same
        rw [(compare_eq_iff ..).mpr same] at order
        cases order
      simp only [get_entry, ih]
      by_cases here : Path.components key = Path.components head
      · simp [here, Ne.symm apart]
      · simp [here]

private theorem mem_put_file (path text : String) (files : List (String × String))
    (member : file ∈ Memory.putFile path text files) :
    file.1 = path ∨ ∃ old ∈ files, file.1 = old.1 := by
  induction files with
  | nil =>
    cases List.mem_singleton.mp member
    exact .inl rfl
  | cons head rest ih =>
    simp only [Memory.putFile] at member
    split at member
    · rcases List.mem_cons.mp member with rfl | member
      · exact .inl rfl
      · exact .inr ⟨file, member, rfl⟩
    · rcases List.mem_cons.mp member with rfl | member
      · exact .inr ⟨head, by simp, rfl⟩
      · exact .inr ⟨file, by simp [member], rfl⟩
    · rcases List.mem_cons.mp member with rfl | member
      · exact .inr ⟨head, by simp, rfl⟩
      · rcases ih member with same | ⟨old, inside, same⟩
        · exact .inl same
        · exact .inr ⟨old, by simp [inside], same⟩

theorem put_in_order (path text : String) (ordered : InOrder memory) :
    InOrder (memory.put path text) := by
  obtain ⟨files⟩ := memory
  unfold InOrder Memory.put at *
  induction files with
  | nil => simp [Memory.putFile]
  | cons file rest ih =>
    obtain ⟨head, old⟩ := file
    obtain ⟨below, restOrdered⟩ := List.pairwise_cons.mp ordered
    simp only [Memory.putFile]
    cases order : Path.compare path head with
    | lt =>
      refine List.pairwise_cons.mpr ⟨?_, ordered⟩
      intro later member
      rcases List.mem_cons.mp member with rfl | behind
      · exact order
      · exact Std.TransCmp.lt_trans order (below later behind)
    | eq => exact List.pairwise_cons.mpr ⟨below, restOrdered⟩
    | gt =>
      refine List.pairwise_cons.mpr ⟨?_, ih restOrdered⟩
      intro later member
      rcases mem_put_file path text rest member with same | ⟨other, inside, same⟩
      · rw [same]
        exact Std.OrientedCmp.gt_iff_lt.mp order
      · rw [same]
        exact below other inside

/-- A path that is not there adds one file. -/
theorem put_file_fresh (path text : String) (files : List (String × String))
    (fresh : ∀ file ∈ files, Path.components path ≠ Path.components file.1) :
    (Memory.putFile path text files).Perm ((path, text) :: files) := by
  induction files with
  | nil => exact List.Perm.refl _
  | cons file rest ih =>
    obtain ⟨head, old⟩ := file
    simp only [Memory.putFile]
    cases order : Path.compare path head with
    | lt => exact List.Perm.refl _
    | eq => exact absurd ((compare_eq_iff ..).mp order) (fresh (head, old) List.mem_cons_self)
    | gt =>
      have behind := ih fun later member => fresh later (List.mem_cons_of_mem _ member)
      exact (behind.cons (head, old)).trans (List.Perm.swap ..)

/-- A path that is there keeps its place and its spelling. -/
theorem put_keeps_paths (path text : String) (ordered : InOrder memory)
    (present : ∃ file ∈ memory.files, Path.components path = Path.components file.1) :
    (memory.put path text).files.map (·.1) = memory.files.map (·.1) := by
  obtain ⟨files⟩ := memory
  obtain ⟨found, inside, same⟩ := present
  unfold InOrder Memory.put at *
  induction files with
  | nil => cases inside
  | cons file rest ih =>
    obtain ⟨head, old⟩ := file
    obtain ⟨below, restOrdered⟩ := List.pairwise_cons.mp ordered
    have equal := (compare_eq_iff path found.1).mpr same
    simp only [Memory.putFile]
    rcases List.mem_cons.mp inside with rfl | behind
    · simp [equal]
    · -- What stands before the path is below it, so the search goes on.
      have above : Path.compare path head = .gt := by
        rw [Std.TransCmp.congr_left equal]
        exact Std.OrientedCmp.gt_iff_lt.mpr (below found behind)
      simp [above, ih restOrdered behind]

private theorem get_absent (files : List (String × String))
    (absent : ∀ file ∈ files, Path.components key ≠ Path.components file.1) :
    Memory.get? ⟨files⟩ key = none := by
  induction files with
  | nil => rfl
  | cons file rest ih =>
    rw [get_entry, if_neg (absent file List.mem_cons_self)]
    exact ih fun later member => absent later (List.mem_cons_of_mem _ member)

theorem get_present {memory : Memory} (held : memory.get? key = some text) :
    ∃ file ∈ memory.files, Path.components key = Path.components file.1 := by
  obtain ⟨file, found, _⟩ := Option.map_eq_some_iff.mp held
  have equal : Path.compare key file.1 = .eq := by simpa using List.find?_some found
  exact ⟨file, List.mem_of_find?_eq_some found, (compare_eq_iff ..).mp equal⟩

/-- A memory is determined by its paths and by what is kept under them. -/
theorem memory_ext (ordered : InOrder first)
    (paths : first.files.map (·.1) = second.files.map (·.1))
    (kept : ∀ key, first.get? key = second.get? key) : first = second := by
  obtain ⟨files⟩ := first
  obtain ⟨others⟩ := second
  simp only [InOrder] at ordered paths
  congr 1
  induction files generalizing others with
  | nil => simpa using paths.symm
  | cons file rest ih =>
    obtain ⟨head, text⟩ := file
    cases others with
    | nil => simp at paths
    | cons other otherRest =>
      obtain ⟨otherHead, otherText⟩ := other
      simp only [List.map_cons, List.cons.injEq] at paths
      obtain ⟨rfl, restPaths⟩ := paths
      obtain ⟨below, restOrdered⟩ := List.pairwise_cons.mp ordered
      have texts := kept head
      simp only [get_entry, ↓reduceIte, Option.some.injEq] at texts
      subst texts
      -- No later path is the first one again, in either of the two.
      have apart (path : String) (inside : path ∈ rest.map (·.1)) :
          Path.components head ≠ Path.components path := by
        obtain ⟨later, member, rfl⟩ := List.mem_map.mp inside
        intro same
        have before := below later member
        rw [(compare_eq_iff ..).mpr same] at before
        cases before
      congr 1
      refine ih restOrdered otherRest restPaths fun key => ?_
      by_cases here : Path.components key = Path.components head
      · rw [get_absent rest, get_absent otherRest]
        · intro later member
          rw [here]
          exact apart later.1 (restPaths ▸ List.mem_map_of_mem member)
        · intro later member
          rw [here]
          exact apart later.1 (List.mem_map_of_mem member)
      · simpa only [get_entry, here, ↓reduceIte] using kept key

end TypeStubs.MemoryFiles

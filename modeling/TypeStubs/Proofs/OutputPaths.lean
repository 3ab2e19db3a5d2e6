import TypeStubs.Layout
import TypeStubs.Proofs.TextPieces

/-! Where modules are stored. The path of a module is the output directory followed by
the segments of the module, the last of them with the extension. When the extension
starts with a dot, different segments give different paths, so that two spellings of one
stored path never arise: paths with the same components are equal as texts. -/
namespace TypeStubs.OutputPaths
open TextPieces

/-- A segment that takes a step of its own: it is not empty, no dot, and has no slash. -/
structure Plain (segment : String) : Prop where
  nonempty : segment ≠ ""
  undotted : segment ≠ "."
  unslashed : '/' ∉ segment.toList

theorem segments_plain {segment : String} (path : String) (member : segment ∈ Layout.segments path) :
    Plain segment := by
  simp only [Layout.segments, Text.splitOn, List.mem_filter, List.mem_map] at member
  obtain ⟨⟨piece, inside, rfl⟩, kept⟩ := member
  simp only [Bool.and_eq_true, Bool.not_eq_true', String.isEmpty_eq_false_iff, bne_iff_ne] at kept
  refine ⟨kept.1, kept.2, ?_⟩
  rw [String.toList_ofList]
  exact split_pieces_free '/' path.toList piece inside

private theorem stem_subset (file : String) (member : c ∈ (Layout.stem file).toList) : c ∈ file.toList := by
  unfold Layout.stem at member
  cases cut : Chars.cutLast? '.' file.toList with
  | none => simpa [cut] using member
  | some parts =>
    obtain ⟨before, after⟩ := parts
    by_cases empty : before = []
    · simpa [cut, empty] using member
    · simp only [cut, List.isEmpty_iff, empty, ↓reduceIte, String.toList_ofList] at member
      obtain ⟨⟨tail, lead⟩, found, same⟩ := Option.map_eq_some_iff.mp cut
      cases same
      have whole := (cut_first_some found).1
      have inside : c ∈ file.toList.reverse := by
        rw [whole]
        exact List.mem_append_right _ (List.mem_cons_of_mem _ (List.mem_reverse.mp member))
      exact List.mem_reverse.mp inside

private theorem stem_nonempty (nonempty : file ≠ "") : Layout.stem file ≠ "" := by
  unfold Layout.stem
  split
  · split
    · exact nonempty
    · rename_i before _ _ some
      intro none
      have empty := congrArg String.toList none
      simp only [String.toList_ofList, String.toList_empty] at empty
      simp [empty] at some
  · exact nonempty

theorem module_segments_nil_iff (layout : Layout) (source : String) :
    layout.moduleSegments source = [] ↔ layout.sourceSegments source = [] := by
  cases last : (layout.sourceSegments source).getLast? with
  | none => simp [Layout.moduleSegments, List.getLast?_eq_none_iff.mp last]
  | some file => simp [Layout.moduleSegments, last, List.ne_nil_of_mem (List.mem_of_getLast? last)]

/-- The directories of a module are plain, and its name is a text without slashes that is
empty only when there are no segments at all. -/
theorem module_segments_cases (layout : Layout) (source : String) :
    layout.moduleSegments source = [] ∨
      ∃ dirs name, layout.moduleSegments source = dirs ++ [name] ∧ (∀ dir ∈ dirs, Plain dir) ∧
        name ≠ "" ∧ '/' ∉ name.toList := by
  have plain : ∀ segment ∈ layout.sourceSegments source, Plain segment :=
    fun segment member => segments_plain _ member
  cases last : (layout.sourceSegments source).getLast? with
  | none => exact .inl (by simp only [Layout.moduleSegments, last])
  | some file =>
    have filePlain := plain file (List.mem_of_getLast? last)
    refine .inr ⟨(layout.sourceSegments source).dropLast, Layout.stem file,
      by simp only [Layout.moduleSegments, last], ?_, stem_nonempty filePlain.nonempty, ?_⟩
    · intro dir member
      exact plain dir (List.dropLast_subset _ member)
    · intro slash
      exact filePlain.unslashed (stem_subset file slash)

/-- A path that goes on: with a slash at its end, unless it is empty. -/
def opened (path : String) : String :=
  if path.isEmpty || path.toList.getLast? == some '/' then path else path ++ "/"

private theorem opened_cases (path : String) : opened path = "" ∨ ∃ lead, opened path = lead ++ "/" := by
  unfold opened
  by_cases empty : path = ""
  · exact .inl (by simp [empty])
  · right
    by_cases closed : path.toList.getLast? = some '/'
    · obtain ⟨lead, whole⟩ := List.getLast?_eq_some_iff.mp closed
      refine ⟨String.ofList lead, ?_⟩
      apply String.toList_inj.mp
      simp [whole]
    · exact ⟨path, by simp [empty, closed]⟩

theorem push_relative (path : String) (relative : part.toList.head? ≠ some '/') :
    Path.push path part = opened path ++ part := by
  simp only [Path.push, opened, beq_iff_eq, relative, ↓reduceIte]
  split <;> rfl

/-- The segments of a module with the extension behind the last one. -/
def named (extension : String) (segments : List String) : List String :=
  segments.dropLast ++ [segments.getLastD "" ++ extension]

theorem named_append (extension : String) (dirs : List String) (name : String) :
    named extension (dirs ++ [name]) = dirs ++ [name ++ extension] := by
  simp [named]

theorem join_first (first : String) (others : List String) :
    ∃ tail, Text.join "/" (first :: others) = first ++ tail := by
  cases others with
  | nil => exact ⟨"", by simp [Text.join]⟩
  | cons second others => exact ⟨"/" ++ Text.join "/" (second :: others), by simp [Text.join, String.append_assoc]⟩

private theorem join_last (others : List String) (last : String) :
    ∃ lead, Text.join "/" (others ++ [last]) = lead ++ last := by
  by_cases single : others = []
  · exact ⟨"", by simp [single, Text.join]⟩
  · exact ⟨Text.join "/" others ++ "/", by simp [Text.join, String.intercalate_append_of_ne_nil single]⟩

/-- What is put behind joined texts goes to the last of them. -/
theorem join_extended (others : List String) (last extension : String) :
    Text.join "/" (others ++ [last]) ++ extension = Text.join "/" (others ++ [last ++ extension]) := by
  by_cases single : others = []
  · simp [single, Text.join]
  · simp [Text.join, String.intercalate_append_of_ne_nil single, String.append_assoc]

theorem starts_relative {segment : String} (nonempty : segment ≠ "")
    (unslashed : '/' ∉ segment.toList) (tail : String) :
    (segment ++ tail).toList.head? ≠ some '/' := by
  obtain ⟨first, behind, chars⟩ := List.exists_cons_of_ne_nil
    (show segment.toList ≠ [] by simpa using nonempty)
  rw [chars, List.mem_cons, not_or] at unslashed
  simpa [chars] using Ne.symm unslashed.1

private theorem opened_plain {segment : String} (lead : String) (plain : Plain segment) :
    opened (lead ++ segment) = lead ++ segment ++ "/" := by
  have chars : segment.toList ≠ [] := by simpa using plain.nonempty
  have unclosed : (lead ++ segment).toList.getLast? ≠ some '/' := by
    rw [String.toList_append, List.getLast?_append, List.getLast?_eq_some_getLast chars, Option.some_or]
    intro slash
    apply plain.unslashed
    rw [← Option.some.inj slash]
    exact List.getLast_mem chars
  have nonempty : lead ++ segment ≠ "" := by simp [plain.nonempty]
  rw [opened, if_neg]
  simp only [Bool.or_eq_true, beq_iff_eq, String.isEmpty_iff]
  exact not_or.mpr ⟨nonempty, unclosed⟩

/-- Pushing directories and then a file joins them all. -/
theorem push_directories (path file : String) (plain : ∀ dir ∈ dirs, Plain dir) (nonempty : dirs ≠ [])
    (relative : file.toList.head? ≠ some '/') :
    Path.push (Path.push path (Text.join "/" dirs)) file =
      opened path ++ Text.join "/" (dirs ++ [file]) := by
  have dirsRelative : (Text.join "/" dirs).toList.head? ≠ some '/' := by
    obtain ⟨first, others, rfl⟩ := List.exists_cons_of_ne_nil nonempty
    obtain ⟨tail, joined⟩ := join_first first others
    rw [joined]
    have firstPlain := plain first List.mem_cons_self
    exact starts_relative firstPlain.nonempty firstPlain.unslashed tail
  have closed : opened (opened path ++ Text.join "/" dirs) = opened path ++ Text.join "/" dirs ++ "/" := by
    obtain ⟨others, last, rfl⟩ := (List.eq_nil_or_concat dirs).resolve_left nonempty
    obtain ⟨lead, joined⟩ := join_last others last
    rw [List.concat_eq_append, joined, ← String.append_assoc]
    exact opened_plain _ (plain last (by simp))
  rw [push_relative path dirsRelative, push_relative _ relative, closed]
  simp [Text.join, String.intercalate_append_of_ne_nil nonempty, String.append_assoc]

/-- The path of a module with segments, whatever its extension is. -/
theorem output_path_of_segments (layout : Layout)
    (segments : layout.moduleSegments source = dirs ++ [name]) :
    layout.outputPath source =
      opened layout.output ++ Text.join "/" (dirs ++ [name ++ layout.extension]) := by
  have plain : ∀ segment ∈ layout.sourceSegments source, Plain segment :=
    fun segment member => segments_plain _ member
  unfold Layout.moduleSegments at segments
  unfold Layout.outputPath
  generalize layout.sourceSegments source = parts at plain segments ⊢
  rcases List.eq_nil_or_concat parts with rfl | ⟨front, last, rfl⟩
  · simp at segments
  · rw [List.concat_eq_append] at plain segments ⊢
    simp only [List.getLast?_concat, List.dropLast_concat] at segments
    obtain ⟨rfl, same⟩ := List.append_inj' segments rfl
    obtain rfl : Layout.stem last = name := by simpa using same
    have lastPlain := plain last (by simp)
    have dirsPlain : ∀ dir ∈ front, Plain dir := fun dir member => plain dir (by simp [member])
    have relative : (Layout.stem last ++ layout.extension).toList.head? ≠ some '/' :=
      starts_relative (stem_nonempty lastPlain.nonempty)
        (fun slash => lastPlain.unslashed (stem_subset last slash)) layout.extension
    simp only [List.getLastD_concat, List.dropLast_concat]
    by_cases empty : front = []
    · simp [empty, push_relative _ relative, Text.join]
    · simp [empty, push_directories _ _ dirsPlain empty relative]

/-- The path of a module is the output directory with the segments of the module below it. -/
theorem output_path_eq (layout : Layout) (dotted : layout.extension.toList.head? = some '.')
    (source : String) :
    layout.outputPath source =
      opened layout.output ++ Text.join "/" (named layout.extension (layout.moduleSegments source)) := by
  rcases module_segments_cases layout source with none | ⟨dirs, name, segments, _, _, _⟩
  · have relative : (Layout.stem "" ++ layout.extension).toList.head? ≠ some '/' := by
      simp [show Layout.stem "" = "" from rfl, dotted]
    have empty := (module_segments_nil_iff layout source).mp none
    rw [none]
    simp only [Layout.outputPath, empty, List.getLastD_nil, List.dropLast_nil, List.isEmpty_nil,
      ↓reduceIte]
    rw [push_relative _ relative]
    simp [named, Text.join, show Layout.stem "" = "" from rfl]
  · rw [output_path_of_segments layout segments, segments, named_append]

/-- The component that a segment stands for. -/
def component (segment : String) : Path.Component := if segment = ".." then .parent else .name segment

private theorem component_injective (same : component first = component second) : first = second := by
  unfold component at same
  split at same <;> split at same <;> simp_all

theorem steps_append (front behind : List String) :
    Path.steps (front ++ behind) = Path.steps front ++ Path.steps behind := by
  simp [Path.steps]

theorem steps_single {segment : String} (nonempty : segment ≠ "") (undotted : segment ≠ ".") :
    Path.steps [segment] = [component segment] := by
  unfold component
  by_cases up : segment = ".." <;> simp [Path.steps, nonempty, undotted, up]

theorem steps_plain (plain : ∀ dir ∈ dirs, Plain dir) : Path.steps dirs = dirs.map component := by
  induction dirs with
  | nil => rfl
  | cons dir rest ih =>
    have dirPlain := plain dir List.mem_cons_self
    have restPlain : ∀ other ∈ rest, Plain other := fun other member =>
      plain other (List.mem_cons_of_mem _ member)
    rw [← List.singleton_append, steps_append, steps_single dirPlain.nonempty dirPlain.undotted,
      ih restPlain]
    rfl

private theorem here_not_step (parts : List String) : Path.Component.here ∉ Path.steps parts := by
  intro member
  obtain ⟨part, _, step⟩ := List.mem_filterMap.mp member
  split at step
  · cases step
  · split at step <;> cases step

theorem split_slash_append (front behind : String) :
    Text.splitOn '/' (front ++ "/" ++ behind) = Text.splitOn '/' front ++ Text.splitOn '/' behind := by
  have chars : (front ++ "/" ++ behind).toList = front.toList ++ '/' :: behind.toList := by simp
  rw [Text.splitOn, chars, split_append, List.map_append]
  rfl

private theorem split_unslashed_append (front behind : String) (unslashed : '/' ∉ front.toList) :
    Text.splitOn '/' (front ++ behind) = (Text.splitOn '/' behind).modifyHead (front ++ ·) := by
  obtain ⟨first, others, pieces⟩ := split_cons '/' behind.toList
  simp [Text.splitOn, split_free_append '/' front.toList behind.toList unslashed, pieces]

theorem split_unslashed {segment : String} (unslashed : '/' ∉ segment.toList) :
    Text.splitOn '/' segment = [segment] := by
  have single := split_unslashed_append segment "" unslashed
  simpa [Text.splitOn, Chars.splitOn] using single

/-- Below the same path, relative tails with the same components take the same steps. -/
theorem tail_steps (path : String) (relative : tail.toList.head? ≠ some '/')
    (otherRelative : otherTail.toList.head? ≠ some '/')
    (same : Path.components (opened path ++ tail) = Path.components (opened path ++ otherTail)) :
    Path.steps (Text.splitOn '/' tail) = Path.steps (Text.splitOn '/' otherTail) := by
  rcases opened_cases path with empty | ⟨lead, opens⟩
  · -- Nothing stands before the tails: only a dot at their start could tell them apart.
    simp only [empty, String.empty_append, Path.components, beq_iff_eq, relative, otherRelative,
      ↓reduceIte] at same
    have apart (front behind : List String) : Path.Component.here :: Path.steps front ≠ Path.steps behind := by
      intro equal
      apply here_not_step behind
      rw [← equal]
      exact List.mem_cons_self
    split at same <;> split at same
    · exact (List.cons.inj same).2
    · exact absurd same (apart _ _)
    · exact absurd same.symm (apart _ _)
    · exact same
  · obtain ⟨first, others, pieces⟩ := split_cons '/' lead.toList
    have starts (tail : String) : (lead ++ "/" ++ tail).toList.head? = (lead ++ "/").toList.head? := by
      simp
    simp only [opens, Path.components, starts, split_slash_append, steps_append] at same
    simp only [Text.splitOn, pieces, List.map_cons, List.cons_append, List.head?_cons] at same
    split at same
    · exact List.append_cancel_left (List.cons.inj same).2
    · split at same
      · exact List.append_cancel_left (List.cons.inj same).2
      · exact List.append_cancel_left same

theorem split_join (file : String) (unslashed : ∀ dir ∈ dirs, '/' ∉ dir.toList) :
    Text.splitOn '/' (Text.join "/" (dirs ++ [file])) = dirs ++ Text.splitOn '/' file := by
  induction dirs with
  | nil => simp [Text.join]
  | cons dir rest ih =>
    have joined : Text.join "/" (dir :: rest ++ [file]) = dir ++ "/" ++ Text.join "/" (rest ++ [file]) := by
      simp [Text.join, String.intercalate_cons_of_ne_nil]
    rw [joined, split_slash_append, split_unslashed (unslashed dir List.mem_cons_self),
      ih fun other member => unslashed other (List.mem_cons_of_mem _ member)]
    rfl

/-- An extension that starts with a dot adds something to the name before it. -/
theorem split_extension (dotted : extension.toList.head? = some '.') :
    ∃ first others, Text.splitOn '/' extension = first :: others ∧ first ≠ "" := by
  obtain ⟨rest, chars⟩ := List.head?_eq_some_iff.mp dotted
  obtain ⟨first, others, pieces⟩ := split_cons '/' rest
  refine ⟨String.ofList ('.' :: first), others.map String.ofList, ?_, ?_⟩
  · simp [Text.splitOn, chars, Chars.splitOn, pieces]
  · intro empty
    have none := congrArg String.toList empty
    simp at none

theorem named_relative (layout : Layout) (dotted : layout.extension.toList.head? = some '.') (source : String) :
    (Text.join "/" (named layout.extension (layout.moduleSegments source))).toList.head? ≠ some '/' := by
  rcases module_segments_cases layout source with none | ⟨dirs, name, segments, plain, nonempty, unslashed⟩
  · simp [none, named, Text.join, dotted]
  · rw [segments, named_append]
    cases dirs with
    | nil => simpa [Text.join] using starts_relative nonempty unslashed layout.extension
    | cons dir rest =>
      have dirPlain := plain dir List.mem_cons_self
      obtain ⟨tail, joined⟩ := join_first dir (rest ++ [name ++ layout.extension])
      rw [List.cons_append, joined]
      exact starts_relative dirPlain.nonempty dirPlain.unslashed tail

/-- The steps to a module, apart from what slashes in the extension add: one for each
segment. Without segments, only an extension that goes on behind its dot takes one. -/
theorem named_steps (layout : Layout) (pieces : Text.splitOn '/' layout.extension = first :: others)
    (some : first ≠ "") (source : String) :
    Path.steps (Text.splitOn '/' (Text.join "/" (named layout.extension (layout.moduleSegments source)))) =
      (if layout.moduleSegments source = [] then Path.steps [first]
        else (named first (layout.moduleSegments source)).map component) ++ Path.steps others := by
  rcases module_segments_cases layout source with none | ⟨dirs, name, segments, plain, nonempty, unslashed⟩
  · rw [none, if_pos rfl, named, ← steps_append]
    simp [Text.join, pieces]
  · have longer : name ++ first ≠ "." := by
      intro dot
      have length := congrArg String.length dot
      have nameLength : 0 < name.length := Nat.pos_of_ne_zero (by simpa using nonempty)
      have firstLength : 0 < first.length := Nat.pos_of_ne_zero (by simpa using some)
      rw [String.length_append] at length
      have one : ".".length = 1 := rfl
      omega
    have split : Text.splitOn '/' (name ++ layout.extension) = (name ++ first) :: others := by
      rw [split_unslashed_append name _ unslashed, pieces]
      rfl
    rw [segments, if_neg (by simp), named_append, named_append,
      split_join _ fun dir member => (plain dir member).unslashed, split, List.append_cons, steps_append,
      steps_append, steps_plain plain, steps_single (by simp [nonempty]) longer, List.map_append]
    rfl

/-- An extension alone does not take the steps that a module with segments takes. -/
theorem extension_steps_apart (dirs : List String) (nonempty : name ≠ "") (some : first ≠ "") :
    Path.steps [first] ≠ (named first (dirs ++ [name])).map component := by
  intro same
  rw [named_append] at same
  by_cases dot : first = "."
  · subst dot
    have lengths := congrArg List.length same
    simp [Path.steps] at lengths
  · rw [steps_single some dot] at same
    have lengths := congrArg List.length same
    have alone : dirs = [] := by simpa using lengths
    subst alone
    have equal : first = name ++ first := component_injective (by simpa using same)
    have length := congrArg String.length equal
    have nameLength : 0 < name.length := Nat.pos_of_ne_zero (by simpa using nonempty)
    rw [String.length_append] at length
    omega

/-- Modules with the same components have the same segments. -/
theorem segments_of_components (layout : Layout) (dotted : layout.extension.toList.head? = some '.')
    (same : Path.components (layout.outputPath source) = Path.components (layout.outputPath other)) :
    layout.moduleSegments source = layout.moduleSegments other := by
  rw [output_path_eq layout dotted, output_path_eq layout dotted] at same
  have steps := tail_steps layout.output (named_relative layout dotted source)
    (named_relative layout dotted other) same
  obtain ⟨first, others, pieces, some⟩ := split_extension dotted
  rw [named_steps layout pieces some, named_steps layout pieces some] at steps
  have steps := List.append_cancel_right steps
  rcases module_segments_cases layout source with none | ⟨dirs, name, segments, _, nonempty, _⟩ <;>
    rcases module_segments_cases layout other with
      otherNone | ⟨otherDirs, otherName, otherSegments, _, otherNonempty, _⟩
  · rw [none, otherNone]
  · rw [none, otherSegments, if_pos rfl, if_neg (by simp)] at steps
    exact absurd steps (extension_steps_apart otherDirs otherNonempty some)
  · rw [otherNone, segments, if_pos rfl, if_neg (by simp)] at steps
    exact absurd steps.symm (extension_steps_apart dirs nonempty some)
  · rw [segments, otherSegments, if_neg (by simp), if_neg (by simp), named_append, named_append] at steps
    have equal := List.map_inj_right (fun _ _ => component_injective) |>.mp steps
    obtain ⟨sameDirs, sameNames⟩ := List.append_inj' equal rfl
    have sameName : name = otherName := by simpa using sameNames
    rw [segments, otherSegments, sameDirs, sameName]

/-- Modules with the same components are stored at one path, spelled in one way. -/
theorem output_path_of_components (layout : Layout) (dotted : layout.extension.toList.head? = some '.')
    (same : Path.components (layout.outputPath source) = Path.components (layout.outputPath other)) :
    layout.outputPath source = layout.outputPath other := by
  rw [output_path_eq layout dotted, output_path_eq layout dotted,
    segments_of_components layout dotted same]

end TypeStubs.OutputPaths

import TypeStubs.Proofs.LexicalPaths

/-! Where the specifiers of modules lead. A specifier is made from the segments of two
modules, and the path of a module by pushing directories and a file name, so the two never
meet in the code. They lead to one place: from the directory of one module, the specifier
of another one with the extension behind it is the path at which the other is stored. -/
namespace TypeStubs.ModuleSpecifiers
open OutputPaths LexicalPaths TypeStubs.Path

/-- What two lists share at their starts. -/
theorem common_shared (first second : List String) :
    first.take (Layout.commonLength first second) = second.take (Layout.commonLength first second) := by
  fun_induction Layout.commonLength first second with
  | case1 a as b bs same ih =>
    rw [beq_iff_eq.mp same, List.take_succ_cons, List.take_succ_cons, ih]
  | case2 => rfl
  | case3 => rfl

private theorem common_le_second (first second : List String) :
    Layout.commonLength first second ≤ second.length := by
  fun_induction Layout.commonLength first second with
  | case1 a as b bs same ih => exact Nat.succ_le_succ ih
  | case2 => exact Nat.zero_le _
  | case3 => exact Nat.zero_le _

/-- A name of a directory: plain, and no double dot. -/
structure Directory (segment : String) : Prop extends Plain segment where
  down : segment ≠ ".."

theorem steps_directories {dirs : List String} (directories : ∀ dir ∈ dirs, Directory dir) :
    steps dirs = dirs.map Component.name := by
  rw [steps_plain fun dir member => (directories dir member).toPlain]
  exact List.map_congr_left fun dir member => if_neg (directories dir member).down

/-- The way goes up once for each directory that is not shared, and then down. The dot of
a way that does not go up takes no step. -/
theorem steps_way (source target : List String) :
    steps (Layout.relativeParts source target) =
      List.replicate (source.dropLast.length - Layout.commonLength source.dropLast target.dropLast)
          Component.parent ++
        steps (target.drop (Layout.commonLength source.dropLast target.dropLast)) := by
  have ups (count : Nat) : steps (List.replicate count "..") = List.replicate count Component.parent := by
    simp [steps]
  unfold Layout.relativeParts
  simp only [steps_append]
  split
  · rename_i none
    rw [none]
    rfl
  · rw [ups]

/-- Whatever stands before: the directories of one module, and the way from it to another
behind them, come to the other. -/
theorem settle_way (source target : List String) (directories : ∀ dir ∈ source.dropLast, Directory dir)
    (behind : List Component) :
    (steps source.dropLast ++ steps (Layout.relativeParts source target)).foldl settle behind =
      (steps target).foldl settle behind := by
  generalize shared : Layout.commonLength source.dropLast target.dropLast = common
  have start : source.dropLast.take common = target.take common := by
    have same := common_shared source.dropLast target.dropLast
    have short := common_le_second source.dropLast target.dropLast
    rw [shared] at same short
    rw [same, List.dropLast_eq_take, List.take_take, Nat.min_eq_left (by simpa using short)]
  have startSteps : steps (target.take common) = (source.dropLast.take common).map Component.name := by
    rw [← start]
    exact steps_directories fun dir member => directories dir (List.mem_of_mem_take member)
  have whole : source.dropLast.map Component.name =
      (source.dropLast.take common).map Component.name ++
        (source.dropLast.drop common).map Component.name := by
    rw [← List.map_append, List.take_append_drop]
  -- What is left of the source is gone up again, and what is left of the target gone down.
  have round := settle_round (source.dropLast.drop common)
  rw [List.length_drop] at round
  calc (steps source.dropLast ++ steps (Layout.relativeParts source target)).foldl settle behind
      = ((source.dropLast.take common).map Component.name ++
          ((source.dropLast.drop common).map Component.name ++
            List.replicate (source.dropLast.length - common) Component.parent) ++
          steps (target.drop common)).foldl settle behind := by
        rw [steps_way, shared, steps_directories directories, whole]
        simp only [List.append_assoc]
    _ = (steps (target.take common) ++ steps (target.drop common)).foldl settle behind := by
        rw [List.foldl_append, List.foldl_append, round, startSteps, ← List.foldl_append]
    _ = (steps target).foldl settle behind := by
        rw [← steps_append, List.take_append_drop]

private theorem way_solid {source target : List String} (solid : ∀ segment ∈ target, Solid segment) :
    ∀ part ∈ Layout.relativeParts source target, Solid part := by
  intro part member
  unfold Layout.relativeParts at member
  rcases List.mem_append.mp member with up | down
  · split at up
    · rw [List.mem_singleton.mp up]
      exact ⟨by decide, by decide⟩
    · rw [(List.mem_replicate.mp up).2]
      exact ⟨by decide, by decide⟩
  · exact solid part (List.mem_of_mem_drop down)

/-- A specifier behind the directories of a module comes to what it names. -/
theorem settle_specifier {source target : List String}
    (directories : ∀ dir ∈ source.dropLast, Directory dir) (solid : ∀ segment ∈ target, Solid segment)
    (behind : List Component) :
    (steps source.dropLast ++ components (Layout.relativeImport source target)).foldl settle behind =
      (steps target).foldl settle behind := by
  rw [List.foldl_append, Layout.relativeImport, settle_joined (way_solid solid), ← List.foldl_append,
    settle_way source target directories]

/-- The way between two files given as segments leads from the directory of the one to the
other. -/
theorem relative_import_leads {source target : List String}
    (directories : ∀ dir ∈ source.dropLast, Directory dir) (solid : ∀ segment ∈ target, Solid segment) :
    normal (components (push (Text.join "/" source.dropLast) (Layout.relativeImport source target))) =
      normal (components (Text.join "/" target)) := by
  have relative : (Layout.relativeImport source target).toList.head? ≠ some '/' :=
    joined_relative (way_solid solid)
  have sourceSolid : ∀ dir ∈ source.dropLast, Solid dir := fun dir member =>
    .of_plain (directories dir member).toPlain
  unfold normal
  rw [push_relative _ relative, settle_below _ relative, ← settle_relative relative,
    settle_joined sourceSolid, ← List.foldl_append, settle_specifier directories solid,
    settle_joined solid]

/-- Where a specifier leads from a stored module: its components behind those of the
module's directory, in lexical normal form. -/
def resolved (module specifier : String) : List Component :=
  normal ((components module).dropLast ++ components specifier)

/-- A source that has a module of its own below the output: there is something of it
below the root, and none of its segments is a dot or a double dot. -/
structure Placed (layout : Layout) (source : String) : Prop where
  below : layout.relativeSource source ≠ ""
  undotted : ∀ segment ∈ layout.moduleSegments source, segment ≠ "." ∧ segment ≠ ".."

/-- Behind a name that is no dot and no double dot an extension makes neither of them. -/
theorem extended_directory {name extension : String} (solid : Solid name) (undotted : name ≠ ".")
    (down : name ≠ "..") (unslashed : '/' ∉ extension.toList) : Directory (name ++ extension) := by
  have apart (dots : String) (short : dots.toList <+: ['.', '.']) : name ++ extension ≠ dots := by
    intro same
    have lead : name.toList <+: ['.', '.'] := by
      refine List.IsPrefix.trans ⟨extension.toList, ?_⟩ short
      rw [← String.toList_append, same]
    have cut := List.prefix_iff_eq_take.mp lead
    rcases length : name.toList.length with _ | _ | more
    · exact solid.nonempty (by simpa using length)
    · rw [length] at cut
      exact undotted (String.toList_inj.mp cut)
    · rw [length] at cut
      exact down (String.toList_inj.mp (by simpa using cut))
  refine ⟨⟨by simp [solid.nonempty], apart "." ⟨['.'], rfl⟩, ?_⟩, apart ".." ⟨[], rfl⟩⟩
  rw [String.toList_append, List.mem_append, not_or]
  exact ⟨solid.unslashed, unslashed⟩

/-- The segments of a module that has its place are names of directories, and so is its
own name with the extension behind it. -/
theorem placed_segments {layout : Layout} (unslashed : '/' ∉ layout.extension.toList)
    (placed : Placed layout source) :
    ∃ dirs name, layout.moduleSegments source = dirs ++ [name] ∧
      ∀ part ∈ dirs ++ [name ++ layout.extension], Directory part := by
  rcases module_segments_cases layout source with none | ⟨dirs, name, segments, plain, nonempty, free⟩
  · have empty := (module_segments_nil_iff layout source).mp none
    exact absurd (by rw [Layout.relativeSource, empty]; rfl) placed.below
  · have undotted := placed.undotted
    rw [segments] at undotted
    refine ⟨dirs, name, segments, fun part member => ?_⟩
    rcases List.mem_append.mp member with dir | last
    · exact ⟨plain part dir, (undotted part (by simp [dir])).2⟩
    · obtain ⟨noDot, noDots⟩ := undotted name (by simp)
      rw [List.mem_singleton.mp last]
      exact extended_directory ⟨nonempty, free⟩ noDot noDots unslashed

private theorem directories_solid {parts : List String} (directories : ∀ part ∈ parts, Directory part) :
    ∀ part ∈ parts, Solid part :=
  fun part member => .of_plain (directories part member).toPlain

/-- An extension behind a specifier goes to the name of the module. -/
theorem relative_import_extended (source dirs : List String) (name extension : String) :
    Layout.relativeImport source (dirs ++ [name]) ++ extension =
      Layout.relativeImport source (dirs ++ [name ++ extension]) := by
  have short := common_le_second source.dropLast dirs
  simp only [Layout.relativeImport, Layout.relativeParts, List.dropLast_concat,
    List.drop_append_of_le_length short, ← List.append_assoc]
  exact join_extended _ name extension

section
variable {layout : Layout} (unslashed : '/' ∉ layout.extension.toList)
include unslashed

/-- A module is stored where its segments lead from the output directory. -/
theorem settle_output_path (placed : Placed layout target) :
    (components (layout.outputPath target)).foldl settle [] =
      (steps (named layout.extension (layout.moduleSegments target))).foldl settle
        ((components layout.output).foldl settle []) := by
  obtain ⟨dirs, name, segments, directories⟩ := placed_segments unslashed placed
  have solid := directories_solid directories
  rw [output_path_of_segments layout segments, settle_below _ (joined_relative solid),
    steps_joined solid, segments, named_append]

/-- The directory of a module is where its own directories lead from the output directory. -/
theorem settle_output_directory (placed : Placed layout source) :
    ((components (layout.outputPath source)).dropLast).foldl settle [] =
      (steps (layout.moduleSegments source).dropLast).foldl settle
        ((components layout.output).foldl settle []) := by
  obtain ⟨dirs, name, segments, directories⟩ := placed_segments unslashed placed
  have solid := directories_solid directories
  have file := directories (name ++ layout.extension) (by simp)
  have whole : steps (Text.splitOn '/' (layout.outputPath source)) =
      (steps (Text.splitOn '/' layout.output) ++ steps dirs) ++ [component (name ++ layout.extension)] := by
    rw [output_path_of_segments layout segments, steps_opened, steps_joined solid, steps_append,
      steps_single file.nonempty file.undotted, List.append_assoc]
  rw [settle_directory whole, output_path_of_segments layout segments, origin_opened (joined_relative solid),
    List.foldl_append, ← settle_components, segments, List.dropLast_concat]

/-- From the directory of a module, the specifier of any segments leads where they lead from
the output directory. -/
theorem resolved_specifier {target : List String} (placed : Placed layout source)
    (solid : ∀ segment ∈ target, Solid segment) :
    resolved (layout.outputPath source)
        (Layout.relativeImport (layout.moduleSegments source) target) =
      normal (components layout.output ++ steps target) := by
  obtain ⟨dirs, name, segments, directories⟩ := placed_segments unslashed placed
  have own : ∀ dir ∈ (layout.moduleSegments source).dropLast, Directory dir := by
    intro dir member
    rw [segments, List.dropLast_concat] at member
    exact directories dir (by simp [member])
  rw [resolved, normal, normal, List.foldl_append, settle_output_directory unslashed placed,
    ← List.foldl_append, settle_specifier own solid, List.foldl_append]

end

/-- Specifiers lead to the files that are written. The specifier of one module in another,
with the extension behind it, leads to the path of the first; the specifier of a module
named from the output directory leads there; and both hold because the way from one file
to another leads to the other, whatever the two lists of segments are. -/
theorem specifiers_lead_to_files (layout : Layout) (unslashed : '/' ∉ layout.extension.toList) :
    (∀ source, Placed layout source →
      (∀ target, Placed layout target →
        resolved (layout.outputPath source) (layout.specifier source target ++ layout.extension) =
          normal (components (layout.outputPath target))) ∧
      ∀ module, resolved (layout.outputPath source) (layout.rootSpecifier source module) =
        normal (components layout.output ++ (Layout.segments module).map component)) ∧
    ∀ source target : List String, (∀ dir ∈ source.dropLast, Directory dir) →
      (∀ segment ∈ target, Solid segment) →
      normal (components (push (Text.join "/" source.dropLast) (Layout.relativeImport source target))) =
        normal (components (Text.join "/" target)) := by
  refine ⟨fun source placed => ⟨fun target targetPlaced => ?_, fun module => ?_⟩,
    fun source target directories solid => relative_import_leads directories solid⟩
  · obtain ⟨dirs, name, segments, directories⟩ := placed_segments unslashed targetPlaced
    rw [Layout.specifier, segments, relative_import_extended,
      resolved_specifier unslashed placed (directories_solid directories), normal, normal,
      settle_output_path unslashed targetPlaced, segments, named_append, List.foldl_append]
  · have plain : ∀ segment ∈ Layout.segments module, Plain segment :=
      fun segment member => segments_plain module member
    rw [Layout.rootSpecifier, resolved_specifier unslashed placed fun segment member =>
      .of_plain (plain segment member), steps_plain plain]

/-- An output directory that is spelled with dots and double dots. -/
def webLayout : Layout := ⟨"/src/", "../web/./types", ".d.ts"⟩

/-- A file named like the directory beside it, seen from a file named like the directory
above it. -/
theorem specifiers_lead_to_files_web :
    '/' ∉ webLayout.extension.toList ∧
    webLayout.specifier "/src/Api/Users/Api.cs" "/src/Api/Users.cs" = "../Users" ∧
    resolved (webLayout.outputPath "/src/Api/Users/Api.cs")
        (webLayout.specifier "/src/Api/Users/Api.cs" "/src/Api/Users.cs" ++ webLayout.extension) =
      [.parent, .name "web", .name "types", .name "Api", .name "Users.d.ts"] ∧
    resolved (webLayout.outputPath "/src/Api/Users/Api.cs")
        (webLayout.rootSpecifier "/src/Api/Users/Api.cs" "/Api/../../env/./client") =
      [.parent, .name "web", .name "env", .name "client"] ∧
    normal (components (push "a/b" (Layout.relativeImport ["a", "b", "c"] ["a", "..", "..", "d"]))) =
      [.parent, .name "d"] := by
  have unslashed : '/' ∉ webLayout.extension.toList := by decide
  obtain ⟨files, law⟩ := specifiers_lead_to_files webLayout unslashed
  have source : Placed webLayout "/src/Api/Users/Api.cs" := ⟨by decide +kernel, by decide +kernel⟩
  have target : Placed webLayout "/src/Api/Users.cs" := ⟨by decide +kernel, by decide +kernel⟩
  refine ⟨unslashed, by decide +kernel, ?_, ?_, ?_⟩
  · exact ((files _ source).1 _ target).trans (by decide +kernel)
  · exact ((files _ source).2 _).trans (by decide +kernel)
  · refine (law ["a", "b", "c"] ["a", "..", "..", "d"] ?_ ?_).trans (by decide +kernel)
    · intro dir member
      have shown : dir = "a" ∨ dir = "b" := by simpa using member
      rcases shown with rfl | rfl <;> exact ⟨⟨by decide, by decide, by decide⟩, by decide⟩
    · intro segment member
      have shown : segment = "a" ∨ segment = ".." ∨ segment = "d" := by simpa using member
      rcases shown with rfl | rfl | rfl <;> exact ⟨by decide, by decide⟩

end TypeStubs.ModuleSpecifiers

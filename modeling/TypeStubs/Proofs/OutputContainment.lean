import TypeStubs.Proofs.ModuleSpecifiers

/-! Whether modules are stored below the output directory. Double dots of a source path are
kept as directories of the module, so a module can be led out of the output directory. A
path that goes up and down is, in normal form, some double dots and then names; from a
directory it stays below that directory exactly when the names lead back through what the
double dots left. -/
namespace TypeStubs.OutputContainment
open OutputPaths LexicalPaths TypeStubs.Path

/-- A component that is a name or a double dot. -/
def Step (component : Component) : Prop := component = .parent ∨ ∃ text, component = .name text

private theorem steps_are_steps (parts : List String) : ∀ step ∈ steps parts, Step step := by
  intro step member
  obtain ⟨part, _, taken⟩ := List.mem_filterMap.mp member
  split at taken
  · cases taken
  · split at taken
    · exact .inl (Option.some.inj taken).symm
    · exact .inr ⟨part, (Option.some.inj taken).symm⟩

/-- How often a way goes up in its normal form. -/
def ups (way : List Component) : Nat := (normal way).count .parent

/-- The names that a way goes down in its normal form. -/
def downs (way : List Component) : List String :=
  (normal way).filterMap fun
    | .name text => some text
    | _ => none

/-- Above the start of a relative path double dots stay. -/
theorem settle_above (more count : Nat) :
    (List.replicate count Component.parent).foldl settle (List.replicate more Component.parent) =
      List.replicate (more + count) Component.parent := by
  induction count generalizing more with
  | zero => rfl
  | succ count ih =>
    have one : settle (List.replicate more Component.parent) .parent =
        List.replicate (more + 1) Component.parent := by
      cases more <;> rfl
    rw [List.replicate_succ, List.foldl_cons, one, ih]
    congr 1
    omega

/-- There is nothing above the root. -/
theorem settle_root (count : Nat) :
    (List.replicate count Component.parent).foldl settle [.root] = [.root] := by
  induction count with
  | zero => rfl
  | succ count ih => rw [List.replicate_succ, List.foldl_cons, settle, ih]

/-- A way that leads, from everywhere, where some double dots lead and then some names. The
step before a way goes up once more if it is a double dot; a name is taken back by the first
double dot of the way, or comes first among its names. -/
theorem way_shape (way : List Component) (all : ∀ step ∈ way, Step step) :
    ∃ (count : Nat) (names : List String), ∀ behind, way.foldl settle behind =
      (names.map Component.name).reverse ++ (List.replicate count Component.parent).foldl settle behind := by
  induction way with
  | nil => exact ⟨0, [], fun behind => rfl⟩
  | cons first rest ih =>
    obtain ⟨count, names, leads⟩ := ih fun step member => all step (List.mem_cons_of_mem _ member)
    rcases all first List.mem_cons_self with rfl | ⟨text, rfl⟩
    · refine ⟨count + 1, names, fun behind => ?_⟩
      rw [List.foldl_cons, leads, List.replicate_succ, List.foldl_cons]
    · cases count with
      | zero =>
        refine ⟨0, text :: names, fun behind => ?_⟩
        rw [List.foldl_cons, leads]
        simp [settle]
      | succ count =>
        refine ⟨count, names, fun behind => ?_⟩
        rw [List.foldl_cons, leads, List.replicate_succ, List.foldl_cons]
        rfl

/-- In normal form a way is its double dots and then its names, and that is all that matters
of it from everywhere. -/
theorem way_eq (way : List Component) (all : ∀ step ∈ way, Step step) :
    normal way = List.replicate (ups way) Component.parent ++ (downs way).map Component.name ∧
    ∀ behind, way.foldl settle behind = ((downs way).map Component.name).reverse ++
      (List.replicate (ups way) Component.parent).foldl settle behind := by
  obtain ⟨count, names, leads⟩ := way_shape way all
  have alone := settle_above 0 count
  rw [List.replicate_zero, Nat.zero_add] at alone
  have form : normal way = List.replicate count Component.parent ++ names.map Component.name := by
    rw [normal, leads, alone]
    simp
  have up : ups way = count := by
    have none : (names.map Component.name).count Component.parent = 0 := by simp [List.count_eq_zero]
    rw [ups, form, List.count_append, none, List.count_replicate_self, Nat.add_zero]
  have down : downs way = names := by
    rw [downs, form, List.filterMap_append, List.filterMap_map, List.filterMap_replicate_of_none rfl, List.nil_append]
    exact List.filterMap_some
  rw [up, down]
  exact ⟨form, leads⟩

/-- A file is somewhere below a directory. -/
def Inside (directory file : List Component) : Prop := ∃ more, more ≠ [] ∧ file = directory ++ more

/-- From a directory, some double dots and then some names lead below that directory. -/
inductive Returns : List Component → Nat → List String → Prop where
  /-- The names begin with the directories that were left. -/
  | within (outer : List Component) (left more : List String) (further : more ≠ []) :
      Returns (outer ++ left.map .name) left.length (left ++ more)
  /-- All directories below the root were left, and the names begin with them. -/
  | stopped (left more : List String) (further : more ≠ []) (past : left.length ≤ count) :
      Returns (.root :: left.map .name) count (left ++ more)
  /-- Everything counts as below the directory that no component leads to. -/
  | anywhere (past : 0 < count) (names : List String) : Returns [] count names

private theorem inside_names (front : List Component) (left names : List String) :
    Inside (front ++ left.map .name) (front ++ names.map .name) ↔ ∃ more, more ≠ [] ∧ names = left ++ more := by
  constructor
  · rintro ⟨more, some, whole⟩
    rw [List.append_assoc] at whole
    obtain ⟨first, second, rfl, same, rfl⟩ := List.map_eq_append_iff.mp (List.append_cancel_left whole)
    refine ⟨second, by simpa using some, ?_⟩
    rw [List.map_inj_right (fun _ _ => Component.name.inj) |>.mp same]
  · rintro ⟨more, some, rfl⟩
    exact ⟨more.map .name, by simpa using some, by simp⟩

/-- As many double dots as there are names behind some others lead back to those. -/
theorem settle_left (front : List Component) (outer left : List String) :
    (List.replicate left.length Component.parent).foldl settle
        ((front ++ (outer ++ left).map Component.name).reverse) =
      (front ++ outer.map Component.name).reverse := by
  have spelled : (front ++ (outer ++ left).map Component.name).reverse =
      left.reverse.map Component.name ++ (front ++ outer.map Component.name).reverse := by
    simp
  rw [spelled, ← List.length_reverse, settle_parents]

section
variable {front : List Component} {names targets : List String} {count : Nat}

/-- Where double dots lead that do not leave the start of the directory. -/
theorem returns_within_iff (start : front = [] ∨ front = [.root]) (outer left : List String) :
    Returns (front ++ (outer ++ left).map .name) left.length targets ↔
      ∃ more, more ≠ [] ∧ targets = left ++ more := by
  constructor
  · generalize spelled : front ++ (outer ++ left).map Component.name = directory
    generalize counted : left.length = count
    intro returns
    cases returns with
    | within others taken more further =>
      rw [List.map_append, ← List.append_assoc] at spelled
      obtain ⟨-, same⟩ := List.append_inj' spelled (by simpa using counted)
      exact ⟨more, further, by rw [List.map_inj_right (fun _ _ => Component.name.inj) |>.mp same]⟩
    | stopped taken more further past =>
      -- All directories were left, so there are none but those.
      rcases start with rfl | rfl
      · cases all : outer ++ left <;> simp [all] at spelled
      · have same : outer ++ left = taken :=
          List.map_inj_right (fun _ _ => Component.name.inj) |>.mp (List.cons.inj spelled).2
        have lengths := congrArg List.length same
        rw [List.length_append] at lengths
        have none : outer = [] := List.eq_nil_of_length_eq_zero (by omega)
        exact ⟨more, further, by rw [← same, none, List.nil_append]⟩
    | anywhere past names =>
      have empty : left = [] := by
        have all := (List.append_eq_nil_iff.mp spelled).2
        simpa using (List.append_eq_nil_iff.mp (List.map_eq_nil_iff.mp all)).2
      rw [empty] at counted
      exact absurd past (by rw [← counted]; exact Nat.lt_irrefl 0)
  · rintro ⟨more, further, rfl⟩
    rw [List.map_append, ← List.append_assoc]
    exact .within _ left more further

private theorem returns_root_iff (past : names.length < count) :
    Returns (.root :: names.map .name) count targets ↔ ∃ more, more ≠ [] ∧ targets = names ++ more := by
  constructor
  · generalize spelled : Component.root :: names.map Component.name = directory
    intro returns
    cases returns with
    | within outer left more further =>
      -- There are not as many names as double dots.
      cases outer with
      | nil => cases left <;> simp at spelled
      | cons first outer =>
        have lengths := congrArg List.length spelled
        simp only [List.length_append, List.length_map, List.length_cons] at lengths
        omega
    | stopped left more further _ =>
      have same := List.map_inj_right (fun _ _ => Component.name.inj) |>.mp (List.cons.inj spelled).2
      exact ⟨more, further, by rw [same]⟩
    | anywhere => cases spelled
  · rintro ⟨more, further, rfl⟩
    exact .stopped names more further (Nat.le_of_lt past)

private theorem returns_start_iff (past : names.length < count) :
    Returns (names.map .name) count targets ↔ names = [] := by
  constructor
  · generalize spelled : names.map Component.name = directory
    intro returns
    cases returns with
    | within outer left more further =>
      have lengths := congrArg List.length spelled
      simp only [List.length_append, List.length_map] at lengths
      omega
    | stopped left more further _ => cases names <;> simp at spelled
    | anywhere => simpa using spelled
  · rintro rfl
    exact .anywhere (Nat.zero_lt_of_lt past) targets

/-- Where double dots and names lead from a directory is below it exactly when they return. -/
theorem inside_iff_returns (start : front = [] ∨ front = [.root]) :
    Inside (front ++ names.map .name)
        (((targets.map Component.name).reverse ++ (List.replicate count Component.parent).foldl settle
          (front ++ names.map Component.name).reverse).reverse) ↔
      Returns (front ++ names.map .name) count targets := by
  by_cases within : count ≤ names.length
  · obtain ⟨outer, left, rfl, rfl⟩ : ∃ outer left, names = outer ++ left ∧ count = left.length :=
      ⟨names.take (names.length - count), names.drop (names.length - count), by simp, by simp; omega⟩
    rw [settle_left, returns_within_iff start, List.map_append, ← List.append_assoc,
      ← inside_names (front ++ outer.map Component.name)]
    simp
  · have past : names.length < count := Nat.lt_of_not_le within
    obtain ⟨beyond, rfl⟩ : ∃ beyond, count = names.length + (beyond + 1) := ⟨count - names.length - 1, by omega⟩
    have left := settle_left front [] names
    rw [List.nil_append, List.map_nil, List.append_nil] at left
    rw [← List.replicate_append_replicate, List.foldl_append, left]
    rcases start with rfl | rfl
    · -- Double dots are left at the start, which no directory but the empty one begins with.
      have above := settle_above 0 (beyond + 1)
      rw [List.replicate_zero, Nat.zero_add] at above
      rw [List.nil_append, List.reverse_nil, above, returns_start_iff past, List.reverse_append,
        List.reverse_reverse, List.reverse_replicate, List.replicate_succ, List.cons_append]
      constructor
      · rintro ⟨more, -, whole⟩
        cases names with
        | nil => rfl
        | cons name names => cases (List.cons.inj whole).1
      · rintro rfl
        exact ⟨_, List.cons_ne_nil _ _, rfl⟩
    · rw [List.reverse_singleton, settle_root, List.singleton_append, returns_root_iff past,
        ← inside_names [.root]]
      simp

end

/-- The components of a module below the output directory. -/
def moduleWay (layout : Layout) (source : String) : List Component :=
  steps (named layout.extension (layout.moduleSegments source))

/-- An extension that is a dot with something behind it, and no slash. -/
structure Suffix (extension : String) : Prop where
  dotted : extension.toList.head? = some '.'
  longer : 2 ≤ extension.length
  unslashed : '/' ∉ extension.toList

private theorem valid_suffix {settings : Settings} (valid : settings.validate = .ok ())
    (unslashed : '/' ∉ settings.extension.toList) : Suffix settings.extension := by
  unfold Settings.validate at valid
  by_cases refused : settings.extension.toList.head? != some '.' || settings.extension.toList.length < 2
  · simp only [refused, ↓reduceIte] at valid
    split at valid <;> cases valid
  · rw [Bool.not_eq_true, Bool.or_eq_false_iff, bne_eq_false_iff_eq, decide_eq_false_iff_not, Nat.not_lt] at refused
    exact ⟨refused.1, String.length_toList ▸ refused.2, unslashed⟩

section
variable {layout : Layout} (suffix : Suffix layout.extension)
include suffix

private theorem named_solid (source : String) :
    ∀ part ∈ named layout.extension (layout.moduleSegments source), Solid part := by
  have nonempty : layout.extension ≠ "" := by
    intro empty
    simpa [empty] using suffix.longer
  rcases module_segments_cases layout source with none | ⟨dirs, name, segments, plain, _, unslashed⟩
  · have only : ∀ part ∈ named layout.extension [], part = layout.extension := by simp [named]
    intro part member
    rw [none] at member
    rw [only part member]
    exact ⟨nonempty, suffix.unslashed⟩
  · intro part member
    rw [segments, named_append] at member
    rcases List.mem_append.mp member with dir | file
    · exact .of_plain (plain part dir)
    · rw [List.mem_singleton.mp file]
      exact ⟨by simp [nonempty], by simp [unslashed, suffix.unslashed]⟩

/-- A module is stored where its way leads from the output directory. -/
theorem settle_module (source : String) :
    (components (layout.outputPath source)).foldl settle [] =
      (moduleWay layout source).foldl settle ((components layout.output).foldl settle []) := by
  rw [output_path_eq layout suffix.dotted, settle_below _ (named_relative layout suffix.dotted source),
    steps_joined (named_solid suffix source), moduleWay]

/-- Without double dots among its directories, a module takes only names: a name with an
extension behind it is no double dot. -/
theorem named_directories (level : ∀ dir ∈ (layout.moduleSegments source).dropLast, dir ≠ "..")
    (nameless : layout.moduleSegments source = [] → layout.extension ≠ "..") :
    ∀ part ∈ named layout.extension (layout.moduleSegments source), ModuleSpecifiers.Directory part := by
  have apart (name dots : String) (short : dots.length ≤ 2)
      (longer : 3 ≤ (name ++ layout.extension).length) : name ++ layout.extension ≠ dots := by
    intro same
    rw [same] at longer
    omega
  have solid := named_solid suffix source
  rcases module_segments_cases layout source with none | ⟨dirs, name, segments, plain, nonempty, _⟩
  · intro part member
    have file : part = layout.extension := by simpa [none, named] using member
    have undotted : layout.extension ≠ "." := by
      intro dot
      have longer := suffix.longer
      rw [dot] at longer
      exact absurd longer (by decide)
    subst file
    exact ⟨⟨(solid _ member).nonempty, undotted, (solid _ member).unslashed⟩, nameless none⟩
  · intro part member
    have partSolid := solid part member
    rw [segments, named_append] at member
    rw [segments, List.dropLast_concat] at level
    rcases List.mem_append.mp member with dir | file
    · exact ⟨plain part dir, level part dir⟩
    · have longer : 3 ≤ (name ++ layout.extension).length := by
        have nameLength : 0 < name.length := Nat.pos_of_ne_zero (by simpa using nonempty)
        have suffixLength := suffix.longer
        rw [String.length_append]
        omega
      rw [List.mem_singleton.mp file] at partSolid ⊢
      exact ⟨⟨partSolid.nonempty, apart name "." (by decide) longer, partSolid.unslashed⟩,
        apart name ".." (by decide) longer⟩

end

/-- Steps without a double dot are names. -/
theorem steps_level (all : ∀ step ∈ path, Step step) (level : .parent ∉ path) :
    ∃ names : List String, path = names.map .name := by
  induction path with
  | nil => exact ⟨[], rfl⟩
  | cons first rest ih =>
    obtain ⟨names, rfl⟩ := ih (fun step member => all step (List.mem_cons_of_mem _ member))
      fun above => level (List.mem_cons_of_mem _ above)
    rcases all first List.mem_cons_self with rfl | ⟨text, rfl⟩
    · exact absurd List.mem_cons_self level
    · exact ⟨text :: names, rfl⟩

/-- An output directory without double dots comes to its start and its names. -/
theorem settle_level (path : String) (level : .parent ∉ components path) :
    ∃ front, ∃ names : List String, (front = [] ∨ front = [Component.root]) ∧
      (components path).foldl settle [] = (front ++ names.map Component.name).reverse := by
  have below : .parent ∉ steps (Text.splitOn '/' path) := by
    intro member
    apply level
    simp only [components]
    split
    · exact List.mem_cons_of_mem _ member
    · split
      · exact List.mem_cons_of_mem _ member
      · exact member
  obtain ⟨names, spelled⟩ := steps_level (steps_are_steps _) below
  refine ⟨origin path, names, ?_, ?_⟩
  · unfold origin
    split
    · exact .inr rfl
    · exact .inl rfl
  · rw [settle_components, spelled, settle_names]
    unfold origin
    split <;> simp

/-- Where modules are stored under valid settings, with an output directory without double
dots and an extension without slashes. The way of a module is, in normal form, double dots
and then names, and the module is below the output directory exactly when these return. It
is so whenever none of its directories is a double dot, unless there is nothing but an
extension of two dots. -/
theorem stored_below_output_iff (settings : Settings) (valid : settings.validate = .ok ())
    (level : .parent ∉ components settings.output) (unslashed : '/' ∉ settings.extension.toList)
    (source : String) :
    normal (moduleWay (.ofSettings settings) source) =
        List.replicate (ups (moduleWay (.ofSettings settings) source)) .parent ++
          (downs (moduleWay (.ofSettings settings) source)).map .name ∧
    (Inside (normal (components settings.output))
        (normal (components ((Layout.ofSettings settings).outputPath source))) ↔
      Returns (normal (components settings.output)) (ups (moduleWay (.ofSettings settings) source))
        (downs (moduleWay (.ofSettings settings) source))) ∧
    ((∀ dir ∈ ((Layout.ofSettings settings).moduleSegments source).dropLast, dir ≠ "..") →
      ((Layout.ofSettings settings).moduleSegments source = [] → settings.extension ≠ "..") →
      Inside (normal (components settings.output))
        (normal (components ((Layout.ofSettings settings).outputPath source)))) := by
  have suffix : Suffix (Layout.ofSettings settings).extension := valid_suffix valid unslashed
  obtain ⟨front, names, start, output⟩ := settle_level settings.output level
  have stored := settle_module suffix source
  obtain ⟨form, leads⟩ := way_eq (moduleWay (.ofSettings settings) source) (steps_are_steps _)
  have outputNormal : normal (components settings.output) = front ++ names.map Component.name := by
    rw [normal, output, List.reverse_reverse]
  refine ⟨form, ?_, fun levelDirs nameless => ?_⟩
  · rw [outputNormal, ← inside_iff_returns start, ← output, ← leads, normal, stored]
    rfl
  · have parts := ModuleSpecifiers.steps_directories (named_directories suffix levelDirs nameless)
    refine ⟨(named settings.extension ((Layout.ofSettings settings).moduleSegments source)).map .name, ?_, ?_⟩
    · simp [named]
    · rw [outputNormal, normal, stored, moduleWay, parts, settle_names]
      change (_ ++ (components settings.output).foldl settle []).reverse = _
      rw [output, List.reverse_append, List.reverse_reverse, List.reverse_reverse]
      rfl

def plainOutput : Settings := { root := "/src/", output := "out" }

/-- A source given by a way up is stored beside the output directory. -/
theorem source_above_escapes :
    plainOutput.validate = .ok () ∧ .parent ∉ components plainOutput.output ∧
    '/' ∉ plainOutput.extension.toList ∧
    normal (components plainOutput.output) = [.name "out"] ∧
    normal (components ((Layout.ofSettings plainOutput).outputPath "../User.cs")) = [.name "User.ts"] ∧
    ¬ Inside (normal (components plainOutput.output))
      (normal (components ((Layout.ofSettings plainOutput).outputPath "../User.cs"))) := by
  have output : normal (components plainOutput.output) = [.name "out"] := by decide +kernel
  have stored : normal (components ((Layout.ofSettings plainOutput).outputPath "../User.cs")) =
      [.name "User.ts"] := by decide +kernel
  refine ⟨rfl, by decide +kernel, by decide +kernel, output, stored, ?_⟩
  rw [output, stored]
  rintro ⟨more, -, whole⟩
  have same := Component.name.inj (List.cons.inj whole).1
  exact absurd same (by decide)

def typesOutput : Settings := { root := "/src/", output := "./web/types", extension := ".d.ts" }

/-- A source that goes up above the root and down again into a directory named like the output
directory is stored below it, and so is one whose name is two dots. -/
theorem stored_below_output_types :
    typesOutput.validate = .ok () ∧ .parent ∉ components typesOutput.output ∧
    '/' ∉ typesOutput.extension.toList ∧
    Inside (normal (components typesOutput.output))
      (normal (components ((Layout.ofSettings typesOutput).outputPath "/src/a/../../types/User.cs"))) ∧
    Inside (normal (components typesOutput.output))
      (normal (components ((Layout.ofSettings typesOutput).outputPath "/src/a/.."))) := by
  have valid : typesOutput.validate = .ok () := rfl
  have level : .parent ∉ components typesOutput.output := by decide +kernel
  have unslashed : '/' ∉ typesOutput.extension.toList := by decide +kernel
  refine ⟨valid, level, unslashed, ?_, ?_⟩
  · obtain ⟨-, exactly, -⟩ :=
      stored_below_output_iff typesOutput valid level unslashed "/src/a/../../types/User.cs"
    have output : normal (components typesOutput.output) = [.name "web", .name "types"] := by decide +kernel
    have up : ups (moduleWay (.ofSettings typesOutput) "/src/a/../../types/User.cs") = 1 := by decide +kernel
    have down : downs (moduleWay (.ofSettings typesOutput) "/src/a/../../types/User.cs") =
        ["types", "User.d.ts"] := by decide +kernel
    rw [exactly, output, up, down]
    exact .within [.name "web"] ["types"] ["User.d.ts"] (by simp)
  · exact (stored_below_output_iff typesOutput valid level unslashed "/src/a/..").2.2 (by decide +kernel)
      (by decide +kernel)

end TypeStubs.OutputContainment

import TypeStubs.Proofs.KeyedLists
import TypeStubs.Proofs.RecordReading
import TypeStubs.Storage.Disk

/-! A disk as a map from places to files and directories. Writing a file changes the map
at the place that its path leads to; making directories takes nothing away and leaves
every file as it is. -/
namespace TypeStubs.DiskFiles
open RecordReading

/-! ## Trees -/

/-- What there is at a place. -/
inductive Entry where
  | file (bytes : ByteArray)
  | directory

/-- What a tree is, without what is in it. -/
def entry : Tree → Entry
  | .file bytes => .file bytes
  | .directory _ => .directory

/-- The entry at a place below a tree. -/
def entryAt (tree : Tree) (place : Place) : Option Entry := (tree.at? place).map entry

variable {tree child new : Tree} {place other more : Place} {name : String}

private theorem at_cons : tree.at? (name :: place) = (tree.child? name).bind (·.at? place) := by
  rw [Tree.at?]
  cases tree.child? name <;> rfl

private theorem at_append : tree.at? (place ++ more) = (tree.at? place).bind (·.at? more) := by
  induction place generalizing tree with
  | nil => rfl
  | cons name rest ih =>
    rw [List.cons_append, at_cons, at_cons]
    cases tree.child? name with
    | none => rfl
    | some child => exact ih

private theorem child_directory (named : tree.child? name = some child) :
    ∃ entries, tree = .directory entries := by
  cases tree with
  | file bytes => cases named
  | directory entries => exact ⟨entries, rfl⟩

private theorem child_put (first name : String) (new : Tree) (rest : Place) :
    (tree.put new (first :: rest)).child? name =
      if name = first then some (((tree.child? first).getD (.directory [])).put new rest)
      else tree.child? name := by
  simp only [Tree.put, Tree.child?, Tree.entries, KeyedLists.lookup_put, beq_iff_eq]

/-- What is put under a name of a directory is there with all that is in it. -/
theorem at_put_inside (there : tree.at? place = some (.directory entries)) (more : Place) :
    (tree.put new (place ++ [name])).at? (place ++ name :: more) = new.at? more := by
  induction place generalizing tree with
  | nil =>
    rw [List.nil_append, List.nil_append, at_cons, child_put, if_pos rfl]
    rfl
  | cons first rest ih =>
    rw [at_cons] at there
    obtain ⟨child, named, there⟩ := Option.bind_eq_some_iff.mp there
    rw [List.cons_append, List.cons_append, at_cons, child_put, if_pos rfl, named]
    exact ih there

/-- Elsewhere the entries are what they were. -/
theorem entry_put_apart (there : tree.at? place = some (.directory entries))
    (apart : ¬ (place ++ [name]) <+: other) :
    entryAt (tree.put new (place ++ [name])) other = entryAt tree other := by
  induction place generalizing tree other with
  | nil =>
    cases there
    cases other with
    | nil => rfl
    | cons first rest =>
      have differs : first ≠ name := by
        rintro rfl
        exact apart (by simp)
      simp only [entryAt, List.nil_append, at_cons, child_put, if_neg differs]
  | cons step rest ih =>
    rw [at_cons] at there
    obtain ⟨child, named, below⟩ := Option.bind_eq_some_iff.mp there
    obtain ⟨held, rfl⟩ := child_directory named
    cases other with
    | nil => rfl
    | cons first later =>
      by_cases same : first = step
      · subst same
        have kept : entryAt (child.put new (rest ++ [name])) later = entryAt child later :=
          ih below (by simpa using apart)
        simp only [entryAt] at kept ⊢
        rw [List.cons_append, at_cons, child_put, if_pos rfl, at_cons, named]
        exact kept
      · simp only [entryAt, List.cons_append, at_cons, child_put, if_neg same]

/-! ## Paths -/

/-- The place that one part of a path leads to. -/
def advance (place : Place) (part : String) : Place :=
  if part = "" ∨ part = "." then place
  else if part = ".." then place.dropLast
  else place ++ [part]

/-- The place that a path leads to from the current directory. -/
def placeOf (here : Place) (path : String) : Place :=
  (Text.splitOn '/' path).foldl advance (if path.toList.head? = some '/' then [] else here)

/-- The current directory is one. -/
def Grounded (disk : Disk) : Prop := entryAt disk.top disk.here = some .directory

/-- Each step of the trail goes to a directory that is in the one before. -/
def Leads (disk : Disk) : Trail → Prop
  | [] => ∃ entries, disk.top = .directory entries
  | (name, tree) :: before =>
    Leads disk before ∧ (disk.reached before).child? name = some tree ∧
      ∃ entries, tree = .directory entries

variable {disk after : Disk} {trail next : Trail}

private theorem place_cons (name : String) (tree : Tree) (trail : Trail) :
    Trail.place ((name, tree) :: trail) = Trail.place trail ++ [name] := by
  simp [Trail.place]

private theorem place_drop (trail : Trail) : Trail.place (trail.drop 1) = (Trail.place trail).dropLast := by
  cases trail <;> simp [Trail.place]

/-- The directory at the end of a trail is at the place of the trail. -/
theorem leads_at (leads : Leads disk trail) :
    ∃ entries, disk.reached trail = .directory entries ∧
      disk.top.at? trail.place = some (.directory entries) := by
  induction trail with
  | nil =>
    obtain ⟨entries, top⟩ := leads
    exact ⟨entries, top, congrArg some top⟩
  | cons step before ih =>
    obtain ⟨name, tree⟩ := step
    obtain ⟨leads, named, entries, rfl⟩ := leads
    obtain ⟨held, reached, there⟩ := ih leads
    refine ⟨entries, rfl, ?_⟩
    rw [reached] at named
    rw [place_cons, at_append, there, Option.bind_some, at_cons, named]
    rfl

private theorem leads_drop (leads : Leads disk trail) : Leads disk (trail.drop 1) := by
  cases trail with
  | nil => exact leads
  | cons step before => exact leads.1

private theorem entry_directory (there : entryAt tree place = some .directory) :
    ∃ entries, tree.at? place = some (.directory entries) := by
  obtain ⟨held, found, kind⟩ := Option.map_eq_some_iff.mp there
  cases held with
  | file bytes => cases kind
  | directory entries => exact ⟨entries, found⟩

private theorem top_directory (there : entryAt tree place = some .directory) :
    ∃ entries, tree = .directory entries := by
  obtain ⟨entries, found⟩ := entry_directory there
  cases place with
  | nil => exact ⟨entries, Option.some.inj found⟩
  | cons name rest =>
    rw [at_cons] at found
    obtain ⟨child, named, -⟩ := Option.bind_eq_some_iff.mp found
    exact child_directory named

/-- Follows names from the end of a trail, and skips those that nothing has. -/
def walk (disk : Disk) (trail : Trail) (names : Place) : Trail :=
  names.foldl (fun trail name =>
    ((disk.reached trail).child? name).elim trail fun tree => (name, tree) :: trail) trail

private theorem walk_cons (named : (disk.reached trail).child? name = some child) (rest : Place) :
    walk disk trail (name :: rest) = walk disk ((name, child) :: trail) rest := by
  rw [walk, List.foldl_cons, named]
  rfl

/-- Names that lead to a directory are followed to it. -/
theorem walk_leads {names : Place} (leads : Leads disk trail)
    (there : entryAt disk.top (trail.place ++ names) = some .directory) :
    Leads disk (walk disk trail names) ∧ (walk disk trail names).place = trail.place ++ names := by
  induction names generalizing trail with
  | nil => exact ⟨leads, (List.append_nil _).symm⟩
  | cons name rest ih =>
    obtain ⟨entries, reached, place⟩ := leads_at leads
    have below : entryAt (.directory entries) (name :: rest) = some .directory := by
      rw [entryAt, at_append, place] at there
      exact there
    obtain ⟨child, named, inside⟩ : ∃ child, (disk.reached trail).child? name = some child ∧
        entryAt child rest = some .directory := by
      rw [reached]
      rw [entryAt, at_cons] at below
      cases named : (Tree.directory entries).child? name with
      | none => simp [named] at below
      | some child =>
        rw [named] at below
        exact ⟨child, rfl, below⟩
    have further : Leads disk ((name, child) :: trail) := ⟨leads, named, top_directory inside⟩
    rw [← List.singleton_append, ← List.append_assoc, ← place_cons name child] at there
    obtain ⟨leadsOn, placeOn⟩ := ih further there
    rw [walk_cons named]
    refine ⟨leadsOn, ?_⟩
    rw [placeOn, place_cons, List.append_assoc, List.singleton_append]

/-- The trail to the current directory leads there. -/
theorem start_leads (grounded : Grounded disk) :
    Leads disk disk.start ∧ disk.start.place = disk.here := by
  have top : Leads disk [] := top_directory grounded
  have start : disk.start = walk disk [] disk.here := rfl
  rw [start]
  exact walk_leads top grounded

/-- A check that passed changes nothing. -/
theorem guard_eq_ok {check : Prop} [Decidable check] {error : ε} {rest : Except ε α} {value : α} :
    (if check then (throw error >>= fun _ : PUnit => rest) else rest) = .ok value ↔
      ¬ check ∧ rest = .ok value := by
  by_cases failed : check
  · simp [failed, throw, throwThe, MonadExceptOf.throw, bind, Except.bind]
  · simp [failed]

private theorem look_eq_ok : disk.look trail name = .ok found ↔
    ¬ Disk.nameLimit < name.utf8ByteSize ∧ (disk.reached trail).child? name = found := by
  unfold Disk.look
  split <;> simp [*]

private theorem step_leads (leads : Leads disk trail) (nonempty : part ≠ "")
    (stepped : disk.step trail part = .ok next) :
    Leads disk next ∧ next.place = advance trail.place part := by
  unfold Disk.step at stepped
  by_cases dot : part = "."
  · simp only [dot, beq_self_eq_true, if_true, pure, Except.pure, Except.ok.injEq] at stepped
    subst stepped
    exact ⟨leads, by simp [advance, dot]⟩
  · by_cases up : part = ".."
    · have other : (".." == ".") = false := by decide
      simp only [up, other, beq_self_eq_true, if_true, pure, Except.pure] at stepped
      cases stepped
      have above : advance trail.place ".." = trail.place.dropLast := by simp [advance]
      rw [up, above]
      exact ⟨leads_drop leads, place_drop trail⟩
    · simp only [beq_iff_eq, dot, up, if_false] at stepped
      obtain ⟨found, looked, stepped⟩ := bind_eq_ok.mp stepped
      obtain ⟨-, named⟩ := look_eq_ok.mp looked
      match found with
      | none => cases stepped
      | some (.file bytes) => cases stepped
      | some (.directory entries) =>
        cases stepped
        refine ⟨⟨leads, named, entries, rfl⟩, ?_⟩
        simp [place_cons, advance, nonempty, dot, up]

private theorem steps_lead {parts : List String} (leads : Leads disk trail) (nonempty : ∀ part ∈ parts, part ≠ "")
    (stepped : parts.foldlM disk.step trail = .ok next) :
    Leads disk next ∧ next.place = parts.foldl advance trail.place := by
  induction parts generalizing trail with
  | nil =>
    cases stepped
    exact ⟨leads, rfl⟩
  | cons part rest ih =>
    rw [List.foldlM_cons] at stepped
    obtain ⟨between, here, later⟩ := bind_eq_ok.mp stepped
    obtain ⟨leads, place⟩ := step_leads leads (nonempty part (by simp)) here
    rw [List.foldl_cons, ← place]
    exact ih leads (fun other member => nonempty other (by simp [member])) later

/-- Empty parts of a path take no step. -/
theorem place_of_parts (start : Place) (parts : List String) :
    (parts.filter fun part => !part.isEmpty).foldl advance start = parts.foldl advance start := by
  induction parts generalizing start with
  | nil => rfl
  | cons part rest ih =>
    by_cases idle : part = ""
    · subst idle
      simpa [advance] using ih start
    · rw [List.filter_cons_of_pos (by simpa using idle), List.foldl_cons, List.foldl_cons, ih]

/-- The trail that a path starts from. -/
def origin (disk : Disk) (path : String) : Trail :=
  if path.toList.head? == some '/' then [] else disk.start

private theorem origin_leads (grounded : Grounded disk) (path : String) :
    Leads disk (origin disk path) ∧
      (origin disk path).place = if path.toList.head? = some '/' then [] else disk.here := by
  unfold origin
  by_cases absolute : path.toList.head? = some '/'
  · simp only [absolute, beq_self_eq_true, if_true]
    exact ⟨top_directory grounded, rfl⟩
  · simp only [beq_iff_eq, absolute, if_false]
    exact start_leads grounded

/-- The parts of a path that are not empty. -/
def fullParts (path : String) : List String :=
  (Text.splitOn '/' path).filter fun part => !part.isEmpty

private theorem target_steps (led : disk.target path = .ok (.named trail name slash)) :
    (fullParts path).getLast? = some name ∧ name ≠ "." ∧ name ≠ ".." ∧
      (fullParts path).dropLast.foldlM disk.step (origin disk path) = .ok trail := by
  unfold Disk.target at led
  obtain ⟨-, led⟩ := guard_eq_ok.mp led
  obtain ⟨-, led⟩ := guard_eq_ok.mp led
  obtain ⟨-, led⟩ := guard_eq_ok.mp led
  dsimp only at led
  split at led
  · cases led
  · rename_i last ended
    obtain ⟨reached, walked, led⟩ := bind_eq_ok.mp led
    split at led
    · obtain ⟨_, _, led⟩ := bind_eq_ok.mp led
      cases led
    · rename_i plain
      simp only [Bool.or_eq_true, beq_iff_eq, not_or] at plain
      cases led
      exact ⟨ended, plain.1, plain.2, walked⟩

/-- A path that ends in a name leads to that name in a directory of the disk, at the place
that its parts spell. -/
theorem target_named (grounded : Grounded disk)
    (led : disk.target path = .ok (.named trail name slash)) :
    Leads disk trail ∧ trail.place ++ [name] = placeOf disk.here path := by
  obtain ⟨ended, undotted, down, walked⟩ := target_steps led
  obtain ⟨starts, begun⟩ := origin_leads grounded path
  have nonempty : ∀ part ∈ fullParts path, part ≠ "" := by
    intro part member
    simpa using (List.mem_filter.mp member).2
  obtain ⟨front, whole⟩ := List.getLast?_eq_some_iff.mp ended
  rw [whole, List.dropLast_concat] at walked
  rw [whole] at nonempty
  obtain ⟨leads, place⟩ := steps_lead starts
    (fun part member => nonempty part (by simp [member])) walked
  refine ⟨leads, ?_⟩
  calc trail.place ++ [name]
      = advance (front.foldl advance (origin disk path).place) name := by
        rw [place]
        simp [advance, nonempty name (by simp), undotted, down]
    _ = (fullParts path).foldl advance (origin disk path).place := by
        rw [whole, List.foldl_append]
        rfl
    _ = placeOf disk.here path := by
        rw [begun, fullParts, place_of_parts]
        rfl

/-! ## What changes the disk -/

/-- The bytes of the file at a place. -/
def fileAt (disk : Disk) (place : Place) : Option ByteArray :=
  match entryAt disk.top place with
  | some (.file bytes) => some bytes
  | _ => none

/-- The current directory is still there and so is every file, as it was. -/
structure Kept (disk after : Disk) : Prop where
  here : after.here = disk.here
  grounded : Grounded after
  files : ∀ place, fileAt after place = fileAt disk place

/-- The file at one place has the bytes, and all else is kept. -/
structure Written (disk after : Disk) (written : Place) (bytes : ByteArray) : Prop where
  here : after.here = disk.here
  grounded : Grounded after
  files : ∀ place, fileAt after place = if place = written then some bytes else fileAt disk place

theorem Kept.refl (grounded : Grounded disk) : Kept disk disk := ⟨rfl, grounded, fun _ => rfl⟩

theorem Kept.trans (first : Kept disk between) (second : Kept between after) : Kept disk after where
  here := second.here.trans first.here
  grounded := second.grounded
  files place := (second.files place).trans (first.files place)

theorem Kept.written (kept : Kept disk between) (written : Written between after place bytes) :
    Written disk after place bytes where
  here := written.here.trans kept.here
  grounded := written.grounded
  files other := by rw [written.files, kept.files]

/-- What is put at the end of a trail decides about the places from there on, and about no
others. -/
theorem entry_put (leads : Leads disk trail) (name : String) (new : Tree) (place : Place) :
    (∃ more, place = trail.place ++ name :: more ∧
      entryAt (disk.put trail name new).top place = entryAt new more ∧
      entryAt disk.top place = (((disk.reached trail).child? name).bind (·.at? more)).map entry) ∨
    (¬ (trail.place ++ [name]) <+: place ∧
      entryAt (disk.put trail name new).top place = entryAt disk.top place) := by
  obtain ⟨entries, reached, there⟩ := leads_at leads
  by_cases inside : (trail.place ++ [name]) <+: place
  · obtain ⟨more, rfl⟩ := inside
    rw [List.append_assoc, List.singleton_append]
    refine .inl ⟨more, rfl, congrArg (Option.map entry) (at_put_inside there more), ?_⟩
    rw [entryAt, at_append, there, reached, Option.bind_some, at_cons]
  · exact .inr ⟨inside, entry_put_apart there inside⟩

/-- A new empty directory changes no file. -/
theorem put_directory_kept (grounded : Grounded disk) (leads : Leads disk trail)
    (free : (disk.reached trail).child? name = none) :
    Kept disk (disk.put trail name (.directory [])) where
  here := rfl
  grounded := by
    obtain ⟨more, -, -, before⟩ | ⟨-, same⟩ := entry_put leads name (.directory []) disk.here
    · rw [Grounded, before, free] at grounded
      cases grounded
    · exact same.trans grounded
  files place := by
    obtain ⟨more, -, now, before⟩ | ⟨-, same⟩ := entry_put leads name (.directory []) place
    · rw [free] at before
      rw [fileAt, fileAt, now, before]
      cases more <;> rfl
    · rw [fileAt, fileAt, same]

/-- A file that is put where no directory is changes no other file. -/
theorem put_file_written (grounded : Grounded disk) (leads : Leads disk trail)
    (free : ∀ held, (disk.reached trail).child? name ≠ some (.directory held)) (bytes : ByteArray) :
    Written disk (disk.put trail name (.file bytes)) (trail.place ++ [name]) bytes := by
  have below (more : Place) :
      (((disk.reached trail).child? name).bind (·.at? more)).map entry ≠ some .directory ∧
        (more ≠ [] → (((disk.reached trail).child? name).bind (·.at? more)).map entry = none) := by
    match held : (disk.reached trail).child? name with
    | none => simp
    | some (.directory entries) => exact absurd held (free entries)
    | some (.file old) => cases more <;> simp [Tree.at?, Tree.child?, Tree.entries, entry]
  refine ⟨rfl, ?_, ?_⟩
  · obtain ⟨more, -, -, before⟩ | ⟨-, same⟩ := entry_put leads name (.file bytes) disk.here
    · exact absurd (before.symm.trans grounded) (below more).1
    · exact same.trans grounded
  · intro place
    obtain ⟨more, rfl, now, before⟩ | ⟨apart, same⟩ := entry_put leads name (.file bytes) place
    · cases more with
      | nil =>
        rw [if_pos rfl, fileAt, now]
        rfl
      | cons first rest =>
        rw [if_neg (by simp), fileAt, fileAt, now, before, (below (first :: rest)).2 (by simp)]
        rfl
    · have other : place ≠ trail.place ++ [name] := by
        rintro rfl
        exact apart (List.prefix_refl _)
      rw [if_neg other, fileAt, fileAt, same]

private theorem make_directory_kept (grounded : Grounded disk)
    (made : disk.makeDirectory path = .ok after) : Kept disk after := by
  obtain ⟨target, led, made⟩ := bind_eq_ok.mp made
  match target with
  | .directory trail => cases made
  | .named trail name slash =>
    obtain ⟨held, looked, made⟩ := bind_eq_ok.mp made
    obtain ⟨-, named⟩ := look_eq_ok.mp looked
    cases held with
    | some tree => cases made
    | none =>
      cases made
      exact put_directory_kept grounded (target_named grounded led).1 named

private theorem provide_directory_kept (grounded : Grounded disk)
    (provided : disk.provideDirectory path = .ok after) : Kept disk after := by
  unfold Disk.provideDirectory at provided
  split at provided
  · split at provided
    · cases provided
      exact .refl grounded
    · cases provided
  · exact make_directory_kept grounded provided

/-- Making directories keeps every file, also where it fails on the way. -/
theorem make_directories_kept (grounded : Grounded disk) (paths : List String) :
    Kept disk (disk.makeDirectories paths).2 := by
  induction paths with
  | nil => exact .refl grounded
  | cons path above ih =>
    unfold Disk.makeDirectories
    split
    · rename_i provided
      exact provide_directory_kept grounded provided
    · split
      · rename_i made
        rw [made] at ih
        split
        · rename_i provided
          exact ih.trans (provide_directory_kept ih.grounded provided)
        · exact ih
      · exact ih
    · exact .refl grounded

private theorem write_written (grounded : Grounded disk) (wrote : disk.write path bytes = .ok after) :
    Written disk after (placeOf disk.here path) bytes := by
  obtain ⟨target, led, wrote⟩ := bind_eq_ok.mp wrote
  match target with
  | .directory trail => cases wrote
  | .named trail name slash =>
    obtain ⟨-, wrote⟩ := guard_eq_ok.mp wrote
    obtain ⟨held, looked, wrote⟩ := bind_eq_ok.mp wrote
    obtain ⟨-, named⟩ := look_eq_ok.mp looked
    obtain ⟨leads, place⟩ := target_named grounded led
    rw [← place]
    split at wrote
    · cases wrote
    · rename_i free
      cases wrote
      have unblocked (inside : List (String × Tree)) :
          (disk.reached trail).child? name ≠ some (.directory inside) :=
        fun same => free inside (named.symm.trans same)
      exact put_file_written grounded leads unblocked bytes

/-- A file that is saved is at the place of its path, and every other file is kept. -/
theorem save_written (grounded : Grounded disk) (saved : disk.save path bytes = (.ok (), after)) :
    Written disk after (placeOf disk.here path) bytes := by
  have kept := make_directories_kept grounded (Path.directoriesAbove path)
  unfold Disk.save at saved
  split at saved
  · rename_i between made
    rw [made] at kept
    split at saved
    · rename_i wrote
      cases saved
      have written := write_written kept.grounded wrote
      rw [kept.here] at written
      exact kept.written written
    · cases saved
  · rename_i failed
    exact absurd saved (failed () after)

/-- Where a file cannot be saved, every file is kept. -/
theorem save_kept (grounded : Grounded disk) (failed : disk.save path bytes = (.error error, after)) :
    Kept disk after := by
  have kept := make_directories_kept grounded (Path.directoriesAbove path)
  unfold Disk.save at failed
  split at failed
  · rename_i between made
    rw [made] at kept
    split at failed
    · cases failed
    · cases failed
      exact kept
  · rw [failed] at kept
    exact kept

end TypeStubs.DiskFiles

import TypeStubs.Proofs.OutputPaths

/-! The lexical normal form of a path: what its components come to when every double dot
takes back the name before it, whatever is stored. Components are taken one after the
other, so what a path leads to from a place, and what goes on from there, are told apart. -/
namespace TypeStubs.LexicalPaths
open OutputPaths TypeStubs.Path

/-- One component more behind others, which come last one first. A double dot takes back
a name; there is nothing above the root, and above the start of a relative path it stays. -/
def settle (behind : List Component) : Component → List Component
  | .root => [.root]
  | .here => behind
  | .name text => .name text :: behind
  | .parent =>
    match behind with
    | .name _ :: before => before
    | .root :: before => .root :: before
    | _ => .parent :: behind

/-- The lexical normal form of components. -/
def normal (components : List Component) : List Component := (components.foldl settle []).reverse

theorem settle_names (names : List String) (behind : List Component) :
    (names.map Component.name).foldl settle behind = (names.map Component.name).reverse ++ behind := by
  induction names generalizing behind with
  | nil => rfl
  | cons name rest ih => simp [settle, ih]

/-- As many double dots as there are names lead back. -/
theorem settle_parents (names : List String) (behind : List Component) :
    (List.replicate names.length Component.parent).foldl settle (names.map Component.name ++ behind) =
      behind := by
  induction names with
  | nil => rfl
  | cons name rest ih => simpa [List.replicate_succ, settle] using ih

/-- Names that are gone down and up again make no difference. -/
theorem settle_round (names : List String) (behind : List Component) :
    (names.map Component.name ++ List.replicate names.length Component.parent).foldl settle behind =
      behind := by
  rw [List.foldl_append, settle_names, ← List.map_reverse, ← List.length_reverse]
  exact settle_parents names.reverse behind

/-- What a path starts from. -/
def origin (path : String) : List Component := if path.toList.head? = some '/' then [.root] else []

/-- A dot at the start of a path makes no difference. -/
theorem settle_components (path : String) :
    (components path).foldl settle [] = (steps (Text.splitOn '/' path)).foldl settle (origin path) := by
  unfold components origin
  by_cases absolute : path.toList.head? = some '/'
  · simp [absolute, settle]
  · simp only [beq_iff_eq, absolute, ↓reduceIte]
    split <;> simp [settle]

theorem settle_relative (relative : path.toList.head? ≠ some '/') (behind : List Component) :
    (components path).foldl settle behind = (steps (Text.splitOn '/' path)).foldl settle behind := by
  simp only [components, beq_iff_eq, relative, ↓reduceIte]
  split <;> simp [settle]

/-- The directory of a path takes all of its steps but the last. -/
theorem settle_directory (whole : steps (Text.splitOn '/' path) = front ++ [last]) :
    ((components path).dropLast).foldl settle [] = front.foldl settle (origin path) := by
  unfold components origin
  by_cases absolute : path.toList.head? = some '/'
  · simp only [absolute, beq_self_eq_true, ↓reduceIte, whole]
    rw [← List.cons_append, List.dropLast_concat]
    rfl
  · simp only [beq_iff_eq, absolute, ↓reduceIte, whole]
    split
    · rw [← List.cons_append, List.dropLast_concat]
      rfl
    · rw [List.dropLast_concat]

theorem steps_opened (path tail : String) :
    steps (Text.splitOn '/' (opened path ++ tail)) =
      steps (Text.splitOn '/' path) ++ steps (Text.splitOn '/' tail) := by
  have emptyPiece : Text.splitOn '/' "" = [""] := rfl
  have idle : steps [""] = [] := rfl
  unfold opened
  split
  · rename_i closed
    rcases Bool.or_eq_true_iff.mp closed with empty | slash
    · rw [String.isEmpty_iff.mp empty, String.empty_append, emptyPiece, idle, List.nil_append]
    · -- The path has its slash already, and nothing stands behind it.
      obtain ⟨lead, whole⟩ := List.getLast?_eq_some_iff.mp (beq_iff_eq.mp slash)
      have spelled : path = String.ofList lead ++ "/" := by
        apply String.toList_inj.mp
        simp [whole]
      have pieces : Text.splitOn '/' path = Text.splitOn '/' (String.ofList lead) ++ [""] := by
        simpa [spelled, emptyPiece] using split_slash_append (String.ofList lead) ""
      rw [pieces, steps_append, idle, List.append_nil, spelled, split_slash_append, steps_append]
  · rw [split_slash_append, steps_append]

theorem origin_opened (relative : tail.toList.head? ≠ some '/') (path : String) :
    origin (opened path ++ tail) = origin path := by
  unfold opened origin
  by_cases empty : path = ""
  · simp [empty, relative]
  · obtain ⟨first, rest, chars⟩ := List.exists_cons_of_ne_nil (show path.toList ≠ [] by simpa using empty)
    split <;> simp [chars]

/-- What stands below a path is taken from where the path leads. -/
theorem settle_below (path : String) (relative : tail.toList.head? ≠ some '/') :
    (components (opened path ++ tail)).foldl settle [] =
      (steps (Text.splitOn '/' tail)).foldl settle ((components path).foldl settle []) := by
  rw [settle_components, settle_components, origin_opened relative, steps_opened, List.foldl_append]

/-- A segment with characters, none of which is a slash. -/
structure Solid (segment : String) : Prop where
  nonempty : segment ≠ ""
  unslashed : '/' ∉ segment.toList

theorem Solid.of_plain {segment : String} (plain : Plain segment) : Solid segment :=
  ⟨plain.nonempty, plain.unslashed⟩

theorem split_joined {parts : List String} (nonempty : parts ≠ []) (solid : ∀ part ∈ parts, Solid part) :
    Text.splitOn '/' (Text.join "/" parts) = parts := by
  obtain ⟨front, last, rfl⟩ := (List.eq_nil_or_concat parts).resolve_left nonempty
  rw [List.concat_eq_append] at solid ⊢
  rw [split_join last fun part member => (solid part (by simp [member])).unslashed,
    split_unslashed (solid last (by simp)).unslashed]

theorem joined_relative {parts : List String} (solid : ∀ part ∈ parts, Solid part) :
    (Text.join "/" parts).toList.head? ≠ some '/' := by
  cases parts with
  | nil => simp [Text.join]
  | cons first others =>
    obtain ⟨tail, joined⟩ := join_first first others
    rw [joined]
    exact starts_relative (solid first List.mem_cons_self).nonempty
      (solid first List.mem_cons_self).unslashed tail

theorem steps_joined {parts : List String} (solid : ∀ part ∈ parts, Solid part) :
    steps (Text.splitOn '/' (Text.join "/" parts)) = steps parts := by
  by_cases empty : parts = []
  · subst empty
    rfl
  · rw [split_joined empty solid]

/-- A path that is joined from segments takes one step for each of them. -/
theorem settle_joined {parts : List String} (solid : ∀ part ∈ parts, Solid part)
    (behind : List Component) :
    (components (Text.join "/" parts)).foldl settle behind = (steps parts).foldl settle behind := by
  rw [settle_relative (joined_relative solid), steps_joined solid]

end TypeStubs.LexicalPaths

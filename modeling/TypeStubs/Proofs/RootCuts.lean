import TypeStubs.Proofs.LexicalPaths

/-! Where the root is cut off from a source path. The root is a text and is looked for as
one, so the cut can fall inside a segment; then what is left of that segment is taken for a
segment of its own, and files from beside the root are placed as if they came from below
it. A root that ends in a slash is always cut off between segments. -/
namespace TypeStubs.RootCuts
open TextPieces OutputPaths LexicalPaths

/-- A path that is cut in two behind the first place where the root occurs, or not at all
where there is no root or it does not occur. -/
inductive RootCut (root : List Char) : List Char → List Char → Prop where
  | whole (path : List Char) (absent : root = [] ∨ ¬ root <:+: path) : RootCut root [] path
  | behind (before rest : List Char) (first : ∀ earlier later,
      before ++ root ++ rest = earlier ++ root ++ later → before.length ≤ earlier.length) :
      RootCut root (before ++ root) rest

private theorem after_first_none (absent : Chars.afterFirst? root path = none) : ¬ root <:+: path := by
  induction path with
  | nil =>
    intro inside
    simp [Chars.afterFirst?, List.infix_nil.mp inside] at absent
  | cons c rest ih =>
    rw [Chars.afterFirst?] at absent
    split at absent
    · cases absent
    · rename_i elsewhere
      rw [List.infix_cons_iff]
      exact not_or.mpr ⟨fun here => elsewhere (List.isPrefixOf_iff_prefix.mpr here), ih absent⟩

/-- What follows the first occurrence, with the text before it. -/
theorem after_first_some (nonempty : root ≠ []) (found : Chars.afterFirst? root path = some rest) :
    ∃ before, path = before ++ root ++ rest ∧ ∀ earlier later,
      path = earlier ++ root ++ later → before.length ≤ earlier.length := by
  induction path with
  | nil => simp [Chars.afterFirst?, nonempty] at found
  | cons c behind ih =>
    rw [Chars.afterFirst?] at found
    split at found
    · rename_i here
      obtain ⟨tail, whole⟩ := List.isPrefixOf_iff_prefix.mp here
      rw [← whole, List.drop_left] at found
      refine ⟨[], ?_, fun earlier later _ => Nat.zero_le _⟩
      rw [← Option.some.inj found, List.nil_append, whole]
    · rename_i elsewhere
      obtain ⟨before, whole, first⟩ := ih found
      refine ⟨c :: before, by rw [whole]; rfl, fun earlier later other => ?_⟩
      cases earlier with
      | nil => exact absurd (List.isPrefixOf_iff_prefix.mpr ⟨later, other.symm⟩) elsewhere
      | cons d earlier => exact Nat.succ_le_succ (first earlier later (List.cons.inj other).2)

/-- A root at the start of a path is where it occurs first, so looking for it there makes no
difference. -/
theorem below_root_eq (nonempty : root ≠ []) (path : List Char) :
    Layout.belowRoot root path = (Chars.afterFirst? root path).getD path := by
  have some : root.isEmpty = false := by simpa using nonempty
  unfold Layout.belowRoot Chars.dropLead?
  rw [some]
  by_cases starts : root.isPrefixOf path = true
  · cases path with
    | nil => exact absurd (List.prefix_nil.mp (List.isPrefixOf_iff_prefix.mp starts)) nonempty
    | cons c rest => simp [Chars.afterFirst?, starts]
  · simp [starts]

private theorem below_root_cut (root path : List Char) :
    ∃ front, path = front ++ Layout.belowRoot root path ∧
      RootCut root front (Layout.belowRoot root path) := by
  by_cases nonempty : root = []
  · refine ⟨[], ?_, .whole _ (.inl nonempty)⟩
    simp [Layout.belowRoot, nonempty]
  · rw [below_root_eq nonempty]
    cases found : Chars.afterFirst? root path with
    | none => exact ⟨[], rfl, .whole _ (.inr (after_first_none found))⟩
    | some rest =>
      obtain ⟨before, whole, first⟩ := after_first_some nonempty found
      exact ⟨before ++ root, whole, .behind before rest fun earlier later other =>
        first earlier later (whole.trans other)⟩

/-- A cut between segments: nothing of a segment stands before the cut, or nothing behind it,
where a single dot counts for nothing. -/
def Between (front rest : List Char) : Prop :=
  Chars.lastPiece '/' front = [] ∨ rest.takeWhile (· != '/') ∈ [[], ['.']]

/-- The segments among the pieces of a path. -/
def kept (pieces : List (List Char)) : List String :=
  (pieces.map String.ofList).filter fun segment => !segment.isEmpty && segment != "."

private theorem segments_eq (path : List Char) :
    Layout.segments (String.ofList path) = kept (Chars.splitOn '/' path) := by
  simp [Layout.segments, Text.splitOn, kept]

private theorem kept_cons (piece : List Char) (others : List (List Char)) :
    kept (piece :: others) =
      (if piece = [] ∨ piece = ['.'] then [] else [String.ofList piece]) ++ kept others := by
  have dot : String.ofList piece = "." ↔ piece = ['.'] := by
    rw [← String.toList_inj, String.toList_ofList]
    rfl
  by_cases idle : piece = [] ∨ piece = ['.']
  · rw [if_pos idle]
    rcases idle with rfl | rfl <;> rfl
  · have shown := not_or.mp idle
    simp [kept, shown.1, dot, shown.2]

private theorem take_first_piece (text : List Char) (pieces : Chars.splitOn '/' text = first :: others) :
    text.takeWhile (· != '/') = first := by
  induction text generalizing first others with
  | nil =>
    cases pieces
    rfl
  | cons c rest ih =>
    obtain ⟨next, further, split⟩ := split_cons '/' rest
    by_cases slash : c = '/'
    · rw [slash, Chars.splitOn, if_pos (by decide)] at pieces
      rw [slash, ← (List.cons.inj pieces).1]
      rfl
    · simp only [Chars.splitOn, beq_iff_eq, slash, ↓reduceIte, split, List.cons.injEq] at pieces
      rw [List.takeWhile_cons_of_pos (by simpa using slash), ih split, pieces.1]

/-- At a cut the last piece before it and the first piece behind it make one piece. -/
theorem split_at_cut (front rest : List Char) (pieces : Chars.splitOn '/' rest = first :: others) :
    ∃ before, Chars.splitOn '/' (front ++ rest) =
      before ++ (Chars.lastPiece '/' front ++ first) :: others := by
  rcases last_piece_cases '/' front with ⟨free, own⟩ | ⟨lead, whole⟩
  · refine ⟨[], ?_⟩
    rw [split_free_append '/' front rest free, pieces, own]
    rfl
  · refine ⟨Chars.splitOn '/' lead, ?_⟩
    have rejoined : front ++ rest = lead ++ '/' :: (Chars.lastPiece '/' front ++ rest) := by
      conv => lhs; rw [whole]
      simp
    rw [rejoined, split_append, split_free_append '/' _ rest (last_piece_free '/' front), pieces]
    rfl

/-- Two pieces that are not empty make a segment. -/
theorem kept_joined (leftSome : left ≠ []) (rightSome : right ≠ []) (others : List (List Char)) :
    kept ((left ++ right) :: others) = String.ofList (left ++ right) :: kept others := by
  rw [kept_cons, if_neg, List.singleton_append]
  rintro (empty | dot)
  · exact leftSome (List.append_eq_nil_iff.mp empty).1
  · have lengths := congrArg List.length dot
    have leftLength := List.length_pos_iff.mpr leftSome
    have rightLength := List.length_pos_iff.mpr rightSome
    simp only [List.length_append, List.length_singleton] at lengths
    omega

/-- What stands behind a cut has whole segments of the path exactly when the cut falls between
segments. -/
theorem suffix_iff_between (front rest : List Char) :
    Layout.segments (String.ofList rest) <:+ Layout.segments (String.ofList (front ++ rest)) ↔
      Between front rest := by
  obtain ⟨first, others, pieces⟩ := split_cons '/' rest
  obtain ⟨before, joined⟩ := split_at_cut front rest pieces
  have spread : kept (before ++ (Chars.lastPiece '/' front ++ first) :: others) =
      kept before ++ kept ((Chars.lastPiece '/' front ++ first) :: others) := by
    simp [kept]
  rw [segments_eq, segments_eq, joined, spread, pieces, Between, take_first_piece rest pieces]
  by_cases idle : first = [] ∨ first = ['.']
  · rw [kept_cons first, if_pos idle, kept_cons, List.nil_append, ← List.append_assoc]
    exact iff_of_true (List.suffix_append _ _) (.inr (by simpa using idle))
  · have shown : first ∉ [[], ['.']] := by simpa using idle
    by_cases none : Chars.lastPiece '/' front = []
    · rw [none, List.nil_append]
      exact iff_of_true (List.suffix_append _ _) (.inl rfl)
    · -- The segment behind the cut would be the longer one that was cut.
      rw [kept_cons first, if_neg idle, kept_joined none (not_or.mp idle).1, List.singleton_append]
      refine iff_of_false ?_ (not_or.mpr ⟨none, shown⟩)
      rintro ⟨lead, whole⟩
      obtain ⟨-, same⟩ := List.append_inj' whole rfl
      have equal := String.ofList_inj.mp (List.cons.inj same).1
      exact none (List.append_left_eq_self.mp equal.symm)

/-- The path of a source below the root is read as the segments it was made of. -/
theorem segments_relative (layout : Layout) (source : String) :
    Layout.segments (layout.relativeSource source) = layout.sourceSegments source := by
  have plain : ∀ segment ∈ layout.sourceSegments source, Plain segment :=
    fun segment member => segments_plain _ member
  unfold Layout.relativeSource
  generalize layout.sourceSegments source = parts at plain
  by_cases empty : parts = []
  · rw [empty]
    rfl
  · rw [Layout.segments, split_joined empty fun part member => .of_plain (plain part member)]
    exact List.filter_eq_self.mpr fun part member => by
      simp [(plain part member).nonempty, (plain part member).undotted]

private theorem last_piece_slash (closed : front.getLast? = some '/') : Chars.lastPiece '/' front = [] := by
  obtain ⟨lead, rfl⟩ := List.getLast?_eq_some_iff.mp closed
  exact last_piece_behind '/' lead [] (by simp)

/-- A root that is empty or ends in a slash is cut off between segments. -/
theorem closed_root_between (closed : root = [] ∨ root.getLast? = some '/')
    (cut : RootCut root front rest) : Between front rest := by
  cases cut with
  | whole path absent => exact .inl rfl
  | behind before rest first =>
    rcases closed with none | slash
    · -- Without a root, the first place where it occurs is the start.
      have start := first [] (before ++ rest) (by simp [none])
      rw [List.eq_nil_of_length_eq_zero (Nat.le_zero.mp start), none]
      exact .inl rfl
    · exact .inl (last_piece_slash (by rw [List.getLast?_append, slash, Option.some_or]))

/-- The segments of a source below the root are the last segments of its path exactly when
the root is cut off between segments: for every root that is empty or ends in a slash, and
for any other root unless the first place where it occurs ends inside a segment. -/
theorem root_cut_between_segments (layout : Layout) (source : String) :
    (∃ front rest, (Text.withSlashes source).toList = front ++ rest ∧
      RootCut layout.root.toList front rest ∧
      (Layout.segments (layout.relativeSource source) <:+ Layout.segments (Text.withSlashes source) ↔
        Between front rest)) ∧
    (layout.root = "" ∨ layout.root.toList.getLast? = some '/' →
      Layout.segments (layout.relativeSource source) <:+ Layout.segments (Text.withSlashes source)) := by
  obtain ⟨front, whole, cut⟩ := below_root_cut layout.root.toList (Text.withSlashes source).toList
  have exact : Layout.segments (layout.relativeSource source) <:+ Layout.segments (Text.withSlashes source) ↔
      Between front (Layout.belowRoot layout.root.toList (Text.withSlashes source).toList) := by
    rw [← suffix_iff_between, ← whole, String.ofList_toList, segments_relative]
    rfl
  refine ⟨⟨front, _, whole, cut, exact⟩, fun closed => exact.mpr (closed_root_between ?_ cut)⟩
  rcases closed with none | slash
  · exact .inl (by simp [none])
  · exact .inr slash

/-- A root without a slash at its end. -/
def backendLayout : Layout := ⟨"/src/Backend", "out", ".ts"⟩

/-- A directory whose name goes on behind that of the root loses a part of its name. -/
theorem sibling_directory_cut :
    Layout.segments (backendLayout.relativeSource "/src/BackendOld/User.cs") = ["Old", "User.cs"] ∧
    ¬ Layout.segments (backendLayout.relativeSource "/src/BackendOld/User.cs") <:+
      Layout.segments (Text.withSlashes "/src/BackendOld/User.cs") := by
  have segments : Layout.segments (backendLayout.relativeSource "/src/BackendOld/User.cs") =
      ["Old", "User.cs"] := by decide +kernel
  have all : Layout.segments (Text.withSlashes "/src/BackendOld/User.cs") =
      ["src", "BackendOld", "User.cs"] := by decide +kernel
  rw [segments, all]
  exact ⟨rfl, by simp [List.suffix_cons_iff]⟩

/-- With a slash at its end the root does not occur in that path, and below it in another
spelling of the separators it is found behind a drive. -/
theorem closed_root_kept :
    Layout.segments ((Layout.mk "/src/Backend/" "out" ".ts").relativeSource "/src/BackendOld/User.cs") <:+
      Layout.segments (Text.withSlashes "/src/BackendOld/User.cs") ∧
    Layout.segments ((Layout.mk "/src/Backend/" "out" ".ts").relativeSource "C:\\src\\Backend\\.\\Old/User.cs") <:+
      Layout.segments (Text.withSlashes "C:\\src\\Backend\\.\\Old/User.cs") :=
  ⟨(root_cut_between_segments _ _).2 (.inr (by decide +kernel)),
    (root_cut_between_segments _ _).2 (.inr (by decide +kernel))⟩

end TypeStubs.RootCuts

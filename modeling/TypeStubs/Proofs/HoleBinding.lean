import TypeStubs.Proofs.RouteParts

/-! Binding one parameter, for any path, key and identifier. It is told in three ways: as a loop
that searches, replaces in place and goes on behind the replacement; as one pass over the
path; and as a substitution that mentions neither. All three agree. Where neither the key nor
the identifier has braces, no two holes share a character, so every single hole is treated,
and what was put in is not touched again. -/
namespace TypeStubs.HoleBinding
open Route RouteHoles RouteParts

/-- A hole named like a key, whatever the case of the letters A to Z. -/
def IsHole (key hole : List Char) : Prop :=
  ∃ name, hole = '\x7b' :: name ++ ['\x7d'] ∧ Chars.asciiLower name = Chars.asciiLower key

/-- A path with an interpolation in place of each hole that no dollar sign precedes, behind a
given character. Holes are told from the left: a character stays where no hole starts. -/
inductive Substituted (key ident : List Char) : Option Char → List Char → List Char → Prop where
  | nothing : Substituted key ident before [] []
  | replaced (hole : IsHole key chars) (undollared : before ≠ some '$')
      (rest : Substituted key ident (some '\x7d') path text) :
      Substituted key ident before (chars ++ path) (interpolation ident ++ text)
  | kept (hole : IsHole key chars) (rest : Substituted key ident (some '\x7d') path text) :
      Substituted key ident (some '$') (chars ++ path) (chars ++ text)
  | char (plain : ∀ hole, IsHole key hole → ¬ hole <+: c :: path)
      (rest : Substituted key ident (some c) path text) :
      Substituted key ident before (c :: path) (c :: text)

/-- What the loop works on: the path as it is by now, how much of it is behind the search, and
whether a hole was found. -/
structure Loop where
  path : List Char
  scanned : Nat
  bound : Bool
  deriving DecidableEq, Repr

/-- The place where a word first occurs in a text. -/
def find? (word : List Char) : List Char → Option Nat
  | [] => if word.isEmpty then some 0 else none
  | c :: rest => if word.isPrefixOf (c :: rest) then some 0 else (find? word rest).map (· + 1)

namespace Loop

/-- One round: the first hole in what is left is replaced, and the search goes on behind the
replacement; behind a dollar sign it goes on behind the hole. -/
def step (key ident : List Char) (state : Loop) : Option Loop :=
  (find? (needle key) (Chars.asciiLower (state.path.drop state.scanned))).map fun offset =>
    let start := state.scanned + offset
    let stop := start + (needle key).length
    if 0 < start ∧ state.path[start - 1]? = some '$' then ⟨state.path, stop, true⟩
    else ⟨state.path.take start ++ interpolation ident ++ state.path.drop stop,
      start + (interpolation ident).length, true⟩

/-- The loop ends after a number of rounds. -/
inductive Ends (key ident : List Char) : Loop → Nat → Loop → Prop where
  | done (stops : step key ident state = none) : Ends key ident state 0 state
  | round (goes : step key ident state = some next) (rest : Ends key ident next rounds last) :
      Ends key ident state (rounds + 1) last

end Loop

private theorem hole_iff (key chars : List Char) : IsHole key chars ↔ Chars.asciiLower chars = needle key := by
  constructor
  · rintro ⟨name, rfl, same⟩
    exact hole_spelled same
  · intro spelled
    obtain ⟨opening, tail, rfl, opens, rest⟩ := List.map_eq_cons_iff.mp spelled
    obtain ⟨name, ending, rfl, same, last⟩ := List.map_eq_append_iff.mp rest
    obtain ⟨closing, none, rfl, closes, empty⟩ := List.map_eq_cons_iff.mp last
    rw [(lower_eq_iff opening (by decide)).mp opens, (lower_eq_iff closing (by decide)).mp closes,
      List.map_eq_nil_iff.mp empty]
    exact ⟨name, rfl, same⟩

private theorem hole_nonempty (isHole : IsHole key hole) : hole ≠ [] := by
  obtain ⟨name, rfl, -⟩ := isHole
  simp

private theorem hole_last (isHole : IsHole key hole) : hole.getLast? = some '\x7d' := by
  obtain ⟨name, rfl, -⟩ := isHole
  exact List.getLast?_concat

private theorem starts_with_hole (key text : List Char) :
    startsWith (needle key) text = true ↔ ∃ hole rest, IsHole key hole ∧ text = hole ++ rest := by
  rw [starts_with_eq, List.isPrefixOf_iff_prefix]
  constructor
  · rintro ⟨tail, whole⟩
    obtain ⟨hole, rest, rfl, spelled, -⟩ := List.map_eq_append_iff.mp whole.symm
    exact ⟨hole, rest, (hole_iff key hole).mpr spelled, rfl⟩
  · rintro ⟨hole, rest, isHole, rfl⟩
    refine ⟨Chars.asciiLower rest, ?_⟩
    rw [← (hole_iff key hole).mp isHole]
    simp [Chars.asciiLower]

/-- A path is empty, or starts with a hole, or with a character that starts none. -/
theorem path_induction (key : List Char) {motive : List Char → Prop} (nothing : motive [])
    (hole : ∀ hole rest, IsHole key hole → motive rest → motive (hole ++ rest))
    (char : ∀ c rest, (∀ hole, IsHole key hole → ¬ hole <+: c :: rest) → motive rest → motive (c :: rest))
    (path : List Char) : motive path := by
  induction size : path.length using Nat.strongRecOn generalizing path with
  | ind n ih =>
    subst size
    cases path with
    | nil => exact nothing
    | cons c rest =>
      by_cases starts : startsWith (needle key) (c :: rest) = true
      · obtain ⟨chars, behind, isHole, whole⟩ := (starts_with_hole key (c :: rest)).mp starts
        have some := List.length_pos_iff.mpr (hole_nonempty isHole)
        have size := congrArg List.length whole
        rw [List.length_append] at size
        rw [whole]
        exact hole chars behind isHole (ih behind.length (by omega) behind rfl)
      · refine char c rest ?_ (ih rest.length (by simp) rest rfl)
        rintro chars isHole ⟨behind, whole⟩
        exact starts ((starts_with_hole key (c :: rest)).mpr ⟨chars, behind, isHole, whole.symm⟩)

/-- What one pass makes of a path behind a given character. -/
def bindBehind (key ident : List Char) (before : Option Char) (path : List Char) : List Char × Bool :=
  bindFrom (needle key) (interpolation ident) before .keep 0 path

section
variable {key ident : List Char}

private theorem behind_undollared (undollared : before ≠ some '$') (path : List Char) :
    bindBehind key ident before path = bindHole path key ident :=
  bind_from_undollared _ _ undollared _ path

private theorem behind_hole (isHole : IsHole key hole) (before : Option Char) (rest : List Char) :
    bindBehind key ident before (hole ++ rest) =
      ((if before = some '$' then hole else interpolation ident) ++ (bindHole rest key ident).1, true) := by
  obtain ⟨name, rfl, same⟩ := isHole
  have spelled : '\x7b' :: name ++ ['\x7d'] ++ rest = '\x7b' :: name ++ '\x7d' :: rest := by simp
  rw [spelled, bindBehind, bind_from_hole same]

private theorem not_starts (plain : ∀ hole, IsHole key hole → ¬ hole <+: path) :
    ¬ startsWith (needle key) path = true := by
  rw [starts_with_hole]
  rintro ⟨hole, behind, isHole, whole⟩
  exact plain hole isHole ⟨behind, whole.symm⟩

private theorem behind_char (plain : ∀ hole, IsHole key hole → ¬ hole <+: c :: rest) (before : Option Char) :
    bindBehind key ident before (c :: rest) =
      (c :: (bindBehind key ident (some c) rest).1, (bindBehind key ident (some c) rest).2) := by
  rw [bindBehind, bindFrom, if_neg (not_starts plain)]
  rfl

/-- One pass is the substitution. -/
theorem behind_substituted (before : Option Char) (path : List Char) :
    Substituted key ident before path (bindBehind key ident before path).1 := by
  induction path using path_induction key generalizing before with
  | nothing => exact .nothing
  | hole hole rest isHole ih =>
    have behind := ih (some '\x7d')
    rw [behind_undollared (by simp)] at behind
    rw [behind_hole isHole]
    by_cases dollar : before = some '$'
    · rw [if_pos dollar, dollar]
      exact .kept isHole behind
    · rw [if_neg dollar]
      exact .replaced isHole dollar behind
  | char c rest plain ih =>
    rw [behind_char plain]
    exact .char plain (ih (some c))

/-- A hole is found wherever it is. -/
theorem behind_found_iff (before : Option Char) (path : List Char) :
    (bindBehind key ident before path).2 = true ↔
      ∃ front hole back, IsHole key hole ∧ path = front ++ (hole ++ back) := by
  induction path using path_induction key generalizing before with
  | nothing =>
    refine iff_of_false (by simp [bindBehind, bindFrom]) ?_
    rintro ⟨front, hole, back, isHole, whole⟩
    exact hole_nonempty isHole (List.append_eq_nil_iff.mp (List.append_eq_nil_iff.mp whole.symm).2).1
  | hole hole rest isHole ih =>
    rw [behind_hole isHole]
    exact iff_of_true rfl ⟨[], hole, rest, isHole, rfl⟩
  | char c rest plain ih =>
    rw [behind_char plain, ih (some c)]
    constructor
    · rintro ⟨front, hole, back, isHole, rfl⟩
      exact ⟨c :: front, hole, back, isHole, rfl⟩
    · rintro ⟨front, hole, back, isHole, whole⟩
      cases front with
      | nil => exact absurd ⟨back, whole.symm⟩ (plain hole isHole)
      | cons d front => exact ⟨front, hole, back, isHole, (List.cons.inj whole).2⟩

private theorem find_here (starts : word.isPrefixOf text = true) : find? word text = some 0 := by
  cases text with
  | nil =>
    have empty : word = [] := List.prefix_nil.mp (List.isPrefixOf_iff_prefix.mp starts)
    rw [empty]
    rfl
  | cons c rest => rw [find?, if_pos starts]

private theorem find_behind (apart : ¬ word.isPrefixOf (c :: rest) = true) :
    find? word (c :: rest) = (find? word rest).map (· + 1) := by
  rw [find?, if_neg apart]

/-- A search finds no hole, and the pass changes nothing; or it finds the first, and the pass
goes as far as that unchanged. -/
theorem find_cases (before : Option Char) (path : List Char) :
    (find? (needle key) (Chars.asciiLower path) = none ∧ bindBehind key ident before path = (path, false)) ∨
    ∃ gap hole back, path = gap ++ (hole ++ back) ∧ IsHole key hole ∧
      find? (needle key) (Chars.asciiLower path) = some gap.length ∧
      bindBehind key ident before path =
        (gap ++ ((if gap.getLast?.or before = some '$' then hole else interpolation ident) ++
          (bindHole back key ident).1), true) := by
  induction path using path_induction key generalizing before with
  | nothing => exact .inl ⟨rfl, rfl⟩
  | hole hole rest isHole _ =>
    have starts := (starts_with_hole key (hole ++ rest)).mpr ⟨hole, rest, isHole, rfl⟩
    rw [starts_with_eq] at starts
    exact .inr ⟨[], hole, rest, rfl, isHole, find_here starts, behind_hole isHole before rest⟩
  | char c rest plain ih =>
    have apart := not_starts plain
    rw [starts_with_eq] at apart
    have searched : find? (needle key) (Chars.asciiLower (c :: rest)) =
        (find? (needle key) (Chars.asciiLower rest)).map (· + 1) := find_behind apart
    rw [searched, behind_char plain]
    rcases ih (some c) with ⟨none, same⟩ | ⟨gap, hole, back, rfl, isHole, found, same⟩
    · exact .inl ⟨by rw [none]; rfl, by rw [same]⟩
    · refine .inr ⟨c :: gap, hole, back, rfl, isHole, by rw [found]; rfl, ?_⟩
      rw [same, last_behind]
      rfl

private theorem char_before (front back : List Char) (c : Char) :
    0 < front.length ∧ (front ++ back)[front.length - 1]? = some c ↔ front.getLast? = some c := by
  rw [List.getLast?_eq_getElem?]
  by_cases some : 0 < front.length
  · rw [List.getElem?_append_left (by omega)]
    exact and_iff_right some
  · have empty : front = [] := by simpa using some
    simp [empty]

/-- What a round makes of the hole that it finds. -/
theorem step_found (isHole : IsHole key hole) (done gap back : List Char) (bound : Bool)
    (found : find? (needle key) (Chars.asciiLower (gap ++ (hole ++ back))) = some gap.length) :
    Loop.step key ident ⟨done ++ (gap ++ (hole ++ back)), done.length, bound⟩ =
      let treated := gap ++ if gap.getLast?.or done.getLast? = some '$' then hole else interpolation ident
      some ⟨(done ++ treated) ++ back, (done ++ treated).length, true⟩ := by
  have width : (needle key).length = hole.length := by
    rw [← (hole_iff key hole).mp isHole]
    exact List.length_map _
  have regrouped : done ++ (gap ++ (hole ++ back)) = (done ++ gap) ++ (hole ++ back) := by simp
  have start : done.length + gap.length = (done ++ gap).length := List.length_append.symm
  have dollar := char_before (done ++ gap) (hole ++ back) '$'
  rw [List.getLast?_append] at dollar
  unfold Loop.step
  rw [List.drop_left, found, Option.map_some, width]
  simp only [start, regrouped, dollar]
  split
  · simp [Nat.add_assoc]
  · have stop : (done ++ gap).length + hole.length = ((done ++ gap) ++ hole).length := List.length_append.symm
    have cut : (done ++ gap) ++ (hole ++ back) = ((done ++ gap) ++ hole) ++ back := by simp
    rw [List.take_left, stop, cut, List.drop_left]
    simp [Nat.add_assoc]

/-- A round of the loop does what the pass does up to the end of the first hole. -/
theorem round_cases (done rest : List Char) (bound : Bool) :
    (Loop.step key ident ⟨done ++ rest, done.length, bound⟩ = none ∧
      bindBehind key ident done.getLast? rest = (rest, false)) ∨
    ∃ treated back, back.length < rest.length ∧ treated.getLast? = some '\x7d' ∧
      Loop.step key ident ⟨done ++ rest, done.length, bound⟩ =
        some ⟨(done ++ treated) ++ back, (done ++ treated).length, true⟩ ∧
      bindBehind key ident done.getLast? rest = (treated ++ (bindHole back key ident).1, true) := by
  rcases @find_cases key ident done.getLast? rest with ⟨none, same⟩ | ⟨gap, hole, back, rfl, isHole, found, same⟩
  · refine .inl ⟨?_, same⟩
    simp [Loop.step, none]
  · refine .inr ⟨_, back, ?_, ?_, step_found isHole done gap back bound found, ?_⟩
    · have wide := List.length_pos_iff.mpr (hole_nonempty isHole)
      simp only [List.length_append]
      omega
    · split <;> simp [List.getLast?_append, hole_last isHole, interpolation, List.getLast?_cons]
    · rw [same, List.append_assoc]

/-- The loop ends, after no more rounds than characters were left, with what the pass makes of
them. The path may grow, but what is left of it gets shorter with every round. -/
theorem loop_ends (done rest : List Char) (bound : Bool) :
    ∃ rounds last, Loop.Ends key ident ⟨done ++ rest, done.length, bound⟩ rounds last ∧ rounds ≤ rest.length ∧
      last.path = done ++ (bindBehind key ident done.getLast? rest).1 ∧
      last.bound = (bound || (bindBehind key ident done.getLast? rest).2) := by
  induction size : rest.length using Nat.strongRecOn generalizing done rest bound with
  | ind n ih =>
    subst size
    rcases @round_cases key ident done rest bound with ⟨stops, same⟩ | ⟨treated, back, shorter, last, goes, same⟩
    · exact ⟨0, _, .done stops, Nat.zero_le _, by rw [same], by rw [same, Bool.or_false]⟩
    · obtain ⟨rounds, final, ends, few, path, found⟩ := ih back.length shorter (done ++ treated) back true rfl
      have undollared : (done ++ treated).getLast? ≠ some '$' := by simp [List.getLast?_append, last]
      rw [behind_undollared undollared] at path found
      refine ⟨rounds + 1, final, .round goes ends, by omega, ?_, ?_⟩
      · rw [path, same, List.append_assoc]
      · rw [found, same, Bool.or_true, Bool.true_or]

end

private theorem hole_name_unbraced (unbraced : Unbraced key) (same : Chars.asciiLower name = Chars.asciiLower key) :
    Unbraced name := by
  have lowered : Unbraced (Chars.asciiLower name) := same ▸ lower_unbraced unbraced
  constructor
  · intro opened
    exact lowered.unopened (List.mem_map.mpr ⟨'\x7b', opened, rfl⟩)
  · intro closed
    exact lowered.unclosed (List.mem_map.mpr ⟨'\x7d', closed, rfl⟩)

/-- A hole has no opening brace but its first character. -/
theorem hole_apart (unbraced : Unbraced key) (isHole : IsHole key (front ++ '\x7b' :: back)) : front = [] := by
  obtain ⟨name, spelled, same⟩ := isHole
  have unopened := (hole_name_unbraced unbraced same).unopened
  cases front with
  | nil => rfl
  | cons c front =>
    have inside : front ++ '\x7b' :: back = name ++ ['\x7d'] := (List.cons.inj spelled).2
    have member : '\x7b' ∈ name ++ ['\x7d'] := inside ▸ List.mem_append_right front List.mem_cons_self
    rcases List.mem_append.mp member with opened | closing
    · exact absurd opened unopened
    · exact absurd closing (by decide)

/-- What is read up to a closing brace, if no other stands before it, was there already. -/
theorem substituted_start {name : List Char} (done : Substituted key ident before path text) (unbraced : Unbraced name)
    (closes : text = name ++ '\x7d' :: rest) : ∃ behind, path = name ++ '\x7d' :: behind := by
  induction done generalizing name with
  | nothing => simp at closes
  | replaced _ _ _ _ =>
    rcases name with _ | ⟨first, _ | ⟨second, name⟩⟩
    · cases closes
    · cases closes
    · have opens : second = '\x7b' := (List.cons.inj (List.cons.inj closes).2).1.symm
      exact absurd (by simp [opens]) unbraced.unopened
  | kept isHole _ _ =>
    obtain ⟨inner, rfl, -⟩ := isHole
    cases name with
    | nil => cases closes
    | cons first name =>
      have opens : first = '\x7b' := (List.cons.inj closes).1.symm
      exact absurd (by simp [opens]) unbraced.unopened
  | @char c path text _ _ _ ih =>
    cases name with
    | nil =>
      obtain ⟨rfl, -⟩ := List.cons.inj closes
      exact ⟨path, rfl⟩
    | cons first name =>
      obtain ⟨rfl, same⟩ := List.cons.inj closes
      obtain ⟨behind, rfl⟩ := ih (unbraced_cons.mp unbraced).2 same
      exact ⟨behind, rfl⟩

section
variable {key ident : List Char} (unbraced : Unbraced key)
include unbraced

/-- A hole that starts before another ends before it. -/
theorem hole_before (isHole : IsHole key hole) (other : IsHole key first)
    (starts : first <+: (c :: front) ++ (hole ++ back)) : first <+: c :: front := by
  obtain ⟨tail, whole⟩ := starts
  rcases List.append_eq_append_iff.mp whole with ⟨more, spelled, -⟩ | ⟨beyond, spelled, rest⟩
  · exact ⟨more, spelled.symm⟩
  · cases beyond with
    | nil => exact ⟨[], by simp [spelled]⟩
    | cons d beyond =>
      obtain ⟨name, rfl, -⟩ := isHole
      have opens : d = '\x7b' := (List.cons.inj rest).1.symm
      rw [spelled, opens] at other
      cases hole_apart unbraced other

/-- At every hole, what stands before it and what stands behind it are treated by themselves. -/
theorem behind_at_hole (isHole : IsHole key hole) (before : Option Char) (front back : List Char) :
    (bindBehind key ident before (front ++ (hole ++ back))).1 =
      (bindBehind key ident before front).1 ++
        ((if front.getLast?.or before = some '$' then hole else interpolation ident) ++
          (bindHole back key ident).1) := by
  induction front using path_induction key generalizing before with
  | nothing =>
    rw [List.nil_append, behind_hole isHole]
    rfl
  | hole first rest other ih =>
    have last : (first ++ rest).getLast?.or before = rest.getLast?.or (some '\x7d') := by
      simp [List.getLast?_append, hole_last other]
    have behind := ih (some '\x7d')
    rw [behind_undollared (by simp), behind_undollared (by simp)] at behind
    rw [List.append_assoc, behind_hole other, behind_hole other, behind, last, List.append_assoc]
  | char c rest plain ih =>
    have passes : ∀ first, IsHole key first → ¬ first <+: c :: (rest ++ (hole ++ back)) :=
      fun first other starts => plain first other (hole_before unbraced isHole other starts)
    rw [List.cons_append, behind_char passes, behind_char plain, ih (some c), last_behind]
    rfl

/-- An interpolation stays as it is, whatever it is named. -/
theorem behind_interpolation (identUnbraced : Unbraced ident) (before : Option Char) (rest : List Char) :
    (bindBehind key ident before (interpolation ident ++ rest)).1 =
      interpolation ident ++ (bindHole rest key ident).1 := by
  have spelled : interpolation ident ++ rest = '$' :: ('\x7b' :: ident ++ '\x7d' :: rest) := by simp [interpolation]
  have plain : ∀ hole, IsHole key hole → ¬ hole <+: '$' :: ('\x7b' :: ident ++ '\x7d' :: rest) := by
    rintro _ ⟨name, rfl, -⟩ ⟨tail, whole⟩
    exact absurd (List.cons.inj whole).1 (by decide)
  rw [spelled, behind_char plain, bindBehind]
  by_cases same : Chars.asciiLower ident = Chars.asciiLower key
  · rw [bind_from_hole same]
    simp [interpolation]
  · rw [bind_from_other unbraced identUnbraced same]
    simp [interpolation]

/-- What was put in is not touched again, nor is anything else. -/
theorem bound_again (identUnbraced : Unbraced ident) (done : Substituted key ident before path text) :
    (bindBehind key ident before text).1 = text := by
  induction done with
  | nothing => rfl
  | replaced _ _ _ ih =>
    rw [behind_undollared (by simp)] at ih
    rw [behind_interpolation unbraced identUnbraced, ih]
  | kept isHole _ ih =>
    rw [behind_undollared (by simp)] at ih
    rw [behind_hole isHole, if_pos rfl, ih]
  | @char c path text _ plain rest ih =>
    have passes : ∀ hole, IsHole key hole → ¬ hole <+: c :: text := by
      rintro _ ⟨name, rfl, same⟩ ⟨tail, whole⟩
      -- The rest of a hole that starts here was there before, and so was the hole.
      have closes : text = name ++ '\x7d' :: tail := by simpa using (List.cons.inj whole).2.symm
      obtain ⟨behind, rfl⟩ := substituted_start rest (hole_name_unbraced unbraced same) closes
      have opens : c = '\x7b' := (List.cons.inj whole).1.symm
      exact plain _ ⟨name, rfl, same⟩ ⟨behind, by simp [opens]⟩
    rw [behind_char passes, ih]

end

/-- A key has no braces that the identifier of its parameter does not have. -/
theorem key_unbraced (param : Member) (unbraced : Unbraced param.ident.toList) : Unbraced param.key.toList := by
  unfold Member.ident at unbraced
  split at unbraced
  · rw [String.toList_append] at unbraced
    exact ⟨fun opened => unbraced.unopened (List.mem_append_left _ opened),
      fun closed => unbraced.unclosed (List.mem_append_left _ closed)⟩
  · exact unbraced

/-- Binding is a single exact substitution. The loop ends, after no more rounds than the path
has characters, and its outcome is that of the pass, which is the substitution. A hole counts
as found just where there is one, behind a dollar sign or not. If the identifier has no
braces, and the key has none either or is that of the identifier's parameter, then each hole
of the path is treated apart from what is around it, and binding once more changes nothing. -/
theorem holes_bound_once (path key ident : List Char) :
    (∃ rounds last, Loop.Ends key ident ⟨path, 0, false⟩ rounds last ∧ rounds ≤ path.length ∧
      (last.path, last.bound) = bindHole path key ident) ∧
    Substituted key ident none path (bindHole path key ident).1 ∧
    ((bindHole path key ident).2 = true ↔
      ∃ front hole back, IsHole key hole ∧ path = front ++ (hole ++ back)) ∧
    (Unbraced ident → (Unbraced key ∨ ∃ param : Member, param.key.toList = key ∧ param.ident.toList = ident) →
      (∀ front hole back, IsHole key hole → path = front ++ (hole ++ back) →
        (bindHole path key ident).1 = (bindHole front key ident).1 ++
          ((if front.getLast? = some '$' then hole else interpolation ident) ++ (bindHole back key ident).1)) ∧
      (bindHole (bindHole path key ident).1 key ident).1 = (bindHole path key ident).1) := by
  refine ⟨?_, behind_substituted none path, behind_found_iff none path, fun identUnbraced keyed => ?_⟩
  · obtain ⟨rounds, last, ends, few, done, found⟩ := @loop_ends key ident [] path false
    exact ⟨rounds, last, ends, few, by rw [done, found]; rfl⟩
  · have unbraced : Unbraced key := by
      rcases keyed with unbraced | ⟨param, rfl, rfl⟩
      · exact unbraced
      · exact key_unbraced param identUnbraced
    refine ⟨fun front hole back isHole whole => ?_, bound_again unbraced identUnbraced (behind_substituted none path)⟩
    have treated := @behind_at_hole key ident unbraced hole isHole none front back
    rw [Option.or_none] at treated
    rw [whole]
    exact treated

/-- A path with a hole in capitals, one behind a dollar sign, and one behind a stray brace. -/
def strayPath : List Char := "a/\x7bID\x7d/$\x7bid\x7d/\x7bx\x7bid\x7d".toList

theorem holes_bound_once_stray :
    Unbraced "id".toList ∧ IsHole "id".toList "\x7bID\x7d".toList ∧
    bindHole strayPath "id".toList "id".toList = ("a/$\x7bid\x7d/$\x7bid\x7d/\x7bx$\x7bid\x7d".toList, true) ∧
    (bindHole strayPath "id".toList "id".toList).1 = (bindHole "a/".toList "id".toList "id".toList).1 ++
      (interpolation "id".toList ++ (bindHole "/$\x7bid\x7d/\x7bx\x7bid\x7d".toList "id".toList "id".toList).1) ∧
    (bindHole (bindHole strayPath "id".toList "id".toList).1 "id".toList "id".toList).1 =
      (bindHole strayPath "id".toList "id".toList).1 := by
  have unbraced : Unbraced "id".toList := by decide
  have isHole : IsHole "id".toList "\x7bID\x7d".toList := ⟨"ID".toList, rfl, rfl⟩
  obtain ⟨-, -, -, apart⟩ := holes_bound_once strayPath "id".toList "id".toList
  obtain ⟨each, again⟩ := apart unbraced (.inl unbraced)
  exact ⟨unbraced, isHole, rfl, each "a/".toList _ _ isHole rfl, again⟩

/-- A key with braces can be put together by what it is replaced with. -/
example :
    bindHole "\x7ba\x7ba$\x7bx\x7db\x7db\x7d".toList "a$\x7bx\x7db".toList "x".toList =
        ("\x7ba$\x7bx\x7db\x7d".toList, true) ∧
      bindHole "\x7ba$\x7bx\x7db\x7d".toList "a$\x7bx\x7db".toList "x".toList = ("$\x7bx\x7d".toList, true) :=
  ⟨rfl, rfl⟩

end TypeStubs.HoleBinding

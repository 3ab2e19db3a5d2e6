import TypeStubs.Proofs.RouteParts

/-! What binding makes of any path at all, with braces and dollar signs wherever they are.
A path is read as single characters and slots, a slot being a pair of braces with none in
between. Parameters are bound one after the other, but an interpolation stands behind a
dollar sign, and no later parameter is put in there: the outcome is that of one pass that
puts into every slot the first parameter with its name. -/
namespace TypeStubs.PathSlots
open Route RouteHoles RouteParts

/-- A part of a path. -/
inductive Atom where
  | char (c : Char)
  | slot (name : List Char)
  deriving DecidableEq, Repr

/-- An atom as it is written. -/
def Atom.chars : Atom → List Char
  | .char c => [c]
  | .slot name => '\x7b' :: name ++ ['\x7d']

/-- Reads a path. Given are the characters behind the last opening brace, last first, unless
a closing brace came since. -/
def scan (inside : Option (List Char)) : List Char → List Atom
  | [] => inside.elim [] fun inner => .char '\x7b' :: inner.reverse.map .char
  | c :: rest =>
    match inside with
    | none => if c = '\x7b' then scan (some []) rest else .char c :: scan none rest
    | some inner =>
      if c = '\x7d' then .slot inner.reverse :: scan none rest
      else if c = '\x7b' then .char '\x7b' :: inner.reverse.map .char ++ scan (some []) rest
      else scan (some (c :: inner)) rest

/-- The atoms of a path. -/
def atoms (path : List Char) : List Atom := scan none path

private theorem chars_of_text (text : List Char) : (text.map Atom.char).flatMap Atom.chars = text := by
  induction text with
  | nil => rfl
  | cons c rest ih => simp [Atom.chars, ih]

private theorem scan_chars (inside : Option (List Char)) (path : List Char) :
    (scan inside path).flatMap Atom.chars =
      (inside.elim [] fun inner => '\x7b' :: inner.reverse) ++ path := by
  induction path generalizing inside with
  | nil => cases inside <;> simp [scan, Atom.chars, - List.map_reverse, chars_of_text]
  | cons c rest ih =>
    cases inside with
    | none =>
      by_cases opens : c = '\x7b'
      · simp [scan, opens, ih]
      · simp [scan, opens, ih, Atom.chars]
    | some inner =>
      by_cases closes : c = '\x7d'
      · simp [scan, closes, ih, Atom.chars]
      · by_cases opens : c = '\x7b'
        · simp [scan, opens, ih, Atom.chars, - List.map_reverse, chars_of_text]
        · simp [scan, closes, opens, ih]

/-- The atoms of a path make it up. -/
theorem atoms_chars (path : List Char) : (atoms path).flatMap Atom.chars = path := scan_chars none path

/-- Whether the next brace is a closing one that stands by itself. -/
def closes : List Atom → Bool
  | [] => false
  | .char c :: rest => c == '\x7d' || (c != '\x7b' && closes rest)
  | .slot _ :: _ => false

/-- Atoms none of which is part of a slot that was not seen: a brace that opens no slot is
not closed before another brace comes. -/
inductive Scanned : List Atom → Prop where
  | nil : Scanned []
  | char {c : Char} {rest : List Atom} (stray : c = '\x7b' → closes rest = false) (tail : Scanned rest) :
      Scanned (.char c :: rest)
  | slot {name : List Char} {rest : List Atom} (unbraced : Unbraced name) (tail : Scanned rest) :
      Scanned (.slot name :: rest)

private theorem unbraced_reverse (unbraced : Unbraced text) : Unbraced text.reverse :=
  ⟨by simpa using unbraced.unopened, by simpa using unbraced.unclosed⟩

private theorem closes_text (unbraced : Unbraced text) (rest : List Atom) :
    closes (text.map .char ++ rest) = closes rest := by
  induction text with
  | nil => rfl
  | cons c text ih =>
    obtain ⟨⟨opens, shuts⟩, unbraced⟩ := unbraced_cons.mp unbraced
    rw [List.map_cons, List.cons_append, closes, beq_eq_false_iff_ne.mpr shuts, bne_iff_ne.mpr opens, ih unbraced,
      Bool.true_and, Bool.false_or]

private theorem scanned_text (unbraced : Unbraced text) (tail : Scanned rest) :
    Scanned (text.map .char ++ rest) := by
  induction text with
  | nil => exact tail
  | cons c text ih =>
    obtain ⟨⟨opens, -⟩, unbraced⟩ := unbraced_cons.mp unbraced
    exact .char (fun same => absurd same opens) (ih unbraced)

/-- A brace that is given up opens no slot. -/
theorem scanned_stray (unbraced : Unbraced text) (tail : Scanned rest) (stray : closes rest = false) :
    Scanned (.char '\x7b' :: text.map .char ++ rest) :=
  .char (fun _ => closes_text unbraced rest ▸ stray) (scanned_text unbraced tail)

/-- Reading misses no slot, and what an open brace is read with never starts like the end of
one. -/
theorem scanned_scan (inside : Option (List Char)) (unbraced : ∀ inner ∈ inside, Unbraced inner)
    (path : List Char) :
    Scanned (scan inside path) ∧ (inside.isSome → closes (scan inside path) = false) := by
  induction path generalizing inside with
  | nil =>
    cases inside with
    | none => exact ⟨.nil, nofun⟩
    | some inner =>
      refine ⟨?_, fun _ => rfl⟩
      simpa [scan] using scanned_stray (unbraced_reverse (unbraced inner rfl)) .nil rfl
  | cons c rest ih =>
    cases inside with
    | none =>
      refine ⟨?_, nofun⟩
      by_cases opens : c = '\x7b'
      · simpa [scan, opens] using (ih (some []) (by simp [Unbraced.mk])).1
      · simpa [scan, opens] using .char (fun same => absurd same opens) (ih none nofun).1
    | some inner =>
      have innerUnbraced := unbraced inner rfl
      by_cases shuts : c = '\x7d'
      · simpa [scan, shuts, closes] using .slot (unbraced_reverse innerUnbraced) (ih none nofun).1
      · by_cases opens : c = '\x7b'
        · obtain ⟨tail, stray⟩ := ih (some []) (by simp [Unbraced.mk])
          simpa [scan, opens, closes] using scanned_stray (unbraced_reverse innerUnbraced) tail (stray rfl)
        · have longer : Unbraced (c :: inner) := unbraced_cons.mpr ⟨⟨opens, shuts⟩, innerUnbraced⟩
          simpa [scan, shuts, opens] using ih (some (c :: inner)) (by simpa using longer)

theorem scanned_atoms (path : List Char) : Scanned (atoms path) := (scanned_scan none nofun path).1

/-- What a slot becomes: the interpolation of the first parameter that it names, unless a
dollar sign stands before it. -/
def shown (params : List Member) (before : Option Char) (name : List Char) : List Char :=
  match params.find? fun param => names param name with
  | some param => if before = some '$' then (Atom.slot name).chars else interpolation param.ident.toList
  | none => (Atom.slot name).chars

/-- Atoms with the parameters put in, behind a given character. -/
def filled (params : List Member) (before : Option Char) : List Atom → List Char
  | [] => []
  | .char c :: rest => c :: filled params (some c) rest
  | .slot name :: rest => shown params before name ++ filled params (some '\x7d') rest

private theorem filled_nothing (before : Option Char) (pieces : List Atom) :
    filled [] before pieces = pieces.flatMap Atom.chars := by
  induction pieces generalizing before with
  | nil => rfl
  | cons atom rest ih => cases atom <;> simp [filled, shown, Atom.chars, ih]

private theorem filled_undollared (undollared : before ≠ some '$') (params : List Member) (pieces : List Atom) :
    filled params before pieces = filled params none pieces := by
  cases pieces with
  | nil => rfl
  | cons atom rest => cases atom <;> simp [filled, shown, undollared]

/-- Behind a dollar sign nothing is put in. -/
theorem shown_dollared (params : List Member) (name : List Char) :
    shown params (some '$') name = (Atom.slot name).chars := by
  unfold shown
  split <;> rfl

def isBrace (c : Char) : Bool := c == '\x7b' || c == '\x7d'

/-- A slot opens with a brace, before or after it is filled. -/
theorem shown_brace (params : List Member) (before : Option Char) (name rest : List Char) :
    (shown params before name ++ rest).find? isBrace = some '\x7b' := by
  unfold shown
  split
  · split <;> rfl
  · rfl

private theorem filled_brace {pieces : List Atom} (stray : closes pieces = false) (params : List Member)
    (before : Option Char) : (filled params before pieces).find? isBrace ≠ some '\x7d' := by
  induction pieces generalizing before with
  | nil => simp [filled]
  | cons atom rest ih =>
    cases atom with
    | slot name =>
      rw [filled, shown_brace]
      simp
    | char c =>
      simp only [closes, Bool.or_eq_false_iff, beq_eq_false_iff_ne] at stray
      rw [filled, List.find?_cons]
      by_cases opens : c = '\x7b'
      · simp [isBrace, opens]
      · have stray : closes rest = false := by simpa [opens] using stray.2
        have passed : isBrace c = false := by simp [isBrace, opens, ‹_ ∧ _›.1]
        simpa [passed] using ih stray (some c)

private theorem starts_brace (unbraced : Unbraced key)
    (starts : startsWith (Chars.asciiLower key ++ ['\x7d']) text = true) :
    text.find? isBrace = some '\x7d' := by
  induction key generalizing text with
  | nil =>
    cases text with
    | nil => simp [Chars.asciiLower, startsWith] at starts
    | cons c rest =>
      simp only [Chars.asciiLower, List.map_nil, List.nil_append, startsWith, Bool.and_true, beq_iff_eq] at starts
      rw [(lower_eq_iff c (by decide)).mp starts]
      rfl
  | cons k key ih =>
    cases text with
    | nil => simp [Chars.asciiLower, startsWith] at starts
    | cons c rest =>
      obtain ⟨⟨opens, shuts⟩, unbraced⟩ := unbraced_cons.mp unbraced
      simp only [Chars.asciiLower, List.map_cons, List.cons_append, startsWith, Bool.and_eq_true,
        beq_iff_eq] at starts
      have apart {brace : Char} (unlettered : Unlettered brace) (other : k ≠ brace) : c ≠ brace := by
        rintro rfl
        exact other ((lower_eq_iff k unlettered).mp (starts.1.symm.trans ((lower_eq_iff c unlettered).mpr rfl)))
      have passed : isBrace c = false := by
        simp [isBrace, apart (by decide) opens, apart (by decide) shuts]
      rw [List.find?_cons, passed]
      exact ih unbraced starts.2

section
variable {param : Member} (unbraced : Unbraced param.key.toList)
include unbraced

/-- A slot, and what binding one parameter makes of it. -/
theorem bind_slot (nameUnbraced : Unbraced name) (before : Option Char) (rest : List Char) :
    (bindFrom (needle param.key.toList) (interpolation param.ident.toList) before .keep 0
        ((Atom.slot name).chars ++ rest)).1 =
      shown [param] before name ++
        (bindFrom (needle param.key.toList) (interpolation param.ident.toList) (some '\x7d') .keep 0 rest).1 := by
  have spelled : (Atom.slot name).chars ++ rest = '\x7b' :: name ++ '\x7d' :: rest := by simp [Atom.chars]
  rw [spelled, bind_from_undollared _ _ (show some '\x7d' ≠ some '$' by simp) _ rest, ← bind_hole_eq]
  by_cases same : Chars.asciiLower name = Chars.asciiLower param.key.toList
  · have named : names param name = true := beq_iff_eq.mpr same.symm
    rw [bind_from_hole same]
    simp [shown, named, Atom.chars]
  · have other : names param name = false := beq_eq_false_iff_ne.mpr (Ne.symm same)
    rw [bind_from_other unbraced nameUnbraced same]
    simp [shown, other, Atom.chars]

/-- A slot that parameters before this one were put into, or not. -/
theorem bind_shown (earlier : List Member) (idents : ∀ other ∈ earlier, Unbraced other.ident.toList)
    (nameUnbraced : Unbraced name) (before : Option Char) (rest : List Char) :
    (bindFrom (needle param.key.toList) (interpolation param.ident.toList) before .keep 0
        (shown earlier before name ++ rest)).1 =
      shown (earlier ++ [param]) before name ++
        (bindFrom (needle param.key.toList) (interpolation param.ident.toList) (some '\x7d') .keep 0 rest).1 := by
  cases found : earlier.find? fun other => names other name with
  | none =>
    have unfilled : shown earlier before name = (Atom.slot name).chars := by simp [shown, found]
    have alone : shown (earlier ++ [param]) before name = shown [param] before name := by
      simp [shown, List.find?_append, found]
    rw [unfilled, alone, bind_slot unbraced nameUnbraced]
  | some other =>
    have stays : shown (earlier ++ [param]) before name = shown earlier before name := by
      simp [shown, List.find?_append, found]
    rw [stays]
    by_cases dollar : before = some '$'
    · subst dollar
      rw [shown_dollared, bind_slot unbraced nameUnbraced, shown_dollared]
    · -- The interpolation has its own dollar sign, so nothing is put into it again.
      have identUnbraced := idents other (List.mem_of_find?_eq_some found)
      have spelled : shown earlier before name = ['$'] ++ (Atom.slot other.ident.toList).chars := by
        simp [shown, found, dollar, interpolation, Atom.chars]
      have passed := bind_from_text (show '\x7b' ∉ ['$'] by decide) (Chars.asciiLower param.key.toList ++ ['\x7d'])
        (interpolation param.ident.toList) before ((Atom.slot other.ident.toList).chars ++ rest)
      rw [← List.cons_append, ← needle] at passed
      have last : ['$'].getLast?.or before = some '$' := rfl
      rw [spelled, List.append_assoc, passed, last, bind_slot unbraced identUnbraced, shown_dollared]
      simp

/-- A character that starts no slot passes. -/
theorem bind_char (stray : c = '\x7b' → rest.find? isBrace ≠ some '\x7d') (before : Option Char) :
    (bindFrom (needle param.key.toList) (interpolation param.ident.toList) before .keep 0 (c :: rest)).1 =
      c :: (bindFrom (needle param.key.toList) (interpolation param.ident.toList) (some c) .keep 0 rest).1 := by
  have apart : startsWith (needle param.key.toList) (c :: rest) = false := by
    refine Bool.eq_false_iff.mpr fun starts => ?_
    simp only [needle, List.cons_append, startsWith, Bool.and_eq_true, beq_iff_eq] at starts
    exact stray ((lower_eq_iff c (by decide)).mp starts.1) (starts_brace unbraced starts.2)
  rw [bindFrom, apart]
  simp

/-- A path that parameters before this one were put into. -/
theorem bind_filled (earlier : List Member) (idents : ∀ other ∈ earlier, Unbraced other.ident.toList)
    {pieces : List Atom} (scanned : Scanned pieces) (before : Option Char) :
    (bindFrom (needle param.key.toList) (interpolation param.ident.toList) before .keep 0
        (filled earlier before pieces)).1 =
      filled (earlier ++ [param]) before pieces := by
  induction scanned generalizing before with
  | nil => rfl
  | char stray _ ih =>
    rw [filled, filled, bind_char unbraced (fun opens => filled_brace (stray opens) _ _), ih]
  | slot nameUnbraced _ ih => rw [filled, filled, bind_shown unbraced earlier idents nameUnbraced, ih]

end

/-- Binding parameters one after the other puts each of them into the slots that it names
first. -/
theorem bind_params_filled (earlier params : List Member)
    (unbraced : ∀ param ∈ earlier ++ params, Unbraced param.key.toList) (index : Nat)
    {pieces : List Atom} (scanned : Scanned pieces) :
    (bindParams index (filled earlier none pieces) params).1 = filled (earlier ++ params) none pieces := by
  induction params generalizing earlier index with
  | nil => simp [bindParams]
  | cons param rest ih =>
    have idents (other : Member) (member : other ∈ earlier) : Unbraced other.ident.toList :=
      ident_unbraced (unbraced other (by simp [member]))
    have bound := bind_filled (unbraced param (by simp)) earlier idents scanned none
    have regrouped : earlier ++ param :: rest = (earlier ++ [param]) ++ rest := by simp
    rw [bind_params_cons, bind_hole_eq, bound, regrouped]
    exact ih (earlier ++ [param]) (regrouped ▸ unbraced) (index + 1)

/-- Binding puts all parameters into a path at once. -/
theorem bind_path (params : List Member) (unbraced : ∀ param ∈ params, Unbraced param.key.toList)
    (path : List Char) : (bindParams 0 path params).1 = filled params none (atoms path) := by
  have bound := bind_params_filled [] params unbraced 0 (scanned_atoms path)
  rwa [filled_nothing, atoms_chars] at bound

/-- Nothing comes of nothing only. -/
theorem filled_eq_nil_iff (params : List Member) (path : List Char) :
    filled params none (atoms path) = [] ↔ path = [] := by
  constructor
  · intro empty
    have whole := atoms_chars path
    cases parts : atoms path with
    | nil => simpa [parts] using whole.symm
    | cons atom rest =>
      rw [parts] at empty
      cases atom with
      | char c => cases empty
      | slot name =>
        have brace := shown_brace params none name (filled params (some '\x7d') rest)
        rw [← filled, empty] at brace
        cases brace
  · rintro rfl
    rfl

private theorem filled_open (params : List Member) (before : Option Char) (inner path : List Char) :
    ∃ c rest, filled params before (scan (some inner) path) = c :: rest ∧ (c = '\x7b' ∨ c = '$') := by
  induction path generalizing inner with
  | nil => exact ⟨'\x7b', _, rfl, .inl rfl⟩
  | cons c rest ih =>
    by_cases shuts : c = '\x7d'
    · simp only [scan, shuts, ↓reduceIte, filled, shown]
      split
      · split
        · exact ⟨'\x7b', _, rfl, .inl rfl⟩
        · exact ⟨'$', _, rfl, .inr rfl⟩
      · exact ⟨'\x7b', _, rfl, .inl rfl⟩
    · by_cases opens : c = '\x7b'
      · simp only [scan, opens, ↓reduceIte]
        exact ⟨'\x7b', _, rfl, .inl rfl⟩
      · simpa only [scan, shuts, opens, ↓reduceIte] using ih (c :: inner)

/-- What is cut off before a path is cut off before its slots are filled. -/
theorem filled_drop_while (cut : Char → Bool) (brace : cut '\x7b' = false) (dollar : cut '$' = false)
    (params : List Member) (path : List Char) :
    (filled params none (atoms path)).dropWhile cut = filled params none (atoms (path.dropWhile cut)) := by
  induction path with
  | nil => rfl
  | cons c rest ih =>
    by_cases opens : c = '\x7b'
    · obtain ⟨first, tail, whole, starts⟩ := filled_open params none [] rest
      have kept : cut first = false := by rcases starts with rfl | rfl <;> assumption
      have spelled : filled params none (atoms (c :: rest)) = first :: tail := by
        simpa [atoms, scan, opens] using whole
      rw [List.dropWhile_cons_of_neg (by simp [opens, brace]), spelled, List.dropWhile_cons_of_neg (by simp [kept])]
    · have spelled : filled params none (atoms (c :: rest)) = c :: filled params (some c) (atoms rest) := by
        simp [atoms, scan, opens, filled]
      by_cases drops : cut c = true
      · have undollared : some c ≠ some '$' := by
          rintro ⟨⟩
          simp [dollar] at drops
        rw [List.dropWhile_cons_of_pos drops, spelled, List.dropWhile_cons_of_pos drops,
          filled_undollared undollared, ih]
      · rw [List.dropWhile_cons_of_neg drops, spelled, List.dropWhile_cons_of_neg drops]

end TypeStubs.PathSlots

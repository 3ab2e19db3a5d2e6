import TypeStubs.Proofs.TextPieces
import TypeStubs.Route.Template

/-! What reducing and binding do to a route, piece by piece. Both read a route once from
its start; here it is said what they make of a text and of a hole at the start of a route,
and that the rest is treated as a route of its own. -/
namespace TypeStubs.RouteHoles
open Route TextPieces

/-- A text without braces. -/
structure Unbraced (text : List Char) : Prop where
  unopened : '\x7b' ∉ text
  unclosed : '\x7d' ∉ text

instance (text : List Char) : Decidable (Unbraced text) :=
  decidable_of_iff ('\x7b' ∉ text ∧ '\x7d' ∉ text)
    ⟨fun both => ⟨both.1, both.2⟩, fun unbraced => ⟨unbraced.unopened, unbraced.unclosed⟩⟩

theorem unbraced_cons : Unbraced (c :: text) ↔ (c ≠ '\x7b' ∧ c ≠ '\x7d') ∧ Unbraced text := by
  constructor
  · rintro ⟨unopened, unclosed⟩
    rw [List.mem_cons, not_or] at unopened unclosed
    exact ⟨⟨Ne.symm unopened.1, Ne.symm unclosed.1⟩, unopened.2, unclosed.2⟩
  · rintro ⟨⟨opens, closes⟩, unopened, unclosed⟩
    exact ⟨by simp [Ne.symm opens, unopened], by simp [Ne.symm closes, unclosed]⟩

/-- What was read before goes in front of what is made of the rest. -/
theorem reduced_scan (outside : List Char) (inside : Option (List Char)) (route : List Char) :
    ((Piece.scan outside inside route).map Piece.reduce).flatMap Piece.chars =
      outside.reverse ++ ((Piece.scan [] inside route).map Piece.reduce).flatMap Piece.chars := by
  induction route generalizing outside inside with
  | nil => cases inside <;> simp [Piece.scan, Piece.reduce, Piece.chars]
  | cons c rest ih =>
    cases inside with
    | none =>
      simp only [Piece.scan]
      split
      · exact ih outside (some [])
      · rw [ih (c :: outside), ih [c]]
        simp
    | some inner =>
      simp only [Piece.scan]
      split
      · simp [Piece.reduce, Piece.chars]
      · exact ih outside (some (c :: inner))

theorem reduce_text (free : '\x7b' ∉ text) (rest : List Char) :
    reduceHoles (text ++ rest) = text ++ reduceHoles rest := by
  induction text with
  | nil => rfl
  | cons c text ih =>
    rw [List.mem_cons, not_or] at free
    rw [List.cons_append, List.cons_append, ← ih free.2]
    simp only [reduceHoles, Piece.ofChars, Piece.scan, beq_iff_eq, Ne.symm free.1, ↓reduceIte]
    rw [reduced_scan [c]]
    rfl

/-- A hole ends at the first closing brace, whatever stands before that. -/
theorem scan_hole {inner : List Char} (closes : '\x7d' ∉ inner) (outside before rest : List Char) :
    Piece.scan outside (some before) (inner ++ '\x7d' :: rest) =
      .text outside.reverse :: .hole (before.reverse ++ inner) :: Piece.scan [] none rest := by
  induction inner generalizing before with
  | nil => simp [Piece.scan]
  | cons c inner ih =>
    rw [List.mem_cons, not_or] at closes
    simp [Piece.scan, Ne.symm closes.1, ih closes.2]

theorem reduce_hole {inner : List Char} (closes : '\x7d' ∉ inner) (rest : List Char) :
    reduceHoles ('\x7b' :: inner ++ '\x7d' :: rest) =
      '\x7b' :: Piece.holeName inner ++ '\x7d' :: reduceHoles rest := by
  simp only [reduceHoles, Piece.ofChars, List.cons_append, Piece.scan, beq_self_eq_true, ↓reduceIte]
  rw [scan_hole closes]
  simp [Piece.reduce, Piece.chars]

/-- A brace that is never closed stays, with all that follows it. -/
theorem scan_open {inner : List Char} (open_ : '\x7d' ∉ inner) (outside before : List Char) :
    Piece.scan outside (some before) inner =
      [.text (outside.reverse ++ '\x7b' :: (before.reverse ++ inner))] := by
  induction inner generalizing before with
  | nil => simp [Piece.scan]
  | cons c inner ih =>
    rw [List.mem_cons, not_or] at open_
    simp [Piece.scan, Ne.symm open_.1, ih open_.2]

theorem reduce_open {inner : List Char} (open_ : '\x7d' ∉ inner) :
    reduceHoles ('\x7b' :: inner) = '\x7b' :: inner := by
  simp only [reduceHoles, Piece.ofChars, Piece.scan, beq_self_eq_true, ↓reduceIte]
  rw [scan_open open_]
  simp [Piece.reduce, Piece.chars]

/-- A character that is no letter from A to Z. -/
def Unlettered (c : Char) : Prop := c.toNat < 65 ∨ 90 < c.toNat ∧ c.toNat < 97 ∨ 122 < c.toNat

instance (c : Char) : Decidable (Unlettered c) :=
  inferInstanceAs (Decidable (c.toNat < 65 ∨ 90 < c.toNat ∧ c.toNat < 97 ∨ 122 < c.toNat))

/-- A character that is no letter is not the small form of another. -/
theorem lower_eq_iff (c : Char) (unlettered : Unlettered d) : c.toLower = d ↔ c = d := by
  unfold Unlettered Char.toNat at unlettered
  unfold Char.toLower
  split
  · rename_i capital
    have low := UInt32.le_iff_toNat_le.mp capital.1
    have high := UInt32.le_iff_toNat_le.mp capital.2
    constructor
    · rintro rfl
      simp [UInt32.toNat_add] at unlettered low high
      omega
    · rintro rfl
      simp at unlettered low high
      omega
  · exact Iff.rfl

theorem lower_unbraced (unbraced : Unbraced text) : Unbraced (Chars.asciiLower text) := by
  constructor <;> intro member <;> obtain ⟨c, inside, same⟩ := List.mem_map.mp member
  · exact unbraced.unopened ((lower_eq_iff c (by decide)).mp same ▸ inside)
  · exact unbraced.unclosed ((lower_eq_iff c (by decide)).mp same ▸ inside)

theorem starts_with_eq (word text : List Char) :
    startsWith word text = word.isPrefixOf (Chars.asciiLower text) := by
  induction word generalizing text with
  | nil => cases text <;> rfl
  | cons w word ih =>
    cases text with
    | nil => rfl
    | cons c text =>
      rw [startsWith, ih, Bool.beq_comm]
      rfl

/-- A hole as it is searched for, in small letters. -/
def needle (key : List Char) : List Char := '\x7b' :: Chars.asciiLower key ++ ['\x7d']

/-- What is put in the place of a hole. -/
def interpolation (ident : List Char) : List Char := '$' :: '\x7b' :: ident ++ ['\x7d']

theorem bind_hole_eq (path key ident : List Char) :
    bindHole path key ident = bindFrom (needle key) (interpolation ident) none .keep 0 path := rfl

section
variable {key ident name : List Char}

/-- A hole is found where its name is the key, whatever the case of letters. -/
theorem starts_with_needle (keyUnbraced : Unbraced key) (nameUnbraced : Unbraced name) (rest : List Char) :
    startsWith (needle key) ('\x7b' :: name ++ '\x7d' :: rest) =
      decide (Chars.asciiLower name = Chars.asciiLower key) := by
  have spelled : Chars.asciiLower ('\x7b' :: name ++ '\x7d' :: rest) =
      '\x7b' :: (Chars.asciiLower name ++ '\x7d' :: Chars.asciiLower rest) := by
    simp [Chars.asciiLower]
  rw [starts_with_eq, spelled, Bool.eq_iff_iff, List.isPrefixOf_iff_prefix, decide_eq_true_iff, needle,
    List.cons_append, List.cons_prefix_cons]
  constructor
  · rintro ⟨-, tail, whole⟩
    -- Both are cut at the first closing brace.
    have cut := cut_first_append '\x7d' _ (Chars.asciiLower rest) (lower_unbraced nameUnbraced).unclosed
    rw [← whole, List.append_assoc, List.singleton_append,
      cut_first_append '\x7d' _ tail (lower_unbraced keyUnbraced).unclosed] at cut
    simp only [Option.some.injEq, Prod.mk.injEq] at cut
    exact cut.1.symm
  · intro same
    exact ⟨rfl, Chars.asciiLower rest, by rw [same]; simp⟩

/-- Where nothing is left of an occurrence, it makes no difference what became of it. -/
theorem bind_from_found (word new : List Char) (before : Option Char) (found : Found) (route : List Char) :
    bindFrom word new before found 0 route = bindFrom word new before .keep 0 route := by
  induction route generalizing before with
  | nil => rfl
  | cons c rest ih =>
    simp only [bindFrom]
    rw [ih (some c)]

/-- Only a dollar sign makes a difference among the characters before a route. -/
theorem bind_from_undollared (word new : List Char) (undollared : before ≠ some '$') (found : Found)
    (route : List Char) :
    bindFrom word new before found 0 route = bindFrom word new none .keep 0 route := by
  rw [bind_from_found]
  cases route with
  | nil => rfl
  | cons c rest => simp [bindFrom, undollared]

theorem last_behind (c : Char) (text : List Char) (before : Option Char) :
    (c :: text).getLast?.or before = text.getLast?.or (some c) := by
  cases text <;> simp [List.getLast?_cons]

/-- A text without an opening brace passes. -/
theorem bind_from_text (free : '\x7b' ∉ text) (word new : List Char) (before : Option Char)
    (rest : List Char) :
    bindFrom ('\x7b' :: word) new before .keep 0 (text ++ rest) =
      (text ++ (bindFrom ('\x7b' :: word) new (text.getLast?.or before) .keep 0 rest).1,
        (bindFrom ('\x7b' :: word) new (text.getLast?.or before) .keep 0 rest).2) := by
  induction text generalizing before with
  | nil => rfl
  | cons c text ih =>
    rw [List.mem_cons, not_or] at free
    have other : c.toLower ≠ '\x7b' := fun same => free.1 ((lower_eq_iff c (by decide)).mp same).symm
    rw [List.cons_append, bindFrom, startsWith, beq_eq_false_iff_ne.mpr other]
    simp only [Bool.false_and, Bool.false_eq_true, ↓reduceIte]
    rw [ih free.2, last_behind]
    rfl

/-- What is left of an occurrence is passed over. -/
theorem bind_from_dropped (word new : List Char) (before : Option Char) (text rest : List Char) :
    bindFrom word new before .drop text.length (text ++ rest) =
      bindFrom word new (text.getLast?.or before) .drop 0 rest := by
  induction text generalizing before with
  | nil => rfl
  | cons c text ih =>
    rw [List.length_cons, List.cons_append, bindFrom, last_behind, ← ih (some c)]

private theorem bind_from_kept (word new : List Char) (before : Option Char) (text rest : List Char) :
    bindFrom word new before .keep text.length (text ++ rest) =
      (text ++ (bindFrom word new (text.getLast?.or before) .keep 0 rest).1,
        (bindFrom word new (text.getLast?.or before) .keep 0 rest).2) := by
  induction text generalizing before with
  | nil => rfl
  | cons c text ih =>
    rw [List.length_cons, List.cons_append, bindFrom, last_behind, ih (some c)]
    rfl

/-- An occurrence gives way to what is put in, and stays behind a dollar sign. -/
theorem bind_from_occurrence {word occurrence : List Char} (spelled : Chars.asciiLower occurrence = word)
    (nonempty : occurrence ≠ []) (new : List Char) (before : Option Char) (rest : List Char) :
    bindFrom word new before .keep 0 (occurrence ++ rest) =
      ((if before = some '$' then occurrence else new) ++ (bindFrom word new occurrence.getLast? .keep 0 rest).1,
        true) := by
  cases occurrence with
  | nil => exact absurd rfl nonempty
  | cons c tail =>
    have starts : startsWith word (c :: (tail ++ rest)) = true := by
      rw [starts_with_eq, List.isPrefixOf_iff_prefix, ← spelled]
      exact ⟨Chars.asciiLower rest, by simp [Chars.asciiLower]⟩
    have left : word.length - 1 = tail.length := by
      rw [← spelled]
      simp [Chars.asciiLower]
    have last : (c :: tail).getLast? = tail.getLast?.or (some c) := by simpa using last_behind c tail none
    rw [List.cons_append, bindFrom, if_pos starts, left, last]
    by_cases dollar : before = some '$'
    · rw [bind_from_kept]
      simp [dollar]
    · rw [bind_from_dropped, bind_from_found]
      simp [dollar]

/-- A text passes, and so does what follows it unless a dollar sign ends it. -/
theorem bind_text (free : '\x7b' ∉ text) (undollared : text.getLast? ≠ some '$') (rest : List Char) :
    bindHole (text ++ rest) key ident =
      (text ++ (bindHole rest key ident).1, (bindHole rest key ident).2) := by
  have before : text.getLast?.or none ≠ some '$' := by simpa using undollared
  simp only [bind_hole_eq]
  rw [needle, List.cons_append, bind_from_text free, bind_from_undollared _ _ before]

theorem hole_spelled (same : Chars.asciiLower name = Chars.asciiLower key) :
    Chars.asciiLower ('\x7b' :: name ++ ['\x7d']) = needle key := by
  simpa [needle, Chars.asciiLower] using same

/-- A hole named like the key gives way to the interpolation, and stays behind a dollar sign. -/
theorem bind_from_hole (same : Chars.asciiLower name = Chars.asciiLower key) (before : Option Char)
    (rest : List Char) :
    bindFrom (needle key) (interpolation ident) before .keep 0 ('\x7b' :: name ++ '\x7d' :: rest) =
      ((if before = some '$' then '\x7b' :: name ++ ['\x7d'] else interpolation ident) ++
        (bindHole rest key ident).1, true) := by
  have rejoined : '\x7b' :: name ++ '\x7d' :: rest = ('\x7b' :: name ++ ['\x7d']) ++ rest := by simp
  have last : ('\x7b' :: name ++ ['\x7d']).getLast? ≠ some '$' := by
    rw [List.getLast?_concat]
    simp
  rw [rejoined, bind_from_occurrence (hole_spelled same) (by simp), bind_from_undollared _ _ last, ← bind_hole_eq]

theorem bind_named (same : Chars.asciiLower name = Chars.asciiLower key) (rest : List Char) :
    bindHole ('\x7b' :: name ++ '\x7d' :: rest) key ident =
      (interpolation ident ++ (bindHole rest key ident).1, true) :=
  bind_from_hole same none rest

/-- A hole with another name stays, behind a dollar sign or not. -/
theorem bind_from_other (keyUnbraced : Unbraced key) (nameUnbraced : Unbraced name)
    (other : Chars.asciiLower name ≠ Chars.asciiLower key) (before : Option Char) (rest : List Char) :
    bindFrom (needle key) (interpolation ident) before .keep 0 ('\x7b' :: name ++ '\x7d' :: rest) =
      ('\x7b' :: name ++ '\x7d' :: (bindHole rest key ident).1, (bindHole rest key ident).2) := by
  have starts := starts_with_needle keyUnbraced nameUnbraced rest
  rw [decide_eq_false other] at starts
  have free : '\x7b' ∉ name ++ ['\x7d'] := by simp [nameUnbraced.unopened]
  have last : (name ++ ['\x7d']).getLast?.or (some '\x7b') ≠ some '$' := by simp
  have rejoined : name ++ '\x7d' :: rest = (name ++ ['\x7d']) ++ rest := by simp
  simp only [bind_hole_eq]
  rw [List.cons_append] at starts ⊢
  rw [bindFrom, starts, rejoined]
  rw [needle, List.cons_append, bind_from_text free, bind_from_undollared _ _ last]
  simp

theorem bind_other (keyUnbraced : Unbraced key) (nameUnbraced : Unbraced name)
    (other : Chars.asciiLower name ≠ Chars.asciiLower key) (rest : List Char) :
    bindHole ('\x7b' :: name ++ '\x7d' :: rest) key ident =
      ('\x7b' :: name ++ '\x7d' :: (bindHole rest key ident).1, (bindHole rest key ident).2) :=
  bind_from_other keyUnbraced nameUnbraced other none rest

/-- An interpolation of another name stays. -/
theorem bind_interpolated (keyUnbraced : Unbraced key) (nameUnbraced : Unbraced name)
    (other : Chars.asciiLower name ≠ Chars.asciiLower key) (rest : List Char) :
    bindHole (interpolation name ++ rest) key ident =
      (interpolation name ++ (bindHole rest key ident).1, (bindHole rest key ident).2) := by
  have spelled : interpolation name ++ rest = ['$'] ++ ('\x7b' :: name ++ '\x7d' :: rest) := by
    simp [interpolation]
  have passed := bind_from_text (show '\x7b' ∉ ['$'] by decide) (Chars.asciiLower key ++ ['\x7d'])
    (interpolation ident) none ('\x7b' :: name ++ '\x7d' :: rest)
  rw [bind_hole_eq, spelled, needle, List.cons_append, passed, ← List.cons_append, ← needle,
    bind_from_other keyUnbraced nameUnbraced other]
  simp [interpolation]

end

/-- A parameter of a method at its position. -/
def positioned (entry : Member × Nat) : Param := ⟨entry.2, entry.1.key, entry.1.ident⟩

/-- A parameter is bound in the path, and the parameters behind it in what that leaves. -/
theorem bind_params_cons (index : Nat) (path : List Char) (param : Member) (rest : List Member) :
    bindParams index path (param :: rest) =
      ((bindParams (index + 1) (bindHole path param.key.toList param.ident.toList).1 rest).1,
        if (bindHole path param.key.toList param.ident.toList).2 then
          (bindParams (index + 1) (bindHole path param.key.toList param.ident.toList).1 rest).2
        else
          ⟨index, param.key, param.ident⟩ ::
            (bindParams (index + 1) (bindHole path param.key.toList param.ident.toList).1 rest).2) := rfl

/-- The parameters that are left over are some of all, in their order. -/
theorem bind_params_sublist (index : Nat) (path : List Char) (params : List Member) :
    (bindParams index path params).2.Sublist ((params.zipIdx index).map positioned) := by
  induction params generalizing index path with
  | nil => exact List.Sublist.refl []
  | cons param rest ih =>
    rw [bind_params_cons, List.zipIdx_cons, List.map_cons]
    split
    · exact (ih (index + 1) _).cons _
    · exact (ih (index + 1) _).cons_cons _

end TypeStubs.RouteHoles

import TypeStubs.Proofs.SignatureGrammar

/-! The scanner cuts a text into exactly the tokens that spell it: one lexeme for each
token, at the place where its mark stands. Names are cut where they are maximal, so a
text has at most one row of tokens. -/
namespace TypeStubs.SignatureLexemes
open TypeExpr SignatureGrammar

/-- The lexemes of tokens that start at an offset. -/
def place (offset : Nat) : List Token → List Lexeme
  | [] => []
  | token :: rest =>
    ⟨token.mark, offset + token.gap.chars.length,
        offset + token.gap.chars.length + (markChars token.mark).length⟩ ::
      place (offset + token.gap.chars.length + (markChars token.mark).length) rest

/-- Every name among the marks is a name of the grammar. -/
def NamesValid (tokens : List Token) : Prop :=
  ∀ token ∈ tokens, ∀ text, token.mark = .name text → IsName text

theorem spell_nil : spell [] = [] := rfl

theorem spell_cons (token : Token) (rest : List Token) :
    spell (token :: rest) = token.gap.chars ++ (markChars token.mark ++ spell rest) := by
  simp [spell]

theorem spell_append (first last : List Token) : spell (first ++ last) = spell first ++ spell last := by
  simp [spell]

theorem place_append (offset : Nat) (first last : List Token) :
    place offset (first ++ last) = place offset first ++ place (offset + (spell first).length) last := by
  induction first generalizing offset with
  | nil => simp [place, spell]
  | cons token rest ih =>
    simp only [List.cons_append, place, ih, spell_cons, List.length_append, Nat.add_assoc]

/-- The code points of blanks. -/
def blankCodes : List Nat :=
  [9, 10, 11, 12, 13, 32, 0x85, 0xA0, 0x1680] ++ List.range' 0x2000 11 ++
    [0x2028, 0x2029, 0x202F, 0x205F, 0x3000]

theorem blank_code (blank : isBlank c = true) : c.toNat ∈ blankCodes := by
  simp only [isBlank, Bool.or_eq_true, Bool.and_eq_true, beq_iff_eq, decide_eq_true_eq] at blank
  simp only [blankCodes, List.mem_append, List.mem_cons, List.not_mem_nil, List.mem_range'_1]
  omega

private theorem blank_codes_no_name :
    ∀ code ∈ blankCodes, Lexeme.isNameChar (Char.ofNat code) = false ∧ Char.ofNat code ≠ '@' ∧
      Char.ofNat code ≠ '[' := by
  decide +kernel

/-- A blank belongs to no token. -/
theorem blank_no_name (blank : isBlank c = true) :
    Lexeme.isNameChar c = false ∧ c ≠ '@' ∧ c ≠ '[' := by
  have := blank_codes_no_name _ (blank_code blank)
  rwa [Char.ofNat_toNat] at this

private theorem name_no_bracket (name : Lexeme.isNameChar c = true ∨ c = '@') : c ≠ '[' := by
  rintro rfl
  have bracket : Lexeme.isNameChar '[' = false := rfl
  simp [bracket] at name

/-- A character that opens no pair of brackets goes on with the name that is begun, or ends
it and is read as where nothing is begun. -/
theorem scan_char (begun : List Char) (offset : Nat)
    (plain : ∀ rest, c = '[' → text = ']' :: rest → False) :
    Lexeme.scan begun offset (c :: text) =
      if !begun.isEmpty && Lexeme.isNameChar c then Lexeme.scan (c :: begun) (offset + 1) text
      else
        (if Lexeme.isNameChar c || c == '@' then Lexeme.scan [c] (offset + 1) text
          else if isBlank c then Lexeme.scan [] (offset + 1) text
          else
            (Lexeme.single? c).bind fun mark =>
              (Lexeme.scan [] (offset + 1) text).map (⟨mark, offset, offset + 1⟩ :: ·)).map
          (Lexeme.ofBegun begun offset ++ ·) := by
  rw [Lexeme.scan.eq_3 _ _ _ _ plain]
  -- Both sides ask the same questions in the same order.
  split
  · rfl
  · split
    · rfl
    · split
      · rfl
      · cases Lexeme.single? c <;> simp [Function.comp_def]

/-- A name that is begun ends where no name character follows. -/
theorem scan_flush (begun : List Char) (offset : Nat) (stops : NameStops text) :
    Lexeme.scan begun offset text =
      (Lexeme.scan [] offset text).map fun rest => Lexeme.ofBegun begun offset ++ rest := by
  have nothing : Lexeme.ofBegun [] offset = [] := rfl
  cases text with
  | nil => simp [Lexeme.scan, nothing]
  | cons c text =>
    by_cases pair : ∃ rest, c = '[' ∧ text = ']' :: rest
    · obtain ⟨rest, rfl, rfl⟩ := pair
      simp [Lexeme.scan, nothing, Function.comp_def]
    · have plain : ∀ rest, c = '[' → text = ']' :: rest → False :=
        fun rest bracket behind => pair ⟨rest, bracket, behind⟩
      have stopped : Lexeme.isNameChar c = false := stops c rfl
      rw [scan_char begun offset plain, scan_char [] offset plain]
      simp [stopped, nothing]

private theorem scan_gap (gap : Gap) (offset : Nat) (text : List Char) :
    Lexeme.scan [] offset (gap.chars ++ text) = Lexeme.scan [] (offset + gap.chars.length) text := by
  obtain ⟨chars, blank⟩ := gap
  induction chars generalizing offset with
  | nil => rfl
  | cons c rest ih =>
    have isGap := blank c (by simp)
    obtain ⟨noName, noAt, noBracket⟩ := blank_no_name isGap
    have skipped := ih (offset + 1) (fun d member => blank d (by simp [member]))
    rw [List.cons_append, scan_char _ _ fun _ bracket _ => noBracket bracket]
    simp only [noName, noAt, isGap, Bool.and_false, Bool.false_or, beq_iff_eq, ↓reduceIte,
      Bool.false_eq_true, Lexeme.ofBegun, List.isEmpty_nil, List.nil_append, Option.map_id']
    simpa only [List.length_cons, Nat.add_assoc, Nat.add_comm 1] using skipped

/-- A name that is begun takes all the name characters that follow. -/
theorem scan_name_goes_on (begun more : List Char) (offset : Nat) (text : List Char)
    (under : begun ≠ []) (names : ∀ c ∈ more, Lexeme.isNameChar c = true) :
    Lexeme.scan begun offset (more ++ text) =
      Lexeme.scan (more.reverse ++ begun) (offset + more.length) text := by
  induction more generalizing begun offset with
  | nil => rfl
  | cons c rest ih =>
    have name := names c (by simp)
    have nonempty : begun.isEmpty = false := by simpa using under
    rw [List.cons_append, scan_char _ _ fun _ bracket _ => name_no_bracket (.inl name) bracket]
    simp only [nonempty, name, Bool.not_false, Bool.and_self, ↓reduceIte]
    rw [ih _ _ (by simp) (fun d member => names d (by simp [member]))]
    simp only [List.reverse_cons, List.append_assoc, List.singleton_append, List.length_cons,
      Nat.add_assoc, Nat.add_comm 1]

/-- A whole name gives one lexeme. -/
theorem scan_name (offset : Nat) (valid : IsName name) (stops : NameStops text) :
    Lexeme.scan [] offset (name ++ text) =
      (Lexeme.scan [] (offset + name.length) text).map
        (⟨.name name, offset, offset + name.length⟩ :: ·) := by
  cases name with
  | nil => exact valid.elim
  | cons c rest =>
    obtain ⟨first, others⟩ := valid
    have starts : (Lexeme.isNameChar c || c == '@') = true := by simpa using first
    rw [List.cons_append, scan_char _ _ fun _ bracket _ => name_no_bracket first bracket]
    simp only [starts, List.isEmpty_nil, Bool.not_true, Bool.false_and, Bool.false_eq_true,
      ↓reduceIte]
    rw [scan_name_goes_on _ _ _ _ (by simp) others, scan_flush _ _ stops]
    have stop : offset + 1 + rest.length = offset + (rest.length + 1) := by omega
    simp [Lexeme.ofBegun, Function.comp_def, stop]

/-- A mark of a single character gives one lexeme. -/
theorem scan_single (offset : Nat) (text : List Char) (plain : c ≠ '[')
    (noName : (Lexeme.isNameChar c || c == '@') = false) (inked : isBlank c = false)
    (single : Lexeme.single? c = some mark) :
    Lexeme.scan [] offset (c :: text) =
      (Lexeme.scan [] (offset + 1) text).map (⟨mark, offset, offset + 1⟩ :: ·) := by
  rw [scan_char _ _ fun _ bracket _ => plain bracket]
  simp [noName, inked, single, Lexeme.ofBegun, Function.comp_def]

/-- A mark is read as one lexeme, if a name is whole. -/
theorem scan_mark (offset : Nat) (valid : ∀ name, mark = .name name → IsName name)
    (stops : ∀ name, mark = .name name → NameStops text) :
    Lexeme.scan [] offset (markChars mark ++ text) =
      (Lexeme.scan [] (offset + (markChars mark).length) text).map
        (⟨mark, offset, offset + (markChars mark).length⟩ :: ·) := by
  cases mark with
  | name name => exact scan_name offset (valid name rfl) (stops name rfl)
  | brackets => simp [markChars, Lexeme.scan, Lexeme.ofBegun]
  | openAngle => exact scan_single offset text (by decide) rfl rfl rfl
  | closeAngle => exact scan_single offset text (by decide) rfl rfl rfl
  | comma => exact scan_single offset text (by decide) rfl rfl rfl
  | question => exact scan_single offset text (by decide) rfl rfl rfl

/-- Spelled tokens are read as the lexemes at their places. -/
theorem scan_spell (tokens : List Token) (offset : Nat) (valid : NamesValid tokens)
    (maximal : NamesMaximal tokens after) :
    Lexeme.scan [] offset (spell tokens ++ after) =
      (Lexeme.scan [] (offset + (spell tokens).length) after).map (place offset tokens ++ ·) := by
  induction tokens generalizing offset with
  | nil => simp [spell, place]
  | cons token rest ih =>
    have others : NamesValid rest := fun other member => valid other (by simp [member])
    rw [spell_cons, List.append_assoc, List.append_assoc, scan_gap,
      scan_mark _ (valid token (by simp)) maximal.1, ih _ others maximal.2, Option.map_map]
    simp only [place, List.cons_append, List.length_append, Nat.add_assoc, Function.comp_def]

theorem scan_whole (tokens : List Token) (valid : NamesValid tokens)
    (maximal : NamesMaximal tokens []) :
    Lexeme.scan [] 0 (spell tokens) = some (place 0 tokens) := by
  simpa [Lexeme.scan, Lexeme.ofBegun] using scan_spell tokens 0 valid maximal

/-- A scanned text: tokens, and blanks behind the last one. -/
structure Spelling (text : List Char) (offset : Nat) (lexemes : List Lexeme) where
  tokens : List Token
  trailing : Gap
  spells : text = spell tokens ++ trailing.chars
  places : lexemes = place offset tokens
  valid : NamesValid tokens
  maximal : NamesMaximal tokens trailing.chars

namespace Spelling

/-- The gap without blanks. -/
def noGap : Gap := ⟨[], by simp⟩

/-- Nothing is spelled by no tokens. -/
def empty (offset : Nat) : Spelling [] offset [] where
  tokens := []
  trailing := noGap
  spells := rfl
  places := rfl
  valid := by simp [NamesValid]
  maximal := trivial

/-- A mark in front of a spelling. -/
def withMark (mark : Mark) (offset : Nat)
    (spelling : Spelling text (offset + (markChars mark).length) lexemes)
    (valid : ∀ name, mark = .name name → IsName name)
    (stops : ∀ name, mark = .name name → NameStops text) :
    Spelling (markChars mark ++ text) offset
      (⟨mark, offset, offset + (markChars mark).length⟩ :: lexemes) where
  tokens := ⟨noGap, mark⟩ :: spelling.tokens
  trailing := spelling.trailing
  spells := by simpa [spell_cons, noGap] using spelling.spells
  places := by simpa [place, noGap] using spelling.places
  valid := by
    intro token member name named
    rcases List.mem_cons.mp member with rfl | member
    · exact valid name named
    · exact spelling.valid token member name named
  maximal := ⟨fun name named => spelling.spells ▸ stops name named, spelling.maximal⟩

/-- A blank in front of a spelling belongs to the gap of its first token, or to the
blanks behind all tokens when there is none. -/
def withBlank (blank : isBlank c = true) (spelling : Spelling text (offset + 1) lexemes) :
    Spelling (c :: text) offset lexemes :=
  have widened (gap : Gap) : ∀ d ∈ c :: gap.chars, isBlank d = true := by
    intro d member
    rcases List.mem_cons.mp member with rfl | member
    · exact blank
    · exact gap.blank d member
  match spelling with
  | ⟨[], trailing, spells, places, valid, maximal⟩ =>
    { tokens := []
      trailing := ⟨c :: trailing.chars, widened trailing⟩
      spells := by simpa [spell] using spells
      places := places
      valid := valid
      maximal := trivial }
  | ⟨token :: rest, trailing, spells, places, valid, maximal⟩ =>
    { tokens := ⟨⟨c :: token.gap.chars, widened token.gap⟩, token.mark⟩ :: rest
      trailing := trailing
      spells := by simpa [spell_cons] using spells
      places := by simpa [place, Nat.add_assoc, Nat.add_comm 1] using places
      valid := by
        intro other member name named
        rcases List.mem_cons.mp member with rfl | member
        · exact valid token (by simp) name named
        · exact valid other (by simp [member]) name named
      maximal := maximal }

/-- A name that is begun, in front of a spelling that does not go on with it. -/
theorem with_begun (spelling : Spelling text offset lexemes)
    (whole : begun = [] ∨ IsName begun.reverse) (bound : begun.length ≤ offset)
    (stops : begun ≠ [] → NameStops text) :
    Nonempty (Spelling (begun.reverse ++ text) (offset - begun.length)
      (Lexeme.ofBegun begun offset ++ lexemes)) := by
  rcases whole with rfl | valid
  · exact ⟨spelling⟩
  · have under : begun ≠ [] := by
      rintro rfl
      exact valid
    have start : offset - begun.length + begun.length = offset := Nat.sub_add_cancel bound
    have behind : Spelling text (offset - begun.length + begun.reverse.length) lexemes := by
      simpa only [List.length_reverse, start] using spelling
    have read := withMark (.name begun.reverse) (offset - begun.length) behind
      (fun name named => by cases named; exact valid) (fun _ _ => stops under)
    exact ⟨by simpa [markChars, Lexeme.ofBegun, under, start] using read⟩

end Spelling

private theorem name_goes_on (valid : IsName name) (next : Lexeme.isNameChar c = true) :
    IsName (name ++ [c]) := by
  cases name with
  | nil => exact valid.elim
  | cons first rest =>
    refine ⟨valid.1, fun d member => ?_⟩
    rcases List.mem_append.mp member with member | member
    · exact valid.2 d member
    · exact List.mem_singleton.mp member ▸ next

private theorem single_mark (single : Lexeme.single? c = some mark) :
    markChars mark = [c] ∧ ∀ name, mark ≠ .name name := by
  unfold Lexeme.single? at single
  repeat' split at single
  all_goals cases single
  all_goals simp_all [markChars]

/-- Whatever the scanner accepts is spelled by tokens, the begun name included. -/
theorem scan_sound (begun : List Char) (offset : Nat) (text : List Char)
    (whole : begun = [] ∨ IsName begun.reverse) (bound : begun.length ≤ offset)
    (scanned : Lexeme.scan begun offset text = some lexemes) :
    Nonempty (Spelling (begun.reverse ++ text) (offset - begun.length) lexemes) := by
  fun_induction Lexeme.scan begun offset text generalizing lexemes with
  | case1 begun offset =>
    cases scanned
    simpa using (Spelling.empty offset).with_begun whole bound (fun _ => by simp [NameStops])
  | case2 begun offset text ih =>
    obtain ⟨rest, read, rfl⟩ := Option.map_eq_some_iff.mp scanned
    obtain ⟨behind⟩ := ih (.inl rfl) (Nat.zero_le _) read
    have marked := Spelling.withMark .brackets offset behind (by simp) (by simp)
    exact marked.with_begun whole bound (fun _ => by simp [NameStops, markChars]; rfl)
  | case3 begun offset c text plain goesOn ih =>
    simp only [Bool.and_eq_true, Bool.not_eq_true', List.isEmpty_eq_false_iff] at goesOn
    have valid : IsName begun.reverse := whole.resolve_left goesOn.1
    have longer := ih (.inr (by simpa using name_goes_on valid goesOn.2))
      (by simpa using bound) scanned
    simpa [Nat.add_sub_add_right] using longer
  | case4 begun offset c text plain other starts ih =>
    obtain ⟨rest, read, rfl⟩ := Option.map_eq_some_iff.mp scanned
    have first : IsName [c] := ⟨by simpa using starts, by simp⟩
    obtain ⟨behind⟩ := ih (.inr first) (by simp) read
    exact behind.with_begun whole bound (fun under => by simp_all [NameStops])
  | case5 begun offset c text plain _ other blank ih =>
    obtain ⟨rest, read, rfl⟩ := Option.map_eq_some_iff.mp scanned
    obtain ⟨behind⟩ := ih (.inl rfl) (Nat.zero_le _) read
    exact (behind.withBlank blank).with_begun whole bound (fun under => by simp_all [NameStops])
  | case6 begun offset c text plain _ other inked mark single ih =>
    obtain ⟨rest, read, rfl⟩ := Option.map_eq_some_iff.mp scanned
    obtain ⟨behind⟩ := ih (.inl rfl) (Nat.zero_le _) read
    obtain ⟨spelled, noName⟩ := single_mark single
    have marked := Spelling.withMark mark offset (by simpa [spelled] using behind)
      (fun name named => absurd named (noName name)) (fun name named => absurd named (noName name))
    rw [spelled] at marked
    exact marked.with_begun whole bound (fun under => by simp_all [NameStops])
  | case7 => cases scanned

private theorem gap_eq {gap other : Gap} (same : gap.chars = other.chars) : gap = other := by
  cases gap
  cases other
  cases same
  rfl

/-- Lexemes say how long each gap is, so with the text they give the tokens back. -/
theorem place_injective (first second : List Token) (offset : Nat)
    (placed : place offset first = place offset second) (spelled : spell first = spell second) :
    first = second := by
  induction first generalizing offset second with
  | nil =>
    cases second with
    | nil => rfl
    | cons => cases placed
  | cons token rest ih =>
    cases second with
    | nil => cases placed
    | cons other others =>
      obtain ⟨gap, mark⟩ := token
      obtain ⟨otherGap, otherMark⟩ := other
      simp only [place, List.cons.injEq, Lexeme.mk.injEq] at placed
      obtain ⟨⟨rfl, start, stop⟩, behind⟩ := placed
      have width : gap.chars.length = otherGap.chars.length := Nat.add_left_cancel start
      simp only [spell_cons] at spelled
      obtain ⟨gaps, marks⟩ := List.append_inj spelled width
      cases gap_eq gaps
      rw [ih others _ behind (List.append_cancel_left marks)]

/-- Two rows of whole names and other marks that spell one text are the same row. -/
theorem spell_injective (valid : NamesValid first) (maximal : NamesMaximal first [])
    (otherValid : NamesValid second) (otherMaximal : NamesMaximal second [])
    (spelled : spell first = spell second) : first = second := by
  have firstScan := scan_whole first valid maximal
  rw [spelled, scan_whole second otherValid otherMaximal] at firstScan
  have placed := (Option.some.inj firstScan).symm
  exact place_injective first second 0 placed spelled

end TypeStubs.SignatureLexemes

import TypeStubs.Text.Pieces

/-! Texts that are put together from lines, and texts that are cut at a character. -/
namespace TypeStubs.TextPieces

/-- A line can start behind this text. -/
def StartsLine (before : String) : Prop := before = "" ∨ ∃ front, before = front ++ "\n"

/-- A line can end before this text. -/
def EndsLine (after : String) : Prop := after = "" ∨ ∃ rest, after = "\n" ++ rest

/-- A text has a line of its own with these characters. -/
def HasLine (text line : String) : Prop :=
  ∃ before after, text = before ++ line ++ after ∧ StartsLine before ∧ EndsLine after

private theorem has_line_self (line : String) : HasLine line line :=
  ⟨"", "", by simp, .inl rfl, .inl rfl⟩

private theorem has_line_behind (front : String) (inside : HasLine text line) :
    HasLine (front ++ "\n" ++ text) line := by
  obtain ⟨before, after, rfl, starts, ends⟩ := inside
  refine ⟨front ++ "\n" ++ before, after, by simp only [String.append_assoc], ?_, ends⟩
  rcases starts with rfl | ⟨lead, rfl⟩
  · exact .inr ⟨front, by simp⟩
  · exact .inr ⟨front ++ "\n" ++ lead, by simp only [String.append_assoc]⟩

theorem has_line_before (rest : String) (inside : HasLine text line) :
    HasLine (text ++ "\n" ++ rest) line := by
  obtain ⟨before, after, rfl, starts, ends⟩ := inside
  refine ⟨before, after ++ "\n" ++ rest, by simp only [String.append_assoc], starts, ?_⟩
  rcases ends with rfl | ⟨tail, rfl⟩
  · exact .inr ⟨rest, by simp⟩
  · exact .inr ⟨tail ++ "\n" ++ rest, by simp only [String.append_assoc]⟩

/-- Lines with line feeds between them. -/
theorem join_has_line (member : line ∈ lines) : HasLine (Text.join "\n" lines) line := by
  induction lines with
  | nil => cases member
  | cons head rest ih =>
    cases rest with
    | nil =>
      cases List.mem_singleton.mp member
      simpa [Text.join] using has_line_self line
    | cons next others =>
      simp only [Text.join, String.intercalate_cons_cons]
      rcases List.mem_cons.mp member with rfl | behind
      · exact has_line_before _ (has_line_self line)
      · exact has_line_behind head (ih behind)

/-- Lines with a line feed behind each of them. -/
theorem ended_has_line {lines : List String} (member : line ∈ lines) :
    HasLine (String.join (lines.map (· ++ "\n"))) line := by
  induction lines with
  | nil => cases member
  | cons head rest ih =>
    simp only [List.map_cons, String.join_cons]
    rcases List.mem_cons.mp member with rfl | behind
    · exact has_line_before _ (has_line_self line)
    · exact has_line_behind head (ih behind)

theorem cut_first_some (cut : Chars.cutFirst? sep text = some (before, after)) :
    text = before ++ sep :: after ∧ sep ∉ before := by
  induction text generalizing before with
  | nil => cases cut
  | cons c rest ih =>
    by_cases here : c = sep
    · simp only [Chars.cutFirst?, here, beq_self_eq_true, ↓reduceIte, Option.some.injEq,
        Prod.mk.injEq] at cut
      obtain ⟨rfl, rfl⟩ := cut
      exact ⟨by rw [here]; rfl, by simp⟩
    · simp only [Chars.cutFirst?, here, beq_iff_eq, ↓reduceIte, Option.map_eq_some_iff,
        Prod.mk.injEq] at cut
      obtain ⟨⟨front, behind⟩, later, rfl, rfl⟩ := cut
      obtain ⟨whole, absent⟩ := ih later
      exact ⟨by rw [whole]; rfl, by simp [absent, Ne.symm here]⟩

theorem cut_first_none_iff (sep : Char) (text : List Char) :
    Chars.cutFirst? sep text = none ↔ sep ∉ text := by
  induction text with
  | nil => simp [Chars.cutFirst?]
  | cons c rest ih =>
    by_cases here : c = sep
    · simp [Chars.cutFirst?, here]
    · simp [Chars.cutFirst?, here, Ne.symm here, ih]

/-- The last piece is a text without the separator, and such a text is its own last piece. -/
theorem last_piece_free (sep : Char) (text : List Char) : sep ∉ Chars.lastPiece sep text := by
  unfold Chars.lastPiece Chars.cutLast?
  cases cut : Chars.cutFirst? sep text.reverse with
  | none => simpa using (cut_first_none_iff sep text.reverse).mp cut
  | some parts => simpa using (cut_first_some cut).2

theorem last_piece_of_free (sep : Char) (text : List Char) (free : sep ∉ text) :
    Chars.lastPiece sep text = text := by
  have cut : Chars.cutFirst? sep text.reverse = none :=
    (cut_first_none_iff sep text.reverse).mpr (by simpa using free)
  simp [Chars.lastPiece, Chars.cutLast?, cut]

/-- A text is its own last piece, or the last piece stands behind a separator. -/
theorem last_piece_cases (sep : Char) (text : List Char) :
    (sep ∉ text ∧ Chars.lastPiece sep text = text) ∨
      ∃ front, text = front ++ sep :: Chars.lastPiece sep text := by
  unfold Chars.lastPiece Chars.cutLast?
  cases cut : Chars.cutFirst? sep text.reverse with
  | none => exact .inl ⟨by simpa using (cut_first_none_iff sep text.reverse).mp cut, rfl⟩
  | some parts =>
    obtain ⟨whole, _⟩ := cut_first_some cut
    refine .inr ⟨parts.2.reverse, ?_⟩
    have turned := congrArg List.reverse whole
    simpa using turned

theorem cut_first_append (sep : Char) (before after : List Char) (free : sep ∉ before) :
    Chars.cutFirst? sep (before ++ sep :: after) = some (before, after) := by
  induction before with
  | nil => simp [Chars.cutFirst?]
  | cons c rest ih =>
    rw [List.mem_cons, not_or] at free
    simp [Chars.cutFirst?, Ne.symm free.1, ih free.2]

/-- What stands behind a separator stands behind the first one. -/
theorem cut_first_behind (cut : Chars.cutFirst? sep text = some (front, behind))
    (whole : text = before ++ sep :: after) : after ⊆ behind := by
  obtain ⟨rfl, free⟩ := cut_first_some cut
  rcases List.append_eq_append_iff.mp whole with ⟨gap, -, rest⟩ | ⟨gap, rfl, rest⟩
  · cases gap with
    | nil =>
      cases rest
      exact List.Subset.refl _
    | cons c gap =>
      obtain ⟨-, rfl⟩ := List.cons.inj rest
      exact fun c member => List.mem_append_right gap (List.mem_cons_of_mem sep member)
  · cases gap with
    | nil =>
      cases rest
      exact List.Subset.refl _
    | cons c gap =>
      obtain ⟨rfl, -⟩ := List.cons.inj rest
      exact absurd (by simp) free

/-- The run of characters that a text starts with, and the rest, are known by what is in the
run and by the character behind it. -/
theorem run_iff (keep : Char → Bool) (text run rest : List Char) :
    text.takeWhile keep = run ∧ text.dropWhile keep = rest ↔
      text = run ++ rest ∧ (∀ c ∈ run, keep c = true) ∧ ∀ c ∈ rest.head?, keep c = false := by
  constructor
  · rintro ⟨rfl, rfl⟩
    refine ⟨List.takeWhile_append_dropWhile.symm, List.all_eq_true.mp List.all_takeWhile, fun c first => ?_⟩
    have stopped := List.head?_dropWhile_not keep text
    rw [Option.mem_def.mp first] at stopped
    simpa using stopped
  · rintro ⟨rfl, kept, stops⟩
    rw [List.takeWhile_append_of_pos kept, List.dropWhile_append_of_pos kept]
    cases rest with
    | nil => simp
    | cons c rest => simp [stops c rfl]

/-- What stands behind the last separator is the last piece. -/
theorem last_piece_behind (sep : Char) (front piece : List Char) (free : sep ∉ piece) :
    Chars.lastPiece sep (front ++ sep :: piece) = piece := by
  have cut := cut_first_append sep piece.reverse front.reverse (by simpa using free)
  simp [Chars.lastPiece, Chars.cutLast?, cut]

theorem last_piece_idempotent (sep : Char) (text : String) :
    Text.lastPiece sep (Text.lastPiece sep text) = Text.lastPiece sep text := by
  simp only [Text.lastPiece, String.toList_ofList]
  rw [last_piece_of_free sep _ (last_piece_free sep text.toList)]

theorem split_cons (sep : Char) (text : List Char) :
    ∃ first others, Chars.splitOn sep text = first :: others := by
  cases text with
  | nil => exact ⟨[], [], rfl⟩
  | cons c rest =>
    rw [Chars.splitOn]
    split
    · exact ⟨[], _, rfl⟩
    · split
      · exact ⟨[c], [], rfl⟩
      · exact ⟨_, _, rfl⟩

/-- A separator between two texts separates their pieces. -/
theorem split_append (sep : Char) (front behind : List Char) :
    Chars.splitOn sep (front ++ sep :: behind) =
      Chars.splitOn sep front ++ Chars.splitOn sep behind := by
  induction front with
  | nil => simp [Chars.splitOn]
  | cons c rest ih =>
    by_cases here : c = sep
    · simp [Chars.splitOn, here, ih]
    · obtain ⟨first, others, pieces⟩ := split_cons sep rest
      simp [Chars.splitOn, here, ih, pieces]

/-- A text without the separator goes to the first piece of what follows it. -/
theorem split_free_append (sep : Char) (front behind : List Char) (free : sep ∉ front) :
    Chars.splitOn sep (front ++ behind) = (Chars.splitOn sep behind).modifyHead (front ++ ·) := by
  obtain ⟨first, others, pieces⟩ := split_cons sep behind
  induction front with
  | nil => simp [pieces]
  | cons c rest ih =>
    rw [List.mem_cons, not_or] at free
    simp [Chars.splitOn, Ne.symm free.1, ih free.2, pieces]

theorem split_free (sep : Char) (text : List Char) (free : sep ∉ text) : Chars.splitOn sep text = [text] := by
  simpa [Chars.splitOn] using split_free_append sep text [] free

/-- The pieces with the separator between them are the text. -/
theorem split_joined_again (sep : Char) (text : List Char) : [sep].intercalate (Chars.splitOn sep text) = text := by
  induction text with
  | nil => rfl
  | cons c rest ih =>
    obtain ⟨first, others, pieces⟩ := split_cons sep rest
    rw [pieces] at ih
    by_cases here : c = sep
    · simp [Chars.splitOn, here, pieces, List.intercalate_cons_cons, ih]
    · have longer : Chars.splitOn sep (c :: rest) = (c :: first) :: others := by simp [Chars.splitOn, here, pieces]
      have begun : [sep].intercalate ((c :: first) :: others) = c :: [sep].intercalate (first :: others) := by
        cases others <;> simp [List.intercalate_cons_cons]
      rw [longer, begun, ih]

theorem split_pieces_free (sep : Char) (text : List Char) :
    ∀ piece ∈ Chars.splitOn sep text, sep ∉ piece := by
  induction text with
  | nil => simp [Chars.splitOn]
  | cons c rest ih =>
    obtain ⟨first, others, pieces⟩ := split_cons sep rest
    rw [pieces] at ih
    by_cases here : c = sep
    · simpa [Chars.splitOn, here, pieces] using ih
    · simpa [Chars.splitOn, here, pieces, Ne.symm here] using ih

theorem split_piece_subset (sep : Char) (text : List Char) : ∀ piece ∈ Chars.splitOn sep text, piece ⊆ text := by
  induction text with
  | nil => simp [Chars.splitOn]
  | cons c rest ih =>
    obtain ⟨first, others, pieces⟩ := split_cons sep rest
    rw [pieces] at ih
    have behind (piece : List Char) (member : piece ∈ first :: others) : piece ⊆ c :: rest :=
      List.subset_cons_of_subset c (ih piece member)
    by_cases here : c = sep
    · simpa [Chars.splitOn, here, pieces] using behind
    · have begun : c :: first ⊆ c :: rest := List.cons_subset_cons c (ih first List.mem_cons_self)
      have others := fun piece member => behind piece (List.mem_cons_of_mem _ member)
      simpa [Chars.splitOn, here, pieces] using And.intro begun others

end TypeStubs.TextPieces

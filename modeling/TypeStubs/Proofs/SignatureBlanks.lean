import TypeStubs.Proofs.SignatureTrees

/-! Where the text of a tree begins and ends, and the blanks around it. A signature reads
as a tree exactly when its text is that of the tree with blanks on both sides, and what it
ends in is the last mark of the tree. -/
namespace TypeStubs.SignatureBlanks
open TypeExpr SignatureGrammar SignatureLexemes SignatureReading SignatureTrees

/-- A text whose first character is not blank. -/
def StartsBare (text : List Char) : Prop := ∀ c ∈ text.head?, isBlank c = false

/-- The blanks of one gap and then those of another. -/
def joinGaps (first last : Gap) : Gap where
  chars := first.chars ++ last.chars
  blank c member := (List.mem_append.mp member).elim (first.blank c) (last.blank c)

/-- The blanks of a gap from the last to the first. -/
def reversed (gap : Gap) : Gap where
  chars := gap.chars.reverse
  blank c member := gap.blank c (List.mem_reverse.mp member)

private theorem reversed_chars (gap : Gap) : (reversed gap).chars = gap.chars.reverse := rfl

/-- The blanks that a text starts with. -/
def leadingBlanks (text : List Char) : Gap where
  chars := text.takeWhile isBlank
  blank := List.all_eq_true.mp List.all_takeWhile

private theorem leading_blanks_append (text : List Char) :
    (leadingBlanks text).chars ++ text.dropWhile isBlank = text :=
  List.takeWhile_append_dropWhile

private theorem drop_gap (gap : Gap) : gap.chars.dropWhile isBlank = [] := by
  have dropped : (gap.chars ++ []).dropWhile isBlank = [] :=
    List.dropWhile_append_of_pos gap.blank
  rwa [List.append_nil] at dropped

theorem drop_blanks_of_bare (starts : StartsBare text) : text.dropWhile isBlank = text := by
  cases text with
  | nil => rfl
  | cons c rest => exact List.dropWhile_cons_of_neg (by simp [starts c rfl])

private theorem reverse_starts_bare (ends : EndsBare text) : StartsBare text.reverse := by
  intro c first
  rw [List.head?_reverse] at first
  exact ends c first

/-- No blanks stand at the end of a text that ends in another character. -/
theorem ends_bare_gap (gap : Gap) (ends : EndsBare (text ++ gap.chars)) : gap.chars = [] := by
  rcases List.eq_nil_or_concat gap.chars with none | ⟨before, c, some⟩
  · exact none
  · have blank : isBlank c = true := gap.blank c (by simp [some])
    have inked : isBlank c = false := ends c (by simp [some])
    rw [blank] at inked
    cases inked

/-- The blanks around a text are removed, and nothing else. -/
theorem trim_padded (lead trail : Gap) (starts : StartsBare text) (ends : EndsBare text) :
    Chars.trim (lead.chars ++ text ++ trail.chars) = text := by
  rw [Chars.trim, Chars.trimStart, List.append_assoc, List.dropWhile_append_of_pos lead.blank]
  cases text with
  | nil =>
    rw [List.nil_append, drop_gap]
    rfl
  | cons c rest =>
    have kept : (c :: rest ++ trail.chars).dropWhile isBlank = c :: rest ++ trail.chars :=
      drop_blanks_of_bare fun d first => starts d (by simpa using first)
    rw [kept, Chars.trimEnd, Chars.dropEndWhile, List.reverse_append, ← reversed_chars,
      List.dropWhile_append_of_pos (reversed trail).blank,
      drop_blanks_of_bare (reverse_starts_bare ends), List.reverse_reverse]

private theorem trim_start_decomposed (text : List Char) :
    Chars.trim text ++ (reversed (leadingBlanks (Chars.trimStart text).reverse)).chars =
      Chars.trimStart text := by
  rw [Chars.trim, Chars.trimEnd, Chars.dropEndWhile, reversed_chars, ← List.reverse_append,
    leading_blanks_append, List.reverse_reverse]

/-- A text is its trimmed text with blanks on both sides. -/
theorem trim_decomposed (text : List Char) :
    ∃ lead trail : Gap, text = lead.chars ++ Chars.trim text ++ trail.chars := by
  refine ⟨leadingBlanks text, reversed (leadingBlanks (Chars.trimStart text).reverse), ?_⟩
  rw [List.append_assoc, trim_start_decomposed]
  exact (leading_blanks_append text).symm

theorem trim_starts_bare (text : List Char) : StartsBare (Chars.trim text) := by
  intro c first
  have start : (Chars.trimStart text).head? = some c := by
    rw [← trim_start_decomposed, List.head?_append, Option.mem_def.mp first]
    rfl
  have stopped := List.head?_dropWhile_not isBlank text
  rw [Chars.trimStart] at start
  rw [start] at stopped
  simpa using stopped

/-- Blanks before a text do not show at its end. -/
theorem trim_last (text : List Char) :
    (Chars.trim text).getLast? = (Chars.trimEnd text).getLast? := by
  have whole : text.reverse =
      (Chars.trimStart text).reverse ++ (reversed (leadingBlanks text)).chars := by
    rw [reversed_chars, ← List.reverse_append]
    exact congrArg List.reverse (leading_blanks_append text).symm
  rw [Chars.trim, Chars.trimEnd, Chars.trimEnd, Chars.dropEndWhile, Chars.dropEndWhile,
    List.getLast?_reverse, List.getLast?_reverse, whole, List.dropWhile_append, drop_gap]
  split
  · rename_i nothing
    rw [List.isEmpty_iff.mp nothing]
  · rename_i some
    rw [List.head?_append]
    cases kept : (Chars.trimStart text).reverse.dropWhile isBlank with
    | nil => simp [kept] at some
    | cons c rest => rfl

/-- A type with these blanks before it in place of its own. -/
def indented (gap : Gap) : TypeTree → TypeTree
  | .node (.bare _ name) postfixes => .node (.bare gap name) postfixes
  | .node (.applied _ name opening first others closing) postfixes =>
    .node (.applied gap name opening first others closing) postfixes

private theorem indented_meaning (table : TypeTable) (gap : Gap) (tree : TypeTree) :
    (indented gap tree).meaning table = tree.meaning table := by
  obtain ⟨primary, postfixes⟩ := tree
  cases primary <;> rfl

private theorem spell_indented (gap : Gap) (tree : TypeTree) :
    spell (indented gap tree).tokens = gap.chars ++ spell (indented Spelling.noGap tree).tokens := by
  obtain ⟨primary, postfixes⟩ := tree
  cases primary <;>
    simp [indented, TypeTree.tokens, PrimaryTree.tokens, spell_cons, Spelling.noGap]

private theorem own_indent (tree : TypeTree) : ∃ gap, tree = indented gap tree := by
  obtain ⟨primary, postfixes⟩ := tree
  cases primary with
  | bare gap name => exact ⟨gap, rfl⟩
  | applied gap name opening first others closing => exact ⟨gap, rfl⟩

theorem extended_meaning (table : TypeTable) (gap : Gap) (kind : Postfix) (tree : TypeTree) :
    (extended gap kind tree).meaning table = kind.wrap (tree.meaning table) := by
  obtain ⟨primary, postfixes⟩ := tree
  exact wrapAll_concat postfixes (gap, kind) (primary.meaning table)

theorem name_char_inked (name : Lexeme.isNameChar c = true ∨ c = '@') : isBlank c = false := by
  cases blank : isBlank c with
  | false => rfl
  | true =>
    obtain ⟨noName, noAt, _⟩ := blank_no_name blank
    rcases name with name | rfl
    · rw [noName] at name
      cases name
    · exact absurd rfl noAt

/-- A name starts and ends with characters of names. -/
theorem name_head (name : Name) :
    ∃ c rest, name.chars = c :: rest ∧ (Lexeme.isNameChar c = true ∨ c = '@') := by
  obtain ⟨chars, valid⟩ := name
  cases chars with
  | nil => exact valid.elim
  | cons c rest => exact ⟨c, rest, rfl, valid.1⟩

theorem name_member (valid : IsName chars) (member : c ∈ chars) :
    Lexeme.isNameChar c = true ∨ c = '@' := by
  cases chars with
  | nil => cases member
  | cons first rest =>
    rcases List.mem_cons.mp member with rfl | behind
    · exact valid.1
    · exact .inl (valid.2 c behind)

private theorem type_starts_bare (tree : TypeTree) :
    StartsBare (spell (indented Spelling.noGap tree).tokens) := by
  have named (name : Name) (rest : List Char) : StartsBare (name.chars ++ rest) := by
    obtain ⟨c, others, whole, first⟩ := name_head name
    intro d start
    rw [whole] at start
    cases Option.some.inj start
    exact name_char_inked first
  obtain ⟨primary, postfixes⟩ := tree
  cases primary with
  | bare gap name =>
    simpa [indented, TypeTree.tokens, PrimaryTree.tokens, spell_cons, Spelling.noGap, markChars] using
      named name _
  | applied gap name opening first others closing =>
    simpa [indented, TypeTree.tokens, PrimaryTree.tokens, spell_cons, Spelling.noGap, markChars] using
      named name _

/-- The mark that a primary ends in. -/
def primaryEnd : PrimaryTree → Mark
  | .bare _ name => .name name.chars
  | .applied .. => .closeAngle

/-- The mark that a type ends in. -/
def lastMark : TypeTree → Mark
  | .node primary postfixes => (postfixes.getLast?.map (·.2.mark)).getD (primaryEnd primary)

/-- A mark that is written ends in a character that is not blank, and only a question
mark ends in one. -/
theorem mark_last (valid : ∀ name, mark = .name name → IsName name) :
    ∃ c, (markChars mark).getLast? = some c ∧ isBlank c = false ∧ (c = '?' ↔ mark = .question) := by
  cases mark with
  | name chars =>
    have isName := valid chars rfl
    have nonempty : chars ≠ [] := by
      rintro rfl
      exact isName
    have name := name_member isName (List.getLast_mem nonempty)
    refine ⟨chars.getLast nonempty, List.getLast?_eq_some_getLast nonempty, name_char_inked name, ?_⟩
    constructor
    · intro question
      rw [question] at name
      exact absurd name (by decide +kernel)
    · exact fun named => nomatch named
  | question => exact ⟨'?', rfl, rfl, by simp⟩
  | openAngle => exact ⟨'<', rfl, rfl, by simp⟩
  | closeAngle => exact ⟨'>', rfl, rfl, by simp⟩
  | comma => exact ⟨',', rfl, rfl, by simp⟩
  | brackets => exact ⟨']', rfl, rfl, by simp⟩

/-- The last token of a type has its last mark. -/
theorem last_token (tree : TypeTree) : ∃ front gap, tree.tokens = front ++ [⟨gap, lastMark tree⟩] := by
  obtain ⟨primary, postfixes⟩ := tree
  rcases List.eq_nil_or_concat postfixes with rfl | ⟨before, ⟨gap, kind⟩, rfl⟩
  · cases primary with
    | bare gap name =>
      refine ⟨[], gap, ?_⟩
      simp [TypeTree.tokens, PrimaryTree.tokens, postfixTokens, lastMark, primaryEnd]
    | applied gap name opening first others closing =>
      refine ⟨⟨gap, .name name.chars⟩ :: ⟨opening, .openAngle⟩ :: (first.tokens ++ others.tokens),
        closing, ?_⟩
      simp [TypeTree.tokens, PrimaryTree.tokens, postfixTokens, lastMark, primaryEnd]
  · refine ⟨primary.tokens ++ postfixTokens before, gap, ?_⟩
    simp [TypeTree.tokens, postfixTokens, lastMark]

/-- The text of a type ends in the last character of its last mark. -/
theorem type_last (tree : TypeTree) :
    ∃ c, (spell tree.tokens).getLast? = some c ∧ isBlank c = false ∧
      (c = '?' ↔ lastMark tree = .question) := by
  obtain ⟨front, gap, whole⟩ := last_token tree
  have valid : ∀ name, lastMark tree = .name name → IsName name := fun name named =>
    SignatureUnambiguity.type_names_valid tree ⟨gap, lastMark tree⟩ (by simp [whole]) name named
  obtain ⟨c, last, inked, question⟩ := mark_last valid
  refine ⟨c, ?_, inked, question⟩
  rw [whole, spell_append, spell_cons, spell_nil, List.append_nil, List.getLast?_append,
    List.getLast?_append, last]
  rfl

private theorem type_ends_bare (tree : TypeTree) : EndsBare (spell tree.tokens) := by
  intro c last
  obtain ⟨d, ends, inked, _⟩ := type_last tree
  cases (Option.mem_def.mp last).symm.trans ends
  exact inked

/-- A signature with the text of a tree and blanks around it reads as the tree says. -/
theorem parse_padded {signature : String} {tree : TypeTree} (table : TypeTable) (lead trail : Gap)
    (reads : signature.toList = lead.chars ++ spell tree.tokens ++ trail.chars) :
    parse table signature = tree.meaning table := by
  obtain ⟨gap, own⟩ := own_indent tree
  have trimmed : Chars.trim signature.toList = spell (indented Spelling.noGap tree).tokens := by
    have text : spell tree.tokens = gap.chars ++ spell (indented Spelling.noGap tree).tokens :=
      (congrArg (fun other => spell other.tokens) own).trans (spell_indented gap tree)
    rw [reads, text, ← List.append_assoc]
    exact trim_padded (joinGaps lead gap) trail (type_starts_bare tree) (type_ends_bare _)
  rw [parse_tree table trimmed, indented_meaning]

/-- A signature reads as a tree that its trimmed text spells, or else as that text. -/
theorem parse_cases (table : TypeTable) (signature : String) :
    (∃ tree : TypeTree, Chars.trim signature.toList = spell tree.tokens ∧
      parse table signature = tree.meaning table) ∨
    ((∀ tree : TypeTree, Chars.trim signature.toList ≠ spell tree.tokens) ∧
      parse table signature = .verbatim (Text.trim signature)) := by
  by_cases spelled : ∃ tree : TypeTree, Chars.trim signature.toList = spell tree.tokens
  · obtain ⟨tree, reads⟩ := spelled
    exact .inl ⟨tree, reads, parse_tree table reads⟩
  · rw [not_exists] at spelled
    refine .inr ⟨spelled, ?_⟩
    rw [parse]
    cases read : parseChars? table (Chars.trim signature.toList) with
    | none => rfl
    | some expr =>
      obtain ⟨derivation, _⟩ := (parse_chars_eq_some_iff (trim_ends_bare signature.toList)).mp read
      exact absurd derivation.spells.symm (spelled derivation.tree)

end TypeStubs.SignatureBlanks

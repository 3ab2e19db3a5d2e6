import TypeStubs.Proofs.SignatureBlanks
import TypeStubs.Source.Basic

/-! What the question marks of a signature do. The last one makes the type nullable, which
the last character of the text shows as well as the tree. Apart from that they leave no
trace: a signature that loses some of them is printed as the same type, refers to the same
names and has the same index signature, and text that is no type stays so. -/
namespace TypeStubs.QuestionMarks
open TypeExpr SignatureGrammar SignatureLexemes SignatureReading SignatureTrees SignatureBlanks WrittenNames

variable (table : TypeTable)

/-! ## The last mark and the outermost layer -/

/-- A type that ends in a question mark is a type with one more question mark. -/
theorem last_question (last : lastMark tree = .question) :
    ∃ gap inner, tree = extended gap .question inner := by
  obtain ⟨primary, postfixes⟩ := tree
  rcases List.eq_nil_or_concat postfixes with rfl | ⟨before, ⟨gap, kind⟩, rfl⟩
  · cases primary <;> cases last
  · rw [List.concat_eq_append] at last ⊢
    cases kind with
    | brackets => simp [lastMark, Postfix.mark] at last
    | question => exact ⟨gap, .node primary before, rfl⟩

/-- The source of a node with arguments ends in its closing bracket. -/
theorem applied_not_nullable (name key? args) (text : List Char) :
    (applied table name (String.ofList (text ++ ['>'])) key? args).isNullable = false := by
  fun_cases applied table name (String.ofList (text ++ ['>'])) key? args <;> simp [isNullable]

private theorem primary_not_nullable (primary : PrimaryTree) : (primary.meaning table).isNullable = false := by
  cases primary with
  | bare gap name => rfl
  | applied gap name opening first others closing =>
    have source : name.chars ++ spell (⟨opening, .openAngle⟩ ::
        (first.tokens ++ (others.tokens ++ [⟨closing, .closeAngle⟩]))) =
        name.chars ++ spell (⟨opening, .openAngle⟩ :: (first.tokens ++ others.tokens)) ++
          closing.chars ++ ['>'] := by
      simp [spell_cons, spell_append, spell_nil, markChars]
    rw [PrimaryTree.meaning, source]
    exact applied_not_nullable table _ _ _ _

private theorem last_mark_nullable (tree : TypeTree) :
    lastMark tree = .question ↔ (tree.meaning table).isNullable = true := by
  constructor
  · intro last
    obtain ⟨gap, inner, rfl⟩ := last_question last
    rw [extended_meaning]
    rfl
  · intro nullable
    obtain ⟨primary, postfixes⟩ := tree
    rcases List.eq_nil_or_concat postfixes with rfl | ⟨before, ⟨gap, kind⟩, rfl⟩
    · have inner := primary_not_nullable table primary
      rw [TypeTree.meaning, wrapAll, List.foldl_nil, inner] at nullable
      cases nullable
    · rw [List.concat_eq_append, TypeTree.meaning, wrapAll_concat] at nullable
      cases kind with
      | brackets => cases nullable
      | question => simp [lastMark, Postfix.mark]

/-- Whether a member is nullable is seen from the last character of its signature or from
the type that the signature reads as. -/
theorem nullable_tests_agree (member : Member) :
    member.isNullable = (parse table member.signature).isNullable := by
  have ends : (Chars.trim member.signature.toList).getLast? =
      (Chars.trimEnd member.signature.toList).getLast? := trim_last member.signature.toList
  rcases parse_cases table member.signature with ⟨tree, reads, read⟩ | ⟨_, read⟩
  · obtain ⟨c, last, _, question⟩ := type_last tree
    rw [read, Bool.eq_iff_iff, ← last_mark_nullable, ← question, Member.isNullable, ← ends, reads, last]
    simp
  · rw [read, Member.isNullable, ← ends, TypeExpr.isNullable, Text.trim, String.toList_ofList]

/-! ## Expressions without question marks -/

mutual

/-- An expression without its question marks. -/
def withoutMarks : TypeExpr → TypeExpr
  | .atomic name => .atomic name
  | .nullable inner => withoutMarks inner
  | .array inner => .array (withoutMarks inner)
  | .collection wrapper element => .collection wrapper (withoutMarks element)
  | .dictionary wrapper key value => .dictionary wrapper key (withoutMarks value)
  | .generic name args => .generic name (withoutMarksAll args)
  | .verbatim text => .verbatim text

/-- Expressions without their question marks. -/
def withoutMarksAll : List TypeExpr → List TypeExpr
  | [] => []
  | expr :: rest => withoutMarks expr :: withoutMarksAll rest

end

private theorem without_marks_length (exprs : List TypeExpr) : (withoutMarksAll exprs).length = exprs.length := by
  induction exprs with
  | nil => rfl
  | cons expr rest ih => rw [withoutMarksAll, List.length_cons, List.length_cons, ih]

mutual

private theorem render_without_marks (expr : TypeExpr) :
    (withoutMarks expr).render table = expr.render table := by
  match expr with
  | .atomic name => rfl
  | .nullable inner =>
    simp only [withoutMarks, render]
    exact render_without_marks inner
  | .array inner => simp only [withoutMarks, render, render_without_marks inner]
  | .collection _ element => simp only [withoutMarks, render, render_without_marks element]
  | .dictionary _ _ value => simp only [withoutMarks, render, render_without_marks value]
  | .generic _ args => simp only [withoutMarks, render, render_all_without_marks args]
  | .verbatim _ => rfl

private theorem render_all_without_marks (exprs : List TypeExpr) :
    renderAll table (withoutMarksAll exprs) = renderAll table exprs := by
  match exprs with
  | [] => rfl
  | expr :: rest =>
    simp only [withoutMarksAll, renderAll, render_without_marks expr, render_all_without_marks rest]

end

mutual

private theorem names_without_marks (expr : TypeExpr) :
    (withoutMarks expr).names table = expr.names table := by
  match expr with
  | .atomic name => rfl
  | .nullable inner =>
    simp only [withoutMarks, names]
    exact names_without_marks inner
  | .array inner => simp only [withoutMarks, names, names_without_marks inner]
  | .collection _ element => simp only [withoutMarks, names, names_without_marks element]
  | .dictionary _ _ value => simp only [withoutMarks, names, names_without_marks value]
  | .generic _ args => simp only [withoutMarks, names, names_all_without_marks args]
  | .verbatim _ => rfl

private theorem names_all_without_marks (exprs : List TypeExpr) :
    namesAll table (withoutMarksAll exprs) = namesAll table exprs := by
  match exprs with
  | [] => rfl
  | expr :: rest =>
    simp only [withoutMarksAll, namesAll, names_without_marks expr, names_all_without_marks rest]

end

private theorem index_without_marks (expr : TypeExpr) :
    indexSignature? table (withoutMarks expr) = indexSignature? table expr := by
  match expr with
  | .nullable inner =>
    have passed : indexSignature? table (.nullable inner) = indexSignature? table inner := by
      simp only [indexSignature?, nonNull]
    rw [withoutMarks, passed]
    exact index_without_marks inner
  | .dictionary _ _ value =>
    simp only [withoutMarks, indexSignature?, nonNull, render_without_marks table value]
  | .atomic _ | .array _ | .collection .. | .generic .. | .verbatim _ =>
    simp only [withoutMarks, indexSignature?, nonNull]

/-! ## Trees that lose question marks -/

/-- Some question marks are dropped from postfixes, and blanks are put anywhere. -/
inductive PostfixesThinned : List (Gap × Postfix) → List (Gap × Postfix) → Prop where
  | done : PostfixesThinned [] []
  | kept (rest : PostfixesThinned postfixes others) :
      PostfixesThinned ((gap, kind) :: postfixes) ((other, kind) :: others)
  | dropped (rest : PostfixesThinned postfixes others) :
      PostfixesThinned ((gap, .question) :: postfixes) others

mutual

/-- Some question marks are dropped from a type, and blanks are put anywhere. -/
inductive TypeThinned : TypeTree → TypeTree → Prop where
  | node (inside : PrimaryThinned primary changed) (behind : PostfixesThinned postfixes others) :
      TypeThinned (.node primary postfixes) (.node changed others)

/-- The same for a primary. -/
inductive PrimaryThinned : PrimaryTree → PrimaryTree → Prop where
  | bare : PrimaryThinned (.bare gap name) (.bare otherGap name)
  | applied (inside : TypeThinned first changed) (behind : ArgumentsThinned others rest) :
      PrimaryThinned (.applied gap name opening first others closing)
        (.applied otherGap name otherOpening changed rest otherClosing)

/-- The same for the arguments behind the first one. -/
inductive ArgumentsThinned : ArgumentTrees → ArgumentTrees → Prop where
  | none : ArgumentsThinned .none .none
  | more (inside : TypeThinned argument changed) (behind : ArgumentsThinned rest others) :
      ArgumentsThinned (.more comma argument rest) (.more otherComma changed others)

end

private theorem bare_name_thinned (thinned : TypeThinned tree other) (bare : tree.bareName? = some key) :
    other.bareName? = some key := by
  cases thinned with
  | node inside behind =>
    cases inside with
    | bare =>
      cases behind with
      | done => exact bare
      | kept | dropped => cases bare
    | applied => cases bare

private theorem wrap_thinned (thinned : PostfixesThinned postfixes others)
    (inside : withoutMarks other = withoutMarks expr) :
    withoutMarks (wrapAll others other) = withoutMarks (wrapAll postfixes expr) := by
  induction thinned generalizing expr other with
  | done => exact inside
  | @kept _ _ _ kind _ _ ih =>
    refine ih (?_ : withoutMarks (kind.wrap other) = withoutMarks (kind.wrap expr))
    cases kind with
    | brackets => simp only [Postfix.wrap, withoutMarks, inside]
    | question => exact inside
  | dropped _ ih => exact ih inside

/-- The question marks of the arguments do not decide what a name with arguments means. -/
theorem applied_without_marks (name text : String) (key? : Option String) (args : List TypeExpr) :
    withoutMarks (applied table name text key? args) =
      applied table name text key? (withoutMarksAll args) := by
  rcases args with _ | ⟨first, _ | ⟨second, _ | ⟨third, more⟩⟩⟩
  · rfl
  · by_cases collection : table.isCollection name = true <;>
      simp [applied, withoutMarks, withoutMarksAll, collection]
  · by_cases dictionary : table.isDictionary name = true
    · cases key? <;> simp [applied, withoutMarks, withoutMarksAll, dictionary]
    · simp [applied, withoutMarks, withoutMarksAll, dictionary]
  · rfl

/-- The key counts for dictionaries alone, and their source only where there is none. -/
theorem applied_same_key (name text otherText : String) (first : TypeExpr) (args : List TypeExpr)
    (keyed : table.isDictionary name = true → args.length = 1 →
      ∃ key, key? = some key ∧ otherKey? = some key) :
    applied table name otherText otherKey? (first :: args) =
      applied table name text key? (first :: args) := by
  rcases args with _ | ⟨value, _ | ⟨third, more⟩⟩
  · rfl
  · by_cases dictionary : table.isDictionary name = true
    · obtain ⟨key, rfl, rfl⟩ := keyed dictionary rfl
      simp [applied, dictionary]
    · simp [applied, dictionary]
  · rfl

mutual

/-- A type that loses question marks says the same, apart from question marks. -/
theorem type_thinned_meaning (tree : TypeTree) (thinned : TypeThinned tree other)
    (clear : Clear (tree.meaning table)) :
    withoutMarks (other.meaning table) = withoutMarks (tree.meaning table) := by
  match tree, thinned with
  | .node primary postfixes, .node inside behind =>
    rw [TypeTree.meaning, clear_wrap] at clear
    exact wrap_thinned behind (primary_thinned_meaning primary inside clear)

private theorem primary_thinned_meaning (tree : PrimaryTree) (thinned : PrimaryThinned tree other)
    (clear : Clear (tree.meaning table)) :
    withoutMarks (other.meaning table) = withoutMarks (tree.meaning table) := by
  match tree, thinned with
  | .bare _ _, .bare => rfl
  | .applied gap name opening first others closing, .applied inside behind =>
    rw [PrimaryTree.meaning] at clear
    obtain ⟨⟨firstClear, othersClear⟩, keyed⟩ :=
      (clear_applied table _ _ _ (meaning_atomic_iff first)).mp clear
    rw [PrimaryTree.meaning, PrimaryTree.meaning, applied_without_marks, applied_without_marks,
      withoutMarksAll, withoutMarksAll, type_thinned_meaning first inside firstClear,
      arguments_thinned_meanings others behind othersClear]
    refine applied_same_key table _ _ _ _ _ fun dictionary single => ?_
    rw [without_marks_length] at single
    -- Without verbatim text in it a dictionary has a bare key, which no mark follows.
    cases bare : first.bareName? with
    | none => exact absurd ⟨dictionary, single, bare⟩ keyed
    | some key => exact ⟨key, rfl, bare_name_thinned inside bare⟩

private theorem arguments_thinned_meanings (trees : ArgumentTrees) (thinned : ArgumentsThinned trees others)
    (clear : AllClear (trees.meanings table)) :
    withoutMarksAll (others.meanings table) = withoutMarksAll (trees.meanings table) := by
  match trees, thinned with
  | .none, .none => rfl
  | .more _ argument rest, .more inside behind =>
    obtain ⟨argumentClear, restClear⟩ := clear
    rw [ArgumentTrees.meanings, ArgumentTrees.meanings, withoutMarksAll, withoutMarksAll,
      type_thinned_meaning argument inside argumentClear, arguments_thinned_meanings rest behind restClear]

end

/-! ## Texts that lose question marks -/

/-- The second text is the first one without some of its question marks. -/
structure TextThinned (text other : List Char) : Prop where
  kept : other.Sublist text
  others : other.filter (· != '?') = text.filter (· != '?')

private theorem thinned_append (thinned : TextThinned (first ++ last) text) :
    ∃ front back, text = front ++ back ∧ TextThinned first front ∧ TextThinned last back := by
  obtain ⟨front, back, rfl, frontKept, backKept⟩ := List.sublist_append_iff.mp thinned.kept
  have same := thinned.others
  rw [List.filter_append, List.filter_append] at same
  -- Neither part can have more characters left than it had, so both have as many.
  have frontFewer := (frontKept.filter (· != '?')).length_le
  have backFewer := (backKept.filter (· != '?')).length_le
  have count := congrArg List.length same
  rw [List.length_append, List.length_append] at count
  refine ⟨front, back, rfl, ⟨frontKept, ?_⟩, ⟨backKept, ?_⟩⟩
  · exact (frontKept.filter _).eq_of_length (by omega)
  · exact (backKept.filter _).eq_of_length (by omega)

private theorem thinned_without (free : '?' ∉ text) (thinned : TextThinned text other) : other = text := by
  have whole : text.filter (· != '?') = text :=
    List.filter_eq_self.mpr fun c member => by
      have different : c ≠ '?' := fun same => free (same ▸ member)
      simpa using different
  have others := thinned.others
  rw [whole] at others
  have fewer : text.length ≤ other.length := by
    rw [← others]
    exact List.length_filter_le _ _
  exact thinned.kept.eq_of_length (Nat.le_antisymm thinned.kept.length_le fewer)

private theorem gap_without (gap : Gap) : '?' ∉ gap.chars := fun member =>
  absurd (gap.blank '?' member) (by decide)

private theorem mark_without (valid : ∀ name, mark = .name name → IsName name) (other : mark ≠ .question) :
    '?' ∉ markChars mark := by
  cases mark with
  | name chars =>
    intro member
    exact absurd (name_member (valid chars rfl) member) (by decide +kernel)
  | question => exact absurd rfl other
  | _ => decide

/-- A token that is no question mark stays, with the blanks before it. -/
theorem thinned_token (gap : Gap) (valid : ∀ name, mark = .name name → IsName name)
    (other : mark ≠ .question) (thinned : TextThinned (gap.chars ++ (markChars mark ++ rest)) text) :
    ∃ back, text = gap.chars ++ (markChars mark ++ back) ∧ TextThinned rest back := by
  obtain ⟨_, _, rfl, blanks, inked⟩ := thinned_append thinned
  obtain ⟨_, back, rfl, marked, behind⟩ := thinned_append inked
  cases thinned_without (gap_without gap) blanks
  cases thinned_without (mark_without valid other) marked
  exact ⟨back, rfl, behind⟩

/-- A question mark stays or goes. -/
theorem thinned_question (gap : Gap) (thinned : TextThinned (gap.chars ++ ('?' :: rest)) text) :
    ∃ back, (text = gap.chars ++ '?' :: back ∨ text = gap.chars ++ back) ∧ TextThinned rest back := by
  obtain ⟨_, inside, rfl, blanks, inked⟩ := thinned_append thinned
  have marks : TextThinned (['?'] ++ rest) inside := inked
  obtain ⟨mark, back, rfl, marked, behind⟩ := thinned_append marks
  cases thinned_without (gap_without gap) blanks
  refine ⟨back, ?_, behind⟩
  rcases List.sublist_cons_iff.mp marked.kept with gone | ⟨_, rfl, gone⟩
  · cases List.sublist_nil.mp gone
    exact .inr rfl
  · cases List.sublist_nil.mp gone
    exact .inl rfl

/-- Postfixes that lose question marks, behind blanks that were left over. The blanks before
a mark that goes are left over in turn. -/
theorem postfixes_thinned (postfixes : List (Gap × Postfix)) (lead : Gap)
    (thinned : TextThinned (spell (postfixTokens postfixes)) text) :
    ∃ others, ∃ trail : Gap, lead.chars ++ text = spell (postfixTokens others) ++ trail.chars ∧
      PostfixesThinned postfixes others := by
  induction postfixes generalizing lead text with
  | nil =>
    cases thinned_without (by simp [postfixTokens, spell_nil]) thinned
    exact ⟨[], lead, by simp [postfixTokens, spell_nil], .done⟩
  | cons entry rest ih =>
    obtain ⟨gap, kind⟩ := entry
    have stays (back : List Char) (behind : TextThinned (spell (postfixTokens rest)) back)
        (whole : text = gap.chars ++ (markChars kind.mark ++ back)) :
        ∃ others, ∃ trail : Gap, lead.chars ++ text = spell (postfixTokens others) ++ trail.chars ∧
          PostfixesThinned ((gap, kind) :: rest) others := by
      obtain ⟨others, trail, spells, fewer⟩ := ih Spelling.noGap behind
      refine ⟨(joinGaps lead gap, kind) :: others, trail, ?_, .kept fewer⟩
      have spelled : back = spell (postfixTokens others) ++ trail.chars := spells
      simp [whole, spelled, postfixTokens, spell_cons, joinGaps]
    rw [postfixTokens, List.map_cons, spell_cons] at thinned
    cases kind with
    | brackets =>
      obtain ⟨back, whole, behind⟩ := thinned_token gap (by simp [Postfix.mark]) (by simp [Postfix.mark]) thinned
      exact stays back behind whole
    | question =>
      obtain ⟨back, whole | whole, behind⟩ := thinned_question gap thinned
      · exact stays back behind whole
      · obtain ⟨others, trail, spells, fewer⟩ := ih (joinGaps lead gap) behind
        refine ⟨others, trail, ?_, .dropped fewer⟩
        rw [← spells, whole, joinGaps, List.append_assoc]

mutual

/-- The text of a type without some question marks is that of a type, with blanks behind. -/
theorem type_thinned (tree : TypeTree) (thinned : TextThinned (spell tree.tokens) text) :
    ∃ (other : TypeTree) (trail : Gap), text = spell other.tokens ++ trail.chars ∧
      TypeThinned tree other := by
  match tree with
  | .node primary postfixes =>
    rw [TypeTree.tokens, spell_append] at thinned
    obtain ⟨front, back, rfl, inside, behind⟩ := thinned_append thinned
    obtain ⟨changed, rfl, fewer⟩ := primary_thinned primary inside
    obtain ⟨others, trail, spells, fewerBehind⟩ := postfixes_thinned postfixes Spelling.noGap behind
    refine ⟨.node changed others, trail, ?_, .node fewer fewerBehind⟩
    rw [TypeTree.tokens, spell_append, List.append_assoc, ← spells]
    rfl

private theorem primary_thinned (tree : PrimaryTree) (thinned : TextThinned (spell tree.tokens) text) :
    ∃ other : PrimaryTree, text = spell other.tokens ∧ PrimaryThinned tree other := by
  match tree with
  | .bare gap name =>
    rw [PrimaryTree.tokens, spell_cons] at thinned
    obtain ⟨back, rfl, ended⟩ := thinned_token gap
      (fun _ named => by cases named; exact name.valid) (by simp) thinned
    cases thinned_without (by simp [spell_nil]) ended
    exact ⟨.bare gap name, by simp [PrimaryTree.tokens, spell_cons], .bare⟩
  | .applied gap name opening first others closing =>
    rw [PrimaryTree.tokens, spell_cons, spell_cons, spell_append, spell_append, spell_cons] at thinned
    obtain ⟨_, rfl, opened⟩ := thinned_token gap
      (fun _ named => by cases named; exact name.valid) (by simp) thinned
    obtain ⟨_, rfl, inner⟩ := thinned_token opening (by simp) (by simp) opened
    obtain ⟨_, _, rfl, inside, behindFirst⟩ := thinned_append inner
    obtain ⟨middle, _, rfl, behind, closes⟩ := thinned_append behindFirst
    obtain ⟨_, rfl, ended⟩ := thinned_token closing (by simp) (by simp) closes
    cases thinned_without (by simp [spell_nil]) ended
    obtain ⟨changed, trail, rfl, fewer⟩ := type_thinned first inside
    obtain ⟨rest, left, spells, fewerBehind⟩ := arguments_thinned others trail behind
    refine ⟨.applied gap name opening changed rest (joinGaps left closing), ?_, .applied fewer fewerBehind⟩
    have moved (tail : List Char) :
        trail.chars ++ (middle ++ tail) = spell rest.tokens ++ (left.chars ++ tail) := by
      rw [← List.append_assoc, spells, List.append_assoc]
    simp only [PrimaryTree.tokens, spell_cons, spell_append, joinGaps, List.append_assoc, moved]

private theorem arguments_thinned (trees : ArgumentTrees) (lead : Gap)
    (thinned : TextThinned (spell trees.tokens) text) :
    ∃ (others : ArgumentTrees) (trail : Gap), lead.chars ++ text = spell others.tokens ++ trail.chars ∧
      ArgumentsThinned trees others := by
  match trees with
  | .none =>
    cases thinned_without (by simp [ArgumentTrees.tokens, spell_nil]) thinned
    exact ⟨.none, lead, by simp [ArgumentTrees.tokens, spell_nil], .none⟩
  | .more comma argument rest =>
    rw [ArgumentTrees.tokens, spell_cons, spell_append] at thinned
    obtain ⟨_, rfl, inner⟩ := thinned_token comma (by simp) (by simp) thinned
    obtain ⟨_, back, rfl, inside, behind⟩ := thinned_append inner
    obtain ⟨changed, trail, rfl, fewer⟩ := type_thinned argument inside
    obtain ⟨others, left, spells, fewerBehind⟩ := arguments_thinned rest trail behind
    refine ⟨.more (joinGaps lead comma) changed others, left, ?_, .more fewer fewerBehind⟩
    simp only [ArgumentTrees.tokens, spell_cons, spell_append, joinGaps, List.append_assoc, ← spells]

end

/-! ## Whole signatures -/

/-- A signature that loses question marks reads as the same type, apart from them. -/
theorem parse_thinned {signature other : String} (thinned : TextThinned signature.toList other.toList)
    (clear : Clear (parse table signature)) :
    withoutMarks (parse table other) = withoutMarks (parse table signature) := by
  rcases parse_cases table signature with ⟨tree, reads, read⟩ | ⟨_, read⟩
  · obtain ⟨lead, trail, whole⟩ := trim_decomposed signature.toList
    rw [whole, reads] at thinned
    obtain ⟨_, _, spelled, front, behind⟩ := thinned_append thinned
    obtain ⟨_, _, rfl, ahead, inside⟩ := thinned_append front
    cases thinned_without (gap_without lead) ahead
    cases thinned_without (gap_without trail) behind
    obtain ⟨changed, left, rfl, fewer⟩ := type_thinned tree inside
    have reread : parse table other = changed.meaning table := by
      refine parse_padded table lead (joinGaps left trail) ?_
      rw [spelled, joinGaps]
      simp only [List.append_assoc]
    rw [read] at clear ⊢
    rw [reread, type_thinned_meaning table tree fewer clear]
  · rw [read] at clear
    exact clear.elim

/-- A text that spells no type does not spell one with a question mark behind it. -/
theorem unread_marked (ends : EndsBare text) (unread : ∀ tree : TypeTree, text ≠ spell tree.tokens)
    (tree : TypeTree) : text ++ ['?'] ≠ spell tree.tokens := by
  intro spelled
  obtain ⟨c, last, _, question⟩ := type_last tree
  rw [← spelled, List.getLast?_concat] at last
  obtain ⟨gap, inner, rfl⟩ := last_question (question.mp (Option.some.inj last).symm)
  rw [extended_tokens, spell_append, spell_cons, spell_nil, List.append_nil, ← List.append_assoc] at spelled
  have whole : text = spell inner.tokens ++ gap.chars := List.append_cancel_right spelled
  have nothing := ends_bare_gap gap (whole ▸ ends)
  rw [nothing, List.append_nil] at whole
  exact unread inner whole

private theorem drop_question_marked (text : String) : dropQuestion (text ++ "?") = text := by
  have ends : ['?'].isSuffixOf (text.toList ++ ['?']) = true := by simp
  simp [dropQuestion, Chars.dropTail?, ends]

private theorem drop_question_unmarked (unmarked : text.toList.getLast? ≠ some '?') :
    dropQuestion text = text := by
  have noSuffix : ['?'].isSuffixOf text.toList = false := by
    rw [Bool.eq_false_iff, Ne, List.isSuffixOf_iff_suffix]
    rintro ⟨front, whole⟩
    exact unmarked (by rw [← whole, List.getLast?_concat])
  simp [dropQuestion, Chars.dropTail?, noSuffix]

/-- Trimmed text stays trimmed with a question mark behind it. -/
theorem trim_marked (trimmed : Chars.trim text = text) : Chars.trim (text ++ ['?']) = text ++ ['?'] := by
  have starts : StartsBare (text ++ ['?']) := by
    intro c first
    cases text with
    | nil =>
      cases Option.some.inj first
      rfl
    | cons d rest => exact trim_starts_bare (d :: rest) c (by rw [trimmed]; exact first)
  have ends : EndsBare (text ++ ['?']) := by
    intro c last
    rw [List.getLast?_concat] at last
    cases Option.some.inj last
    rfl
  simpa [Spelling.noGap] using trim_padded Spelling.noGap Spelling.noGap starts ends

/-- A tree with a question mark behind it and the blanks of its signature. -/
theorem parse_marked_tree {signature : String} {tree : TypeTree}
    (reads : Chars.trim signature.toList = spell tree.tokens) :
    parse table (signature ++ "?") = .nullable (tree.meaning table) := by
  obtain ⟨lead, trail, whole⟩ := trim_decomposed signature.toList
  have marked : (signature ++ "?").toList =
      lead.chars ++ spell (extended trail .question tree).tokens ++ Spelling.noGap.chars := by
    rw [String.toList_append, whole, reads, extended_tokens]
    simp [spell_append, spell_cons, spell_nil, Postfix.mark, markChars, Spelling.noGap]
  rw [parse_padded table lead Spelling.noGap marked, extended_meaning]
  rfl

/-- A trimmed signature that spells no type, with a question mark behind it. -/
theorem parse_marked_unread {signature : String} (trimmed : Chars.trim signature.toList = signature.toList)
    (unread : ∀ tree : TypeTree, signature.toList ≠ spell tree.tokens) :
    parse table (signature ++ "?") = .verbatim (signature ++ "?") := by
  have kept : Chars.trim (signature ++ "?").toList = signature.toList ++ ['?'] := by
    rw [String.toList_append]
    exact trim_marked trimmed
  have stillUnread := unread_marked (trimmed ▸ trim_ends_bare signature.toList) unread
  rcases parse_cases table (signature ++ "?") with ⟨tree, reads, _⟩ | ⟨_, read⟩
  · exact absurd (kept.symm.trans reads) (stillUnread tree)
  · rw [read, Text.trim, kept, String.ofList_append, String.ofList_toList]

/-- A signature that reads as its own text, with a question mark behind it. Either this too
spells no type, or the text is a dictionary without a bare key, which is nullable now. -/
theorem parse_marked {signature : String} (own : parse table signature = .verbatim signature) :
    parse table (signature ++ "?") = .verbatim (signature ++ "?") ∨
      (parse table (signature ++ "?") = .nullable (.verbatim signature) ∧
        signature.toList.getLast? ≠ some '?') := by
  rcases parse_cases table signature with ⟨tree, reads, read⟩ | ⟨unread, read⟩
  · rw [own] at read
    refine .inr ⟨by rw [parse_marked_tree table reads, read], fun last => ?_⟩
    have nullable : (tree.meaning table).isNullable = true := by
      rw [← read, isNullable, last]
      rfl
    obtain ⟨gap, inner, rfl⟩ := last_question ((last_mark_nullable table tree).mpr nullable)
    rw [extended_meaning] at read
    cases read
  · rw [own] at read
    have trimmed : Chars.trim signature.toList = signature.toList := by
      have same := congrArg String.toList (TypeExpr.verbatim.inj read)
      rw [Text.trim, String.toList_ofList] at same
      exact same.symm
    exact .inl (parse_marked_unread table trimmed (trimmed ▸ unread))

/-- Question marks leave no trace but nullability. A signature without verbatim text that
loses any of them is printed as the same type, refers to the same names and has the same
index signature. A text that stands for itself gets nullable by a question mark behind it
and is printed without it. -/
theorem marks_leave_type :
    (∀ signature other : String, Clear (parse table signature) →
      TextThinned signature.toList other.toList →
      TypeExpr.translate table other = TypeExpr.translate table signature ∧
      (parse table other).names table = (parse table signature).names table ∧
      indexSignature? table (parse table other) = indexSignature? table (parse table signature)) ∧
    (∀ signature : String, parse table signature = .verbatim signature →
      (parse table (signature ++ "?")).isNullable = true ∧
      TypeExpr.translate table (signature ++ "?") = signature ∧
      (signature.toList.getLast? ≠ some '?' → TypeExpr.translate table signature = signature)) := by
  constructor
  · intro signature other clear thinned
    have same := parse_thinned table thinned clear
    refine ⟨?_, ?_, ?_⟩
    · rw [TypeExpr.translate, TypeExpr.translate, ← render_without_marks, same, render_without_marks]
    · rw [← names_without_marks, same, names_without_marks]
    · rw [← index_without_marks, same, index_without_marks]
  · intro signature own
    refine ⟨?_, ?_, fun unmarked => ?_⟩
    · rcases parse_marked table own with read | ⟨read, _⟩
      · simp [read, isNullable]
      · rw [read, isNullable]
    · rcases parse_marked table own with read | ⟨read, unmarked⟩
      · rw [TypeExpr.translate, read, render, drop_question_marked]
      · rw [TypeExpr.translate, read, render, render, drop_question_unmarked unmarked]
    · rw [TypeExpr.translate, own, render, drop_question_unmarked unmarked]

/-- A type with question marks at several depths, which loses all but one of them, and an
array type of the wrong form. -/
theorem marks_leave_type_page :
    TypeExpr.translate .standard "Page<int [] ?, Dictionary<string, Order >> " =
      "Page<number[], Record<string, Order>>" ∧
    TypeExpr.translate .standard "Page<int? [] ?, Dictionary<string, Order ?>> ?" =
      "Page<number[], Record<string, Order>>" ∧
    (parse .standard ("int[,]" ++ "?")).isNullable = true ∧
    TypeExpr.translate .standard ("int[,]" ++ "?") = "int[,]" := by
  have read : parse .standard "Page<int? [] ?, Dictionary<string, Order ?>> ?" =
      .nullable (.generic "Page" [.nullable (.array (.nullable (.atomic "int"))),
        .dictionary "Dictionary" "string" (.nullable (.atomic "Order"))]) := rfl
  have clear : Clear (parse .standard "Page<int? [] ?, Dictionary<string, Order ?>> ?") := by
    rw [read]
    simp [Clear, AllClear]
  have thinned : TextThinned "Page<int? [] ?, Dictionary<string, Order ?>> ?".toList
      "Page<int [] ?, Dictionary<string, Order >> ".toList := by
    constructor <;> decide +kernel
  have printed : TypeExpr.translate .standard "Page<int? [] ?, Dictionary<string, Order ?>> ?" =
      "Page<number[], Record<string, Order>>" := by
    decide +kernel
  have same := ((marks_leave_type .standard).1 _ _ clear thinned).1
  have own : parse .standard "int[,]" = .verbatim "int[,]" := rfl
  obtain ⟨nullable, shown, _⟩ := (marks_leave_type .standard).2 "int[,]" own
  exact ⟨same.trans printed, printed, nullable, shown⟩

end TypeStubs.QuestionMarks

import TypeStubs.Proofs.SignatureTrees
import TypeStubs.Proofs.TextPieces

/-! A qualifier before a name that has arguments. Names are translated by their short
name where they have no translation of their own, but whether a name wraps its arguments
is asked of the name as it stands. So a wrapper with a qualifier wraps no more, and the
printed type stays the same only where the wrapper is not used as one, or where the map
type is what the short name is translated to. -/
namespace TypeStubs.QualifiedHeads
open TypeExpr SignatureGrammar SignatureLexemes SignatureReading WrittenNames SignatureTrees TextPieces

/-- A name as text. -/
def text (name : Name) : String := String.ofList name.chars

/-- The second name is the first one behind a qualifier and a dot. -/
def Qualifies (plain qualified : Name) : Prop :=
  ∃ qualifier : Name, qualified.chars = qualifier.chars ++ '.' :: plain.chars

/-- The table says nothing about the name as it stands. -/
structure Unlisted (table : TypeTable) (name : String) : Prop where
  untranslated : table.isScalar name = false
  noCollection : table.isCollection name = false
  noDictionary : table.isDictionary name = false
  noTransparent : table.isTransparent name = false

/-- The number of arguments behind the first one. -/
def othersCount : ArgumentTrees → Nat
  | .none => 0
  | .more _ _ rest => othersCount rest + 1

mutual

/-- The second tree is the first one with `new` in place of `old`, at one place where
`old` stands before `count` arguments. -/
inductive Reheaded (old new : Name) (count : Nat) : TypeTree → TypeTree → Prop where
  | here (many : othersCount others + 1 = count) :
      Reheaded old new count (.node (.applied gap old opening first others closing) postfixes)
        (.node (.applied gap new opening first others closing) postfixes)
  | first (inside : Reheaded old new count argument changed) :
      Reheaded old new count (.node (.applied gap name opening argument others closing) postfixes)
        (.node (.applied gap name opening changed others closing) postfixes)
  | others (inside : ReheadedArguments old new count others changed) :
      Reheaded old new count (.node (.applied gap name opening argument others closing) postfixes)
        (.node (.applied gap name opening argument changed closing) postfixes)

/-- The same for one of the arguments behind the first one. -/
inductive ReheadedArguments (old new : Name) (count : Nat) : ArgumentTrees → ArgumentTrees → Prop where
  | here (inside : Reheaded old new count argument changed) :
      ReheadedArguments old new count (.more comma argument rest) (.more comma changed rest)
  | later (inside : ReheadedArguments old new count rest changed) :
      ReheadedArguments old new count (.more comma argument rest) (.more comma argument changed)

end

/-- The qualified name is printed before its arguments like the plain one. A collection or
a transparent name with one argument is not printed at all, and a dictionary with two
arguments is printed as the map type. -/
def PrintedAlike (table : TypeTable) (plain qualified : String) : Nat → Prop
  | 1 => table.isCollection plain = false ∧ table.isTransparent plain = false ∧
      table.translate qualified = table.translate plain
  | 2 => table.translate qualified =
      if table.isDictionary plain then "Record" else table.translate plain
  | _ => table.translate qualified = table.translate plain

mutual

/-- One token differs between the two trees. -/
theorem reheaded_tokens (tree : TypeTree) (change : Reheaded old new count tree changed) :
    ∃ front gap back, tree.tokens = front ++ ⟨gap, .name old.chars⟩ :: back ∧
      changed.tokens = front ++ ⟨gap, .name new.chars⟩ :: back := by
  match tree, change with
  | .node (.applied gap _ _ _ _ _) _, .here _ => exact ⟨[], gap, _, rfl, rfl⟩
  | .node (.applied gap name opening argument others closing) postfixes, .first inside =>
    obtain ⟨front, inner, back, whole, other⟩ := reheaded_tokens argument inside
    refine ⟨⟨gap, .name name.chars⟩ :: ⟨opening, .openAngle⟩ :: front, inner,
      back ++ (others.tokens ++ ⟨closing, .closeAngle⟩ :: postfixTokens postfixes), ?_, ?_⟩
    · simp [TypeTree.tokens, PrimaryTree.tokens, whole]
    · simp [TypeTree.tokens, PrimaryTree.tokens, other]
  | .node (.applied gap name opening argument others closing) postfixes, .others inside =>
    obtain ⟨front, inner, back, whole, other⟩ := reheaded_argument_tokens others inside
    refine ⟨⟨gap, .name name.chars⟩ :: ⟨opening, .openAngle⟩ :: (argument.tokens ++ front), inner,
      back ++ ⟨closing, .closeAngle⟩ :: postfixTokens postfixes, ?_, ?_⟩
    · simp [TypeTree.tokens, PrimaryTree.tokens, whole]
    · simp [TypeTree.tokens, PrimaryTree.tokens, other]

private theorem reheaded_argument_tokens (trees : ArgumentTrees)
    (change : ReheadedArguments old new count trees changed) :
    ∃ front gap back, trees.tokens = front ++ ⟨gap, .name old.chars⟩ :: back ∧
      changed.tokens = front ++ ⟨gap, .name new.chars⟩ :: back := by
  match trees, change with
  | .more comma argument rest, .here inside =>
    obtain ⟨front, inner, back, whole, other⟩ := reheaded_tokens argument inside
    refine ⟨⟨comma, .comma⟩ :: front, inner, back ++ rest.tokens, ?_, ?_⟩
    · simp [ArgumentTrees.tokens, whole]
    · simp [ArgumentTrees.tokens, other]
  | .more comma argument rest, .later inside =>
    obtain ⟨front, inner, back, whole, other⟩ := reheaded_argument_tokens rest inside
    refine ⟨⟨comma, .comma⟩ :: (argument.tokens ++ front), inner, back, ?_, ?_⟩
    · simp [ArgumentTrees.tokens, whole]
    · simp [ArgumentTrees.tokens, other]

end

/-- The two signatures differ in the name alone. -/
theorem reheaded_spelled (change : Reheaded old new count tree changed) :
    ∃ before after, spell tree.tokens = before ++ old.chars ++ after ∧
      spell changed.tokens = before ++ new.chars ++ after := by
  obtain ⟨front, gap, back, whole, other⟩ := reheaded_tokens tree change
  refine ⟨spell front ++ gap.chars, spell back, ?_, ?_⟩
  · simp [whole, spell_append, spell_cons, markChars]
  · simp [other, spell_append, spell_cons, markChars]

/-- The second text is the first one with `new` in place of `old` at one place. -/
def Differs (old new whole other : String) : Prop :=
  ∃ before after, whole = before ++ old ++ after ∧ other = before ++ new ++ after

private theorem differs_eq_iff (differs : Differs old new whole other) : other = whole ↔ new = old := by
  obtain ⟨before, after, rfl, rfl⟩ := differs
  simp [← String.toList_inj]

/-- The place of an item in a joined text. -/
theorem join_around (front back : List String) :
    ∃ before after, ∀ item, Text.join ", " (front ++ item :: back) = before ++ item ++ after := by
  induction front with
  | nil =>
    cases back with
    | nil => exact ⟨"", "", fun item => by simp [Text.join]⟩
    | cons next rest =>
      refine ⟨"", ", " ++ Text.join ", " (next :: rest), fun item => ?_⟩
      simp [Text.join, String.append_assoc]
  | cons first rest ih =>
    obtain ⟨before, after, around⟩ := ih
    refine ⟨first ++ ", " ++ before, after, fun item => ?_⟩
    have longer : rest ++ item :: back ≠ [] := by simp
    simp only [Text.join] at around
    simp only [Text.join, List.cons_append, String.intercalate_cons_of_ne_nil longer, around,
      String.append_assoc]

variable (table : TypeTable)

private theorem applied_text_many (name : String) (texts : List String) (more : 2 < texts.length) :
    appliedText table name texts = table.translate name ++ "<" ++ Text.join ", " texts ++ ">" := by
  match texts, more with
  | _ :: _ :: _ :: _, _ => rfl

/-- The place of an argument in the text of a name with arguments. -/
theorem applied_text_around (name : String) (front back : List String) :
    ∃ before after, ∀ item, appliedText table name (front ++ item :: back) = before ++ item ++ after := by
  by_cases many : 2 < front.length + (back.length + 1)
  · obtain ⟨before, after, around⟩ := join_around front back
    refine ⟨table.translate name ++ "<" ++ before, after ++ ">", fun item => ?_⟩
    rw [applied_text_many table name _ (by simpa using many), around]
    simp only [String.append_assoc]
  · -- With one or two arguments the name may be a wrapper.
    match front, back, many with
    | [], [], _ =>
      by_cases collection : table.isCollection name = true
      · exact ⟨"", "[]", fun item => by simp [appliedText, collection]⟩
      by_cases transparent : table.isTransparent name = true
      · exact ⟨"", "", fun item => by simp [appliedText, collection, transparent]⟩
      · exact ⟨table.translate name ++ "<", ">", fun item => by
          simp [appliedText, collection, transparent]⟩
    | [], [value], _ =>
      by_cases dictionary : table.isDictionary name = true
      · exact ⟨"Record<", ", " ++ value ++ ">", fun item => by
          simp [appliedText, dictionary, String.append_assoc]⟩
      · exact ⟨table.translate name ++ "<", ", " ++ value ++ ">", fun item => by
          simp [appliedText, dictionary, String.append_assoc]⟩
    | [key], [], _ =>
      by_cases dictionary : table.isDictionary name = true
      · exact ⟨"Record<" ++ key ++ ", ", ">", fun item => by simp [appliedText, dictionary]⟩
      · exact ⟨table.translate name ++ "<" ++ key ++ ", ", ">", fun item => by
          simp [appliedText, dictionary]⟩
    | _ :: _ :: _, _, few => exact absurd (by simp only [List.length_cons]; omega) few
    | [_], _ :: _, few => exact absurd (by simp only [List.length_cons]; omega) few
    | [], _ :: _ :: _, few => exact absurd (by simp only [List.length_cons]; omega) few

/-- A difference in one argument is a difference in the whole. -/
theorem applied_text_differs (name : String) (front back : List String)
    (differs : Differs old new item other) :
    Differs old new (appliedText table name (front ++ item :: back))
      (appliedText table name (front ++ other :: back)) := by
  obtain ⟨outerBefore, outerAfter, around⟩ := applied_text_around table name front back
  obtain ⟨before, after, rfl, rfl⟩ := differs
  refine ⟨outerBefore ++ before, after ++ outerAfter, ?_, ?_⟩
  · simp only [around, String.append_assoc]
  · simp only [around, String.append_assoc]

private theorem differs_before (differs : Differs old new whole other) (tail : String) :
    Differs old new (whole ++ tail) (other ++ tail) := by
  obtain ⟨before, after, rfl, rfl⟩ := differs
  exact ⟨before, after ++ tail, by simp only [String.append_assoc], by simp only [String.append_assoc]⟩

private theorem argument_texts_length (trees : ArgumentTrees) :
    (argumentTexts table trees).length = othersCount trees := by
  cases trees with
  | none => rfl
  | more comma argument rest =>
    rw [argumentTexts, othersCount, List.length_cons, argument_texts_length rest]

mutual

/-- The printed types differ where the name and its arguments are printed. -/
theorem reheaded_text (tree : TypeTree) (change : Reheaded old new count tree changed) :
    ∃ texts, texts.length = count ∧
      Differs (appliedText table (text old) texts) (appliedText table (text new) texts)
        (typeText table tree) (typeText table changed) := by
  match tree, change with
  | .node (.applied _ _ _ first others _) postfixes, .here many =>
    refine ⟨typeText table first :: argumentTexts table others, ?_, ?_⟩
    · rw [List.length_cons, argument_texts_length, many]
    · exact differs_before ⟨"", "", by simp [primaryText, text], by simp [primaryText, text]⟩ _
  | .node (.applied _ name _ argument others _) postfixes, .first inside =>
    obtain ⟨texts, length, differs⟩ := reheaded_text argument inside
    have outer := applied_text_differs table (text name) [] (argumentTexts table others) differs
    exact ⟨texts, length, differs_before outer _⟩
  | .node (.applied _ name _ argument others _) postfixes, .others inside =>
    obtain ⟨texts, front, item, other, back, length, differs, whole, changed⟩ :=
      reheaded_argument_texts others inside
    have outer := applied_text_differs table (text name) (typeText table argument :: front) back differs
    rw [List.cons_append, List.cons_append, ← whole, ← changed] at outer
    exact ⟨texts, length, differs_before outer _⟩

private theorem reheaded_argument_texts (trees : ArgumentTrees)
    (change : ReheadedArguments old new count trees changed) :
    ∃ texts front item other back, texts.length = count ∧
      Differs (appliedText table (text old) texts) (appliedText table (text new) texts) item other ∧
      argumentTexts table trees = front ++ item :: back ∧
      argumentTexts table changed = front ++ other :: back := by
  match trees, change with
  | .more _ argument rest, .here inside =>
    obtain ⟨texts, length, differs⟩ := reheaded_text argument inside
    exact ⟨texts, [], _, _, argumentTexts table rest, length, differs, rfl, rfl⟩
  | .more _ argument rest, .later inside =>
    obtain ⟨texts, front, item, other, back, length, differs, whole, changed⟩ :=
      reheaded_argument_texts rest inside
    refine ⟨texts, typeText table argument :: front, item, other, back, length, differs, ?_, ?_⟩
    · rw [argumentTexts, whole, List.cons_append]
    · rw [argumentTexts, changed, List.cons_append]

end

/-- Neither a list type nor the bare argument is a name with the argument in brackets. -/
theorem bracketed_apart (name element : String) :
    name ++ "<" ++ element ++ ">" ≠ element ++ "[]" ∧ name ++ "<" ++ element ++ ">" ≠ element := by
  constructor
  · intro same
    have last := congrArg (fun text : String => text.toList.reverse.head?) same
    simp at last
  · intro same
    have length := congrArg (fun text : String => text.toList.length) same
    simp at length
    omega

/-- A name that the table does not list is printed like another before the same arguments
exactly where that one is not dropped and has the same text. -/
theorem applied_text_alike (unlisted : Unlisted table qualified) (texts : List String) :
    appliedText table qualified texts = appliedText table plain texts ↔
      PrintedAlike table plain qualified texts.length := by
  obtain ⟨_, noCollection, noDictionary, noTransparent⟩ := unlisted
  match texts with
  | [] => simp [appliedText, PrintedAlike, ← String.toList_inj]
  | [element] =>
    obtain ⟨noList, noElement⟩ := bracketed_apart (table.translate qualified) element
    have named : appliedText table qualified [element] =
        table.translate qualified ++ "<" ++ element ++ ">" := by
      simp [appliedText, noCollection, noTransparent]
    rw [named]
    by_cases collection : table.isCollection plain = true
    · simp [appliedText, PrintedAlike, collection, noList]
    by_cases transparent : table.isTransparent plain = true
    · simp [appliedText, PrintedAlike, collection, transparent, noElement]
    · simp [appliedText, PrintedAlike, collection, transparent, ← String.toList_inj]
  | [key, value] =>
    have named (name : String) : name ++ "<" ++ key ++ ", " ++ value ++ ">" =
        name ++ ("<" ++ key ++ ", " ++ value ++ ">") := by simp only [String.append_assoc]
    have mapped : "Record<" ++ key ++ ", " ++ value ++ ">" =
        "Record" ++ ("<" ++ key ++ ", " ++ value ++ ">") := named "Record"
    by_cases dictionary : table.isDictionary plain = true
    · simp only [appliedText, PrintedAlike, noDictionary, dictionary, List.length_cons,
        List.length_nil, Bool.false_eq_true, ↓reduceIte, named, mapped]
      exact differs_eq_iff ⟨"", "<" ++ key ++ ", " ++ value ++ ">", by simp, by simp⟩
    · simp [appliedText, PrintedAlike, noDictionary, dictionary, ← String.toList_inj]
  | first :: second :: third :: rest =>
    simp [appliedText, PrintedAlike, ← String.toList_inj]

private theorem meanings_length (trees : ArgumentTrees) :
    (trees.meanings table).length = othersCount trees := by
  cases trees with
  | none => rfl
  | more comma argument rest =>
    rw [ArgumentTrees.meanings, othersCount, List.length_cons, meanings_length rest]

private theorem reheaded_count (trees : ArgumentTrees) (change : ReheadedArguments old new count trees changed) :
    othersCount changed = othersCount trees := by
  match trees, change with
  | .more .., .here _ => rfl
  | .more _ _ rest, .later inside => rw [othersCount, othersCount, reheaded_count rest inside]

/-- Neither tree is a bare name. -/
theorem reheaded_applied (change : Reheaded old new count tree changed) :
    tree.bareName? = none ∧ changed.bareName? = none := by
  cases change <;> exact ⟨rfl, rfl⟩

/-- When a tree of a name with arguments holds no verbatim text. -/
theorem clear_node (gap : Gap) (name : Name) (opening : Gap) (first : TypeTree) (others : ArgumentTrees)
    (closing : Gap) (postfixes : List (Gap × Postfix)) :
    Clear ((TypeTree.node (.applied gap name opening first others closing) postfixes).meaning table) ↔
      (Clear (first.meaning table) ∧ AllClear (others.meanings table)) ∧
        ¬ (table.isDictionary (text name) = true ∧ othersCount others = 1 ∧ first.bareName? = none) := by
  rw [TypeTree.meaning, clear_wrap, PrimaryTree.meaning, clear_applied table _ _ _ (meaning_atomic_iff first),
    meanings_length]
  rfl

mutual

/-- A head that is no dictionary brings no verbatim text with it. -/
theorem reheaded_clear (noDictionary : table.isDictionary (text new) = false) (tree : TypeTree)
    (change : Reheaded old new count tree changed) (clear : Clear (tree.meaning table)) :
    Clear (changed.meaning table) := by
  match tree, change with
  | .node (.applied ..) _, .here _ =>
    rw [clear_node] at clear ⊢
    exact ⟨clear.1, by simp [noDictionary]⟩
  | .node (.applied _ _ _ argument _ _) _, .first inside =>
    obtain ⟨applied, changedApplied⟩ := reheaded_applied inside
    rw [clear_node] at clear ⊢
    rw [applied] at clear
    rw [changedApplied]
    exact ⟨⟨reheaded_clear noDictionary argument inside clear.1.1, clear.1.2⟩, clear.2⟩
  | .node (.applied _ _ _ _ others _) _, .others inside =>
    rw [clear_node] at clear ⊢
    rw [reheaded_count others inside]
    exact ⟨⟨clear.1.1, reheaded_arguments_clear noDictionary others inside clear.1.2⟩, clear.2⟩

private theorem reheaded_arguments_clear (noDictionary : table.isDictionary (text new) = false)
    (trees : ArgumentTrees) (change : ReheadedArguments old new count trees changed)
    (clear : AllClear (trees.meanings table)) : AllClear (changed.meanings table) := by
  match trees, change with
  | .more _ argument _, .here inside =>
    exact ⟨reheaded_clear noDictionary argument inside clear.1, clear.2⟩
  | .more _ _ rest, .later inside =>
    exact ⟨clear.1, reheaded_arguments_clear noDictionary rest inside clear.2⟩

end

/-- What a qualified name without a translation of its own is translated to. -/
theorem translate_qualified (qualifies : Qualifies plain qualified)
    (untranslated : table.isScalar (text qualified) = false) (undotted : '.' ∉ plain.chars) :
    table.translate (text qualified) = table.translate (text plain) := by
  obtain ⟨qualifier, whole⟩ := qualifies
  have short : TypeTable.shortName (text qualified) = text plain := by
    rw [TypeTable.shortName, Text.lastPiece, text, String.toList_ofList, whole,
      last_piece_behind '.' _ _ undotted, text]
  have own : TypeTable.shortName (text plain) = text plain := by
    rw [TypeTable.shortName, Text.lastPiece, text, String.toList_ofList, last_piece_of_free '.' _ undotted]
  have none : table.translations.lookup (text qualified) = none := by
    simpa [TypeTable.isScalar] using untranslated
  rw [TypeTable.translate, none, short, TypeTable.translate, own]
  cases table.translations.lookup (text plain) <;> rfl

/-- A qualifier is put before a name with arguments. The signatures differ in nothing but
the qualifier, and they are printed as the same type exactly when the qualified name is
printed before its arguments like the plain one. For a name without a dot the two have the
same text, so that only wrappers that are used as such make a difference. -/
theorem qualified_head_printed (signature other : String) (qualifies : Qualifies plain qualified)
    (unlisted : Unlisted table (text qualified)) (change : Reheaded plain qualified count tree changed)
    (reads : Chars.trim signature.toList = spell tree.tokens)
    (rereads : Chars.trim other.toList = spell changed.tokens) (clear : Clear (parse table signature)) :
    (∃ before after, Chars.trim signature.toList = before ++ plain.chars ++ after ∧
      Chars.trim other.toList = before ++ qualified.chars ++ after) ∧
    (TypeExpr.translate table other = TypeExpr.translate table signature ↔
      PrintedAlike table (text plain) (text qualified) count) ∧
    ('.' ∉ plain.chars → table.translate (text qualified) = table.translate (text plain)) := by
  refine ⟨reads ▸ rereads ▸ reheaded_spelled change, ?_,
    translate_qualified table qualifies unlisted.untranslated⟩
  rw [parse_tree table reads] at clear
  have changedClear := reheaded_clear table unlisted.noDictionary tree change clear
  obtain ⟨texts, length, differs⟩ := reheaded_text table tree change
  rw [TypeExpr.translate, TypeExpr.translate, parse_tree table reads, parse_tree table rereads,
    type_text table tree clear, type_text table changed changedClear, differs_eq_iff differs,
    applied_text_alike table unlisted, length]

/-- A type that is a bare name. -/
def bareType (name : Name) : TypeTree := .node (.bare Spelling.noGap name) []

/-- A type with one argument, without blanks. -/
def around (head : Name) (argument : TypeTree) : TypeTree :=
  .node (.applied Spelling.noGap head Spelling.noGap argument .none Spelling.noGap) []

/-- A type with two arguments, without blanks. -/
def aroundPair (head : Name) (key value : TypeTree) : TypeTree :=
  .node (.applied Spelling.noGap head Spelling.noGap key (.more Spelling.noGap value .none)
    Spelling.noGap) []

/-- Bare types in a list type or in a type with a bare key hold no verbatim text. -/
theorem clear_bare (name : Name) : Clear ((bareType name).meaning table) := trivial

private theorem clear_around (head : Name) (clear : Clear (argument.meaning table)) :
    Clear ((around head argument).meaning table) :=
  (clear_node ..).mpr ⟨⟨clear, trivial⟩, by simp [othersCount]⟩

private theorem clear_around_pair (head key : Name) (clear : Clear (value.meaning table)) :
    Clear ((aroundPair head (bareType key) value).meaning table) :=
  (clear_node ..).mpr ⟨⟨trivial, clear, trivial⟩, by simp [bareType, TypeTree.bareName?]⟩

def intName : Name := ⟨"int".toList, by simp [IsName]; decide⟩

def stringName : Name := ⟨"string".toList, by simp [IsName]; decide⟩

def listName : Name := ⟨"List".toList, by simp [IsName]; decide⟩

def dictionaryName : Name := ⟨"Dictionary".toList, by simp [IsName]; decide⟩

def genericSpace : Name := ⟨"System.Collections.Generic".toList, by simp [IsName]; decide⟩

def qualifiedList : Name := ⟨"System.Collections.Generic.List".toList, by simp [IsName]; decide⟩

def qualifiedDictionary : Name :=
  ⟨"System.Collections.Generic.Dictionary".toList, by simp [IsName]; decide⟩

/-- The table in which the short name of a dictionary is the map type. -/
def recordTable : TypeTable := TypeTable.standard.addTranslation "Dictionary" "Record"

/-- A list of maps from texts to numbers, with the given name for the maps. -/
def mapList (head : Name) : TypeTree :=
  around listName (aroundPair head (bareType stringName) (bareType intName))

/-- With such a table a map is printed alike, also inside a collection. -/
theorem qualified_head_printed_map :
    TypeExpr.translate recordTable "List<System.Collections.Generic.Dictionary<string,int>>" =
      TypeExpr.translate recordTable "List<Dictionary<string,int>>" ∧
    TypeExpr.translate recordTable "List<Dictionary<string,int>>" = "Record<string, number>[]" := by
  have qualifies : Qualifies dictionaryName qualifiedDictionary := ⟨genericSpace, by decide⟩
  have unlisted : Unlisted recordTable (text qualifiedDictionary) := by
    constructor <;> decide +kernel
  have change : Reheaded dictionaryName qualifiedDictionary 2 (mapList dictionaryName)
      (mapList qualifiedDictionary) := .first (.here rfl)
  have reads : Chars.trim "List<Dictionary<string,int>>".toList = spell (mapList dictionaryName).tokens := by
    decide +kernel
  have rereads : Chars.trim "List<System.Collections.Generic.Dictionary<string,int>>".toList =
      spell (mapList qualifiedDictionary).tokens := by
    decide +kernel
  have clear : Clear (parse recordTable "List<Dictionary<string,int>>") := by
    rw [parse_tree recordTable reads]
    exact clear_around recordTable listName
      (clear_around_pair recordTable dictionaryName stringName (clear_bare recordTable intName))
  have alike : PrintedAlike recordTable (text dictionaryName) (text qualifiedDictionary) 2 := by
    rw [PrintedAlike]
    decide +kernel
  have printed := (qualified_head_printed recordTable "List<Dictionary<string,int>>"
    "List<System.Collections.Generic.Dictionary<string,int>>" qualifies unlisted change reads rereads
    clear).2.1
  exact ⟨printed.mpr alike, by decide +kernel⟩

/-- A list of numbers is printed as such only without the qualifier. -/
theorem qualified_list_printed_otherwise :
    Qualifies listName qualifiedList ∧ Unlisted .standard (text qualifiedList) ∧
    TypeTable.isCollection .standard (text listName) = true ∧
    Reheaded listName qualifiedList 1 (around listName (bareType intName))
      (around qualifiedList (bareType intName)) ∧
    Chars.trim "List<int>".toList = spell (around listName (bareType intName)).tokens ∧
    Chars.trim "System.Collections.Generic.List<int>".toList =
      spell (around qualifiedList (bareType intName)).tokens ∧
    Clear (parse .standard "List<int>") ∧
    TypeExpr.translate .standard "List<int>" = "number[]" ∧
    TypeExpr.translate .standard "System.Collections.Generic.List<int>" = "List<number>" := by
  have reads : Chars.trim "List<int>".toList = spell (around listName (bareType intName)).tokens := by
    decide +kernel
  have clear : Clear (parse .standard "List<int>") := by
    rw [parse_tree .standard reads]
    exact clear_around .standard listName (clear_bare .standard intName)
  have unlisted : Unlisted .standard (text qualifiedList) := by
    constructor <;> decide +kernel
  refine ⟨⟨genericSpace, by decide⟩, unlisted, by decide +kernel, .here rfl, reads, by decide +kernel, clear,
    by decide +kernel, by decide +kernel⟩

end TypeStubs.QualifiedHeads

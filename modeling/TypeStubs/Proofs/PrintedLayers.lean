import TypeStubs.Proofs.NameClosure
import TypeStubs.Proofs.SignatureBlanks

/-! Printed types as signatures. A type that is made of list and map layers around a bare
name is printed as text that the grammar reads again, and what is read has the same layers
around the printed name, at any depth. -/
namespace TypeStubs.PrintedLayers
open TypeExpr SignatureGrammar SignatureLexemes SignatureReading SignatureTrees SignatureBlanks TextPieces

/-- What one layer of a type adds. -/
inductive Layer where
  | list
  | map
  deriving DecidableEq, Repr

/-- The layers of a type from the outside in. Question marks are none, and a name that
stands for the map type with two arguments is one around the second. -/
def layers : TypeExpr → List Layer
  | .nullable inner => layers inner
  | .array inner => .list :: layers inner
  | .collection _ element => .list :: layers element
  | .dictionary _ _ value => .map :: layers value
  | .generic name [_, value] => if name = "Record" then .map :: layers value else []
  | _ => []

/-- Nothing but list and map layers and question marks around a bare name. Behind the last
dot of that name and of the keys of maps something is left. -/
def Layered : TypeExpr → Prop
  | .atomic name => TypeTable.shortName name ≠ ""
  | .nullable inner => Layered inner
  | .array inner => Layered inner
  | .collection _ element => Layered element
  | .dictionary _ key value => TypeTable.shortName key ≠ "" ∧ Layered value
  | .generic .. => False
  | .verbatim _ => False

variable (table : TypeTable)

/-- The map type with printed parts, as it is read. -/
def readMap (key : String) (value : TypeExpr) : TypeExpr :=
  if table.isDictionary "Record" then .dictionary "Record" key value
  else .generic "Record" [.atomic key, value]

/-- What the text of a layered type is read as. -/
def reread : TypeExpr → TypeExpr
  | .atomic name => .atomic (table.translate name)
  | .nullable inner => reread inner
  | .array inner => .array (reread inner)
  | .collection _ element => .array (reread element)
  | .dictionary _ key value => readMap table (table.translate key) (reread value)
  | .generic name args => .generic name args
  | .verbatim text => .verbatim text

private theorem layers_read_map (key : String) (value : TypeExpr) :
    layers (readMap table key value) = .map :: layers value := by
  unfold readMap
  split <;> simp [layers]

private theorem layers_reread (expr : TypeExpr) (layered : Layered expr) :
    layers (reread table expr) = layers expr := by
  match expr with
  | .atomic name => rfl
  | .nullable inner =>
    simp only [reread, layers]
    exact layers_reread inner layered
  | .array inner => simp only [reread, layers, layers_reread inner layered]
  | .collection _ element => simp only [reread, layers, layers_reread element layered]
  | .dictionary _ _ value => simp only [reread, layers, layers_read_map, layers_reread value layered.2]

private theorem names_wrap (postfixes : List (Gap × Postfix)) (expr : TypeExpr) :
    (wrapAll postfixes expr).names table = expr.names table := by
  induction postfixes generalizing expr with
  | nil => rfl
  | cons entry rest ih =>
    obtain ⟨gap, kind⟩ := entry
    refine (ih (kind.wrap expr)).trans ?_
    cases kind <;> rfl

/-- A name with arguments refers to itself and to what its arguments refer to, at most. -/
theorem names_applied (head text : String) (args : List TypeExpr)
    (bare : ∀ key, first = .atomic key ↔ key? = some key)
    (member : name ∈ (applied table head text key? (first :: args)).names table) :
    name = head ∨ name ∈ namesAll table (first :: args) := by
  have generic (args : List TypeExpr) (member : name ∈ (TypeExpr.generic head args).names table) :
      name = head ∨ name ∈ namesAll table args := by
    rw [names] at member
    split at member
    · exact .inr member
    · exact List.mem_cons.mp member
  rcases args with _ | ⟨value, _ | ⟨third, more⟩⟩
  · by_cases collection : table.isCollection head = true
    · simp only [applied, collection, ↓reduceIte, names] at member
      exact .inr (by simpa [namesAll] using member)
    · simp only [applied, collection, Bool.false_eq_true, ↓reduceIte] at member
      exact generic _ member
  · by_cases dictionary : table.isDictionary head = true
    · cases key? with
      | none => simp [applied, dictionary, names] at member
      | some key =>
        cases (bare key).mpr rfl
        exact .inr (by simpa [applied, dictionary, names, namesAll] using member)
    · simp only [applied, dictionary, Bool.false_eq_true, ↓reduceIte] at member
      exact generic _ member
  · exact generic _ member

mutual

/-- What a type refers to are names of the grammar. -/
theorem type_names (tree : TypeTree) :
    ∀ name ∈ (tree.meaning table).names table, IsName name.toList := by
  match tree with
  | .node primary postfixes =>
    rw [TypeTree.meaning, names_wrap]
    exact primary_names primary

private theorem primary_names (tree : PrimaryTree) :
    ∀ name ∈ (tree.meaning table).names table, IsName name.toList := by
  intro text member
  match tree with
  | .bare gap name =>
    cases List.mem_singleton.mp member
    simpa using name.valid
  | .applied gap name opening first others closing =>
    rcases names_applied table _ _ _ (meaning_atomic_iff first) member with rfl | inside
    · simpa using name.valid
    · rcases List.mem_append.mp inside with inFirst | inOthers
      · exact type_names first text inFirst
      · exact argument_names others text inOthers

private theorem argument_names (trees : ArgumentTrees) :
    ∀ name ∈ namesAll table (trees.meanings table), IsName name.toList := by
  intro text member
  match trees with
  | .none => cases member
  | .more comma argument rest =>
    rcases List.mem_append.mp member with inside | behind
    · exact type_names argument text inside
    · exact argument_names rest text behind

end

theorem parse_names (signature : String) :
    ∀ name ∈ (parse table signature).names table, IsName name.toList := by
  rcases parse_cases table signature with ⟨tree, _, read⟩ | ⟨_, read⟩
  · rw [read]
    exact type_names table tree
  · simp [read, names]

/-- What stands behind a dot of a name is a run of name characters. -/
theorem behind_dot (valid : IsName (front ++ '.' :: piece)) :
    ∀ c ∈ piece, Lexeme.isNameChar c = true := by
  intro c member
  cases front with
  | nil => exact valid.2 c member
  | cons first rest => exact valid.2 c (by simp [member])

private theorem last_piece_valid (name : List Char) (valid : IsName name) (left : Chars.lastPiece '.' name ≠ []) :
    IsName (Chars.lastPiece '.' name) := by
  rcases last_piece_cases '.' name with ⟨_, whole⟩ | ⟨front, whole⟩
  · rw [whole]
    exact valid
  · rw [whole] at valid
    have chars := behind_dot valid
    cases piece : Chars.lastPiece '.' name with
    | nil => exact absurd piece left
    | cons c rest =>
      rw [piece] at chars
      exact ⟨.inl (chars c List.mem_cons_self), fun d member => chars d (List.mem_cons_of_mem c member)⟩

/-- A name is printed as a name, if all that names are translated to are names. -/
theorem translate_valid (targets : ∀ entry ∈ table.translations, IsName entry.2.toList)
    (valid : IsName name.toList) (left : TypeTable.shortName name ≠ "") :
    IsName (table.translate name).toList := by
  by_cases translated : ImportRelation.Translated table name ∨
      ImportRelation.Translated table (TypeTable.shortName name)
  · obtain ⟨entry, member, target⟩ := List.mem_map.mp (NameClosure.translate_target translated)
    rw [← target]
    exact targets entry member
  · obtain ⟨untranslated, shortUntranslated⟩ := not_or.mp translated
    have something : Chars.lastPiece '.' name.toList ≠ [] := fun nothing =>
      left (by rw [TypeTable.shortName, Text.lastPiece, nothing, String.ofList_nil])
    rw [NameClosure.translate_short untranslated shortUntranslated, TypeTable.shortName,
      Text.lastPiece, String.toList_ofList]
    exact last_piece_valid name.toList valid something

/-- Whether a text is a name, by its characters. -/
theorem is_name_iff (text : List Char) :
    IsName text ↔ (text.head?.any fun c => Lexeme.isNameChar c || c == '@') = true ∧
      text.tail.all Lexeme.isNameChar = true := by
  cases text <;> simp [IsName]

/-- The name of the map type. -/
def recordName : Name := ⟨"Record".toList, (is_name_iff _).mpr (by decide +kernel)⟩

/-- The gap of one blank. -/
def oneBlank : Gap := ⟨[' '], by simp [isBlank]⟩

/-- The map type with a key and a value, as it is printed. -/
def mapTree (gap : Gap) (key : Name) (value : TypeTree) : TypeTree :=
  .node (.applied gap recordName Spelling.noGap (.node (.bare Spelling.noGap key) [])
    (.more Spelling.noGap value .none) Spelling.noGap) []

private theorem map_tree_text (gap : Gap) (key : Name) (value : TypeTree) :
    spell (mapTree gap key value).tokens =
      gap.chars ++ (recordName.chars ++ '<' :: (key.chars ++ ',' :: (spell value.tokens ++ ['>']))) := by
  simp [mapTree, TypeTree.tokens, PrimaryTree.tokens, ArgumentTrees.tokens, postfixTokens, spell_cons,
    spell_append, spell_nil, Spelling.noGap, markChars]

private theorem map_tree_meaning (gap : Gap) (key : Name) (value : TypeTree) :
    (mapTree gap key value).meaning table = readMap table (String.ofList key.chars) (value.meaning table) := by
  rfl

/-- Brackets behind a type that is printed as a text. -/
theorem list_tree (tree : TypeTree) (spelled : spell tree.tokens = front ++ text.toList)
    (read : tree.meaning table = expr) :
    ∃ other : TypeTree, spell other.tokens = front ++ (text ++ "[]").toList ∧
      other.meaning table = .array expr := by
  refine ⟨extended Spelling.noGap .brackets tree, ?_, ?_⟩
  · rw [extended_tokens, spell_append, spelled, String.toList_append, List.append_assoc]
    rfl
  · rw [extended_meaning, read]
    rfl

/-- The text of a layered type, behind a gap, is that of a tree. -/
theorem printed_tree (expr : TypeExpr) (layered : Layered expr)
    (valid : ∀ name ∈ expr.names table, TypeTable.shortName name ≠ "" → IsName (table.translate name).toList)
    (gap : Gap) :
    ∃ tree : TypeTree, spell tree.tokens = gap.chars ++ (expr.render table).toList ∧
      tree.meaning table = reread table expr := by
  match expr with
  | .atomic name =>
    have isName := valid name (by simp [names]) layered
    refine ⟨.node (.bare gap ⟨(table.translate name).toList, isName⟩) [], ?_, ?_⟩
    · simp [TypeTree.tokens, PrimaryTree.tokens, postfixTokens, spell_cons, spell_nil, markChars, render]
    · simp [TypeTree.meaning, PrimaryTree.meaning, wrapAll, reread]
  | .nullable inner =>
    simp only [render, reread]
    exact printed_tree inner layered valid gap
  | .array inner =>
    obtain ⟨tree, spelled, read⟩ := printed_tree inner layered valid gap
    simp only [render, reread]
    exact list_tree table tree spelled read
  | .collection _ element =>
    obtain ⟨tree, spelled, read⟩ := printed_tree element layered valid gap
    simp only [render, reread]
    exact list_tree table tree spelled read
  | .dictionary _ key value =>
    obtain ⟨keyed, valued⟩ := layered
    have isName := valid key (by simp [names]) keyed
    obtain ⟨tree, spelled, read⟩ := printed_tree value valued
      (fun name member => valid name (by simp [names, member])) oneBlank
    refine ⟨mapTree gap ⟨(table.translate key).toList, isName⟩ tree, ?_, ?_⟩
    · have opening : "Record<".toList = recordName.chars ++ ['<'] := rfl
      rw [map_tree_text, spelled, render]
      simp [opening, oneBlank, -String.toList_ofList]
    · rw [map_tree_meaning, read, String.ofList_toList, reread]

/-- A layered type that is printed and read again has the same layers, around the printed
name. -/
theorem printed_layers_reread (signature : String)
    (targets : ∀ entry ∈ table.translations, IsName entry.2.toList)
    (layered : Layered (parse table signature)) :
    layers (parse table (TypeExpr.translate table signature)) = layers (parse table signature) ∧
      parse table (TypeExpr.translate table signature) = reread table (parse table signature) := by
  have valid : ∀ name ∈ (parse table signature).names table, TypeTable.shortName name ≠ "" →
      IsName (table.translate name).toList := fun name member left =>
    translate_valid table targets (parse_names table signature name member) left
  obtain ⟨tree, spelled, read⟩ := printed_tree table _ layered valid Spelling.noGap
  have again : parse table (TypeExpr.translate table signature) = reread table (parse table signature) := by
    rw [← read]
    refine parse_padded table Spelling.noGap Spelling.noGap ?_
    rw [TypeExpr.translate, spelled]
    simp [Spelling.noGap]
  exact ⟨by rw [again, layers_reread table _ layered], again⟩

/-- The standard table and a translation to a qualified name. -/
def amountTable : TypeTable := TypeTable.standard.addTranslation "Money" "Acme.Amount"

theorem printed_layers_reread_amounts :
    TypeExpr.translate amountTable "IDictionary<System.Guid, List<Money?>[]>?" =
      "Record<string, Acme.Amount[][]>" ∧
    layers (parse amountTable "Record<string, Acme.Amount[][]>") = [.map, .list, .list] ∧
    parse amountTable "Record<string, Acme.Amount[][]>" =
      .generic "Record" [.atomic "string", .array (.array (.atomic "Acme.Amount"))] := by
  have targets : ∀ entry ∈ amountTable.translations, IsName entry.2.toList := by
    simp only [is_name_iff]
    decide +kernel
  have read : parse amountTable "IDictionary<System.Guid, List<Money?>[]>?" =
      .nullable (.dictionary "IDictionary" "System.Guid"
        (.array (.collection "List" (.nullable (.atomic "Money"))))) := rfl
  have layered : Layered (parse amountTable "IDictionary<System.Guid, List<Money?>[]>?") := by
    rw [read]
    have guid : TypeTable.shortName "System.Guid" ≠ "" := by decide +kernel
    have money : TypeTable.shortName "Money" ≠ "" := by decide +kernel
    exact ⟨guid, money⟩
  have printed : TypeExpr.translate amountTable "IDictionary<System.Guid, List<Money?>[]>?" =
      "Record<string, Acme.Amount[][]>" := by
    decide +kernel
  obtain ⟨same, again⟩ := printed_layers_reread amountTable _ targets layered
  rw [printed, read] at same again
  refine ⟨printed, same, again.trans ?_⟩
  have guid : amountTable.translate "System.Guid" = "string" := by decide +kernel
  have money : amountTable.translate "Money" = "Acme.Amount" := by decide +kernel
  have noDictionary : amountTable.isDictionary "Record" = false := by decide +kernel
  simp [reread, readMap, guid, money, noDictionary]

end TypeStubs.PrintedLayers

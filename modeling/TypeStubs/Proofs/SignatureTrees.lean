import TypeStubs.Proofs.SignatureReading
import TypeStubs.Proofs.WrittenNames

/-! Signatures that are given by their trees. Every tree is the derivation of the text
that it spells, so a signature with that text reads as the tree says. The type that it
is printed as follows the tree too: what a name with arguments is printed as depends on
the name and on the printed arguments alone. -/
namespace TypeStubs.SignatureTrees
open TypeExpr SignatureGrammar SignatureLexemes SignatureReading WrittenNames

private theorem gap_stops (gap : Gap) (stops : NameStops text) : NameStops (gap.chars ++ text) := by
  obtain ⟨chars, blank⟩ := gap
  cases chars with
  | nil => exact stops
  | cons c rest =>
    intro d first
    cases Option.some.inj first
    exact (blank_no_name (blank c List.mem_cons_self)).1

/-- A token that is no name ends the name before it. -/
theorem token_stops (token : Token) (rest : List Token) (after : List Char)
    (noName : ∀ text, token.mark ≠ .name text) : NameStops (spell (token :: rest) ++ after) := by
  obtain ⟨gap, mark⟩ := token
  rw [spell_cons, List.append_assoc]
  apply gap_stops
  intro c first
  cases mark with
  | name text => exact absurd rfl (noName text)
  | _ =>
    cases Option.some.inj first
    decide +kernel

private theorem names_maximal_append (first last : List Token) (after : List Char) :
    NamesMaximal (first ++ last) after ↔
      NamesMaximal first (spell last ++ after) ∧ NamesMaximal last after := by
  induction first with
  | nil => simp [NamesMaximal]
  | cons token rest ih => simp [NamesMaximal, ih, spell_append, and_assoc]

/-- A token that is no name leaves the names behind it as they are. -/
theorem names_maximal_cons (token : Token) (noName : ∀ text, token.mark ≠ .name text)
    (rest : NamesMaximal tokens after) : NamesMaximal (token :: tokens) after :=
  ⟨fun text named => absurd named (noName text), rest⟩

private theorem postfixes_maximal (postfixes : List (Gap × Postfix)) (after : List Char) :
    NamesMaximal (postfixTokens postfixes) after := by
  induction postfixes with
  | nil => trivial
  | cons entry rest ih =>
    obtain ⟨gap, kind⟩ := entry
    refine names_maximal_cons _ (fun text => ?_) ih
    cases kind <;> simp [Postfix.mark]

private theorem postfixes_stop (postfixes : List (Gap × Postfix)) (stops : NameStops after) :
    NameStops (spell (postfixTokens postfixes) ++ after) := by
  cases postfixes with
  | nil => exact stops
  | cons entry rest =>
    obtain ⟨gap, kind⟩ := entry
    refine token_stops _ _ _ fun text => ?_
    cases kind <;> simp [Postfix.mark]

private theorem arguments_stop (others : ArgumentTrees) (stops : NameStops after) :
    NameStops (spell others.tokens ++ after) := by
  cases others with
  | none => exact stops
  | more comma argument rest =>
    rw [ArgumentTrees.tokens]
    exact token_stops _ _ _ (by simp)

mutual

private theorem type_names_maximal (tree : TypeTree) (stops : NameStops after) :
    NamesMaximal tree.tokens after := by
  match tree with
  | .node primary postfixes =>
    rw [TypeTree.tokens, names_maximal_append]
    exact ⟨primary_names_maximal primary (postfixes_stop postfixes stops),
      postfixes_maximal postfixes after⟩

private theorem primary_names_maximal (tree : PrimaryTree) (stops : NameStops after) :
    NamesMaximal tree.tokens after := by
  match tree with
  | .bare gap name => exact ⟨fun _ _ => stops, trivial⟩
  | .applied gap name opening first others closing =>
    have closes : NameStops (spell [⟨closing, .closeAngle⟩] ++ after) := token_stops _ _ _ (by simp)
    rw [PrimaryTree.tokens]
    refine ⟨fun _ _ => token_stops _ _ _ (by simp), names_maximal_cons _ (by simp) ?_⟩
    rw [names_maximal_append, names_maximal_append, spell_append, List.append_assoc]
    exact ⟨type_names_maximal first (arguments_stop others closes),
      argument_names_maximal others closes, names_maximal_cons _ (by simp) trivial⟩

private theorem argument_names_maximal (trees : ArgumentTrees) (stops : NameStops after) :
    NamesMaximal trees.tokens after := by
  match trees with
  | .none => trivial
  | .more comma argument rest =>
    rw [ArgumentTrees.tokens]
    refine names_maximal_cons _ (by simp) ?_
    rw [names_maximal_append]
    exact ⟨type_names_maximal argument (arguments_stop rest stops), argument_names_maximal rest stops⟩

end

/-- Every tree is the derivation of the text that it spells. -/
def derivationOf (tree : TypeTree) : Derivation (spell tree.tokens) where
  tree
  spells := rfl
  maximal := type_names_maximal tree (by simp [NameStops])

/-- A signature with the text of a tree reads as the tree says. -/
theorem parse_tree {signature : String} {tree : TypeTree} (table : TypeTable)
    (reads : Chars.trim signature.toList = spell tree.tokens) :
    parse table signature = tree.meaning table := by
  have bare : EndsBare (spell tree.tokens) := reads ▸ trim_ends_bare signature.toList
  have read : parseChars? table (spell tree.tokens) = some (tree.meaning table) :=
    (parse_chars_eq_some_iff bare).mpr ⟨derivationOf tree, rfl⟩
  rw [parse, reads, read, Option.getD_some]

/-- The text of a name with printed arguments. -/
def appliedText (table : TypeTable) (name : String) : List String → String
  | [element] =>
    if table.isCollection name then element ++ "[]"
    else if table.isTransparent name then element
    else table.translate name ++ "<" ++ element ++ ">"
  | [key, value] =>
    if table.isDictionary name then "Record<" ++ key ++ ", " ++ value ++ ">"
    else table.translate name ++ "<" ++ key ++ ", " ++ value ++ ">"
  | texts => table.translate name ++ "<" ++ Text.join ", " texts ++ ">"

/-- The brackets among postfixes. -/
def bracketsText (postfixes : List (Gap × Postfix)) : String :=
  String.join (postfixes.map fun entry => if entry.2 = .brackets then "[]" else "")

mutual

/-- The text that a type is printed as. -/
def typeText (table : TypeTable) : TypeTree → String
  | .node primary postfixes => primaryText table primary ++ bracketsText postfixes

/-- The text that a primary is printed as. -/
def primaryText (table : TypeTable) : PrimaryTree → String
  | .bare _ name => table.translate (String.ofList name.chars)
  | .applied _ name _ first others _ =>
    appliedText table (String.ofList name.chars) (typeText table first :: argumentTexts table others)

/-- The texts of the arguments behind the first one. -/
def argumentTexts (table : TypeTable) : ArgumentTrees → List String
  | .none => []
  | .more _ argument rest => typeText table argument :: argumentTexts table rest

end

variable (table : TypeTable)

theorem clear_wrap (postfixes : List (Gap × Postfix)) (expr : TypeExpr) :
    Clear (wrapAll postfixes expr) ↔ Clear expr := by
  induction postfixes generalizing expr with
  | nil => rfl
  | cons entry rest ih =>
    obtain ⟨gap, kind⟩ := entry
    refine (ih (kind.wrap expr)).trans ?_
    cases kind <;> rfl

private theorem render_wrap (postfixes : List (Gap × Postfix)) (expr : TypeExpr) :
    (wrapAll postfixes expr).render table = expr.render table ++ bracketsText postfixes := by
  induction postfixes generalizing expr with
  | nil => simp [wrapAll, bracketsText]
  | cons entry rest ih =>
    obtain ⟨gap, kind⟩ := entry
    refine (ih (kind.wrap expr)).trans ?_
    cases kind <;> simp [Postfix.wrap, render, bracketsText, String.append_assoc]

/-- A name with arguments holds verbatim text when an argument does, and when it is a
dictionary whose key is not a bare name. -/
theorem clear_applied (name text : String) (args : List TypeExpr)
    (bare : ∀ key, first = .atomic key ↔ key? = some key) :
    Clear (applied table name text key? (first :: args)) ↔
      AllClear (first :: args) ∧ ¬ (table.isDictionary name = true ∧ args.length = 1 ∧ key? = none) := by
  rcases args with _ | ⟨value, _ | ⟨third, more⟩⟩
  · by_cases collection : table.isCollection name = true <;>
      simp [applied, collection, Clear, AllClear]
  · by_cases dictionary : table.isDictionary name = true
    · cases key? with
      | none => simp [applied, dictionary, Clear]
      | some key =>
        cases (bare key).mpr rfl
        simp [applied, dictionary, Clear, AllClear]
    · simp [applied, dictionary, Clear, AllClear]
  · simp [applied, Clear, AllClear]

/-- What a name with arguments is printed as. -/
theorem render_applied (name text : String) (args : List TypeExpr)
    (bare : ∀ key, first = .atomic key ↔ key? = some key)
    (clear : Clear (applied table name text key? (first :: args))) :
    (applied table name text key? (first :: args)).render table =
      appliedText table name (renderAll table (first :: args)) := by
  rcases args with _ | ⟨value, _ | ⟨third, more⟩⟩
  · by_cases collection : table.isCollection name = true
    · simp [applied, appliedText, collection, render, renderAll]
    · cases transparent : table.isTransparent name <;>
        simp [applied, appliedText, collection, transparent, render, renderAll, Text.join]
  · by_cases dictionary : table.isDictionary name = true
    · cases key? with
      | none => simp [applied, dictionary, Clear] at clear
      | some key =>
        cases (bare key).mpr rfl
        simp [applied, appliedText, dictionary, render, renderAll]
    · simp [applied, appliedText, dictionary, render, renderAll, Text.join, String.append_assoc]
  · simp [applied, appliedText, render, renderAll, Text.join]

mutual

/-- What a type without verbatim text is printed as. -/
theorem type_text (tree : TypeTree) (clear : Clear (tree.meaning table)) :
    (tree.meaning table).render table = typeText table tree := by
  match tree with
  | .node primary postfixes =>
    simp only [TypeTree.meaning, clear_wrap] at clear
    simp only [TypeTree.meaning, typeText, render_wrap]
    rw [primary_text primary clear]

private theorem primary_text (tree : PrimaryTree) (clear : Clear (tree.meaning table)) :
    (tree.meaning table).render table = primaryText table tree := by
  match tree with
  | .bare gap name => rfl
  | .applied gap name opening first others closing =>
    have bare : ∀ key, first.meaning table = .atomic key ↔ first.bareName? = some key :=
      meaning_atomic_iff first
    rw [PrimaryTree.meaning] at clear ⊢
    obtain ⟨⟨firstClear, othersClear⟩, _⟩ := (clear_applied table _ _ _ bare).mp clear
    rw [render_applied table _ _ _ bare clear, primaryText, renderAll, type_text first firstClear,
      argument_texts others othersClear]

private theorem argument_texts (trees : ArgumentTrees) (clear : AllClear (trees.meanings table)) :
    renderAll table (trees.meanings table) = argumentTexts table trees := by
  match trees with
  | .none => rfl
  | .more comma argument rest =>
    obtain ⟨argumentClear, restClear⟩ := clear
    rw [ArgumentTrees.meanings, renderAll, argumentTexts, type_text argument argumentClear,
      argument_texts rest restClear]

end

end TypeStubs.SignatureTrees

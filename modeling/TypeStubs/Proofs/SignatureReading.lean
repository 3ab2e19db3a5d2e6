import TypeStubs.Proofs.SignatureUnambiguity

/-! The reader of signatures accepts exactly the texts that have a derivation, and
gives what the derivation says. One direction runs the reader over the tokens of a
tree; the other turns what the reader holds on its stack back into trees. -/
namespace TypeStubs.SignatureReading
open TypeExpr SignatureGrammar SignatureLexemes SignatureUnambiguity

variable {table : TypeTable} {source : List Char}

/-! ## Names with arguments -/

theorem wrapAll_concat (postfixes : List (Gap × Postfix)) (entry : Gap × Postfix) (expr : TypeExpr) :
    wrapAll (postfixes ++ [entry]) expr = entry.2.wrap (wrapAll postfixes expr) := by
  simp [wrapAll]

private theorem applied_not_atomic (name text : String) (bare : Option String)
    (args : List TypeExpr) (key : String) : applied table name text bare args ≠ .atomic key := by
  fun_cases applied table name text bare args <;> simp

private theorem wrap_not_atomic (kind : Postfix) (expr : TypeExpr) (key : String) :
    kind.wrap expr ≠ .atomic key := by
  cases kind <;> simp [Postfix.wrap]

/-- Only a bare name reads as an atomic type. -/
theorem meaning_atomic_iff (tree : TypeTree) (key : String) :
    tree.meaning table = .atomic key ↔ tree.bareName? = some key := by
  obtain ⟨primary, postfixes⟩ := tree
  rcases List.eq_nil_or_concat postfixes with rfl | ⟨before, entry, rfl⟩
  · cases primary with
    | bare gap name => simp [TypeTree.meaning, PrimaryTree.meaning, TypeTree.bareName?, wrapAll]
    | applied =>
      simp [TypeTree.meaning, PrimaryTree.meaning, TypeTree.bareName?, wrapAll, applied_not_atomic]
  · rw [List.concat_eq_append]
    have wrapped : (TypeTree.node primary (before ++ [entry])).bareName? = none := by
      cases primary <;> cases before <;> rfl
    rw [wrapped, TypeTree.meaning, wrapAll_concat]
    simp [wrap_not_atomic]

/-- The reader's own classification, where the first argument is bare exactly when it
reads as an atomic type. -/
theorem classify_eq_applied (start stop : Nat) (name : String) (args : List TypeExpr)
    (bare : ∀ key, first = .atomic key ↔ key? = some key) :
    classify table source start stop name (first :: args) =
      applied table name (slice source start stop) key? (first :: args) := by
  rcases args with _ | ⟨value, _ | ⟨third, more⟩⟩
  · cases collection : table.isCollection name <;> cases dictionary : table.isDictionary name <;>
      simp [classify, applied, collection, dictionary]
  · cases dictionary : table.isDictionary name with
    | false => cases table.isCollection name <;> simp [classify, applied, dictionary]
    | true =>
      cases key? with
      | some key =>
        cases (bare key).mpr rfl
        cases table.isCollection name <;> simp [classify, applied, dictionary]
      | none =>
        have notAtomic (key : String) : first ≠ .atomic key := fun same => by
          cases (bare key).mp same
        cases table.isCollection name <;> cases first <;>
          simp_all [classify, applied]
  · cases table.isCollection name <;> cases table.isDictionary name <;> simp [classify, applied]

/-! ## Places in the source -/

private theorem prefix_behind {first last : List Char} (sits : first ++ last <+: source.drop offset) :
    last <+: source.drop (offset + first.length) := by
  obtain ⟨rest, whole⟩ := sits
  refine ⟨rest, ?_⟩
  rw [← List.drop_drop, ← whole, List.append_assoc, List.drop_left]

private theorem prefix_front {first last : List Char} (sits : first ++ last <+: source.drop offset) :
    first <+: source.drop offset :=
  (List.prefix_append first last).trans sits

private theorem slice_eq (sits : text <+: source.drop start) :
    slice source start (start + text.length) = String.ofList text := by
  obtain ⟨rest, whole⟩ := sits
  rw [slice, ← whole, Nat.add_sub_cancel_left, List.take_left]

/-- A name with arguments that is read where it stands means what its tree says. -/
theorem classify_node (gap : Gap) (name : Name) (opening : Gap) (first : TypeTree)
    (others : ArgumentTrees) (closing : Gap)
    (sits : spell (PrimaryTree.applied gap name opening first others closing).tokens <+:
      source.drop offset) :
    classify table source (offset + gap.chars.length)
        (offset + (spell (PrimaryTree.applied gap name opening first others closing).tokens).length)
        (String.ofList name.chars) (first.meaning table :: others.meanings table) =
      (PrimaryTree.applied gap name opening first others closing).meaning table := by
  rw [PrimaryTree.tokens, spell_cons] at sits ⊢
  rw [List.length_append, ← Nat.add_assoc, classify_eq_applied _ _ _ _ (meaning_atomic_iff first),
    slice_eq (prefix_behind sits)]
  rfl

/-! ## The reader on the tokens of a tree -/

private theorem assemble_name (stack : List Pending) (text : List Char) (start stop : Nat)
    (rest : List Lexeme) :
    assemble table source stack .none (⟨.name text, start, stop⟩ :: rest) =
      assemble table source stack (.named (String.ofList text) start) rest := by
  simp [assemble]

private theorem assemble_open (stack : List Pending) (name : String) (begun start stop : Nat)
    (rest : List Lexeme) :
    assemble table source stack (.named name begun) (⟨.openAngle, start, stop⟩ :: rest) =
      assemble table source (⟨name, begun, []⟩ :: stack) .none rest := by
  simp [assemble]

private theorem assemble_comma (top : Pending) (stack : List Pending) (start stop : Nat)
    (rest : List Lexeme) (under : progress.expr? = some expr) :
    assemble table source (top :: stack) progress (⟨.comma, start, stop⟩ :: rest) =
      assemble table source ({ top with args := expr :: top.args } :: stack) .none rest := by
  simp [assemble, under]

private theorem assemble_close (top : Pending) (stack : List Pending) (start stop : Nat)
    (rest : List Lexeme) (under : progress.expr? = some expr) :
    assemble table source (top :: stack) progress (⟨.closeAngle, start, stop⟩ :: rest) =
      assemble table source stack (.built (classify table source top.start stop top.name
        (top.args.reverse ++ [expr]))) rest := by
  simp [assemble, under]

private theorem assemble_wrap (stack : List Pending) (kind : Postfix) (start stop : Nat)
    (rest : List Lexeme) (under : progress.expr? = some expr) :
    assemble table source stack progress (⟨kind.mark, start, stop⟩ :: rest) =
      assemble table source stack (.built (kind.wrap expr)) rest := by
  cases kind <;> simp [assemble, under, Postfix.mark, Postfix.wrap]

/-- No arguments are opened next. -/
def NoneOpened (lexemes : List Lexeme) : Prop := ∀ lexeme ∈ lexemes.head?, lexeme.mark ≠ .openAngle

/-- Unless arguments are opened, a name that stands alone is a complete type. -/
theorem assemble_settled (stack : List Pending) (under : progress.expr? = some expr)
    (closed : NoneOpened lexemes) :
    assemble table source stack progress lexemes = assemble table source stack (.built expr) lexemes := by
  cases lexemes with
  | nil =>
    cases stack with
    | nil => exact under
    | cons => rfl
  | cons lexeme rest =>
    obtain ⟨mark, start, stop⟩ := lexeme
    have notOpened : mark ≠ .openAngle := closed _ rfl
    cases progress with
    | none => cases under
    | built inner =>
      cases under
      rfl
    | named name begun =>
      cases under
      cases mark with
      | openAngle => exact absurd rfl notOpened
      | comma => cases stack <;> simp [assemble, Progress.expr?]
      | closeAngle => cases stack <;> simp [assemble, Progress.expr?]
      | name => simp [assemble]
      | brackets => simp [assemble, Progress.expr?]
      | question => simp [assemble, Progress.expr?]

private theorem assemble_postfixes (stack : List Pending) (postfixes : List (Gap × Postfix)) (expr : TypeExpr)
    (offset : Nat) (rest : List Lexeme) :
    assemble table source stack (.built expr) (place offset (postfixTokens postfixes) ++ rest) =
      assemble table source stack (.built (wrapAll postfixes expr)) rest := by
  induction postfixes generalizing expr offset with
  | nil => rfl
  | cons entry others ih =>
    simp only [postfixTokens, List.map_cons, place, List.cons_append]
    rw [assemble_wrap stack entry.2 _ _ _ rfl]
    exact ih _ _

private theorem none_opened_append (first : NoneOpened lexemes) (last : NoneOpened rest) :
    NoneOpened (lexemes ++ rest) := by
  cases lexemes with
  | nil => exact last
  | cons => exact first

private theorem postfixes_none_opened (postfixes : List (Gap × Postfix)) (offset : Nat) :
    NoneOpened (place offset (postfixTokens postfixes)) := by
  rcases postfixes with _ | ⟨⟨gap, kind⟩, rest⟩
  · simp [NoneOpened, postfixTokens, place]
  · cases kind <;> simp [NoneOpened, postfixTokens, place, Postfix.mark]

private theorem arguments_none_opened (others : ArgumentTrees) (offset : Nat)
    (closed : NoneOpened rest) : NoneOpened (place offset others.tokens ++ rest) := by
  refine none_opened_append ?_ closed
  cases others <;> simp [NoneOpened, ArgumentTrees.tokens, place]

mutual

/-- The reader passes over a type and holds what its tree says. -/
theorem assemble_type (tree : TypeTree) (stack : List Pending) (offset : Nat) (rest : List Lexeme)
    (sits : spell tree.tokens <+: source.drop offset) (closed : NoneOpened rest) :
    assemble table source stack .none (place offset tree.tokens ++ rest) =
      assemble table source stack (.built (tree.meaning table)) rest := by
  match tree with
  | .node primary postfixes =>
    rw [TypeTree.tokens, spell_append] at sits
    rw [TypeTree.tokens, place_append, List.append_assoc,
      assemble_primary primary stack offset _ (prefix_front sits)
        (none_opened_append (postfixes_none_opened _ _) closed),
      assemble_postfixes]
    rfl

private theorem assemble_primary (tree : PrimaryTree) (stack : List Pending) (offset : Nat)
    (rest : List Lexeme) (sits : spell tree.tokens <+: source.drop offset) (closed : NoneOpened rest) :
    assemble table source stack .none (place offset tree.tokens ++ rest) =
      assemble table source stack (.built (tree.meaning table)) rest := by
  match tree with
  | .bare gap name =>
    simp only [PrimaryTree.tokens, place, List.cons_append, List.nil_append, assemble_name]
    exact assemble_settled stack rfl closed
  | .applied gap name opening first others closing =>
    rw [← classify_node gap name opening first others closing sits]
    rw [PrimaryTree.tokens, spell_cons, spell_cons] at sits
    have inside := prefix_behind (prefix_behind (prefix_behind (prefix_behind sits)))
    rw [spell_append] at inside
    have behind := prefix_behind inside
    rw [spell_append] at behind
    simp only [PrimaryTree.tokens, place, place_append, List.cons_append, List.append_assoc,
      List.nil_append, assemble_name, assemble_open]
    rw [assemble_type first _ _ _ (prefix_front inside)
        (arguments_none_opened _ _ (by simp [NoneOpened])),
      assemble_arguments others _ _ _ _ (prefix_front behind)]
    simp only [List.reverse_nil, List.nil_append, spell_cons, spell_append, spell_nil,
      List.length_append, List.length_nil, Nat.add_assoc, Nat.add_zero]

private theorem assemble_arguments (trees : ArgumentTrees) (top : Pending) (stack : List Pending)
    (offset : Nat) (rest : List Lexeme) (sits : spell trees.tokens <+: source.drop offset) :
    assemble table source (top :: stack) (.built expr)
        (place offset trees.tokens ++ ⟨.closeAngle, start, stop⟩ :: rest) =
      assemble table source stack (.built (classify table source top.start stop top.name
        (top.args.reverse ++ expr :: trees.meanings table))) rest := by
  match trees with
  | .none =>
    simp only [ArgumentTrees.tokens, ArgumentTrees.meanings, place, List.nil_append]
    exact assemble_close top stack start stop rest rfl
  | .more comma argument others =>
    rw [ArgumentTrees.tokens, spell_cons] at sits
    have inside := prefix_behind (prefix_behind sits)
    rw [spell_append] at inside
    simp only [ArgumentTrees.tokens, place, place_append, List.cons_append, List.append_assoc]
    rw [assemble_comma _ _ _ _ _ rfl, assemble_type argument _ _ _ (prefix_front inside)
        (arguments_none_opened _ _ (by simp [NoneOpened])),
      assemble_arguments others _ _ _ _ (prefix_behind inside)]
    simp [ArgumentTrees.meanings]

end

/-! ## Trees from what the reader holds -/

/-- A name whose arguments are being read: the arguments so far, each with the blanks
before the comma behind it. -/
structure OpenNode where
  gap : Gap
  name : Name
  opening : Gap
  args : List (TypeTree × Gap)

/-- The tokens of arguments with their commas. -/
def argumentTokens (args : List (TypeTree × Gap)) : List Token :=
  args.flatMap fun entry => entry.1.tokens ++ [⟨entry.2, .comma⟩]

/-- The tokens of open nodes, which come innermost first. -/
def openTokens : List OpenNode → List Token
  | [] => []
  | node :: below =>
    openTokens below ++ (⟨node.gap, .name node.name.chars⟩ :: ⟨node.opening, .openAngle⟩ ::
      argumentTokens node.args)

/-- The tokens of the type under way, if there is one. -/
def underTokens (under : Option TypeTree) : List Token := under.elim [] TypeTree.tokens

/-- What the reader holds for open nodes. -/
def stackOf (table : TypeTable) : List OpenNode → List Pending
  | [] => []
  | node :: below =>
    ⟨String.ofList node.name.chars, (spell (openTokens below)).length + node.gap.chars.length,
        (node.args.map fun entry => entry.1.meaning table).reverse⟩ :: stackOf table below

/-- What the reader holds for the type under way, which starts at an offset. -/
def progressOf (table : TypeTable) (offset : Nat) : Option TypeTree → Progress
  | none => .none
  | some (.node (.bare gap name) []) => .named (String.ofList name.chars) (offset + gap.chars.length)
  | some tree => .built (tree.meaning table)

/-- The arguments of a node that is closed behind the last one. -/
def closeArguments : List (TypeTree × Gap) → TypeTree → TypeTree × ArgumentTrees
  | [], last => (last, .none)
  | (argument, comma) :: rest, last =>
    (argument, .more comma (closeArguments rest last).1 (closeArguments rest last).2)

private theorem close_tokens (args : List (TypeTree × Gap)) (last : TypeTree) :
    (closeArguments args last).1.tokens ++ (closeArguments args last).2.tokens =
      argumentTokens args ++ last.tokens := by
  induction args with
  | nil => simp [closeArguments, ArgumentTrees.tokens, argumentTokens]
  | cons entry rest ih =>
    simp only [argumentTokens] at ih
    simp [closeArguments, ArgumentTrees.tokens, argumentTokens, ih]

private theorem close_meanings (args : List (TypeTree × Gap)) (last : TypeTree) :
    (closeArguments args last).1.meaning table :: (closeArguments args last).2.meanings table =
      args.map (fun entry => entry.1.meaning table) ++ [last.meaning table] := by
  induction args with
  | nil => rfl
  | cons entry rest ih => simp [closeArguments, ArgumentTrees.meanings, ih]

/-- The type under way is what its tree says. -/
theorem progress_expr (offset : Nat) (tree : TypeTree) :
    (progressOf table offset (some tree)).expr? = some (tree.meaning table) := by
  unfold progressOf
  split <;> simp_all [Progress.expr?, TypeTree.meaning, PrimaryTree.meaning, wrapAll]

/-- What the reader can do with one lexeme. Anything else ends the reading. -/
inductive Step (table : TypeTable) (source : List Char) :
    List Pending → Progress → Lexeme → List Pending → Progress → Prop where
  | name : Step table source stack .none ⟨.name text, start, stop⟩ stack
      (.named (String.ofList text) start)
  | opened : Step table source stack (.named name begun) ⟨.openAngle, start, stop⟩
      (⟨name, begun, []⟩ :: stack) .none
  | wrapped (kind : Postfix) (under : progress.expr? = some expr) :
      Step table source stack progress ⟨kind.mark, start, stop⟩ stack (.built (kind.wrap expr))
  | comma (under : progress.expr? = some expr) :
      Step table source (top :: stack) progress ⟨.comma, start, stop⟩
        ({ top with args := expr :: top.args } :: stack) .none
  | closed (under : progress.expr? = some expr) :
      Step table source (top :: stack) progress ⟨.closeAngle, start, stop⟩ stack
        (.built (classify table source top.start stop top.name (top.args.reverse ++ [expr])))

/-- A reading that succeeds takes a step at each lexeme. -/
theorem assemble_step (read : assemble table source stack progress (lexeme :: rest) = some expr) :
    ∃ next after, Step table source stack progress lexeme next after ∧
      assemble table source next after rest = some expr := by
  obtain ⟨mark, start, stop⟩ := lexeme
  cases held : progress.expr? with
  | none =>
    -- Without a type under way only a name can come next.
    cases progress with
    | none =>
      cases mark with
      | name text => exact ⟨_, _, .name, (assemble_name ..) ▸ read⟩
      | _ =>
        unfold assemble at read
        simp [Progress.expr?] at read
    | named => cases held
    | built => cases held
  | some inner =>
    cases mark with
    | name text => cases progress <;> simp_all [assemble, Progress.expr?]
    | openAngle =>
      cases progress with
      | none => cases held
      | named name begun => exact ⟨_, _, .opened, (assemble_open ..) ▸ read⟩
      | built => simp [assemble] at read
    | brackets => exact ⟨_, _, .wrapped .brackets held, (assemble_wrap _ .brackets _ _ _ held) ▸ read⟩
    | question => exact ⟨_, _, .wrapped .question held, (assemble_wrap _ .question _ _ _ held) ▸ read⟩
    | comma =>
      cases stack with
      | nil => simp [assemble] at read
      | cons top stack => exact ⟨_, _, .comma held, (assemble_comma _ _ _ _ _ held) ▸ read⟩
    | closeAngle =>
      cases stack with
      | nil => simp [assemble] at read
      | cons top stack => exact ⟨_, _, .closed held, (assemble_close _ _ _ _ _ held) ▸ read⟩

/-- The reader has read these tokens: its stack and the type under way are those of
nodes and a tree that spell them. -/
def HasRead (table : TypeTable) (tokens : List Token) (stack : List Pending) (progress : Progress) :
    Prop :=
  ∃ nodes under, stack = stackOf table nodes ∧
    progress = progressOf table (spell (openTokens nodes)).length under ∧
    openTokens nodes ++ underTokens under = tokens

/-- The type under way with one more bracket pair or question mark. -/
def extended (gap : Gap) (kind : Postfix) : TypeTree → TypeTree
  | .node primary postfixes => .node primary (postfixes ++ [(gap, kind)])

theorem extended_tokens (gap : Gap) (kind : Postfix) (tree : TypeTree) :
    (extended gap kind tree).tokens = tree.tokens ++ [⟨gap, kind.mark⟩] := by
  obtain ⟨primary, postfixes⟩ := tree
  simp [extended, TypeTree.tokens, postfixTokens]

private theorem extended_progress (gap : Gap) (kind : Postfix) (tree : TypeTree) (offset : Nat) :
    progressOf table offset (some (extended gap kind tree)) = .built (kind.wrap (tree.meaning table)) := by
  obtain ⟨primary, postfixes⟩ := tree
  cases primary <;> cases postfixes <;> simp [extended, progressOf, TypeTree.meaning, wrapAll]

/-- The innermost open node, closed behind its last argument. -/
def closedNode (node : OpenNode) (last : TypeTree) (closing : Gap) : PrimaryTree :=
  .applied node.gap node.name node.opening (closeArguments node.args last).1
    (closeArguments node.args last).2 closing

private theorem closed_node_tokens (node : OpenNode) (below : List OpenNode) (last : TypeTree) (closing : Gap) :
    openTokens below ++ (closedNode node last closing).tokens =
      openTokens (node :: below) ++ last.tokens ++ [⟨closing, .closeAngle⟩] := by
  have inside := close_tokens node.args last
  simp only [closedNode, PrimaryTree.tokens, openTokens, ← List.append_assoc] at inside ⊢
  simp [inside]

/-- What the reader makes of a node that it closes. -/
theorem closed_node_meaning (node : OpenNode) (below : List OpenNode) (last : TypeTree) (closing : Gap)
    (sits : spell (openTokens (node :: below) ++ last.tokens ++ [⟨closing, .closeAngle⟩]) <+: source) :
    classify table source ((spell (openTokens below)).length + node.gap.chars.length)
        (spell (openTokens (node :: below) ++ last.tokens ++ [⟨closing, .closeAngle⟩])).length
        (String.ofList node.name.chars)
        (node.args.map (fun entry => entry.1.meaning table) ++ [last.meaning table]) =
      (closedNode node last closing).meaning table := by
  rw [← closed_node_tokens, spell_append] at sits ⊢
  have behind : spell (closedNode node last closing).tokens <+:
      source.drop (0 + (spell (openTokens below)).length) := prefix_behind sits
  rw [Nat.zero_add] at behind
  rw [← close_meanings, List.length_append]
  exact classify_node _ _ _ _ _ _ behind

/-- A name that may still get arguments is bare, without brackets or question marks. -/
theorem progress_named (named : progressOf table offset under = .named text begun) :
    ∃ gap name, under = some (.node (.bare gap name) []) ∧ text = String.ofList name.chars ∧
      begun = offset + gap.chars.length := by
  unfold progressOf at named
  split at named
  · cases named
  · cases named
    exact ⟨_, _, rfl, rfl, rfl⟩
  · cases named

/-- Where a type is under way, there is a tree for it. -/
theorem progress_some (read : (progressOf table offset under).expr? = some expr) :
    ∃ tree, under = some tree ∧ expr = tree.meaning table := by
  cases under with
  | none => cases read
  | some tree =>
    rw [progress_expr] at read
    exact ⟨tree, rfl, (Option.some.inj read).symm⟩

private theorem progress_none (read : progressOf table offset under = .none) : under = none := by
  cases under with
  | none => rfl
  | some tree =>
    have underway : (progressOf table offset (some tree)).expr? = some (tree.meaning table) :=
      progress_expr offset tree
    rw [read] at underway
    cases underway

/-- A step of the reader keeps its stack and the type under way true to the tokens. -/
theorem step_has_read (held : HasRead table tokens stack progress)
    (valid : NamesValid [token]) (sits : spell (tokens ++ [token]) <+: source)
    (step : Step table source stack progress
      ⟨token.mark, (spell tokens).length + token.gap.chars.length, (spell (tokens ++ [token])).length⟩
      next after) :
    HasRead table (tokens ++ [token]) next after := by
  obtain ⟨gap, mark⟩ := token
  obtain ⟨nodes, under, rfl, rfl, rfl⟩ := held
  -- The cases of a step fix its stack, progress and lexeme, so all four become variables first.
  generalize begins : (spell (openTokens nodes ++ underTokens under)).length + gap.chars.length =
    start at step
  generalize ends : (spell (openTokens nodes ++ underTokens under ++ [⟨gap, mark⟩])).length =
    stop at step
  generalize underway : progressOf table (spell (openTokens nodes)).length under = progress at step
  generalize opened : stackOf table nodes = stack at step
  cases step with
  | @name _ text =>
    have isName : IsName text := valid ⟨gap, .name text⟩ (by simp) text rfl
    cases progress_none underway
    refine ⟨nodes, some (.node (.bare gap ⟨text, isName⟩) []), opened.symm, ?_, ?_⟩
    · simp [progressOf, ← begins, underTokens]
    · simp [underTokens, TypeTree.tokens, PrimaryTree.tokens, postfixTokens]
  | opened =>
    obtain ⟨before, name, rfl, rfl, rfl⟩ := progress_named underway
    refine ⟨⟨before, name, gap, []⟩ :: nodes, none, ?_, rfl, ?_⟩
    · simp [stackOf, opened]
    · simp [openTokens, underTokens, argumentTokens, TypeTree.tokens, PrimaryTree.tokens, postfixTokens]
  | wrapped kind read =>
    rw [← underway] at read
    obtain ⟨tree, rfl, rfl⟩ := progress_some read
    refine ⟨nodes, some (extended gap kind tree), opened.symm, (extended_progress ..).symm, ?_⟩
    simp only [underTokens, Option.elim, extended_tokens, List.append_assoc]
    rfl
  | comma read =>
    rw [← underway] at read
    obtain ⟨tree, rfl, rfl⟩ := progress_some read
    rcases nodes with _ | ⟨node, below⟩
    · cases opened
    · cases opened
      refine ⟨{ node with args := node.args ++ [(tree, gap)] } :: below, none, ?_, rfl, ?_⟩
      · simp [stackOf]
      · simp [openTokens, underTokens, argumentTokens]
  | closed read =>
    rw [← underway] at read
    obtain ⟨tree, rfl, rfl⟩ := progress_some read
    rcases nodes with _ | ⟨node, below⟩
    · cases opened
    · cases opened
      refine ⟨below, some (.node (closedNode node tree gap) []), rfl, ?_, ?_⟩
      · rw [← ends, List.reverse_reverse]
        exact congrArg Progress.built (closed_node_meaning node below tree gap sits)
      · simp [underTokens, TypeTree.tokens, postfixTokens, closed_node_tokens]

/-- A reading that reaches its end has read the tokens of one tree. -/
theorem has_read_end (held : HasRead table tokens stack progress)
    (read : assemble table source stack progress [] = some expr) :
    ∃ tree : TypeTree, tree.tokens = tokens ∧ expr = tree.meaning table := by
  obtain ⟨nodes, under, rfl, rfl, rfl⟩ := held
  cases nodes with
  | nil =>
    obtain ⟨tree, rfl, rfl⟩ := progress_some read
    exact ⟨tree, rfl, rfl⟩
  | cons => cases read

/-- What the reader gives is the meaning of a tree that spells all the tokens. -/
theorem assemble_sound (rest : List Token) (held : HasRead table tokens stack progress)
    (valid : NamesValid rest) (sits : spell (tokens ++ rest) <+: source)
    (read : assemble table source stack progress (place (spell tokens).length rest) = some expr) :
    ∃ tree : TypeTree, tree.tokens = tokens ++ rest ∧ expr = tree.meaning table := by
  induction rest generalizing tokens stack progress with
  | nil => simpa using has_read_end held read
  | cons token rest ih =>
    -- One token moves from those to come to those that have been read.
    obtain ⟨next, after, step, goesOn⟩ := assemble_step read
    have whole : tokens ++ token :: rest = tokens ++ [token] ++ rest := by simp
    have ends : (spell tokens).length + token.gap.chars.length + (markChars token.mark).length =
        (spell (tokens ++ [token])).length := by
      simp [spell_append, spell_cons, spell_nil, Nat.add_assoc]
    rw [whole] at sits ⊢
    rw [ends] at step goesOn
    have front : spell (tokens ++ [token]) <+: source := by
      rw [spell_append (tokens ++ [token])] at sits
      exact (List.prefix_append _ _).trans sits
    have tokenValid : NamesValid [token] := fun other member =>
      valid other (List.mem_cons.mpr (.inl (List.mem_singleton.mp member)))
    have restValid : NamesValid rest := fun other member => valid other (List.mem_cons_of_mem _ member)
    exact ih (step_has_read held tokenValid front step) restValid sits goesOn

/-! ## Whole signatures -/

/-- A text whose last character is not blank. -/
def EndsBare (text : List Char) : Prop := ∀ c ∈ text.getLast?, isBlank c = false

theorem trim_ends_bare (text : List Char) : EndsBare (Chars.trim text) := by
  intro c last
  simp only [Chars.trim, Chars.trimEnd, Chars.dropEndWhile, List.getLast?_reverse] at last
  have first := List.head?_dropWhile_not isBlank (Chars.trimStart text).reverse
  rw [Option.mem_def.mp last] at first
  simpa using first

private theorem spelling_reaches_end (bare : EndsBare text) (spelling : Spelling text offset lexemes) :
    spelling.trailing.chars = [] := by
  rcases List.eq_nil_or_concat spelling.trailing.chars with none | ⟨before, c, some⟩
  · exact none
  · have blank : isBlank c = true := spelling.trailing.blank c (by simp [some])
    have last : isBlank c = false := bare c (by simp [spelling.spells, some])
    rw [blank] at last
    cases last

/-- A text is read exactly when it has a derivation, and as the derivation says. -/
theorem parse_chars_eq_some_iff (bare : EndsBare text) :
    parseChars? table text = some expr ↔
      ∃ derivation : Derivation text, expr = derivation.tree.meaning table := by
  constructor
  · intro read
    obtain ⟨lexemes, scanned, read⟩ := Option.bind_eq_some_iff.mp read
    obtain ⟨spelling⟩ := scan_sound [] 0 text (.inl rfl) (Nat.zero_le _) scanned
    -- No blank ends the text, so nothing is left behind the last token.
    have reaches := spelling_reaches_end bare spelling
    obtain ⟨tokens, ⟨_, blank⟩, spells, places, valid, maximal⟩ := spelling
    cases reaches
    cases places
    simp only [List.reverse_nil, List.nil_append, List.append_nil] at spells
    subst spells
    obtain ⟨tree, same, rfl⟩ := assemble_sound tokens ⟨[], none, rfl, rfl, rfl⟩ valid
      (List.prefix_refl _) read
    exact ⟨⟨tree, congrArg spell same, same ▸ maximal⟩, rfl⟩
  · rintro ⟨⟨tree, spells, maximal⟩, rfl⟩
    subst spells
    have sits : spell tree.tokens <+: (spell tree.tokens).drop 0 := List.prefix_refl _
    rw [parseChars?, scan_whole _ (type_names_valid tree) maximal, Option.bind_some,
      ← List.append_nil (place 0 tree.tokens),
      assemble_type tree [] 0 [] sits (by simp [NoneOpened])]
    rfl

/-- Reading a signature follows the grammar and nothing else. The text without the
blanks around it has at most one derivation; where it has one, the signature reads as
that tree, and where it has none, as its own text. -/
theorem parse_follows_grammar (table : TypeTable) (signature : String) :
    (∀ first second : Derivation (Chars.trim signature.toList), first = second) ∧
    (∀ derivation : Derivation (Chars.trim signature.toList),
      parse table signature = derivation.tree.meaning table) ∧
    (¬ Nonempty (Derivation (Chars.trim signature.toList)) →
      parse table signature = .verbatim (Text.trim signature)) := by
  have reads (expr : TypeExpr) : parseChars? table (Chars.trim signature.toList) = some expr ↔
      ∃ derivation : Derivation (Chars.trim signature.toList), expr = derivation.tree.meaning table :=
    parse_chars_eq_some_iff (trim_ends_bare signature.toList)
  refine ⟨fun first second => derivation_unique first second, fun derivation => ?_, fun none => ?_⟩
  · rw [parse, (reads _).mpr ⟨derivation, rfl⟩, Option.getD_some]
  · rw [parse]
    cases read : parseChars? table (Chars.trim signature.toList) with
    | none => rfl
    | some expr =>
      obtain ⟨derivation, _⟩ := (reads expr).mp read
      exact absurd ⟨derivation⟩ none

/-- A dictionary whose key is not a bare name keeps the text of its node, and the
question mark behind it still counts. -/
theorem parse_follows_grammar_composite_key :
    ∃ derivation : Derivation (Chars.trim " Dictionary< A[],b > ?".toList),
      derivation.tree.meaning .standard = .nullable (.verbatim "Dictionary< A[],b >") ∧
      parse .standard " Dictionary< A[],b > ?" = derivation.tree.meaning .standard := by
  let none : Gap := Spelling.noGap
  let blank : Gap := ⟨[' '], by simp [isBlank]⟩
  let key : TypeTree := .node (.bare blank ⟨['A'], by simp [IsName]; decide⟩) [(none, .brackets)]
  let value : TypeTree := .node (.bare none ⟨['b'], by simp [IsName]; decide⟩) []
  let dictionary : PrimaryTree :=
    .applied none ⟨"Dictionary".toList, by simp [IsName]; decide⟩ none key (.more none value .none) blank
  have maximal : NamesMaximal (TypeTree.node dictionary [(blank, .question)]).tokens [] := by
    simp [dictionary, key, value, none, blank, Spelling.noGap, NamesMaximal, TypeTree.tokens,
      PrimaryTree.tokens, ArgumentTrees.tokens, postfixTokens, NameStops, spell, Postfix.mark, markChars]
    decide
  let derivation : Derivation (Chars.trim " Dictionary< A[],b > ?".toList) :=
    ⟨.node dictionary [(blank, .question)], by decide +kernel, maximal⟩
  exact ⟨derivation, rfl, (parse_follows_grammar .standard _).2.1 derivation⟩

end TypeStubs.SignatureReading

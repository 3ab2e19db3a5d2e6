import TypeStubs.TypeExpr.Parse

/-! The grammar of type signatures, stated without any reader. A derivation is a tree
whose leaves, in order, spell the text; the meaning of a signature is a function of its
tree. Blanks may stand before every token and nowhere else.

    Type    := Primary ( '[]' | '?' )*
    Primary := Name ( '<' Type ( ',' Type )* '>' )?
-/
namespace TypeStubs.SignatureGrammar
open TypeExpr

/-- The blanks before a token. -/
structure Gap where
  chars : List Char
  blank : ∀ c ∈ chars, isBlank c = true

/-- A run of name characters that is not empty. An at sign may stand first. -/
def IsName : List Char → Prop
  | [] => False
  | c :: s => (Lexeme.isNameChar c = true ∨ c = '@') ∧ ∀ d ∈ s, Lexeme.isNameChar d = true

/-- A name as it is written. -/
structure Name where
  chars : List Char
  valid : IsName chars

/-- What may follow a primary, any number of times. -/
inductive Postfix where
  | brackets
  | question
  deriving DecidableEq

mutual

/-- A derivation of `Type`. -/
inductive TypeTree where
  | node (primary : PrimaryTree) (postfixes : List (Gap × Postfix))

/-- A derivation of `Primary`. -/
inductive PrimaryTree where
  | bare (gap : Gap) (name : Name)
  | applied (gap : Gap) (name : Name) (opening : Gap) (first : TypeTree)
      (others : ArgumentTrees) (closing : Gap)

/-- A derivation of the arguments behind the first one, each with its comma. -/
inductive ArgumentTrees where
  | none
  | more (comma : Gap) (argument : TypeTree) (rest : ArgumentTrees)

end

/-- A leaf of a derivation: a mark of the signature and the blanks before it. -/
structure Token where
  gap : Gap
  mark : Mark

/-- A mark as it is written. No blank can stand inside one. -/
def markChars : Mark → List Char
  | .name text => text
  | .openAngle => ['<']
  | .closeAngle => ['>']
  | .comma => [',']
  | .brackets => ['[', ']']
  | .question => ['?']

/-- The text of tokens in order. -/
def spell (tokens : List Token) : List Char :=
  tokens.flatMap fun token => token.gap.chars ++ markChars token.mark

/-- The mark a postfix is written with. -/
def Postfix.mark : Postfix → Mark
  | .brackets => .brackets
  | .question => .question

/-- The tokens of postfixes. -/
def postfixTokens (postfixes : List (Gap × Postfix)) : List Token :=
  postfixes.map fun entry => ⟨entry.1, entry.2.mark⟩

mutual

/-- The leaves of a derivation of `Type`. -/
def TypeTree.tokens : TypeTree → List Token
  | .node primary postfixes => primary.tokens ++ postfixTokens postfixes

/-- The leaves of a derivation of `Primary`. -/
def PrimaryTree.tokens : PrimaryTree → List Token
  | .bare gap name => [⟨gap, .name name.chars⟩]
  | .applied gap name opening first others closing =>
    ⟨gap, .name name.chars⟩ :: ⟨opening, .openAngle⟩ ::
      (first.tokens ++ (others.tokens ++ [⟨closing, .closeAngle⟩]))

/-- The leaves of the arguments behind the first one. -/
def ArgumentTrees.tokens : ArgumentTrees → List Token
  | .none => []
  | .more comma argument rest => ⟨comma, .comma⟩ :: (argument.tokens ++ rest.tokens)

end

/-- No name goes on into this text. -/
def NameStops (after : List Char) : Prop := ∀ c ∈ after.head?, Lexeme.isNameChar c = false

/-- Every name among the tokens is a whole run: a name character never follows it,
whether in the next token or in the text behind the last one. -/
def NamesMaximal : List Token → List Char → Prop
  | [], _ => True
  | token :: rest, after =>
    (∀ text, token.mark = .name text → NameStops (spell rest ++ after)) ∧ NamesMaximal rest after

/-- A derivation of a text: a tree that spells it and whose names are maximal in it. -/
structure Derivation (text : List Char) where
  tree : TypeTree
  spells : spell tree.tokens = text
  maximal : NamesMaximal tree.tokens []

/-- The layer that a postfix puts around a type. -/
def Postfix.wrap : Postfix → TypeExpr → TypeExpr
  | .brackets => .array
  | .question => .nullable

/-- The postfixes applied from left to right. -/
def wrapAll (postfixes : List (Gap × Postfix)) (expr : TypeExpr) : TypeExpr :=
  postfixes.foldl (fun inner entry => entry.2.wrap inner) expr

/-- The name of a type that is nothing but a name. -/
def TypeTree.bareName? : TypeTree → Option String
  | .node (.bare _ name) [] => some (String.ofList name.chars)
  | _ => none

/-- What a name with arguments means. `key` is the first argument's name where that
argument is bare, and `text` is the source of the node. -/
def applied (table : TypeTable) (name text : String) (key : Option String) :
    List TypeExpr → TypeExpr
  | [element] =>
    if table.isCollection name then .collection name element else .generic name [element]
  | [first, value] =>
    if table.isDictionary name then
      match key with
      | some key => .dictionary name key value
      | none => .verbatim text
    else .generic name [first, value]
  | args => .generic name args

mutual

/-- What a derivation of `Type` says. -/
def TypeTree.meaning (table : TypeTable) : TypeTree → TypeExpr
  | .node primary postfixes => wrapAll postfixes (primary.meaning table)

/-- What a derivation of `Primary` says. The source of a node with arguments goes from
its name to its closing bracket, without the blanks before the name. -/
def PrimaryTree.meaning (table : TypeTable) : PrimaryTree → TypeExpr
  | .bare _ name => .atomic (String.ofList name.chars)
  | .applied _ name opening first others closing =>
    applied table (String.ofList name.chars)
      (String.ofList (name.chars ++ spell (⟨opening, .openAngle⟩ ::
        (first.tokens ++ (others.tokens ++ [⟨closing, .closeAngle⟩])))))
      first.bareName? (first.meaning table :: others.meanings table)

/-- What the arguments behind the first one say. -/
def ArgumentTrees.meanings (table : TypeTable) : ArgumentTrees → List TypeExpr
  | .none => []
  | .more _ argument rest => argument.meaning table :: rest.meanings table

end

end TypeStubs.SignatureGrammar

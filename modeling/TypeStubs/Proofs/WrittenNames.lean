import TypeStubs.TypeExpr.Render

/-! Which names the text of a type shows, and which names its expression refers to. The
text is taken apart into names and the marks between them. Every name that is referred
to is shown, in the same order; a name that is shown is referred to unless it is a
transparent name that has not exactly one argument. -/
namespace TypeStubs.WrittenNames
open TypeExpr

mutual

/-- No part of the expression is verbatim text. -/
def Clear : TypeExpr → Prop
  | .atomic _ => True
  | .nullable inner => Clear inner
  | .array inner => Clear inner
  | .collection _ element => Clear element
  | .dictionary _ _ value => Clear value
  | .generic _ args => AllClear args
  | .verbatim _ => False

/-- No part of any of the expressions is verbatim text. -/
def AllClear : List TypeExpr → Prop
  | [] => True
  | expr :: rest => Clear expr ∧ AllClear rest

end

/-- A piece of the text of a type: a type name, or a mark that stands between names. -/
inductive Piece where
  | name (text : String)
  | brackets
  /-- The start of a map type, up to its key. -/
  | mapOpening
  | openAngle
  | separator
  | closeAngle
  deriving DecidableEq, Repr

namespace Piece

/-- A piece as it is written. -/
def text : Piece → String
  | .name text => text
  | .brackets => "[]"
  | .mapOpening => "Record<"
  | .openAngle => "<"
  | .separator => ", "
  | .closeAngle => ">"

/-- The name that a piece shows. -/
def name? : Piece → Option String
  | .name text => some text
  | _ => none

end Piece

/-- The text of pieces in order. -/
def textOf (pieces : List Piece) : String := String.join (pieces.map Piece.text)

/-- The names that pieces show, in order. -/
def namesIn (pieces : List Piece) : List String := pieces.filterMap Piece.name?

/-- The pieces of lists with separators between them. -/
def separated (lists : List (List Piece)) : List Piece := [Piece.separator].intercalate lists

mutual

/-- The pieces of the type that an expression is printed as. Names stand for atomic types,
for the keys of maps and before arguments. -/
def pieces (table : TypeTable) : TypeExpr → List Piece
  | .atomic name => [.name (table.translate name)]
  | .nullable inner => pieces table inner
  | .array inner => pieces table inner ++ [.brackets]
  | .collection _ element => pieces table element ++ [.brackets]
  | .dictionary _ key value =>
    .mapOpening :: .name (table.translate key) :: .separator :: pieces table value ++ [.closeAngle]
  | .generic name args =>
    match table.isTransparent name, piecesAll table args with
    | true, [arg] => arg
    | _, lists => .name (table.translate name) :: .openAngle :: separated lists ++ [.closeAngle]
  | .verbatim _ => []

/-- The pieces of each of a list of expressions. -/
def piecesAll (table : TypeTable) : List TypeExpr → List (List Piece)
  | [] => []
  | expr :: rest => pieces table expr :: piecesAll table rest

end

/-- The names that the printed type shows, from left to right. -/
def shownNames (table : TypeTable) (expr : TypeExpr) : List String := namesIn (pieces table expr)

mutual

/-- The transparent names in an expression that have not exactly one argument, and so are
shown. -/
def shownTransparent (table : TypeTable) : TypeExpr → List String
  | .atomic _ => []
  | .nullable inner => shownTransparent table inner
  | .array inner => shownTransparent table inner
  | .collection _ element => shownTransparent table element
  | .dictionary _ _ value => shownTransparent table value
  | .generic name args =>
    (if table.isTransparent name ∧ args.length ≠ 1 then [name] else []) ++ shownTransparentAll table args
  | .verbatim _ => []

/-- The same for a list of expressions. -/
def shownTransparentAll (table : TypeTable) : List TypeExpr → List String
  | [] => []
  | expr :: rest => shownTransparent table expr ++ shownTransparentAll table rest

end

variable (table : TypeTable)

@[simp]
theorem text_of_nil : textOf [] = "" := by simp [textOf]

@[simp]
theorem text_of_cons (piece : Piece) (rest : List Piece) :
    textOf (piece :: rest) = piece.text ++ textOf rest := by
  simp [textOf]

@[simp]
theorem text_of_append (first last : List Piece) : textOf (first ++ last) = textOf first ++ textOf last := by
  simp [textOf]

private theorem separated_cons (first next : List Piece) (rest : List (List Piece)) :
    separated (first :: next :: rest) = first ++ .separator :: separated (next :: rest) := by
  simp [separated, List.intercalate_cons_cons]

private theorem text_of_separated (lists : List (List Piece)) :
    textOf (separated lists) = Text.join ", " (lists.map textOf) := by
  induction lists with
  | nil => simp [separated, Text.join]
  | cons first rest ih =>
    cases rest with
    | nil => simp [separated, Text.join]
    | cons next others =>
      simp only [Text.join, List.map_cons, String.intercalate_cons_cons] at ih ⊢
      rw [separated_cons, text_of_append, text_of_cons, ih]
      simp [Piece.text, String.append_assoc]

mutual

private theorem pieces_text (expr : TypeExpr) (clear : Clear expr) :
    textOf (pieces table expr) = expr.render table := by
  match expr with
  | .atomic name => simp [pieces, render, Piece.text]
  | .nullable inner =>
    simp only [pieces, render]
    exact pieces_text inner clear
  | .array inner =>
    have inside := pieces_text inner clear
    simp [pieces, render, Piece.text, inside]
  | .collection _ element =>
    have inside := pieces_text element clear
    simp [pieces, render, Piece.text, inside]
  | .dictionary _ key value =>
    have inside := pieces_text value clear
    simp [pieces, render, Piece.text, inside, String.append_assoc]
  | .generic name args =>
    have inside := pieces_all_texts args clear
    have applied (lists : List (List Piece)) :
        textOf (.name (table.translate name) :: .openAngle :: separated lists ++ [.closeAngle]) =
          table.translate name ++ "<" ++ Text.join ", " (lists.map textOf) ++ ">" := by
      simp [text_of_separated, Piece.text, String.append_assoc]
    simp only [pieces, render, ← inside]
    -- The printer looks at the number of texts, which is the number of lists of pieces.
    cases table.isTransparent name with
    | false => exact applied _
    | true =>
      match piecesAll table args with
      | [] => exact applied []
      | [arg] => rfl
      | first :: second :: rest => exact applied (first :: second :: rest)

private theorem pieces_all_texts (exprs : List TypeExpr) (clear : AllClear exprs) :
    (piecesAll table exprs).map textOf = renderAll table exprs := by
  match exprs with
  | [] => rfl
  | expr :: rest =>
    have first := pieces_text expr clear.1
    have others := pieces_all_texts rest clear.2
    simp [piecesAll, renderAll, first, others]

end

@[simp]
theorem names_in_nil : namesIn [] = [] := rfl

@[simp]
theorem names_in_cons (piece : Piece) (rest : List Piece) :
    namesIn (piece :: rest) = piece.name?.toList ++ namesIn rest := by
  cases piece <;> rfl

@[simp]
theorem names_in_append (first last : List Piece) :
    namesIn (first ++ last) = namesIn first ++ namesIn last := by
  simp [namesIn]

private theorem names_in_separated (lists : List (List Piece)) :
    namesIn (separated lists) = lists.flatMap namesIn := by
  induction lists with
  | nil => simp [separated]
  | cons first rest ih =>
    cases rest with
    | nil => simp [separated]
    | cons next others =>
      rw [separated_cons, names_in_append, names_in_cons, ih]
      simp [Piece.name?]

/-- The names that a list of printed types shows. -/
def shownNamesAll (exprs : List TypeExpr) : List String := (piecesAll table exprs).flatMap namesIn

private theorem shown_all_cons (expr : TypeExpr) (rest : List TypeExpr) :
    shownNamesAll table (expr :: rest) = shownNames table expr ++ shownNamesAll table rest := by
  simp [shownNamesAll, piecesAll, shownNames]

/-- A name with arguments is shown before the names of its arguments, unless it is
transparent and has one argument. -/
theorem shown_generic (name : String) (args : List TypeExpr) :
    shownNames table (.generic name args) =
      (if table.isTransparent name ∧ args.length = 1 then [] else [table.translate name]) ++
        shownNamesAll table args := by
  have applied (lists : List (List Piece)) :
      namesIn (.name (table.translate name) :: .openAngle :: separated lists ++ [.closeAngle]) =
        table.translate name :: lists.flatMap namesIn := by
    simp [names_in_separated, Piece.name?]
  simp only [shownNames, pieces, shownNamesAll]
  cases table.isTransparent name with
  | false =>
    rw [if_neg (by simp)]
    exact applied _
  | true =>
    match args with
    | [] =>
      rw [if_neg (by simp)]
      exact applied []
    | [arg] => simp [piecesAll]
    | first :: second :: rest =>
      rw [if_neg (by simp)]
      exact applied _

mutual

/-- Every name that is referred to is shown, in its place among the others. -/
theorem names_shown (expr : TypeExpr) :
    ((expr.names table).map table.translate).Sublist (shownNames table expr) := by
  match expr with
  | .atomic name => simp [names, shownNames, pieces, Piece.name?]
  | .nullable inner =>
    simp only [names, shownNames, pieces]
    exact names_shown inner
  | .array inner =>
    have inside := names_shown inner
    simpa [names, shownNames, pieces, Piece.name?] using inside
  | .collection _ element =>
    have inside := names_shown element
    simpa [names, shownNames, pieces, Piece.name?] using inside
  | .dictionary _ key value =>
    have inside := names_shown value
    simpa [names, shownNames, pieces, Piece.name?] using inside
  | .generic name args =>
    have inside := names_all_shown args
    rw [shown_generic, names]
    by_cases transparent : table.isTransparent name = true
    · rw [if_pos transparent]
      exact inside.trans (List.sublist_append_right ..)
    · rw [if_neg transparent, if_neg (fun both => transparent both.1)]
      exact inside.cons_cons _
  | .verbatim _ => simp [names]

private theorem names_all_shown (exprs : List TypeExpr) :
    ((namesAll table exprs).map table.translate).Sublist (shownNamesAll table exprs) := by
  match exprs with
  | [] => simp [namesAll]
  | expr :: rest =>
    rw [namesAll, List.map_append, shown_all_cons]
    exact (names_shown expr).append (names_all_shown rest)

end

mutual

/-- What is shown beyond the names that are referred to are transparent names. -/
theorem shown_length (expr : TypeExpr) :
    (shownNames table expr).length =
      (expr.names table).length + (shownTransparent table expr).length := by
  match expr with
  | .atomic name => simp [names, shownNames, pieces, Piece.name?, shownTransparent]
  | .nullable inner =>
    simp only [names, shownNames, pieces, shownTransparent]
    exact shown_length inner
  | .array inner =>
    have inside := shown_length inner
    simpa [names, shownNames, pieces, Piece.name?, shownTransparent] using inside
  | .collection _ element =>
    have inside := shown_length element
    simpa [names, shownNames, pieces, Piece.name?, shownTransparent] using inside
  | .dictionary _ key value =>
    have inside := shown_length value
    simp only [shownNames] at inside
    simp [names, shownNames, pieces, Piece.name?, shownTransparent, inside]
    omega
  | .generic name args =>
    have inside := shown_all_length args
    rw [shown_generic, names, shownTransparent, List.length_append, List.length_append, inside]
    by_cases transparent : table.isTransparent name = true
    · by_cases single : args.length = 1
      · simp [transparent, single]
      · simp [transparent, single]
        omega
    · simp [transparent]
      omega
  | .verbatim _ => simp [names, shownNames, pieces, shownTransparent]

private theorem shown_all_length (exprs : List TypeExpr) :
    (shownNamesAll table exprs).length =
      (namesAll table exprs).length + (shownTransparentAll table exprs).length := by
  match exprs with
  | [] => rfl
  | expr :: rest =>
    have first := shown_length expr
    have others := shown_all_length rest
    simp only [shown_all_cons, namesAll, shownTransparentAll, List.length_append]
    omega

end

/-- The text of a type is made of names and of marks between them. The names that the
expression refers to are shown there in their order, and they are all that is shown
exactly when every transparent name in the expression has one argument. -/
theorem shown_names_referenced (expr : TypeExpr) (clear : Clear expr) :
    textOf (pieces table expr) = expr.render table ∧
    ((expr.names table).map table.translate).Sublist (shownNames table expr) ∧
    (shownNames table expr = (expr.names table).map table.translate ↔
      shownTransparent table expr = []) := by
  refine ⟨pieces_text table expr clear, names_shown table expr, ?_⟩
  have count := shown_length table expr
  constructor
  · intro same
    rw [same, List.length_map] at count
    exact List.eq_nil_of_length_eq_zero (by omega)
  · intro none
    rw [none, List.length_nil] at count
    exact ((names_shown table expr).eq_of_length (by simp [count])).symm

/-- A map from a name to a transparent name around one argument. -/
def orderMap : TypeExpr := parse .standard "Dictionary<CustomerId, Task<Page<Order[]>>>"

theorem shown_names_referenced_map :
    Clear orderMap ∧ orderMap.render .standard = "Record<CustomerId, Page<Order[]>>" ∧
      shownNames .standard orderMap = (orderMap.names .standard).map (TypeTable.translate .standard) ∧
      shownNames .standard orderMap = ["CustomerId", "Page", "Order"] := by
  have read : orderMap = .dictionary "Dictionary" "CustomerId"
      (.generic "Task" [.generic "Page" [.array (.atomic "Order")]]) := rfl
  have clear : Clear orderMap := by
    rw [read]
    simp [Clear, AllClear]
  obtain ⟨spelled, _, shown⟩ := shown_names_referenced .standard orderMap clear
  refine ⟨clear, ?_, shown.mpr ?_, ?_⟩
  · rw [← spelled, read]
    decide +kernel
  · rw [read]
    decide +kernel
  · rw [read]
    decide +kernel

/-- A transparent name with two arguments. -/
def nullablePair : TypeExpr := parse .standard "Nullable<A, B>"

/-- The name before two arguments is shown, and the expression does not refer to it. -/
theorem transparent_pair_not_referenced :
    Clear nullablePair ∧ nullablePair.render .standard = "Nullable<A, B>" ∧
      shownNames .standard nullablePair = ["Nullable", "A", "B"] ∧
      (nullablePair.names .standard).map (TypeTable.translate .standard) = ["A", "B"] ∧
      shownNames .standard nullablePair ≠
        (nullablePair.names .standard).map (TypeTable.translate .standard) := by
  have read : nullablePair = .generic "Nullable" [.atomic "A", .atomic "B"] := rfl
  rw [read]
  refine ⟨by simp [Clear, AllClear], ?_, ?_, ?_, ?_⟩
  all_goals decide +kernel

end TypeStubs.WrittenNames

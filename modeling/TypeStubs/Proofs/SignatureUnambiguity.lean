import TypeStubs.Proofs.SignatureLexemes

/-! A text has at most one derivation. The scanner fixes the tokens of a text, and the
tokens fix the tree: each decision of the grammar shows in the mark of the next token. -/
namespace TypeStubs.SignatureUnambiguity
open TypeExpr SignatureGrammar SignatureLexemes

/-- The first of the tokens, if there is one, has none of the marks. -/
def StartsWithout (marks : List Mark) (tokens : List Token) : Prop :=
  ∀ token ∈ tokens.head?, token.mark ∉ marks

private theorem name_eq {name other : Name} (same : name.chars = other.chars) : name = other := by
  cases name
  cases other
  cases same
  rfl

private theorem mark_injective : Function.Injective Postfix.mark := by
  intro first second same
  cases first <;> cases second <;> first | rfl | cases same

/-- Postfixes go on until a token that is none. -/
theorem postfixes_injective (first second : List (Gap × Postfix))
    (firstStops : StartsWithout [.brackets, .question] rest)
    (secondStops : StartsWithout [.brackets, .question] others)
    (same : postfixTokens first ++ rest = postfixTokens second ++ others) :
    first = second ∧ rest = others := by
  have marked (kind : Postfix) : kind.mark ∈ [Mark.brackets, Mark.question] := by
    cases kind <;> simp [Postfix.mark]
  induction first generalizing second with
  | nil =>
    cases second with
    | nil => exact ⟨rfl, same⟩
    | cons entry entries =>
      subst same
      exact absurd (marked entry.2) (firstStops _ rfl)
  | cons entry entries ih =>
    cases second with
    | nil =>
      subst same
      exact absurd (marked entry.2) (secondStops _ rfl)
    | cons other rest =>
      obtain ⟨gap, kind⟩ := entry
      obtain ⟨otherGap, otherKind⟩ := other
      simp only [postfixTokens, List.map_cons, List.cons_append, List.cons.injEq,
        Token.mk.injEq] at same
      obtain ⟨⟨rfl, marks⟩, same⟩ := same
      obtain ⟨rfl, rfl⟩ := ih _ same
      cases mark_injective marks
      exact ⟨rfl, rfl⟩

private theorem starts_without_append {tokens rest : List Token} (first : StartsWithout marks tokens)
    (last : StartsWithout marks rest) : StartsWithout marks (tokens ++ rest) := by
  cases tokens with
  | nil => exact last
  | cons => exact first

private theorem postfixes_start (postfixes : List (Gap × Postfix)) :
    StartsWithout [.openAngle] (postfixTokens postfixes) := by
  rcases postfixes with _ | ⟨⟨gap, kind⟩, rest⟩
  · simp [StartsWithout, postfixTokens]
  · cases kind <;> simp [StartsWithout, postfixTokens, Postfix.mark]

private theorem starts_without_subset {marks : List Mark} (start : StartsWithout marks tokens)
    (fewer : less ⊆ marks) : StartsWithout less tokens :=
  fun token member found => start token member (fewer found)

/-- Behind an argument stands a comma or what follows the last argument. -/
private theorem arguments_start (others : ArgumentTrees) (stops : StartsWithout marks tail)
    (noComma : .comma ∉ marks) : StartsWithout marks (others.tokens ++ tail) := by
  refine starts_without_append ?_ stops
  cases others with
  | none => simp [StartsWithout, ArgumentTrees.tokens]
  | more => simpa [StartsWithout, ArgumentTrees.tokens] using noComma

mutual

private theorem type_tokens_injective (first second : TypeTree)
    (firstStops : StartsWithout [.openAngle, .brackets, .question] rest)
    (secondStops : StartsWithout [.openAngle, .brackets, .question] others)
    (same : first.tokens ++ rest = second.tokens ++ others) : first = second ∧ rest = others := by
  match first, second with
  | .node primary postfixes, .node other otherPostfixes =>
    simp only [TypeTree.tokens, List.append_assoc] at same
    obtain ⟨rfl, behind⟩ := primary_tokens_injective primary other
      (starts_without_append (postfixes_start _) (starts_without_subset firstStops (by simp)))
      (starts_without_append (postfixes_start _) (starts_without_subset secondStops (by simp))) same
    obtain ⟨rfl, rfl⟩ := postfixes_injective _ _ (starts_without_subset firstStops (by simp))
      (starts_without_subset secondStops (by simp)) behind
    exact ⟨rfl, rfl⟩

private theorem primary_tokens_injective (first second : PrimaryTree)
    (firstStops : StartsWithout [.openAngle] rest) (secondStops : StartsWithout [.openAngle] others)
    (same : first.tokens ++ rest = second.tokens ++ others) : first = second ∧ rest = others := by
  match first, second with
  | .bare gap name, .bare otherGap otherName =>
    simp only [PrimaryTree.tokens, List.cons_append, List.nil_append, List.cons.injEq,
      Token.mk.injEq, Mark.name.injEq] at same
    obtain ⟨⟨rfl, names⟩, rfl⟩ := same
    cases name_eq names
    exact ⟨rfl, rfl⟩
  | .bare .., .applied .. =>
    simp only [PrimaryTree.tokens, List.cons_append, List.nil_append, List.cons.injEq] at same
    obtain ⟨_, rfl⟩ := same
    exact absurd (by simp) (firstStops _ rfl)
  | .applied .., .bare .. =>
    simp only [PrimaryTree.tokens, List.cons_append, List.nil_append, List.cons.injEq] at same
    obtain ⟨_, rfl⟩ := same
    exact absurd (by simp) (secondStops _ rfl)
  | .applied gap name opening argument arguments closing,
      .applied otherGap otherName otherOpening other otherArguments otherClosing =>
    simp only [PrimaryTree.tokens, List.cons_append, List.append_assoc, List.nil_append,
      List.cons.injEq, Token.mk.injEq, Mark.name.injEq, and_true] at same
    obtain ⟨⟨rfl, names⟩, rfl, same⟩ := same
    cases name_eq names
    obtain ⟨rfl, behind⟩ := type_tokens_injective argument other
      (arguments_start arguments (by simp [StartsWithout]) (by simp))
      (arguments_start otherArguments (by simp [StartsWithout]) (by simp)) same
    obtain ⟨rfl, closings⟩ := argument_tokens_injective arguments otherArguments
      (by simp [StartsWithout]) (by simp [StartsWithout]) behind
    simp only [List.cons.injEq, Token.mk.injEq, and_true] at closings
    obtain ⟨rfl, rfl⟩ := closings
    exact ⟨rfl, rfl⟩

private theorem argument_tokens_injective (first second : ArgumentTrees)
    (firstStops : StartsWithout [.comma, .openAngle, .brackets, .question] rest)
    (secondStops : StartsWithout [.comma, .openAngle, .brackets, .question] others)
    (same : first.tokens ++ rest = second.tokens ++ others) : first = second ∧ rest = others := by
  match first, second with
  | .none, .none => exact ⟨rfl, same⟩
  | .none, .more .. =>
    subst same
    exact absurd (by simp) (firstStops _ rfl)
  | .more .., .none =>
    subst same
    exact absurd (by simp) (secondStops _ rfl)
  | .more comma argument arguments, .more otherComma other otherArguments =>
    simp only [ArgumentTrees.tokens, List.cons_append, List.append_assoc, List.cons.injEq,
      Token.mk.injEq, and_true] at same
    obtain ⟨rfl, same⟩ := same
    obtain ⟨rfl, behind⟩ := type_tokens_injective argument other
      (arguments_start arguments (starts_without_subset firstStops (by simp)) (by simp))
      (arguments_start otherArguments (starts_without_subset secondStops (by simp)) (by simp)) same
    obtain ⟨rfl, rfl⟩ := argument_tokens_injective arguments otherArguments firstStops secondStops behind
    exact ⟨rfl, rfl⟩

end

mutual

theorem type_names_valid (tree : TypeTree) : NamesValid tree.tokens := by
  match tree with
  | .node primary postfixes =>
    intro token member name named
    rcases List.mem_append.mp (by simpa only [TypeTree.tokens] using member) with member | member
    · exact primary_names_valid primary token member name named
    · obtain ⟨⟨gap, kind⟩, _, rfl⟩ := List.mem_map.mp member
      cases kind <;> cases named

private theorem primary_names_valid (tree : PrimaryTree) : NamesValid tree.tokens := by
  match tree with
  | .bare gap name =>
    intro token member text named
    cases List.mem_singleton.mp (by simpa only [PrimaryTree.tokens] using member)
    cases named
    exact name.valid
  | .applied gap name opening first others closing =>
    intro token member text named
    simp only [PrimaryTree.tokens, List.mem_cons, List.mem_append, List.not_mem_nil, or_false] at member
    rcases member with rfl | rfl | member | member | rfl
    · cases named
      exact name.valid
    · cases named
    · exact type_names_valid first token member text named
    · exact argument_names_valid others token member text named
    · cases named

private theorem argument_names_valid (trees : ArgumentTrees) : NamesValid trees.tokens := by
  match trees with
  | .none => simp [NamesValid, ArgumentTrees.tokens]
  | .more comma argument rest =>
    intro token member text named
    simp only [ArgumentTrees.tokens, List.mem_cons, List.mem_append] at member
    rcases member with rfl | member | member
    · cases named
    · exact type_names_valid argument token member text named
    · exact argument_names_valid rest token member text named

end

/-- A text has at most one derivation. -/
theorem derivation_unique (first second : Derivation text) : first = second := by
  obtain ⟨tree, spells, maximal⟩ := first
  obtain ⟨other, otherSpells, otherMaximal⟩ := second
  have tokens := spell_injective (type_names_valid tree) maximal (type_names_valid other)
    otherMaximal (spells.trans otherSpells.symm)
  obtain ⟨rfl, -⟩ := type_tokens_injective tree other (by simp [StartsWithout])
    (by simp [StartsWithout]) (congrArg (· ++ []) tokens)
  rfl

end TypeStubs.SignatureUnambiguity

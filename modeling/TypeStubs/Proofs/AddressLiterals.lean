import TypeStubs.Proofs.PathSlots
import TypeStubs.Proofs.TemplateLiterals

/-! The address of a request as the literal that is written for it says it, beside what the
route says. Only backticks are escaped in the path of a literal. That is enough exactly where
the path has no other character that a literal reads in its own way: a backslash, a carriage
return, or a dollar sign before an opening brace. -/
namespace TypeStubs.AddressLiterals
open Route RouteHoles RouteParts PathSlots TemplateLiterals

/-! ## Paths and names -/

/-- The path of a request as the route has it: holes reduced to their names, and without
what stands before the first segment. -/
def writtenPath (method : Method) : List Char :=
  ((reduceHoles (rawPath method)).dropWhile (· == '~')).dropWhile (· == '/')

/-- A path that a literal reads as it is, backticks apart. -/
structure Tame (path : List Char) : Prop where
  unescaped : '\\' ∉ path
  unreturned : '\r' ∉ path
  uninterpolated : ¬['$', '\x7b'] <:+: path

private theorem tame_cons : Tame (c :: path) ↔
    (c ≠ '\\' ∧ c ≠ '\r') ∧ (c = '$' → path.head? ≠ some '\x7b') ∧ Tame path := by
  have starts : ['$', '\x7b'] <+: c :: path ↔ c = '$' ∧ path.head? = some '\x7b' := by
    rw [List.cons_prefix_cons, eq_comm, and_congr_right_iff]
    rintro -
    cases path <;> simp [eq_comm]
  constructor
  · rintro ⟨unescaped, unreturned, uninterpolated⟩
    rw [List.mem_cons, not_or] at unescaped unreturned
    rw [List.infix_cons_iff, not_or, starts] at uninterpolated
    exact ⟨⟨Ne.symm unescaped.1, Ne.symm unreturned.1⟩, fun dollar brace => uninterpolated.1 ⟨dollar, brace⟩,
      unescaped.2, unreturned.2, uninterpolated.2⟩
  · rintro ⟨⟨backslash, feed⟩, unopened, unescaped, unreturned, uninterpolated⟩
    refine ⟨by simp [Ne.symm backslash, unescaped], by simp [Ne.symm feed, unreturned], ?_⟩
    rw [List.infix_cons_iff, not_or, starts]
    exact ⟨fun opens => unopened opens.1 opens.2, uninterpolated⟩

private theorem tame_nil : Tame [] := ⟨by simp, by simp, by simp⟩

instance decideTame : (path : List Char) → Decidable (Tame path)
  | [] => .isTrue tame_nil
  | _ :: path =>
    have := decideTame path
    decidable_of_iff _ tame_cons.symm

private theorem Tame.of_append (tame : Tame (front ++ back)) : Tame front ∧ Tame back := by
  constructor
  · exact ⟨fun member => tame.unescaped (List.mem_append_left _ member),
      fun member => tame.unreturned (List.mem_append_left _ member),
      fun inside => tame.uninterpolated (inside.trans (List.prefix_append front back).isInfix)⟩
  · exact ⟨fun member => tame.unescaped (List.mem_append_right _ member),
      fun member => tame.unreturned (List.mem_append_right _ member),
      fun inside => tame.uninterpolated (inside.trans (List.suffix_append front back).isInfix)⟩

private theorem tame_text (free : '\x7b' ∉ text) (unescaped : '\\' ∉ text ∧ '\r' ∉ text)
    (apart : rest.head? ≠ some '\x7b') (tame : Tame rest) : Tame (text ++ rest) := by
  induction text with
  | nil => exact tame
  | cons c text ih =>
    simp only [List.mem_cons, not_or] at free unescaped
    refine tame_cons.mpr ⟨⟨Ne.symm unescaped.1.1, Ne.symm unescaped.2.1⟩, fun _ => ?_,
      ih free.2 ⟨unescaped.1.2, unescaped.2.2⟩⟩
    cases text with
    | nil => exact apart
    | cons d text =>
      intro brace
      have opens : d = '\x7b' := Option.some.inj brace
      exact free.2 (opens ▸ List.mem_cons_self)

private theorem tame_slot (unbraced : Unbraced name) (unescaped : '\\' ∉ name ∧ '\r' ∉ name) (tame : Tame rest) :
    Tame ((Atom.slot name).chars ++ rest) := by
  have closed : Tame ('\x7d' :: rest) := tame_cons.mpr ⟨by decide, by simp, tame⟩
  have inner := tame_text unbraced.unopened unescaped (by simp) closed
  have spelled : (Atom.slot name).chars ++ rest = '\x7b' :: (name ++ '\x7d' :: rest) := by simp [Atom.chars]
  rw [spelled]
  exact tame_cons.mpr ⟨by decide, by simp, inner⟩

/-- Characters that open or close something in code, or that text cannot have as they are. -/
def marks : List Char := ['`', '\\', '\x7b', '\x7d', '"', '\'', '/', '\r']

/-- A text without marks, as every name is. -/
def Inert (text : List Char) : Prop := ∀ c ∈ text, c ∉ marks

instance (text : List Char) : Decidable (Inert text) :=
  decidable_of_iff (text.all (· ∉ marks) = true) (by simp [Inert])

namespace Inert

theorem free (inert : Inert text) (mark : c ∈ marks) : c ∉ text := fun member => inert c member mark

theorem unbraced (inert : Inert text) : Unbraced text := ⟨inert.free (by decide), inert.free (by decide)⟩

/-- A parameter that gets an underscore keeps its other characters. -/
theorem ident {param : Member} (inert : Inert param.key.toList) : Inert param.ident.toList := by
  unfold Member.ident
  split
  · intro c member
    rw [String.toList_append, List.mem_append] at member
    rcases member with member | member
    · exact inert c member
    · rw [show c = '_' by simpa using member]
      decide
  · exact inert

/-- Letters of another case are no marks either. -/
theorem lowered (inert : Inert key) (same : Chars.asciiLower key = Chars.asciiLower name) : Inert name := by
  intro c member mark
  have lowered : c.toLower ∈ Chars.asciiLower key := same ▸ List.mem_map_of_mem member
  obtain ⟨k, inside, lower⟩ := List.mem_map.mp lowered
  have letterless : marks.all (fun mark => decide (Unlettered mark)) = true := by decide
  have unlettered : Unlettered c := of_decide_eq_true (List.all_eq_true.mp letterless c mark)
  have kept : c.toLower = c := (lower_eq_iff c unlettered).mpr rfl
  have found : k = c := (lower_eq_iff k unlettered).mp (lower.trans kept)
  exact inert k inside (found ▸ mark)

theorem follow (inert : Inert code) (apart : last ≠ some '/') :
    ∃ ended, TemplateLiterals.follow last [] code = some (ended, []) := by
  induction code generalizing last with
  | nil => exact ⟨last, rfl⟩
  | cons c code ih =>
    obtain ⟨mark, inert⟩ := List.forall_mem_cons.mp inert
    simp only [marks, List.mem_cons, List.not_mem_nil, or_false, not_or] at mark
    have advanced : advance last [] c = some (some c, []) := by simp [advance, mark, apart]
    rw [TemplateLiterals.follow, advanced]
    exact ih inert (by simp [mark])

/-- A name closes all that it opens, which is nothing. -/
theorem whole (inert : Inert code) : Whole code := by
  obtain ⟨ended, followed⟩ := inert.follow (show none ≠ some '/' by simp)
  rw [Whole, followed]
  rfl

end Inert

/-! ## What the route says -/

/-- What a part of the path says. A slot stands for the first parameter that it names, and
for itself where it names none. -/
def said (params : List Member) : Atom → List Element
  | .char c => spelled [c]
  | .slot name =>
    match params.find? fun param => names param name with
    | some param => [.code param.ident.toList]
    | none => spelled (Atom.slot name).chars

/-- The code that the query is put in with. -/
def queryCode : List Char := "queryString ? `?$\x7bqueryString\x7d` : ''".toList

/-- What the address of a request has to say: the base, the path of the route behind a
slash, and the query if anything goes into it. -/
def address (base : String) (method : Method) : List Element :=
  .code base.toList ::
    ((if writtenPath method = [] then []
      else spelled ['/'] ++ (atoms (writtenPath method)).flatMap (said method.parameters)) ++
    if (template method).query = [] then [] else [.code queryCode])

/-! ## Escaped text -/

/-- A text with its backticks escaped. -/
def escaped (text : List Char) : List Char := Chars.replaceChar '`' ['\\', '`'] text

private theorem escaped_append (front back : List Char) : escaped (front ++ back) = escaped front ++ escaped back := by
  simp [escaped, Chars.replaceChar]

private theorem escaped_cons (c : Char) (text : List Char) : escaped (c :: text) = escaped [c] ++ escaped text :=
  escaped_append [c] text

private theorem escaped_free (free : '`' ∉ text) : escaped text = text := by
  induction text with
  | nil => rfl
  | cons c text ih =>
    rw [List.mem_cons, not_or] at free
    rw [escaped_cons, ih free.2]
    simp [escaped, Chars.replaceChar, Ne.symm free.1]

private theorem escaped_head (other : c ≠ '\x7b') (rest : List Char) : (escaped [c] ++ rest).head? ≠ some '\x7b' := by
  by_cases backtick : c = '`'
  · simp [escaped, Chars.replaceChar, backtick]
  · simp [escaped, Chars.replaceChar, backtick, other]

private theorem spelled_cons (c : Char) (text : List Char) : spelled (c :: text) = spelled [c] ++ spelled text := by
  simp [spelled]

/-- Escaping pays for what a text says. -/
theorem cost_spelled (text : List Char) : cost (spelled text) = (escaped text).length := by
  induction text with
  | nil => rfl
  | cons c text ih =>
    rw [spelled_cons, escaped_cons, cost_append, List.length_append, ih, cost_char]
    by_cases backtick : c = '`' <;> simp [escaped, Chars.replaceChar, backtick]

/-- A clean text has no characters that need an escape it does not get. -/
theorem clean_text (clean : Clean (spelled text ++ others)) : ('\\' ∉ text ∧ '\r' ∉ text) ∧ Clean others := by
  induction text with
  | nil => exact ⟨by simp, clean⟩
  | cons c text ih =>
    rw [spelled_cons, List.append_assoc] at clean
    obtain ⟨⟨backslash, feed⟩, -, clean⟩ := (clean_char c _).mp clean
    obtain ⟨⟨unescaped, unreturned⟩, clean⟩ := ih clean
    exact ⟨⟨by simp [Ne.symm backslash, unescaped], by simp [Ne.symm feed, unreturned]⟩, clean⟩

private theorem map_behind (others : Option (List Element)) (front back : List Element) :
    (others.map (back ++ ·)).map (front ++ ·) = others.map (front ++ back ++ ·) := by
  simp [Function.comp_def]

private theorem read_escaped_char (unescaped : c ≠ '\\' ∧ c ≠ '\r') (unopened : c = '$' → rest.head? ≠ some '\x7b') :
    read .text (escaped [c] ++ rest) = (read .text rest).map (spelled [c] ++ ·) := by
  by_cases backtick : c = '`'
  · subst backtick
    exact read_backtick rest
  · rw [escaped_free (by simpa using Ne.symm backtick)]
    exact read_char ⟨backtick, unescaped⟩ unopened

private theorem read_escaped (tame : Tame text) (closed : text.getLast? ≠ some '$') (rest : List Char) :
    read .text (escaped text ++ rest) = (read .text rest).map (spelled text ++ ·) := by
  induction text with
  | nil => exact Option.map_id_apply.symm
  | cons c text ih =>
    obtain ⟨unescaped, unopened, tame⟩ := tame_cons.mp tame
    have apart (dollar : c = '$') : (escaped text ++ rest).head? ≠ some '\x7b' := by
      cases text with
      | nil => simp [dollar] at closed
      | cons d text =>
        rw [escaped_cons, List.append_assoc]
        exact escaped_head (by simpa using unopened dollar) _
    have later : text.getLast? ≠ some '$' := by
      cases text with
      | nil => simp
      | cons d text => simpa [List.getLast?_cons] using closed
    rw [escaped_cons, List.append_assoc, read_escaped_char unescaped apart, ih tame later, map_behind,
      ← spelled_cons]

/-! ## The path in the literal -/

private theorem interpolation_append (code rest : List Char) :
    interpolation code ++ rest = '$' :: '\x7b' :: code ++ '\x7d' :: rest := by
  simp [interpolation]

private theorem interpolation_free (inert : Inert code) : '`' ∉ interpolation code := by
  have free : '`' ∉ code := inert.free (by decide)
  simp [interpolation, free]

private theorem said_bound {params : List Member} (found : (params.find? fun param => names param name) = some param) :
    said params (.slot name) = [.code param.ident.toList] := by
  simp [said, found]

private theorem said_unbound {params : List Member} (missing : (params.find? fun param => names param name) = none) :
    said params (.slot name) = spelled (Atom.slot name).chars := by
  simp [said, missing]

section
variable {params : List Member} (inert : ∀ param ∈ params, Inert param.key.toList)

include inert in
/-- A slot that names a parameter has no marks in its name, and is no longer than the
parameter. -/
theorem bound_name (found : (params.find? fun param => names param name) = some param) :
    Inert param.ident.toList ∧ Inert name ∧ name.length ≤ param.ident.toList.length := by
  have known := inert param (List.mem_of_find?_eq_some found)
  have same : Chars.asciiLower param.key.toList = Chars.asciiLower name := by
    simpa [names] using List.find?_some found
  refine ⟨known.ident, known.lowered same, ?_⟩
  have lengths := congrArg List.length same
  simp only [Chars.asciiLower, List.length_map] at lengths
  rw [← lengths]
  unfold Member.ident
  split <;> simp

/-- No brace opens a filled path unless one opens the path. -/
theorem filled_unopened (params : List Member) {pieces : List Atom}
    (unopened : (pieces.flatMap Atom.chars).head? ≠ some '\x7b') (before : Option Char)
    (apart : rest.head? ≠ some '\x7b') :
    (escaped (filled params before pieces) ++ rest).head? ≠ some '\x7b' := by
  cases pieces with
  | nil => exact apart
  | cons atom pieces =>
    cases atom with
    | slot name => exact absurd rfl unopened
    | char c =>
      rw [filled, escaped_cons, List.append_assoc]
      exact escaped_head (fun brace => unopened (by simp [Atom.chars, brace])) _

include inert

/-- A tame path is read as what the route says. -/
theorem read_filled {pieces : List Atom} (tame : Tame (pieces.flatMap Atom.chars)) (before : Option Char)
    (behind : before = some '$' → (pieces.flatMap Atom.chars).head? ≠ some '\x7b')
    (apart : rest.head? ≠ some '\x7b') :
    read .text (escaped (filled params before pieces) ++ rest) =
      (read .text rest).map (pieces.flatMap (said params) ++ ·) := by
  induction pieces generalizing before with
  | nil => exact Option.map_id_apply.symm
  | cons atom pieces ih =>
    rw [List.flatMap_cons] at tame behind
    cases atom with
    | char c =>
      obtain ⟨unescaped, unopened, tame⟩ := tame_cons.mp tame
      have later (dollar : c = '$') := filled_unopened params (unopened dollar) (some c) apart
      rw [filled, escaped_cons, List.append_assoc, read_escaped_char unescaped later,
        ih tame (some c) (fun dollar => unopened (Option.some.inj dollar)), map_behind]
      rfl
    | slot name =>
      have undollared : before ≠ some '$' := fun dollar => behind dollar rfl
      obtain ⟨slot, tame⟩ := tame.of_append
      have later := ih tame (some '\x7d') (by simp)
      cases found : params.find? fun param => names param name with
      | some param =>
        have ident := (bound_name inert found).1
        have filling : escaped (shown params before name) = interpolation param.ident.toList := by
          simp only [shown, found, undollared, ↓reduceIte]
          exact escaped_free (interpolation_free ident)
        have inserted := read_interpolation ident.whole (escaped (filled params (some '\x7d') pieces) ++ rest)
        rw [filled, escaped_append, filling, List.append_assoc, interpolation_append, inserted, later,
          List.flatMap_cons, said_bound found]
        exact map_behind _ [.code param.ident.toList] _
      | none =>
        have filling : shown params before name = (Atom.slot name).chars := by simp [shown, found]
        have closed : (Atom.slot name).chars.getLast? ≠ some '$' := by
          rw [Atom.chars, List.getLast?_concat]
          simp
        rw [filled, filling, escaped_append, List.append_assoc, read_escaped slot closed, later, map_behind,
          List.flatMap_cons, said_unbound found]

/-- A slot takes no more characters than what it says, and fewer where a dollar sign keeps a
parameter out of it. -/
theorem shown_cost (before : Option Char) (name : List Char) :
    (escaped (shown params before name)).length < cost (said params (.slot name)) ∨
      (escaped (shown params before name)).length = cost (said params (.slot name)) ∧
        (before = some '$' → (params.find? fun param => names param name) = none) := by
  cases found : params.find? fun param => names param name with
  | none =>
    have filling : shown params before name = (Atom.slot name).chars := by simp [shown, found]
    rw [filling, said_unbound found, cost_spelled]
    exact .inr ⟨rfl, fun _ => rfl⟩
  | some param =>
    obtain ⟨ident, nameInert, shorter⟩ := bound_name inert found
    have price : cost [.code param.ident.toList] = param.ident.toList.length + 3 := by
      simp [cost, Element.cost]
    rw [said_bound found, price]
    by_cases dollar : before = some '$'
    · have free : '`' ∉ (Atom.slot name).chars := by
        simpa [Atom.chars] using nameInert.free (show '`' ∈ marks by decide)
      left
      rw [dollar, shown_dollared, escaped_free free]
      simp only [Atom.chars, List.length_append, List.length_cons, List.length_nil]
      omega
    · have filling : shown params before name = interpolation param.ident.toList := by
        simp [shown, found, dollar]
      right
      rw [filling, escaped_free (interpolation_free ident)]
      exact ⟨by simp [interpolation], fun same => absurd same dollar⟩

/-- A filled path has no more characters than it takes to say what the route says. -/
theorem filled_cost (before : Option Char) (pieces : List Atom) :
    (escaped (filled params before pieces)).length ≤ cost (pieces.flatMap (said params)) := by
  induction pieces generalizing before with
  | nil => exact Nat.le_refl 0
  | cons atom pieces ih =>
    rw [List.flatMap_cons, cost_append]
    cases atom with
    | char c =>
      have later := ih (some c)
      rw [filled, escaped_cons, List.length_append, said, cost_spelled]
      omega
    | slot name =>
      have later := ih (some '\x7d')
      rw [filled, escaped_append, List.length_append]
      rcases shown_cost inert before name with here | ⟨here, -⟩ <;> omega

/-- Where a filled path has all the characters that it takes, and what the route says is
clean, the path is tame. -/
theorem tame_of_clean {pieces : List Atom} (scanned : Scanned pieces) (before : Option Char)
    (exactly : (escaped (filled params before pieces)).length = cost (pieces.flatMap (said params)))
    (clean : Clean (pieces.flatMap (said params) ++ others))
    (behind : before = some '$' → (pieces.flatMap (said params) ++ others).head? ≠ some (.unit 123)) :
    Tame (pieces.flatMap Atom.chars) ∧
      (before = some '$' → (pieces.flatMap Atom.chars).head? ≠ some '\x7b') := by
  induction scanned generalizing before with
  | nil => exact ⟨tame_nil, by simp⟩
  | @char c rest _ _ ih =>
    rw [List.flatMap_cons, said, List.append_assoc] at clean behind
    rw [filled, escaped_cons, List.length_append, List.flatMap_cons, said, cost_append, cost_spelled] at exactly
    obtain ⟨unescaped, unopened, clean⟩ := (clean_char c _).mp clean
    obtain ⟨tame, later⟩ := ih (some c) (by omega) clean (fun dollar => unopened (Option.some.inj dollar))
    refine ⟨tame_cons.mpr ⟨unescaped, fun dollar => later (congrArg some dollar), tame⟩, fun dollar brace => ?_⟩
    have opens : c = '\x7b' := Option.some.inj brace
    subst opens
    exact behind dollar rfl
  | @slot name rest unbraced _ ih =>
    have whole := filled_cost inert (some '\x7d') rest
    rw [List.flatMap_cons, List.append_assoc] at clean behind
    rw [filled, escaped_append, List.length_append, List.flatMap_cons, cost_append] at exactly
    rcases shown_cost inert before name with loss | ⟨here, undollared⟩
    · omega
    · have later (clean : Clean (rest.flatMap (said params) ++ others)) :=
        (ih (some '\x7d') (by omega) clean (by simp)).1
      rw [List.flatMap_cons]
      cases found : params.find? fun param => names param name with
      | none =>
        rw [said_unbound found] at clean behind
        obtain ⟨⟨unescaped, unreturned⟩, clean⟩ := clean_text clean
        simp only [Atom.chars, List.mem_append, List.mem_cons, not_or] at unescaped unreturned
        exact ⟨tame_slot unbraced ⟨unescaped.1.2, unreturned.1.2⟩ (later clean),
          fun dollar => absurd rfl (behind dollar)⟩
      | some param =>
        rw [said_bound found] at clean
        have nameInert := (bound_name inert found).2.1
        refine ⟨tame_slot unbraced ⟨nameInert.free (by decide), nameInert.free (by decide)⟩ (later clean), ?_⟩
        intro dollar
        simp [undollared dollar] at found

end

/-! ## The literal -/

private theorem template_path {method : Method} (inert : ∀ param ∈ method.parameters, Inert param.key.toList) :
    (template method).path.toList =
      escaped (filled method.parameters none (atoms (writtenPath method))) := by
  have bound := bind_path method.parameters (fun param member => (inert param member).unbraced)
    (reduceHoles (rawPath method))
  have undecorated := filled_drop_while (· == '~') rfl rfl method.parameters (reduceHoles (rawPath method))
  have relative := filled_drop_while (· == '/') rfl rfl method.parameters
    ((reduceHoles (rawPath method)).dropWhile (· == '~'))
  simp only [template, String.toList_ofList, literalText]
  rw [bound, undecorated, relative]
  rfl

private theorem path_empty_iff {method : Method} (inert : ∀ param ∈ method.parameters, Inert param.key.toList) :
    (template method).path.isEmpty = true ↔ writtenPath method = [] := by
  rw [String.isEmpty_iff, ← String.toList_eq_nil_iff, template_path inert,
    ← filled_eq_nil_iff method.parameters (writtenPath method)]
  cases filled method.parameters none (atoms (writtenPath method)) with
  | nil => simp [escaped, Chars.replaceChar]
  | cons c text =>
    by_cases backtick : c = '`' <;> simp [escaped, Chars.replaceChar, backtick]

/-- The query as the literal has it. -/
def queryText (method : Method) : List Char :=
  if (template method).query = [] then [] else interpolation queryCode

private theorem url_chars {method : Method} (inert : ∀ param ∈ method.parameters, Inert param.key.toList)
    (base : String) :
    ((template method).url base).toList =
      '`' :: (interpolation base.toList ++
        ((if writtenPath method = [] then []
          else '/' :: escaped (filled method.parameters none (atoms (writtenPath method)))) ++
        (queryText method ++ ['`']))) := by
  have lead : "`$\x7b".toList = ['`', '$', '\x7b'] := String.toList_ofList
  have query : "$\x7bqueryString ? `?$\x7bqueryString\x7d` : ''\x7d".toList = interpolation queryCode :=
    String.toList_ofList.trans (congrArg interpolation (show queryCode = _ from String.toList_ofList)).symm
  have slash : "/".toList = ['/'] := String.toList_ofList
  have close : "\x7d".toList = ['\x7d'] := String.toList_ofList
  have backtick : "`".toList = ['`'] := String.toList_ofList
  rw [Template.url]
  simp only [String.toList_append, path_empty_iff inert, List.isEmpty_iff, apply_ite String.toList, template_path inert,
    lead, query, slash, close, backtick, String.toList_empty]
  simp [interpolation, queryText]

/-! ## Reading the address -/

/-- What the query says in the literal. -/
def querySaid (method : Method) : List Element :=
  if (template method).query = [] then [] else [.code queryCode]

private theorem query_whole : Whole queryCode :=
  (congrArg (fun code => (follow none [] code).map Prod.snd) String.toList_ofList).trans rfl

private theorem read_query (method : Method) : read .text (queryText method ++ ['`']) = some (querySaid method) := by
  unfold queryText querySaid
  split
  · rfl
  · rw [interpolation_append, read_interpolation query_whole]
    rfl

private theorem query_unopened (method : Method) : (queryText method ++ ['`']).head? ≠ some '\x7b' := by
  unfold queryText
  split <;> simp [interpolation]

private theorem query_cost (method : Method) : cost (querySaid method) = (queryText method).length := by
  unfold queryText querySaid
  split
  · rfl
  · simp [cost, Element.cost, interpolation]

private theorem map_eq_behind (read : Option (List Element)) (front back : List Element) :
    read.map (front ++ ·) = some (front ++ back) ↔ read = some back := by
  simp [Option.map_eq_some_iff]

/-- The path and the query are read as what the route says exactly where the path is
tame. -/
theorem read_path_iff {method : Method} (inert : ∀ param ∈ method.parameters, Inert param.key.toList) :
    read .text (escaped (filled method.parameters none (atoms (writtenPath method))) ++ (queryText method ++ ['`'])) =
        some ((atoms (writtenPath method)).flatMap (said method.parameters) ++ querySaid method) ↔
      Tame (writtenPath method) := by
  constructor
  · intro done
    -- The literal has no more characters than the route takes to be said, so none is lost.
    have ample := filled_cost inert none (atoms (writtenPath method))
    have query := query_cost method
    have credit : Mode.text.credit = 0 := rfl
    rcases read_paid done with loss | ⟨even, clean, -⟩
    · rw [cost_append, List.length_append, List.length_append, List.length_singleton] at loss
      omega
    · rw [cost_append, List.length_append, List.length_append, List.length_singleton] at even
      have tame := tame_of_clean inert (scanned_atoms (writtenPath method)) none (by omega) clean (by simp)
      rw [atoms_chars] at tame
      exact tame.1
  · intro tame
    rw [← atoms_chars (writtenPath method)] at tame
    rw [read_filled inert tame none (by simp) (query_unopened method), read_query, Option.map_some]

/-- The literal for the address of a request is one literal to its end, with the base, the
parameters and the query for its interpolations and the rest of the route for its text,
exactly where the path of the route is tame. -/
theorem address_read_iff_tame (method : Method) (base : String) (whole : Whole base.toList)
    (inert : ∀ param ∈ method.parameters, Inert param.key.toList) :
    lex ((template method).url base).toList = some (address base method) ↔ Tame (writtenPath method) := by
  have front (others : List Element) (rest : List Char) :
      read .text (interpolation base.toList ++ rest) = some (.code base.toList :: others) ↔
        read .text rest = some others := by
    rw [interpolation_append, read_interpolation whole]
    exact map_eq_behind _ [.code base.toList] others
  rw [url_chars inert, lex, if_pos rfl, address, front, ← querySaid]
  by_cases empty : writtenPath method = []
  · have query := read_query method
    simp only [empty, ↓reduceIte, List.nil_append]
    exact iff_of_true query tame_nil
  · rw [if_neg empty, if_neg empty, List.cons_append, List.append_assoc, read_char (by decide) (by simp),
      map_eq_behind]
    exact read_path_iff inert

/-- A route with a backslash before a backtick. -/
def quotedMethod : Method :=
  { identifier := "Get", returns := "string", route := some "\"a\\`b\"", verbTag := some "HttpGet" }

/-- The backslash of the route takes the one that escapes the backtick, and the literal ends
in the middle. -/
theorem backslash_ends_literal :
    ((template quotedMethod).url "environment.apiUrl" = "`$\x7benvironment.apiUrl\x7d/a\\\\`b`") ∧
    lex ((template quotedMethod).url "environment.apiUrl").toList = none := by
  decide +kernel

/-- A slot twice in different cases, a reserved word, a slot that no parameter fills, a
brace too many, a dollar sign before a slash, a backtick, and a parameter for the query. -/
def searchMethod : Method :=
  { identifier := "Search", returns := "Note", verbTag := some "HttpGet",
    route := some "@\"~/notes/\x7bID:int\x7d/`$/\x7b*class\x7d\x7bid\x7d\x7bpage?\x7d\x7d\"",
    parameters := [⟨"id", "int"⟩, ⟨"@class", "string"⟩, ⟨"text", "string"⟩] }

theorem address_read_search :
    Whole "api['/v1']".toList ∧ (∀ param ∈ searchMethod.parameters, Inert param.key.toList) ∧
    Tame (writtenPath searchMethod) ∧
    lex ((template searchMethod).url "api['/v1']").toList =
      some ([.code "api['/v1']".toList] ++ spelled "/notes/".toList ++ [.code "id".toList] ++
        spelled "/`$/".toList ++ [.code "class_".toList, .code "id".toList] ++ spelled "\x7bpage\x7d\x7d".toList ++
        [.code queryCode]) := by
  have whole : Whole "api['/v1']".toList := by decide +kernel
  have inert : ∀ param ∈ searchMethod.parameters, Inert param.key.toList := by decide +kernel
  have tame : Tame (writtenPath searchMethod) := by decide +kernel
  have read := (address_read_iff_tame searchMethod "api['/v1']" whole inert).mpr tame
  exact ⟨whole, inert, tame, read.trans (by decide +kernel)⟩

end TypeStubs.AddressLiterals

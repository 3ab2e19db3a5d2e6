import Mathlib.Data.List.Nodup
import TypeStubs.Proofs.RequestStubs

/-! The names in the emitted method of a client: those of its parameters and those that the
method declares itself. Parameters keep the names that they have in the source, but for an
underscore behind reserved words, and nothing keeps them apart from each other or from what
the method declares. So the names clash exactly when those of the source do: a reserved word
beside its marked form, or a parameter with the name of a declaration. -/
namespace TypeStubs.StubNames
open Route RouteHoles RequestStubs

/-- Characters of identifiers. -/
def isWordChar (c : Char) : Bool := isAlphanumeric c || c == '_' || c == '$'

/-- Whether a text is an identifier: its characters are those of identifiers, and it starts
with no digit. -/
def isWord : List Char → Bool
  | [] => false
  | first :: rest => !isNumeric first && (first :: rest).all isWordChar

private theorem word_chars (word : isWord text = true) : ∀ c ∈ text, isWordChar c = true := by
  cases text with
  | nil => cases word
  | cons first rest => exact List.all_eq_true.mp (Bool.and_eq_true_iff.mp word).2

private theorem ident_chars {param : Member} (word : isWord param.key.toList = true) :
    ∀ c ∈ param.ident.toList, isWordChar c = true := by
  unfold Member.ident
  split
  · have underscore : isWordChar '_' = true := rfl
    simpa [or_imp, forall_and, underscore] using word_chars word
  · exact word_chars word

/-- The name that a parameter text starts with. -/
def leadingName (text : String) : String := String.ofList (text.toList.takeWhile isWordChar)

/-- The names of the parameters in the signature of a method. -/
def signatureNames (style : Style) (method : Method) : List String :=
  (style.paramTexts method.parameters).map leadingName

private theorem leading_name (tail : List Char) (chars : ∀ c ∈ name.toList, isWordChar c = true)
    (stop : isWordChar mark = false) : leadingName (name ++ String.ofList (mark :: tail)) = name := by
  apply String.toList_inj.mp
  rw [leadingName, String.toList_ofList, String.toList_append, String.toList_ofList,
    List.takeWhile_append_of_pos chars, List.takeWhile_cons_of_neg (by simp [stop]), List.append_nil]

/-- Behind the name of a parameter stands the mark of an option or a colon. -/
theorem param_text_name (style : Style) (first place : Nat) {param : Member}
    (word : isWord param.key.toList = true) : leadingName (style.paramText first place param) = param.ident := by
  have option : isWordChar '?' = false := rfl
  have colon : isWordChar ':' = false := rfl
  have named (mark : Char) (tail : List Char) (stop : isWordChar mark = false) (text : String)
      (spelled : text = param.ident ++ String.ofList (mark :: tail)) : leadingName text = param.ident := by
    rw [spelled]
    exact leading_name tail (ident_chars word) stop
  unfold Style.paramText
  simp only
  split
  · refine named '?' (": ".toList ++ (style.print (style.read param.signature)).toList) option _ ?_
    apply String.toList_inj.mp
    simp
  · split
    · refine named ':' (" ".toList ++ (style.print (style.read param.signature)).toList ++ " | null".toList)
        colon _ ?_
      apply String.toList_inj.mp
      simp
    · refine named ':' (" ".toList ++ (style.print (style.read param.signature)).toList) colon _ ?_
      apply String.toList_inj.mp
      simp

private theorem param_texts_names (style : Style) (params : List Member)
    (words : ∀ param ∈ params, isWord param.key.toList = true) :
    (style.paramTexts params).map leadingName = params.map Member.ident := by
  apply List.ext_getElem?
  intro i
  rw [List.getElem?_map, List.getElem?_map, Style.paramTexts, List.getElem?_mapIdx]
  cases here : params[i]? with
  | none => rfl
  | some param => exact congrArg some (param_text_name style _ i (words param (List.mem_of_getElem? here)))

/-- What stands behind a word in a line that starts with it, apart from blanks. -/
def behind? (word : String) (line : List Char) : Option (List Char) :=
  Chars.dropLead? word.toList (Chars.trimStart line)

/-- The names in a pattern at the start of a text: those between brackets, or a single one. -/
def patternNames : List Char → List String
  | '[' :: rest =>
    (Chars.splitOn ',' (rest.takeWhile (· != ']'))).map fun name => String.ofList (Chars.trim name)
  | rest => [String.ofList (rest.takeWhile isWordChar)]

/-- The names that a line declares, as constants or for a loop. -/
def namesIn (line : List Char) : List String :=
  match (behind? "const " line).map patternNames with
  | some names => names
  | none => ((behind? "for (const " line).map patternNames).getD []

def declaredNames (line : String) : List String := namesIn line.toList

/-- Whether a pattern at the start of a text ends in the text. -/
def patternEnds : List Char → Bool
  | '[' :: rest => rest.contains ']'
  | rest => rest.any fun c => !isWordChar c

/-- Whether a text tells, for all lines that start with it, if they start with the word and
which pattern follows then. -/
def settles (word : String) (lead : List Char) : Bool :=
  match behind? word lead with
  | some pattern => patternEnds pattern
  | none => disagree (Chars.trimStart lead) word.toList

private theorem take_while_settled (rest : List Char) (stops : text.any (fun c => !p c) = true) :
    (text ++ rest).takeWhile p = text.takeWhile p := by
  induction text with
  | nil => cases stops
  | cons c text ih =>
    cases kept : p c with
    | false => simp [kept]
    | true =>
      have behind : text.any (fun c => !p c) = true := by simpa [kept] using stops
      simp [kept, ih behind]

private theorem pattern_names_append (rest : List Char) (ends : patternEnds pattern = true) :
    patternNames (pattern ++ rest) = patternNames pattern := by
  unfold patternEnds at ends
  split at ends
  · rename_i inner
    have closes : inner.any (fun c => !(c != ']')) = true := by simpa using ends
    simp only [List.cons_append, patternNames, take_while_settled rest closes]
  · rename_i unbracketed
    cases pattern with
    | nil => cases ends
    | cons first others =>
      have single (tail : List Char) : patternNames (first :: tail) =
          [String.ofList ((first :: tail).takeWhile isWordChar)] := by
        unfold patternNames
        split
        · rename_i same
          exact absurd (by rw [(List.cons.inj same).1]) (unbracketed others)
        · rfl
      rw [List.cons_append, single, single, ← List.cons_append, take_while_settled rest ends]

private theorem behind_eq_some_iff : behind? word line = some rest ↔ Chars.trimStart line = word.toList ++ rest := by
  unfold behind? Chars.dropLead?
  constructor
  · intro found
    split at found
    · rename_i starts
      obtain ⟨tail, whole⟩ := List.isPrefixOf_iff_prefix.mp starts
      rw [← whole, List.drop_left, Option.some.injEq] at found
      rw [← whole, found]
    · cases found
  · intro whole
    rw [whole, if_pos (List.isPrefixOf_iff_prefix.mpr (List.prefix_append _ _)), List.drop_left]

/-- A text that settles it tells which pattern stands behind a word. -/
theorem pattern_settled {lead : List Char} (settled : settles word lead = true) (rest : List Char) :
    (behind? word (lead ++ rest)).map patternNames = (behind? word lead).map patternNames := by
  unfold settles at settled
  split at settled
  · rename_i pattern found
    have start := behind_eq_some_iff.mp found
    have inked : Chars.trimStart lead ≠ [] := by
      intro blank
      rw [blank] at start
      rw [(List.append_eq_nil_iff.mp start.symm).2] at settled
      cases settled
    have further : behind? word (lead ++ rest) = some (pattern ++ rest) := by
      rw [behind_eq_some_iff, trim_start_append _ _ inked, start, List.append_assoc]
    rw [further, found, Option.map_some, Option.map_some, pattern_names_append rest settled]
  · rename_i absent
    have inked : Chars.trimStart lead ≠ [] := by
      intro blank
      simp [blank, disagree] at settled
    have missing : behind? word (lead ++ rest) = none := by
      unfold behind? Chars.dropLead?
      rw [trim_start_append _ _ inked, not_prefix_of_disagree rest settled]
      rfl
    rw [missing, absent]

/-- Which names a line declares is told from its start. -/
theorem names_settled {lead : List Char} (constant : settles "const " lead = true)
    (loop : settles "for (const " lead = true) (rest : List Char) : namesIn (lead ++ rest) = namesIn lead := by
  unfold namesIn
  rw [pattern_settled constant rest, pattern_settled loop rest]

private theorem names_led {leads : List (List Char)} (led : Led leads lines)
    (settled : (leads.all fun lead => settles "const " lead && settles "for (const " lead) = true) :
    lines.flatMap declaredNames = leads.flatMap namesIn := by
  induction led with
  | nil => rfl
  | cons starts further ih =>
    obtain ⟨here, settled⟩ := Bool.and_eq_true_iff.mp settled
    obtain ⟨constant, loop⟩ := Bool.and_eq_true_iff.mp here
    obtain ⟨rest, whole⟩ := starts
    rw [List.flatMap_cons, List.flatMap_cons, ih settled, declaredNames, ← whole, names_settled constant loop]

/-- Lines that start with given texts declare the names in these. -/
theorem declared_led {leads : List (List Char)} {names : List String} (led : Led leads lines)
    (told : (leads.all (fun lead => settles "const " lead && settles "for (const " lead) &&
      leads.flatMap namesIn == names) = true) :
    lines.flatMap declaredNames = names := by
  obtain ⟨settled, same⟩ := Bool.and_eq_true_iff.mp told
  exact (names_led led settled).trans (beq_iff_eq.mp same)

/-- The names that a method declares, in the order of its lines. -/
def stubNames (style : Style) (method : Method) : List String :=
  (style.methodLines method).flatMap declaredNames

/-- The variables of the loop that puts a parameter into the query. -/
def loopNames : Style.QueryForm → List String
  | .each => ["value"]
  | .plain => []
  | .spread => ["key", "value"]

/-- The form in which a parameter of a method goes into the query. -/
def formOf (style : Style) (method : Method) (param : Param) : Style.QueryForm :=
  (method.parameters[param.index]?).elim .spread fun member => style.queryForm (style.read member.signature)

/-- The names that are declared for a query with parameters of these forms. -/
def searchNames (forms : List Style.QueryForm) : List String :=
  if forms = [] then [] else "searchParams" :: forms.flatMap loopNames ++ ["queryString"]

private theorem query_lines_names (form : Style.QueryForm) (key ident : String) :
    (Style.queryLines form key ident).flatMap declaredNames = loopNames form := by
  cases form with
  | each =>
    have led : Led _ (Style.queryLines .each key ident) :=
      .cons (around_leads _ _ _) (.cons (around_leads _ _ _) (.cons (text_leads _) .nil))
    exact declared_led led rfl
  | plain =>
    have led : Led _ (Style.queryLines .plain key ident) :=
      .cons (around_two_leads _ _ _ _ _) (.cons (around_two_leads _ _ _ _ _) (.cons (text_leads _) .nil))
    exact declared_led led rfl
  | spread =>
    have led : Led _ (Style.queryLines .spread key ident) :=
      .cons (around_two_leads _ _ _ _ _) (.cons (around_leads _ _ _) (.cons (around_leads _ _ _) (.cons (text_leads _)
        (.cons (text_leads _) (.cons (text_leads _) (.cons (text_leads _) (.cons (text_leads _)
        (.cons (around_two_leads _ _ _ _ _) (.cons (text_leads _) (.cons (text_leads _) .nil))))))))))
    exact declared_led led rfl

private theorem query_block_names (style : Style) (method : Method) (query : List Param) :
    (style.queryBlock method query).flatMap declaredNames = searchNames (query.map (formOf style method)) := by
  have params : (query.flatMap (style.paramQueryLines method)).flatMap declaredNames =
      (query.map (formOf style method)).flatMap loopNames := by
    rw [List.flatMap_assoc, List.flatMap_map]
    exact congrArg query.flatMap
      (funext fun param => query_lines_names (formOf style method param) param.key param.ident)
  have search : ["        const searchParams = new URLSearchParams();"].flatMap declaredNames =
      ["searchParams"] := declared_led (.cons (text_leads _) .nil) rfl
  have text : ["        const queryString = searchParams.toString();"].flatMap declaredNames =
      ["queryString"] := declared_led (.cons (text_leads _) .nil) rfl
  unfold Style.queryBlock searchNames
  by_cases none : query = []
  · simp [none]
  · simp only [List.isEmpty_iff, none, ↓reduceIte, List.map_eq_nil_iff]
    rw [List.flatMap_append, List.flatMap_append, search, params, text]
    rfl

private theorem fetch_names (url : String) (request : Template) :
    (Style.fetchLines url request).flatMap declaredNames = ["response"] := by
  unfold Style.fetchLines
  split
  · exact declared_led (.cons (around_leads _ _ _) (.cons (around_leads _ _ _) (.cons (text_leads _)
      (.cons (around_leads _ _ _) (.cons (text_leads _) .nil))))) rfl
  · split
    · exact declared_led (.cons (around_leads _ _ _) .nil) rfl
    · exact declared_led (.cons (around_two_leads _ _ _ _ _) .nil) rfl

private theorem closing_names (verb name returns : String) :
    (closingLines verb name returns).flatMap declaredNames = [] := by
  have refused : ["        if (!response.ok) \x7b", "            throw new Error(`" ++ verb ++ " " ++ name ++
      " failed with status $\x7bresponse.status\x7d`);", "        \x7d"].flatMap declaredNames = [] :=
    declared_led (.cons (text_leads _) (.cons (around_two_leads _ _ _ _ _) (.cons (text_leads _) .nil))) rfl
  have returned : (if returns == "void" then [] else ["        return response.json();"]).flatMap declaredNames =
      [] := by
    split
    · rfl
    · exact declared_led (.cons (text_leads _) .nil) rfl
  have ended : ["    \x7d"].flatMap declaredNames = [] := declared_led (.cons (text_leads _) .nil) rfl
  rw [closingLines, List.flatMap_append, List.flatMap_append, refused, returned, ended]
  rfl

/-- A method declares what its query needs, and then the response. -/
theorem stub_names_eq (style : Style) (method : Method) :
    stubNames style method =
      searchNames ((template method).query.map (formOf style method)) ++ ["response"] := by
  let name := style.memberName method.identifier
  let returns := style.print (style.read method.returns)
  have signature : ["    public async " ++ name ++ "(" ++ style.parameterList method ++ "): Promise<" ++ returns ++
      "> \x7b"].flatMap declaredNames = [] :=
    declared_led (.cons (append_leads (append_leads (around_two_leads _ _ _ _ _) _) _) .nil) rfl
  have lines : style.methodLines method =
      ["    public async " ++ name ++ "(" ++ style.parameterList method ++ "): Promise<" ++ returns ++ "> \x7b"] ++
        style.queryBlock method (template method).query ++
        Style.fetchLines ((template method).url style.settings.client.baseUrl) (template method) ++
        closingLines (template method).verb.text name returns := by
    simp only [Style.methodLines, closingLines, List.append_assoc, name, returns]
  rw [stubNames, lines, List.flatMap_append, List.flatMap_append, List.flatMap_append, signature,
    query_block_names, fetch_names, closing_names, List.nil_append, List.append_nil]

private theorem ident_eq (param : Member) :
    param.ident = if param.key ∈ Member.reserved then param.key ++ "_" else param.key := by
  simp [Member.ident]

/-- The names that methods can declare. -/
def declarable : List String := ["searchParams", "queryString", "value", "key", "response"]

/-- Neither a reserved word nor a name that methods declare ends in an underscore, and none is
both. -/
theorem reserved_unmarked : ∀ word ∈ Member.reserved, word.toList.getLast? ≠ some '_' := by
  decide +kernel

private theorem declarable_unmarked :
    ∀ name ∈ declarable, name.toList.getLast? ≠ some '_' ∧ name ∉ Member.reserved := by
  decide +kernel

private theorem stub_names_declarable (style : Style) (method : Method) (member : name ∈ stubNames style method) :
    name ∈ declarable := by
  have loops (form : Style.QueryForm) (inside : name ∈ loopNames form) : name = "value" ∨ name = "key" := by
    cases form <;> simp [loopNames] at inside
    · exact .inl inside
    · exact inside.symm
  rw [stub_names_eq, searchNames] at member
  split at member
  · simp_all [declarable]
  · simp only [List.mem_append, List.mem_cons, List.mem_flatMap, List.not_mem_nil, or_false] at member
    rcases member with ((rfl | ⟨form, -, inside⟩) | rfl) | rfl
    · simp [declarable]
    · rcases loops form inside with rfl | rfl <;> simp [declarable]
    · simp [declarable]
    · simp [declarable]

private theorem marked_unreserved (word : String) : word ++ "_" ∉ Member.reserved :=
  fun member => reserved_unmarked _ member (by simp)

private theorem ident_unreserved (param : Member) : param.ident ∉ Member.reserved := by
  rw [ident_eq]
  split
  · exact marked_unreserved param.key
  · assumption

/-- A parameter is told from a declared name by its key. -/
theorem ident_declarable (member : name ∈ declarable) (param : Member) :
    param.ident = name ↔ param.key = name := by
  obtain ⟨unmarked, unreserved⟩ := declarable_unmarked name member
  rw [ident_eq]
  split
  · rename_i reserved
    refine iff_of_false (fun same => unmarked ?_) (fun same => unreserved (same ▸ reserved))
    rw [← same]
    simp
  · exact Iff.rfl

/-- Two parameters get the same name when they have the same key, and when the key of one is a
reserved word and that of the other its marked form. -/
theorem same_ident_iff (first second : Member) :
    first.ident = second.ident ↔ first.key = second.key ∨
      (first.key ∈ Member.reserved ∧ second.key = first.key ++ "_") ∨
      (second.key ∈ Member.reserved ∧ first.key = second.key ++ "_") := by
  rw [ident_eq, ident_eq]
  by_cases firstReserved : first.key ∈ Member.reserved
  · rw [if_pos firstReserved]
    by_cases secondReserved : second.key ∈ Member.reserved
    · have firstUnmarked : second.key ≠ first.key ++ "_" := fun same => marked_unreserved _ (same ▸ secondReserved)
      have secondUnmarked : first.key ≠ second.key ++ "_" := fun same => marked_unreserved _ (same ▸ firstReserved)
      rw [if_pos secondReserved]
      simp [firstUnmarked, secondUnmarked]
    · have different : first.key ≠ second.key := fun same => secondReserved (same ▸ firstReserved)
      rw [if_neg secondReserved]
      simp [firstReserved, secondReserved, different, eq_comm]
  · rw [if_neg firstReserved]
    by_cases secondReserved : second.key ∈ Member.reserved
    · have different : first.key ≠ second.key := fun same => firstReserved (same ▸ secondReserved)
      rw [if_pos secondReserved]
      simp [firstReserved, secondReserved, different]
    · rw [if_neg secondReserved]
      simp [firstReserved, secondReserved]

/-- Underscores keep keys apart exactly when none of them marks a reserved word whose marked
form is a key too. -/
theorem idents_distinct_iff {params : List Member} (distinct : (params.map Member.key).Nodup) :
    (params.map Member.ident).Nodup ↔
      ∀ word ∈ Member.reserved, word ∈ params.map Member.key → word ++ "_" ∉ params.map Member.key := by
  constructor
  · intro apart word reserved key marked
    obtain ⟨first, firstIn, rfl⟩ := List.mem_map.mp key
    obtain ⟨second, secondIn, markedKey⟩ := List.mem_map.mp marked
    have sameName : first.ident = second.ident := (same_ident_iff first second).mpr (.inr (.inl ⟨reserved, markedKey⟩))
    have same : first = second := List.inj_on_of_nodup_map apart firstIn secondIn sameName
    rw [← same] at markedKey
    exact marked_unreserved first.key (markedKey ▸ reserved)
  · intro unmarked
    have keyed (param : Member) (inside : param ∈ params) : param.key ∈ params.map Member.key :=
      List.mem_map_of_mem inside
    unfold List.Nodup at distinct ⊢
    rw [List.pairwise_map] at distinct ⊢
    apply distinct.imp_of_mem
    intro first second firstIn secondIn different sameName
    rcases (same_ident_iff first second).mp sameName with same | ⟨reserved, marked⟩ | ⟨reserved, marked⟩
    · exact different same
    · exact unmarked _ reserved (keyed first firstIn) (marked ▸ keyed second secondIn)
    · exact unmarked _ reserved (keyed second secondIn) (marked ▸ keyed first firstIn)

/-- The names in an emitted method do not clash. A parameter is visible in all of the method,
so what the method declares must have other names. -/
structure Hygienic (style : Style) (method : Method) : Prop where
  distinct : (signatureNames style method).Nodup
  unreserved : ∀ name ∈ signatureNames style method, name ∉ Member.reserved
  undeclared : ∀ name ∈ signatureNames style method, name ∉ stubNames style method

/-- The names in an emitted method whose parameters are named by different identifiers. The
parameters keep their names, but for an underscore behind reserved words, and the method
declares what its query needs and the response. The names do not clash exactly when no
reserved word is given beside its marked form and no parameter of the source has the name of
a declaration. -/
theorem hygienic_iff_keys_apart (style : Style) (method : Method)
    (words : ∀ param ∈ method.parameters, isWord param.key.toList = true)
    (distinct : (method.parameters.map Member.key).Nodup) :
    signatureNames style method = method.parameters.map (fun param =>
      if param.key ∈ Member.reserved then param.key ++ "_" else param.key) ∧
    stubNames style method =
      searchNames ((template method).query.map (formOf style method)) ++ ["response"] ∧
    (Hygienic style method ↔
      (∀ word ∈ Member.reserved, word ∈ method.parameters.map Member.key →
        word ++ "_" ∉ method.parameters.map Member.key) ∧
      ∀ key ∈ method.parameters.map Member.key, key ∉ stubNames style method) := by
  have idents : signatureNames style method = method.parameters.map Member.ident :=
    param_texts_names style method.parameters words
  have declared (name : String) (member : name ∈ stubNames style method) :
      name ∈ method.parameters.map Member.ident ↔ name ∈ method.parameters.map Member.key := by
    simp only [List.mem_map, ident_declarable (stub_names_declarable style method member)]
  refine ⟨idents.trans (List.map_congr_left fun param _ => ident_eq param), stub_names_eq style method, ?_⟩
  constructor
  · rintro ⟨apart, -, undeclared⟩
    rw [idents] at apart undeclared
    refine ⟨(idents_distinct_iff distinct).mp apart, fun key given member => ?_⟩
    exact undeclared key ((declared key member).mpr given) member
  · rintro ⟨unmarked, undeclared⟩
    constructor
    · rw [idents]
      exact (idents_distinct_iff distinct).mpr unmarked
    · rw [idents]
      intro name member
      obtain ⟨param, -, rfl⟩ := List.mem_map.mp member
      exact ident_unreserved param
    · rw [idents]
      exact fun name given member => undeclared name ((declared name member).mp given) member

def plainStyle : Style := .ofSettings { root := "/src/" }

/-- A method whose parameter is named like the response. -/
def sendMethod : Method :=
  { identifier := "Send", returns := "void", parameters := [⟨"response", "string"⟩] }

/-- A method with a reserved word and its marked form. -/
def enrolMethod : Method :=
  { identifier := "Enrol", returns := "void", parameters := [⟨"@class", "string"⟩, ⟨"class_", "int"⟩] }

/-- A parameter named like the response is declared again, and marking a reserved word can make
two parameters the same. -/
theorem names_clash :
    (∀ param ∈ sendMethod.parameters ++ enrolMethod.parameters, isWord param.key.toList = true) ∧
    (sendMethod.parameters.map Member.key).Nodup ∧ ¬ Hygienic plainStyle sendMethod ∧
    (enrolMethod.parameters.map Member.key).Nodup ∧ ¬ Hygienic plainStyle enrolMethod := by
  have again : "response" ∈ signatureNames plainStyle sendMethod ∧ "response" ∈ stubNames plainStyle sendMethod := by
    decide +kernel
  have twice : signatureNames plainStyle enrolMethod = ["class_", "class_"] := by decide +kernel
  refine ⟨by decide +kernel, by decide +kernel, fun hygienic => ?_, by decide +kernel, fun hygienic => ?_⟩
  · exact hygienic.undeclared "response" again.1 again.2
  · have distinct := hygienic.distinct
    rw [twice] at distinct
    exact absurd distinct (by decide)

/-- A list, a reserved word, and an object. -/
def searchMethod : Method :=
  { identifier := "Search", returns := "Page<Order>", verbTag := some "HttpGet",
    parameters := [⟨"tags", "List<string>?"⟩, ⟨"@class", "string"⟩, ⟨"filter", "Filter"⟩] }

theorem hygienic_search :
    signatureNames plainStyle searchMethod = ["tags", "class_", "filter"] ∧
    stubNames plainStyle searchMethod =
      ["searchParams", "value", "key", "value", "queryString", "response"] ∧
    Hygienic plainStyle searchMethod := by
  obtain ⟨names, declared, hygienic⟩ := hygienic_iff_keys_apart plainStyle searchMethod
    (by decide +kernel) (by decide +kernel)
  have declared := declared.trans
    (show _ = ["searchParams", "value", "key", "value", "queryString", "response"] by decide +kernel)
  refine ⟨names.trans (by decide +kernel), declared, hygienic.mpr ⟨by decide +kernel, ?_⟩⟩
  rw [declared]
  decide +kernel

end TypeStubs.StubNames

import TypeStubs.Declaration.Client
import TypeStubs.Proofs.RouteHoles

/-! How parameters travel in the emitted method of a client. What becomes of a parameter
that the path does not use is decided in three places: by the template with its verb, by
the address, and by the lines of the method. They agree: each such parameter goes either
into the one line for the body or into one group of lines for the query, and the address
ends in the query exactly when the lines before it build one. -/
namespace TypeStubs.RequestStubs
open Route RouteHoles

/-! ## Lines by what they start with -/

/-- Whether a line starts with a word, apart from the blanks before it. -/
def begins (word line : String) : Bool := word.toList.isPrefixOf (Chars.trimStart line.toList)

/-- The lines that start with a word. -/
def linesWith (word : String) (lines : List String) : List String := lines.filter (begins word)

/-- Whether two texts have different characters somewhere at the same distance from their
starts. -/
def disagree (first second : List Char) : Bool := (first.zip second).any fun pair => pair.1 != pair.2

theorem not_prefix_of_disagree (rest : List Char) (apart : disagree first second = true) :
    second.isPrefixOf (first ++ rest) = false := by
  induction first generalizing second with
  | nil => simp [disagree] at apart
  | cons c first ih =>
    cases second with
    | nil => simp [disagree] at apart
    | cons d second =>
      by_cases same : c = d
      · have behind : disagree first second = true := by simpa [disagree, same] using apart
        simp [same, ih behind]
      · simp [List.isPrefixOf, Ne.symm same]

/-- A line whose fixed start is not blank is told by that start. -/
theorem trim_start_append (lead rest : List Char) (inked : Chars.trimStart lead ≠ []) :
    Chars.trimStart (lead ++ rest) = Chars.trimStart lead ++ rest := by
  unfold Chars.trimStart at *
  rw [List.dropWhile_append]
  simp [inked]

/-- A line that starts with none of some words. -/
def Foreign (words : List String) (line : String) : Prop := ∀ word ∈ words, begins word line = false

/-! A literal is given by its characters here, so that they need not be read from it again. -/

theorem text_leads (text : List Char) : text <+: (String.ofList text).toList :=
  String.toList_ofList.symm ▸ List.prefix_rfl

theorem append_leads {lead : List Char} (leads : lead <+: line.toList) (rest : String) :
    lead <+: (line ++ rest).toList := by
  rw [String.toList_append]
  exact leads.trans (List.prefix_append _ _)

theorem around_leads (text : List Char) (inner tail : String) :
    text <+: (String.ofList text ++ inner ++ tail).toList :=
  append_leads (append_leads (text_leads text) inner) tail

theorem around_two_leads (text : List Char) (first middle second tail : String) :
    text <+: (String.ofList text ++ first ++ middle ++ second ++ tail).toList :=
  append_leads (append_leads (around_leads text first middle) second) tail

/-- A line is told from words by the fixed text that it starts with. -/
theorem foreign_of_lead {words : List String} {lead : List Char} (leads : lead <+: line.toList)
    (apart : (words.all fun word => disagree (Chars.trimStart lead) word.toList) = true) :
    Foreign words line := by
  intro word member
  have different := List.all_eq_true.mp apart word member
  have inked : Chars.trimStart lead ≠ [] := by
    intro blank
    simp [blank, disagree] at different
  obtain ⟨rest, whole⟩ := leads
  rw [begins, ← whole, trim_start_append _ _ inked]
  exact not_prefix_of_disagree _ different

/-- Lines that start with given texts, one for each line. -/
inductive Led : List (List Char) → List String → Prop where
  | nil : Led [] []
  | cons {lead : List Char} {leads : List (List Char)} {line : String} {lines : List String}
      (starts : lead <+: line.toList) (further : Led leads lines) : Led (lead :: leads) (line :: lines)

private theorem foreign_led {words : List String} {leads : List (List Char)} (led : Led leads lines)
    (apart : (leads.all fun lead => words.all fun word => disagree (Chars.trimStart lead) word.toList) = true) :
    ∀ line ∈ lines, Foreign words line := by
  induction led with
  | nil => simp
  | cons starts further ih =>
    obtain ⟨here, apart⟩ := Bool.and_eq_true_iff.mp apart
    exact List.forall_mem_cons.mpr ⟨foreign_of_lead starts here, ih apart⟩

private theorem begins_of_lead {lead : List Char} (leads : lead <+: line.toList) (nonempty : word.toList ≠ [])
    (starts : word.toList <+: Chars.trimStart lead) : begins word line = true := by
  obtain ⟨rest, whole⟩ := leads
  have inked : Chars.trimStart lead ≠ [] := fun blank => nonempty (List.prefix_nil.mp (blank ▸ starts))
  rw [begins, ← whole, trim_start_append _ _ inked]
  exact List.isPrefixOf_iff_prefix.mpr (starts.trans (List.prefix_append _ _))

private theorem lines_with_append (word : String) (front back : List String) :
    linesWith word (front ++ back) = linesWith word front ++ linesWith word back :=
  List.filter_append ..

private theorem lines_with_foreign {words lines : List String} (member : word ∈ words)
    (foreign : ∀ line ∈ lines, Foreign words line) : linesWith word lines = [] :=
  List.filter_eq_nil_iff.mpr fun line inside => by simp [foreign line inside word member]

/-- One line that starts with a word, among lines that do not. -/
theorem lines_with_one {words : List String} (member : word ∈ words) (starts : begins word line = true)
    (front back : List String) (foreign : ∀ other ∈ front ++ back, Foreign words other) :
    linesWith word (front ++ line :: back) = [line] := by
  have none := lines_with_foreign member foreign
  rw [lines_with_append] at none
  obtain ⟨frontNone, backNone⟩ := List.append_eq_nil_iff.mp none
  rw [lines_with_append, frontNone, linesWith, List.filter_cons_of_pos starts]
  exact congrArg (line :: ·) backNone

/-! ## The lines of a method -/

/-- The word that a line for the body starts with. -/
def bodyWord : String := "body: JSON.stringify("

/-- The words that lines for the query start with: its declarations, and what puts a
parameter into it. -/
def queryWords : List String := ["const searchParams", "const queryString", "searchParams."]

def stubWords : List String := bodyWord :: queryWords

private theorem foreign_to_query (foreign : Foreign stubWords line) : Foreign queryWords line :=
  fun word member => foreign word (List.mem_cons_of_mem _ member)

/-- The lines behind the request. -/
def closingLines (verb name returns : String) : List String :=
  ["        if (!response.ok) \x7b",
    "            throw new Error(`" ++ verb ++ " " ++ name ++
      " failed with status $\x7bresponse.status\x7d`);",
    "        \x7d"] ++
    (if returns == "void" then [] else ["        return response.json();"]) ++ ["    \x7d"]

private theorem closing_foreign (verb name returns : String) :
    ∀ line ∈ closingLines verb name returns, Foreign stubWords line := by
  unfold closingLines
  split
  · exact foreign_led (.cons (text_leads _) (.cons (around_two_leads _ _ _ _ _) (.cons (text_leads _)
      (.cons (text_leads _) .nil)))) rfl
  · exact foreign_led (.cons (text_leads _) (.cons (around_two_leads _ _ _ _ _) (.cons (text_leads _)
      (.cons (text_leads _) (.cons (text_leads _) .nil))))) rfl

/-- The parameter that a request sends as its body, if it sends one. -/
def carried (request : Template) : List Param :=
  if request.verb.sendsBody then request.unbound.take 1 else []

/-- The unbound parameters that are not sent as the body. -/
def remaining (request : Template) : List Param := request.unbound.drop (carried request).length

private theorem carried_append_remaining (request : Template) :
    carried request ++ remaining request = request.unbound := by
  unfold remaining carried
  split
  · cases request.unbound <;> simp
  · simp

private theorem query_eq_remaining (request : Template) : request.query = remaining request := by
  unfold Template.query remaining carried
  split
  · cases request.unbound <;> simp
  · simp

/-- The line that sends a parameter as the body. -/
def bodyLine (param : Param) : String := "            body: JSON.stringify(" ++ param.ident ++ "),"

section
variable {request : Template}

/-- A request without a body is one line. -/
theorem bare_request (url : String) (bodiless : carried request = []) :
    ∃ tail, Style.fetchLines url request = ["        const response = await fetch(" ++ url ++ tail] := by
  unfold Style.fetchLines
  split
  · rename_i body sends first
    unfold Template.body? at first
    cases left : request.unbound <;> simp [carried, sends, left] at bodiless first
  · split
    · exact ⟨");", rfl⟩
    · exact ⟨", \x7b method: '" ++ request.verb.text ++ "' \x7d);", by simp only [String.append_assoc]⟩

/-- A request with a body has one line for it. -/
theorem body_request (url : String) (sent : carried request = [param]) :
    ∃ tail front, Style.fetchLines url request =
        ["        const response = await fetch(" ++ url ++ tail] ++ front ++
          bodyLine param :: ["        \x7d);"] ∧
      ∀ line ∈ front, Foreign stubWords line := by
  have sends : request.verb.sendsBody = true := by
    cases verb : request.verb.sendsBody
    · simp [carried, verb] at sent
    · rfl
  have first : request.body? = some param.ident := by
    cases left : request.unbound <;> simp [carried, sends, left, Template.body?] at sent ⊢
    rw [sent]
  refine ⟨", \x7b", ["            method: '" ++ request.verb.text ++ "',",
    "            headers: \x7b 'Content-Type': 'application/json' \x7d,"], ?_, ?_⟩
  · unfold Style.fetchLines
    rw [sends, first]
    rfl
  · exact foreign_led (.cons (around_leads _ _ _) (.cons (text_leads _) .nil)) rfl

private theorem call_foreign (url tail : String) :
    Foreign stubWords ("        const response = await fetch(" ++ url ++ tail) :=
  foreign_of_lead (around_leads _ _ _) rfl

private theorem body_line_begins (param : Param) : begins bodyWord (bodyLine param) = true :=
  begins_of_lead (around_leads _ _ _) (by decide +kernel) ⟨[], rfl⟩

private theorem body_line_foreign (param : Param) : Foreign queryWords (bodyLine param) :=
  foreign_of_lead (around_leads _ _ _) rfl

private theorem carried_cases (request : Template) :
    carried request = [] ∨ ∃ param, carried request = [param] := by
  unfold carried
  split
  · cases request.unbound <;> simp
  · exact .inl rfl

/-- The lines of a request: the call comes first, the carried parameter has the one line for
the body, and no line is about the query. -/
theorem request_lines (url : String) (request : Template) :
    (∃ tail, (Style.fetchLines url request).head? =
      some ("        const response = await fetch(" ++ url ++ tail)) ∧
    linesWith bodyWord (Style.fetchLines url request) = (carried request).map bodyLine ∧
    ∀ line ∈ Style.fetchLines url request, Foreign queryWords line := by
  rcases carried_cases request with none | ⟨param, one⟩
  · obtain ⟨tail, lines⟩ := bare_request url none
    have foreign := List.forall_mem_singleton.mpr (call_foreign url tail)
    rw [lines, none]
    exact ⟨⟨tail, rfl⟩, lines_with_foreign List.mem_cons_self foreign,
      fun line member => foreign_to_query (foreign line member)⟩
  · obtain ⟨tail, front, lines, foreign⟩ := body_request url one
    have others : ∀ line ∈ ["        const response = await fetch(" ++ url ++ tail] ++ front ++ ["        \x7d);"],
        Foreign stubWords line := by
      have ended : Foreign stubWords "        \x7d);" :=
        foreign_of_lead (text_leads _) rfl
      simp only [List.forall_mem_append, List.forall_mem_singleton]
      exact ⟨⟨call_foreign url tail, foreign⟩, ended⟩
    rw [lines, one]
    refine ⟨⟨tail, rfl⟩, lines_with_one List.mem_cons_self (body_line_begins param) _ _ others, ?_⟩
    intro line member
    rcases List.mem_cons.mp (List.perm_middle.mem_iff.mp member) with rfl | other
    · exact body_line_foreign param
    · exact foreign_to_query (others line other)

end

/-! ## The groups of the query -/

/-- How a group that puts a parameter into the query starts, and what it appends: the
parameter where it has a value, or each of its elements. -/
inductive Appends (ident : String) : (opening value : String) → Prop where
  | whole : Appends ident ("        if (" ++ ident ++ " !== undefined && " ++ ident ++ " !== null) \x7b") ident
  | elements : Appends ident ("        for (const value of " ++ ident ++ " ?? []) \x7b") "value"

/-- The word that a line starts with which appends a parameter to the query. -/
def appendWord : String := "searchParams.append('"

/-- A group of lines that puts a parameter into the query: it is opened for the identifier,
and one of its lines appends a value under the key. -/
def AppendGroup (key ident : String) (group : List String) : Prop :=
  ∃ opening value lead, Appends ident opening value ∧ group.head? = some opening ∧
    Chars.trimStart lead.toList = appendWord.toList ∧
    linesWith appendWord group = [lead ++ key ++ "', String(" ++ value ++ "));"]

/-- The words from which the lines of a group are told that do not append the parameter. -/
def groupWords : List String := [appendWord, bodyWord]

/-- Lines with one among them that appends the parameter are a group for it, and none of
them is for the body. -/
theorem group_of_lines {front back : List String} (appends : Appends ident opening value)
    (opened : front.head? = some opening) (foreign : ∀ line ∈ front ++ back, Foreign groupWords line)
    (indented : Chars.trimStart lead.toList = appendWord.toList) (key : String) :
    AppendGroup key ident (front ++ (lead ++ key ++ "', String(" ++ value ++ "));") :: back) ∧
      linesWith bodyWord (front ++ (lead ++ key ++ "', String(" ++ value ++ "));") :: back) = [] := by
  generalize appending : lead ++ key ++ "', String(" ++ value ++ "));" = line
  have leads : lead.toList <+: line.toList := by
    rw [← appending]
    simp only [String.toList_append, List.append_assoc, List.prefix_append]
  have starts : begins appendWord line = true :=
    begins_of_lead leads (by decide +kernel) (indented.symm ▸ List.prefix_rfl)
  have bodiless : Foreign [bodyWord] line := by
    refine foreign_of_lead leads ?_
    rw [indented]
    decide +kernel
  refine ⟨⟨opening, value, lead, appends, ?_, indented, ?_⟩, ?_⟩
  · simp [List.head?_append, opened]
  · rw [appending]
    exact lines_with_one List.mem_cons_self starts front back foreign
  · apply lines_with_foreign List.mem_cons_self
    intro other member word body
    rcases List.mem_cons.mp (List.perm_middle.mem_iff.mp member) with rfl | inside
    · exact bodiless word body
    · exact foreign other inside word (List.mem_cons_of_mem _ body)

/-- Every form of a group appends its parameter once, and none is about the body. -/
theorem query_group (form : Style.QueryForm) (key ident : String) :
    AppendGroup key ident (Style.queryLines form key ident) ∧
      linesWith bodyWord (Style.queryLines form key ident) = [] := by
  have indented : Chars.trimStart "            searchParams.append('".toList = appendWord.toList :=
    (congrArg Chars.trimStart String.toList_ofList).trans (by decide +kernel)
  cases form with
  | each =>
    have foreign : ∀ line ∈ ["        for (const value of " ++ ident ++ " ?? []) \x7b"] ++ ["        \x7d"],
        Foreign groupWords line :=
      foreign_led (.cons (around_leads _ _ _) (.cons (text_leads _) .nil)) rfl
    have group := group_of_lines .elements rfl foreign indented key
    have spelled : "', String(" ++ ("value" ++ "));") = "', String(value));" := by decide +kernel
    have line : "            searchParams.append('" ++ key ++ "', String(" ++ "value" ++ "));" =
        "            searchParams.append('" ++ key ++ "', String(value));" := by
      simp only [String.append_assoc, spelled]
    rw [line] at group
    exact group
  | plain =>
    have foreign : ∀ line ∈ ["        if (" ++ ident ++ " !== undefined && " ++ ident ++ " !== null) \x7b"] ++
        ["        \x7d"], Foreign groupWords line :=
      foreign_led (.cons (around_two_leads _ _ _ _ _) (.cons (text_leads _) .nil)) rfl
    exact group_of_lines .whole rfl foreign indented key
  | spread =>
    have foreign : ∀ line ∈ [
          "        if (" ++ ident ++ " !== undefined && " ++ ident ++ " !== null) \x7b",
          "            if (typeof " ++ ident ++ " === 'object') \x7b",
          "                for (const [key, value] of Object.entries(" ++ ident ++ ")) \x7b",
          "                    if (value !== undefined && value !== null) \x7b",
          "                        searchParams.append(key, String(value));",
          "                    \x7d",
          "                \x7d",
          "            \x7d else \x7b"] ++ ["            \x7d", "        \x7d"],
        Foreign groupWords line :=
      foreign_led (.cons (around_two_leads _ _ _ _ _) (.cons (around_leads _ _ _) (.cons (around_leads _ _ _)
        (.cons (text_leads _) (.cons (text_leads _) (.cons (text_leads _) (.cons (text_leads _)
        (.cons (text_leads _) (.cons (text_leads _) (.cons (text_leads _) .nil)))))))))) rfl
    have deeper : Chars.trimStart "                searchParams.append('".toList = appendWord.toList :=
      (congrArg Chars.trimStart String.toList_ofList).trans (by decide +kernel)
    exact group_of_lines .whole rfl foreign deeper key

/-! ## The address -/

/-- The address of a request up to the path. -/
def addressStem (base : String) (request : Template) : String :=
  "`$\x7b" ++ base ++ "\x7d" ++ if request.path.isEmpty then "" else "/" ++ request.path

/-- The end of an address with a query, which refers to the text of the query. -/
def querySuffix : String := "$\x7bqueryString ? `?$\x7bqueryString\x7d` : ''\x7d`"

private theorem url_eq (base : String) (request : Template) :
    request.url base = addressStem base request ++ if remaining request = [] then "`" else querySuffix := by
  have closed : "$\x7bqueryString ? `?$\x7bqueryString\x7d` : ''\x7d" ++ "`" = querySuffix := by decide +kernel
  rw [Template.url, query_eq_remaining, ← addressStem]
  by_cases none : remaining request = []
  · simp [none]
  · simp only [List.isEmpty_iff, none, ↓reduceIte]
    rw [String.append_assoc, closed]

private theorem url_suffixed_iff (base : String) (request : Template) :
    request.url base = addressStem base request ++ querySuffix ↔ remaining request ≠ [] := by
  rw [url_eq]
  by_cases none : remaining request = []
  · have apart : "`" ≠ querySuffix := by decide +kernel
    simpa [none] using apart
  · simp [none]

/-- Every backtick in escaped text stands behind a backslash. -/
theorem backtick_escaped (text front back : List Char)
    (whole : Chars.replaceChar '`' ['\\', '`'] text = front ++ '`' :: back) :
    front.getLast? = some '\\' := by
  induction text generalizing front with
  | nil => simp [Chars.replaceChar] at whole
  | cons c rest ih =>
    have behind (lead other : List Char)
        (later : Chars.replaceChar '`' ['\\', '`'] rest = other ++ '`' :: back) :
        (lead ++ other).getLast? = some '\\' := by
      rw [List.getLast?_append, ih other later, Option.some_or]
    have step : Chars.replaceChar '`' ['\\', '`'] (c :: rest) =
        (if c == '`' then ['\\', '`'] else [c]) ++ Chars.replaceChar '`' ['\\', '`'] rest := rfl
    rw [step] at whole
    split at whole
    · match front, whole with
      | [_], whole => rw [(List.cons.inj whole).1]; rfl
      | first :: second :: front, whole =>
        exact behind [first, second] front (List.cons.inj (List.cons.inj whole).2).2
    · rename_i other
      match front, whole with
      | [], whole => exact absurd (beq_iff_eq.mpr (List.cons.inj whole).1) other
      | first :: front, whole => exact behind [first] front (List.cons.inj whole).2

/-- The end of an address with a query, without the backtick that closes the address. -/
def suffixBody : List Char := querySuffix.toList.dropLast

/-- What ends behind a separator that it does not have begins behind it too. -/
theorem suffix_behind {part : List Char} (free : sep ∉ part) (suffix : part <:+ front ++ sep :: back) :
    part <:+ back := by
  obtain ⟨lead, whole⟩ := suffix
  rcases List.append_eq_append_iff.mp whole with ⟨middle, -, inside⟩ | ⟨middle, -, inside⟩
  · cases middle with
    | nil => exact absurd (inside ▸ List.mem_cons_self) free
    | cons first middle => exact absurd (inside ▸ by simp) free
  · cases middle with
    | nil => exact absurd (by rw [← List.nil_append part, ← inside]; exact List.mem_cons_self) free
    | cons first middle => exact ⟨middle, (List.cons.inj inside).2.symm⟩

/-- The path of a template does not end like an address with a query: there, a backtick
stands behind a blank. -/
theorem path_unsuffixed (method : Method) : ¬ suffixBody <:+ (template method).path.toList := by
  rintro ⟨lead, whole⟩
  have spelled : suffixBody =
      "$\x7bqueryString ? ".toList ++ '`' :: "?$\x7bqueryString\x7d` : ''\x7d".toList := by decide +kernel
  have blank : "$\x7bqueryString ? ".toList.getLast? = some ' ' := by decide +kernel
  obtain ⟨text, path⟩ : ∃ text, (template method).path.toList =
      Chars.replaceChar '`' ['\\', '`'] text := ⟨_, String.toList_ofList⟩
  rw [spelled, ← List.append_assoc, path] at whole
  have escaped := backtick_escaped _ _ _ whole.symm
  rw [List.getLast?_append, blank, Option.some_or] at escaped
  cases escaped

/-- Neither a path nor a base without backticks can be taken for the end of an address with
a query. -/
theorem address_stem_unsuffixed (base : String) (method : Method)
    (plain : '`' ∉ base.toList ∨ (template method).path ≠ "") :
    ¬ querySuffix.toList <:+ (addressStem base (template method) ++ "`").toList := by
  rintro ⟨lead, whole⟩
  have closed : querySuffix.toList = suffixBody ++ ['`'] := by decide +kernel
  have last : "`".toList = ['`'] := String.toList_ofList
  rw [closed, String.toList_append, last, ← List.append_assoc] at whole
  have suffix : suffixBody <:+ (addressStem base (template method)).toList :=
    ⟨lead, List.append_cancel_right whole⟩
  by_cases empty : (template method).path = ""
  · -- There are two backticks in the end, and only the one before the base in the address.
    have counted := suffix.sublist.count_le '`'
    have two : suffixBody.count '`' = 2 := by decide +kernel
    have bare : base.toList.count '`' = 0 := List.count_eq_zero.mpr (plain.resolve_right (by simpa using empty))
    have opened : ("`$\x7b".toList).count '`' = 1 := (congrArg (List.count '`') String.toList_ofList).trans rfl
    have shut : ("\x7d".toList).count '`' = 0 := (congrArg (List.count '`') String.toList_ofList).trans rfl
    have void : "".isEmpty = true := rfl
    simp only [addressStem, empty, void, ↓reduceIte, String.append_empty, String.toList_append, List.count_append,
      two, bare, opened, shut] at counted
    omega
  · have unslashed : '/' ∉ suffixBody := by decide +kernel
    have spelled : (addressStem base (template method)).toList =
        ("`$\x7b" ++ base ++ "\x7d").toList ++ '/' :: (template method).path.toList := by
      have slash : "/".toList = ['/'] := String.toList_ofList
      simp only [addressStem, String.isEmpty_iff, empty, ↓reduceIte, String.toList_append, slash, List.append_assoc,
        List.singleton_append]
    rw [spelled] at suffix
    exact path_unsuffixed method (suffix_behind unslashed suffix)

/-- An address ends in the query exactly when there is one. -/
theorem suffix_iff (base : String) (method : Method)
    (plain : '`' ∉ base.toList ∨ (template method).path ≠ "") :
    querySuffix.toList <:+ ((template method).url base).toList ↔ remaining (template method) ≠ [] := by
  rw [url_eq]
  by_cases none : remaining (template method) = []
  · simpa only [none, ↓reduceIte, ne_eq, not_true_eq_false, iff_false] using address_stem_unsuffixed base method plain
  · simp only [none, ↓reduceIte, String.toList_append, List.suffix_append, ne_eq, not_false_eq_true]

/-! ## The whole method -/

/-- The lines that build a query from groups: with its declarations around them, and none
where there are no groups. -/
def searchBlock (groups : List (List String)) : List String :=
  if groups = [] then []
  else ["        const searchParams = new URLSearchParams();"] ++ groups.flatten ++
    ["        const queryString = searchParams.toString();"]

private theorem query_block_eq (style : Style) (method : Method) (query : List Param) :
    style.queryBlock method query = searchBlock (query.map (style.paramQueryLines method)) := by
  simp only [Style.queryBlock, searchBlock, List.isEmpty_iff, List.map_eq_nil_iff, List.flatMap_def]

/-- The groups of a block are the only lines of it that could be for the body. -/
theorem search_block_bodiless {groups : List (List String)}
    (bodiless : ∀ group ∈ groups, linesWith bodyWord group = []) :
    linesWith bodyWord (searchBlock groups) = [] := by
  have inside : linesWith bodyWord groups.flatten = [] := by
    rw [linesWith, List.filter_flatten, List.flatten_eq_nil_iff]
    exact List.forall_mem_map.mpr bodiless
  have declared : Foreign [bodyWord] "        const searchParams = new URLSearchParams();" :=
    foreign_of_lead (text_leads _) rfl
  have named : Foreign [bodyWord] "        const queryString = searchParams.toString();" :=
    foreign_of_lead (text_leads _) rfl
  unfold searchBlock
  split
  · rfl
  · rw [lines_with_append, lines_with_append, inside,
      lines_with_foreign List.mem_cons_self (List.forall_mem_singleton.mpr declared),
      lines_with_foreign List.mem_cons_self (List.forall_mem_singleton.mpr named)]
    rfl

/-- A method is its signature, the lines that build its query, its request and what follows. -/
theorem method_lines_eq (style : Style) (method : Method) :
    ∃ signature closing, style.methodLines method =
        [signature] ++ searchBlock ((remaining (template method)).map (style.paramQueryLines method)) ++
          (Style.fetchLines ((template method).url style.settings.client.baseUrl) (template method) ++ closing) ∧
      Foreign stubWords signature ∧ ∀ line ∈ closing, Foreign stubWords line := by
  let name := style.memberName method.identifier
  let returns := style.print (style.read method.returns)
  refine ⟨"    public async " ++ name ++ "(" ++ style.parameterList method ++ "): Promise<" ++ returns ++ "> \x7b",
    closingLines (template method).verb.text name returns, ?_, ?_, closing_foreign _ _ _⟩
  · rw [← query_block_eq, ← query_eq_remaining]
    simp only [Style.methodLines, closingLines, List.append_assoc, name, returns]
  · exact foreign_of_lead (append_leads (append_leads (around_two_leads _ _ _ _ _) _) _) rfl

/-- What it means that every unbound parameter of a method travels once. -/
structure SentOnce (style : Style) (method : Method) : Prop where
  /-- Unbound parameters come in the order of their positions, -/
  ordered : ((template method).unbound.map (·.index)).Pairwise (· < ·)
  /-- each is the parameter of the method at its position, -/
  placed : ∀ param ∈ (template method).unbound, ∃ member,
    method.parameters[param.index]? = some member ∧ param.key = member.key ∧ param.ident = member.ident
  /-- and each is carried as the body or remains for the query. -/
  parted : carried (template method) ++ remaining (template method) = (template method).unbound
  /-- There is one line for the body where a parameter is carried, and none elsewhere. -/
  body : linesWith bodyWord (style.methodLines method) = (carried (template method)).map bodyLine
  /-- The block for the query has one group for each parameter that remains, in order, and
  stands directly before the call; no other line is about the query. -/
  query : ∃ before after, style.methodLines method =
      before ++ searchBlock ((remaining (template method)).map (style.paramQueryLines method)) ++ after ∧
    (∀ line ∈ before ++ after, Foreign queryWords line) ∧
    ∃ tail, after.head? = some ("        const response = await fetch(" ++
      (template method).url style.settings.client.baseUrl ++ tail)
  groups : ∀ param ∈ remaining (template method),
    AppendGroup param.key param.ident (style.paramQueryLines method param)
  /-- The address has the end that refers to the query exactly when a parameter remains. -/
  address : (template method).url style.settings.client.baseUrl =
      addressStem style.settings.client.baseUrl (template method) ++ querySuffix ↔
    remaining (template method) ≠ []
  /-- Read as characters, no other address ends so, unless the settings spell that end
  themselves and no path follows it. -/
  suffixed : '`' ∉ style.settings.client.baseUrl.toList ∨ (template method).path ≠ "" →
    (querySuffix.toList <:+ ((template method).url style.settings.client.baseUrl).toList ↔
      remaining (template method) ≠ [])

private theorem unbound_positions (method : Method) :
    (template method).unbound.Sublist (method.parameters.zipIdx.map positioned) :=
  bind_params_sublist 0 _ _

private theorem unbound_ordered (method : Method) :
    ((template method).unbound.map (·.index)).Pairwise (· < ·) := by
  have indices : (method.parameters.zipIdx.map positioned).map (·.index) =
      List.range' 0 method.parameters.length := by
    rw [List.map_map, ← List.zipIdx_map_snd 0]
    rfl
  refine List.Pairwise.sublist ((unbound_positions method).map _) ?_
  rw [indices]
  exact List.pairwise_lt_range'

private theorem unbound_placed (member : param ∈ (template method).unbound) :
    ∃ member, method.parameters[param.index]? = some member ∧ param.key = member.key ∧
      param.ident = member.ident := by
  obtain ⟨entry, inside, rfl⟩ := List.mem_map.mp ((unbound_positions method).subset member)
  exact ⟨entry.1, List.mem_zipIdx_iff_getElem?.mp inside, rfl, rfl⟩

/-- Every unbound parameter of a method travels once. -/
theorem unbound_sent_once (style : Style) (method : Method) : SentOnce style method := by
  obtain ⟨signature, closing, lines, signed, closed⟩ := method_lines_eq style method
  obtain ⟨⟨tail, call⟩, sent, unasked⟩ :=
    request_lines ((template method).url style.settings.client.baseUrl) (template method)
  have groups (param : Param) : AppendGroup param.key param.ident (style.paramQueryLines method param) ∧
      linesWith bodyWord (style.paramQueryLines method param) = [] := query_group _ _ _
  have signatureForeign := List.forall_mem_singleton.mpr signed
  refine ⟨unbound_ordered method, fun param member => unbound_placed member, carried_append_remaining _, ?_,
    ⟨[signature], _, lines, ?_, tail, ?_⟩, fun param _ => (groups param).1, url_suffixed_iff _ _, suffix_iff _ method⟩
  · -- Only the request has a line for the body.
    have block := search_block_bodiless (List.forall_mem_map.mpr fun param
      (_ : param ∈ remaining (template method)) => (groups param).2)
    rw [lines, lines_with_append, lines_with_append, lines_with_append, block, sent,
      lines_with_foreign List.mem_cons_self signatureForeign, lines_with_foreign List.mem_cons_self closed]
    simp
  · simp only [List.forall_mem_append]
    exact ⟨fun line member => foreign_to_query (signatureForeign line member), unasked,
      fun line member => foreign_to_query (closed line member)⟩
  · rw [List.head?_append, call, Option.some_or]

end TypeStubs.RequestStubs

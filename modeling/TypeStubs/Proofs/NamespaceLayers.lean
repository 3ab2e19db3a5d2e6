import TypeStubs.Output.Module
import TypeStubs.Proofs.TextPieces

/-! A namespace around a text can be taken off again. Taking it off is told without the way it
was put on: the first and the last line go, and every line between them that is not empty
loses four spaces. What comes out is the text without the line feeds at its end, through any
number of layers, and from the text of all modules together. -/
namespace TypeStubs.NamespaceLayers
open TextPieces

/-- A text without the line feeds at its end. -/
def unended (text : List Char) : List Char := Chars.dropEndWhile (· == '\n') text

/-- The lines of a text, which stand between its line feeds. Those at its end do not count. -/
def linesOf (text : List Char) : List (List Char) := Chars.splitOn '\n' (unended text)

/-- A line one level further out. A line that is not empty has four spaces and something behind
them. -/
def outer? (line : List Char) : Option (List Char) :=
  if line.isEmpty then some [] else (Chars.dropLead? "    ".toList line).filter (!·.isEmpty)

/-- What a text has inside of its first and its last line, one level further out. -/
def unwrap? (text : String) : Option String :=
  let lines := linesOf text.toList
  if lines.length < 2 then none
  else (lines.tail.dropLast.mapM outer?).map fun inside => String.ofList (['\n'].intercalate inside)

/-- Takes off one namespace after the other. -/
def unwrapAll? : Nat → String → Option String
  | 0, text => some text
  | layers + 1, text => (unwrap? text).bind (unwrapAll? layers)

/-- Namespaces around each other, the first of them outermost. -/
def nested (names : List String) (body : String) : String := names.foldr Namespace.wrap body

/-- A name without a line break. -/
structure OneLine (name : String) : Prop where
  unfed : '\n' ∉ name.toList
  unreturned : '\r' ∉ name.toList

private theorem unended_last (text : List Char) : (unended text).getLast? ≠ some '\n' := by
  have stopped := List.head?_dropWhile_not (· == '\n') text.reverse
  intro last
  rw [unended, Chars.dropEndWhile, List.getLast?_reverse] at last
  rw [last] at stopped
  simp at stopped

private theorem unended_of_last (last : text.getLast? ≠ some '\n') : unended text = text := by
  rw [← List.head?_reverse] at last
  rw [unended, Chars.dropEndWhile]
  cases turned : text.reverse with
  | nil => simpa using turned.symm
  | cons c rest =>
    have other : c ≠ '\n' := by simpa [turned] using last
    rw [List.dropWhile_cons_of_neg (by simpa using other), ← turned, List.reverse_reverse]

private theorem unended_twice (text : List Char) : unended (unended text) = unended text :=
  unended_of_last (unended_last text)

private theorem unended_subset (member : c ∈ unended text) : c ∈ text :=
  List.mem_reverse.mp ((List.dropWhile_sublist _).subset (List.mem_reverse.mp member))

/-- Without carriage returns, lines are what stands between line feeds. -/
theorem lines_split (unreturned : '\r' ∉ text) (nonempty : text ≠ []) (last : text.getLast? ≠ some '\n') :
    Chars.lines text = Chars.splitOn '\n' text := by
  induction text with
  | nil => exact absurd rfl nonempty
  | cons c rest ih =>
    rw [List.mem_cons, not_or] at unreturned
    have plain (feed : c ≠ '\n') := Chars.lines.eq_4 c rest feed fun _ returned _ => unreturned.1 returned.symm
    cases rest with
    | nil =>
      have feed : c ≠ '\n' := by simpa using last
      rw [plain feed]
      simp [Chars.lines, Chars.splitOn, feed]
    | cons d rest =>
      have behind := ih unreturned.2 (by simp) (by simpa [List.getLast?_cons] using last)
      obtain ⟨first, others, pieces⟩ := split_cons '\n' (d :: rest)
      by_cases feed : c = '\n'
      · rw [feed, Chars.lines, behind, Chars.splitOn.eq_2 '\n' '\n', if_pos (by simp)]
      · rw [plain feed, behind, Chars.splitOn.eq_2 '\n' c, if_neg (by simpa using feed), pieces]

/-- Lines that are each ended, and a last one that is not. -/
theorem split_ended (lines : List (List Char)) (last : List Char) (unfed : ∀ line ∈ lines, '\n' ∉ line)
    (lastUnfed : '\n' ∉ last) :
    Chars.splitOn '\n' (lines.flatMap (· ++ ['\n']) ++ last) = lines ++ [last] := by
  induction lines with
  | nil => exact split_free '\n' last lastUnfed
  | cons line rest ih =>
    obtain ⟨here, behind⟩ := List.forall_mem_cons.mp unfed
    have spelled : (line :: rest).flatMap (· ++ ['\n']) ++ last =
        line ++ '\n' :: (rest.flatMap (· ++ ['\n']) ++ last) := by simp
    rw [spelled, split_append, split_free '\n' line here, ih behind]
    rfl

section
variable {body : List Char} (unreturned : '\r' ∉ body)
include unreturned

/-- A text of line feeds alone has no lines in a namespace; any other has its own. -/
theorem body_lines_cases :
    unended body = [] ∧ Namespace.bodyLines body = [] ∨ Namespace.bodyLines body = linesOf body := by
  by_cases empty : unended body = []
  · refine .inl ⟨empty, ?_⟩
    rw [Namespace.bodyLines, ← unended, empty, Chars.lines]
  · exact .inr (lines_split (fun member => unreturned (unended_subset member)) empty (unended_last body))

private theorem body_lines_unfed : ∀ line ∈ Namespace.bodyLines body, '\n' ∉ line := by
  rcases body_lines_cases unreturned with ⟨-, none⟩ | split
  · simp [none]
  · rw [split]
    exact split_pieces_free '\n' (unended body)

private theorem body_lines_unreturned : ∀ line ∈ Namespace.bodyLines body, '\r' ∉ line := by
  rcases body_lines_cases unreturned with ⟨-, none⟩ | split
  · simp [none]
  · intro line member returned
    rw [split] at member
    exact unreturned (unended_subset (split_piece_subset '\n' (unended body) line member returned))

private theorem body_lines_joined : ['\n'].intercalate (Namespace.bodyLines body) = unended body := by
  rcases body_lines_cases unreturned with ⟨empty, none⟩ | split
  · rw [empty, none]
    rfl
  · rw [split]
    exact split_joined_again '\n' (unended body)

end

private theorem outer_inner (line : List Char) : outer? (Namespace.inner line) = some line := by
  cases line with
  | nil => rfl
  | cons c rest => simp [Namespace.inner, outer?, Chars.dropLead?]

private theorem outer_lines (lines : List (List Char)) : (lines.map Namespace.inner).mapM outer? = some lines := by
  induction lines with
  | nil => rfl
  | cons line rest ih => simp [List.mapM_cons, outer_inner, ih]

/-- The line that opens a namespace. -/
def opening (name : String) : List Char := ("export namespace " ++ name ++ " \x7b").toList

private theorem mem_opening :
    c ∈ opening name ↔ c ∈ "export namespace ".toList ∨ c ∈ name.toList ∨ c ∈ " \x7b".toList := by
  rw [opening, String.toList_append, String.toList_append, List.mem_append, List.mem_append, or_assoc]

private theorem wrap_chars (name body : String) :
    (Namespace.wrap name body).toList =
      ((opening name :: (Namespace.bodyLines body.toList).map Namespace.inner).flatMap (· ++ ['\n']) ++
        ['\x7d']) ++ ['\n'] := by
  have opened : " \x7b\n".toList = " \x7b".toList ++ ['\n'] := rfl
  have closed : "\x7d\n".toList = ['\x7d', '\n'] := rfl
  unfold Namespace.wrap opening
  simp only [String.toList_append, String.toList_ofList, opened, closed, List.flatMap_cons, List.flatMap_map,
    List.append_assoc, List.cons_append, List.nil_append]

/-- A namespace adds spaces, and nothing else, to a line. -/
theorem mem_inner (member : c ∈ Namespace.inner line) : c = ' ' ∨ c ∈ line := by
  unfold Namespace.inner at member
  split at member
  · cases member
  · rcases List.mem_append.mp member with space | own
    · exact .inl (by simpa using space)
    · exact .inr own

/-- The lines of a text in a namespace. -/
theorem wrap_lines (oneLine : '\n' ∉ name.toList) (unreturned : '\r' ∉ body.toList) :
    linesOf (Namespace.wrap name body).toList =
      opening name :: (Namespace.bodyLines body.toList).map Namespace.inner ++ [['\x7d']] := by
  have ended : unended (Namespace.wrap name body).toList =
      (opening name :: (Namespace.bodyLines body.toList).map Namespace.inner).flatMap (· ++ ['\n']) ++
        ['\x7d'] := by
    rw [wrap_chars]
    simp [unended, Chars.dropEndWhile]
  rw [linesOf, ended]
  refine split_ended _ _ ?_ (by simp)
  intro line member
  rcases List.mem_cons.mp member with rfl | inside
  · rw [mem_opening, not_or, not_or]
    exact ⟨by decide, oneLine, by decide⟩
  · obtain ⟨own, listed, rfl⟩ := List.mem_map.mp inside
    intro fed
    rcases mem_inner fed with space | there
    · cases space
    · exact body_lines_unfed unreturned own listed there

private theorem unwrap_wrap (oneLine : '\n' ∉ name.toList) (unreturned : '\r' ∉ body.toList) :
    unwrap? (Namespace.wrap name body) = some (String.ofList (unended body.toList)) := by
  have between : ((linesOf (Namespace.wrap name body).toList).tail).dropLast =
      (Namespace.bodyLines body.toList).map Namespace.inner := by
    rw [wrap_lines oneLine unreturned, List.cons_append, List.tail_cons, List.dropLast_concat]
  have enough : ¬ (linesOf (Namespace.wrap name body).toList).length < 2 := by
    rw [wrap_lines oneLine unreturned]
    simp
  unfold unwrap?
  rw [if_neg enough, between, outer_lines, Option.map_some, body_lines_joined unreturned]

private theorem wrap_unreturned (oneLine : OneLine name) (unreturned : '\r' ∉ body.toList) :
    '\r' ∉ (Namespace.wrap name body).toList := by
  rw [wrap_chars, List.mem_append, List.mem_append, List.mem_flatMap]
  rintro ((⟨line, member, inside⟩ | brace) | feed)
  · rcases List.mem_append.mp inside with inside | feed
    · rcases List.mem_cons.mp member with rfl | listed
      · rw [mem_opening] at inside
        rcases inside with keyword | named | brace
        · exact absurd keyword (by decide)
        · exact oneLine.unreturned named
        · exact absurd brace (by decide)
      · obtain ⟨own, among, rfl⟩ := List.mem_map.mp listed
        rcases mem_inner inside with space | there
        · cases space
        · exact body_lines_unreturned unreturned own among there
    · exact absurd feed (by decide)
  · exact absurd brace (by decide)
  · exact absurd feed (by decide)

/-- Line feeds at the end of a text make no difference to what is inside of it. -/
theorem unwrap_unended (text : String) : unwrap? (String.ofList (unended text.toList)) = unwrap? text := by
  have same : linesOf (String.ofList (unended text.toList)).toList = linesOf text.toList := by
    rw [String.toList_ofList, linesOf, unended_twice, ← linesOf]
  unfold unwrap?
  rw [same]

private theorem nested_unreturned (oneLines : ∀ name ∈ names, OneLine name) (unreturned : '\r' ∉ body.toList) :
    '\r' ∉ (nested names body).toList := by
  induction names with
  | nil => exact unreturned
  | cons name rest ih =>
    obtain ⟨here, behind⟩ := List.forall_mem_cons.mp oneLines
    exact wrap_unreturned here (ih behind)

/-- A first layer comes off a text whatever line feeds end it. -/
theorem unwrap_all_unended (layers : Nat) (text : String) :
    unwrapAll? (layers + 1) (String.ofList (unended text.toList)) = unwrapAll? (layers + 1) text := by
  rw [unwrapAll?, unwrapAll?, unwrap_unended]

private theorem unwrap_nested (nonempty : names ≠ []) (oneLines : ∀ name ∈ names, OneLine name)
    (unreturned : '\r' ∉ body.toList) :
    unwrapAll? names.length (nested names body) = some (String.ofList (unended body.toList)) := by
  induction names with
  | nil => exact absurd rfl nonempty
  | cons name rest ih =>
    obtain ⟨here, behind⟩ := List.forall_mem_cons.mp oneLines
    have off := unwrap_wrap here.unfed (nested_unreturned behind unreturned)
    rw [List.length_cons, unwrapAll?, nested, List.foldr_cons, ← nested, off, Option.bind_some]
    cases rest with
    | nil => rfl
    | cons next more => exact (unwrap_all_unended more.length _).trans (ih (by simp) behind)

/-- What a file adds to the text of all modules: its declarations, in its own namespace where it
has one. -/
def part (settings : Settings) (file : SourceFile) : String :=
  Namespace.wrap? file.nameSpace (Module.bodyText (.ofSettings settings) file)

/-- A file whose declarations and whose namespace have no line break of another kind. -/
structure Plain (settings : Settings) (file : SourceFile) : Prop where
  body : '\r' ∉ (Module.bodyText (.ofSettings settings) file).toList
  space : ∀ space ∈ file.nameSpace, OneLine space

private theorem part_unreturned (plain : Plain settings file) : '\r' ∉ (part settings file).toList := by
  unfold part
  cases own : file.nameSpace with
  | none => exact plain.body
  | some space => exact wrap_unreturned (plain.space space own) plain.body

private theorem join_unreturned {parts : List String} (unreturned : ∀ part ∈ parts, '\r' ∉ part.toList) :
    '\r' ∉ (Text.join "\n" parts).toList := by
  induction parts with
  | nil => simp [Text.join]
  | cons first rest ih =>
    obtain ⟨here, behind⟩ := List.forall_mem_cons.mp unreturned
    cases rest with
    | nil => simpa [Text.join] using here
    | cons next more =>
      rw [Text.join, String.intercalate_cons_cons, ← Text.join, String.toList_append, String.toList_append,
        List.mem_append, List.mem_append, not_or, not_or]
      exact ⟨⟨here, by simp⟩, ih behind⟩

private theorem aggregate_eq (settings : Settings) (files : List SourceFile) :
    (Bundle.ofFiles settings files).aggregate =
      Namespace.wrap? settings.nameSpace (Text.join "\n" (files.map (part settings))) := rfl

/-- Namespaces come off as they were put on. For a name and a text, the text is inside, without
the line feeds at its end; for any number of namespaces around each other, the text is inside
of the last. So, where all modules together are in a namespace, what is inside are their
parts, one below the other, and inside of a part that has a namespace are its declarations. -/
theorem namespaces_come_off :
    (∀ name body : String, OneLine name → '\r' ∉ body.toList →
      unwrap? (Namespace.wrap name body) = some (String.ofList (unended body.toList))) ∧
    (∀ (names : List String) (body : String), names ≠ [] → (∀ name ∈ names, OneLine name) → '\r' ∉ body.toList →
      unwrapAll? names.length (nested names body) = some (String.ofList (unended body.toList))) ∧
    ∀ (settings : Settings) (files : List SourceFile) (space : String), settings.nameSpace = some space →
      OneLine space → (∀ file ∈ files, Plain settings file) →
      unwrap? (Bundle.ofFiles settings files).aggregate =
        some (String.ofList (unended (Text.join "\n" (files.map (part settings))).toList)) ∧
      ∀ file ∈ files, ∀ own ∈ file.nameSpace, unwrap? (part settings file) =
        some (String.ofList (unended (Module.bodyText (.ofSettings settings) file).toList)) := by
  refine ⟨fun name body oneLine => unwrap_wrap oneLine.unfed, fun names body => unwrap_nested, ?_⟩
  intro settings files space named oneLine plain
  refine ⟨?_, fun file inside own has => ?_⟩
  · have unreturned : '\r' ∉ (Text.join "\n" (files.map (part settings))).toList := by
      refine join_unreturned fun text member => ?_
      obtain ⟨file, inside, rfl⟩ := List.mem_map.mp member
      exact part_unreturned (plain file inside)
    rw [aggregate_eq, named, Namespace.wrap?, unwrap_wrap oneLine.unfed unreturned]
  · have wrapped : part settings file = Namespace.wrap own (Module.bodyText (.ofSettings settings) file) := by
      rw [part, Option.mem_def.mp has, Namespace.wrap?]
    rw [wrapped, unwrap_wrap ((plain file inside).space own has).unfed (plain file inside).body]

/-- A file without a namespace of its own, and one with. -/
def apiFiles : List SourceFile := [
  { path := "a.cs", models := [{ name := "A" }, { name := "B", fields := [⟨"First", "int"⟩] }] },
  { path := "b.cs", nameSpace := some "Other", enums := [{ identifier := "Kind", entries := [⟨"Red", none⟩] }] }]

theorem namespaces_come_off_api :
    (OneLine "Api" ∧ OneLine "Other" ∧ '\r' ∉ "\n\na\n\n  b\n".toList ∧
      unwrapAll? 2 (nested ["Api", "Other"] "\n\na\n\n  b\n") = some "\n\na\n\n  b") ∧
    (∀ file ∈ apiFiles, Plain { nameSpace := some "Api" } file) ∧
    unwrap? (Bundle.ofFiles { nameSpace := some "Api" } apiFiles).aggregate =
      some (String.ofList
        (unended (Text.join "\n" (apiFiles.map (part { nameSpace := some "Api" }))).toList)) := by
  have api : OneLine "Api" := ⟨by decide, by decide⟩
  have other : OneLine "Other" := ⟨by decide, by decide⟩
  have unreturned : '\r' ∉ "\n\na\n\n  b\n".toList := by decide
  have plain : ∀ file ∈ apiFiles, Plain { nameSpace := some "Api" } file := by
    simp only [apiFiles, List.forall_mem_cons, List.not_mem_nil, false_imp_iff, implies_true, and_true]
    refine ⟨⟨by decide +kernel, fun own has => absurd has (Option.not_mem_none own)⟩, by decide +kernel, ?_⟩
    intro own has
    rw [← Option.mem_some_iff.mp has]
    exact other
  have layers := namespaces_come_off.2.1 ["Api", "Other"] "\n\na\n\n  b\n" (by simp)
    (by simp [api, other]) unreturned
  exact ⟨⟨api, other, unreturned, layers⟩, plain, (namespaces_come_off.2.2 _ apiFiles "Api" rfl api plain).1⟩

end TypeStubs.NamespaceLayers

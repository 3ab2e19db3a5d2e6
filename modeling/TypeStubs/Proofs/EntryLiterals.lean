import TypeStubs.Declaration.Enum
import TypeStubs.Proofs.NameWords
import TypeStubs.Proofs.SignatureLexemes
import TypeStubs.Proofs.TemplateLiterals

/-! The entries of an enumeration say their names. A string between single quotes is read
with the escapes of a template literal, up to the quote that closes it, and no line may end
inside. Escaping keeps every text without the end of a line, so what remains is that a name
never has one: the token it is made from has no blank, and casing brings none in. -/
namespace TypeStubs.EntryLiterals
open Identifier
open SignatureLexemes (blankCodes blank_code)
open TemplateLiterals (Element Mode endsLine spelled)

/-- What a character of a string adds, and what is read behind it. -/
def stringStep (mode : Mode) (c : Char) (next : Option Char) : Option (List Element × Mode) :=
  if mode = .text then
    if c = '\\' then some ([], .escaped)
    else if endsLine c then none
    else some (spelled [c], .text)
  else mode.step c next

/-- Reads to the quote that closes a string: what the string says, and the text behind it. -/
def readString (mode : Mode) : List Char → Option (List Element × List Char)
  | [] => none
  | c :: rest =>
    if mode = .text ∧ c = '\'' then some ([], rest)
    else
      (stringStep mode c rest.head?).bind fun step =>
        (readString step.2 rest).map fun said => (step.1 ++ said.1, said.2)

/-- Reads the string that a text starts with. -/
def stringAt : List Char → Option (List Element × List Char)
  | [] => none
  | c :: rest => if c = '\'' then readString .text rest else none

/-- A literal on one line that says a text. It ends with the quote that closes it, whatever
stands behind. -/
structure Says (literal text : String) : Prop where
  read : ∀ rest, stringAt (literal.toList ++ rest) = some (spelled text.toList, rest)
  oneLine : ∀ c ∈ literal.toList, endsLine c = false

private theorem read_string_step {mode after : Mode} (goesOn : ¬(mode = .text ∧ c = '\''))
    (steps : stringStep mode c rest.head? = some (elements, after)) :
    readString mode (c :: rest) =
      (readString after rest).map fun said => (elements ++ said.1, said.2) := by
  rw [readString, if_neg goesOn, steps]
  rfl

private theorem read_string_escape (mark : c = '\\' ∨ c = '\'') (rest : List Char) :
    readString .text ('\\' :: c :: rest) =
      (readString .text rest).map fun said => (spelled [c] ++ said.1, said.2) := by
  have inner : stringStep .escaped c rest.head? = some (spelled [c], .text) := by
    rcases mark with rfl | rfl <;> rfl
  rw [read_string_step (by simp) rfl, read_string_step (by simp) inner, Option.map_map]
  rfl

/-- A character in a string literal between single quotes. -/
def quotedChar (c : Char) : List Char :=
  if c = '\\' then ['\\', '\\'] else if c = '\'' then ['\\', '\''] else [c]

/-- Escaping first the back slashes of a text and then its quotes is one pass: what the first
replacement puts in has no quotes. -/
theorem escaped_by_chars (text : List Char) : Style.escapeQuoted text = text.flatMap quotedChar := by
  simp only [Style.escapeQuoted, Chars.replaceChar, List.flatMap_assoc]
  congr 1
  funext c
  by_cases backslash : c = '\\'
  · subst backslash
    rfl
  · simp [quotedChar, backslash]

private theorem read_quoted_char (inside : endsLine c = false) (rest : List Char) :
    readString .text (quotedChar c ++ rest) =
      (readString .text rest).map fun said => (spelled [c] ++ said.1, said.2) := by
  by_cases backslash : c = '\\'
  · subst backslash
    exact read_string_escape (.inl rfl) rest
  · by_cases quote : c = '\''
    · subst quote
      exact read_string_escape (.inr rfl) rest
    · have plain : quotedChar c = [c] := by simp [quotedChar, backslash, quote]
      have steps : stringStep .text c rest.head? = some (spelled [c], .text) := by
        simp [stringStep, backslash, inside]
      rw [plain]
      exact read_string_step (by simp [quote]) steps

private theorem read_quoted (oneLine : ∀ c ∈ text, endsLine c = false) (rest : List Char) :
    readString .text (text.flatMap quotedChar ++ '\'' :: rest) = some (spelled text, rest) := by
  induction text with
  | nil => rfl
  | cons c text ih =>
    obtain ⟨inside, oneLine⟩ := List.forall_mem_cons.mp oneLine
    rw [List.flatMap_cons, List.append_assoc, read_quoted_char inside, ih oneLine]
    simp [spelled]

private theorem mem_quoted (member : c ∈ quotedChar d) : c = d ∨ c = '\\' := by
  unfold quotedChar at member
  split at member
  · simp_all
  · split at member
    · simp_all [or_comm]
    · exact .inl (List.mem_singleton.mp member)

/-- A text without blanks. -/
def Inked (text : List Char) : Prop := ∀ c ∈ text, isBlank c = false

private theorem inked_append : Inked (front ++ back) ↔ Inked front ∧ Inked back := List.forall_mem_append

private theorem ends_line_blank (ends : endsLine c = true) : isBlank c = true := by
  simp only [endsLine, Bool.or_eq_true, beq_iff_eq] at ends
  rcases ends with ((rfl | rfl) | rfl) | rfl <;> rfl

/-- A case mapping whose images are no blanks. -/
structure Unblanked (shifts : List Shift) (special : List (Nat × List Nat)) : Prop where
  shifted : ∀ shift ∈ shifts, ∀ code ∈ blankCodes,
    code < shift.run.first + shift.distance ∨ shift.run.last + shift.distance < code
  several : ∀ entry ∈ special, ∀ image ∈ entry.2, isBlank (Char.ofNat image) = false

private theorem upper_unblanked : Unblanked Case.toUpperShifts Case.toUpperSpecial :=
  ⟨by decide +kernel, by decide +kernel⟩

private theorem lower_unblanked : Unblanked Case.toLowerShifts Case.toLowerSpecial :=
  ⟨by decide +kernel, by decide +kernel⟩

/-- A blank has a code point of its own; a number that is none becomes no blank. -/
theorem blank_of_nat (blank : isBlank (Char.ofNat n) = true) : n ∈ blankCodes := by
  have code := blank_code blank
  rw [Char.toNat_ofNat] at code
  split at code
  · exact code
  · exact absurd code (by decide)

private theorem shift_inked (unblanked : Unblanked shifts special) (listed : shift ∈ shifts)
    (holds : shift.run.holds n = true) : isBlank (Char.ofNat (n + shift.distance).toNat) = false := by
  apply Bool.eq_false_iff.mpr
  intro blank
  have code := blank_of_nat blank
  have apart := unblanked.shifted shift listed _ code
  have positive : (n + shift.distance).toNat ≠ 0 := by
    intro zero
    rw [zero] at code
    exact absurd code (by decide)
  simp only [Run.holds, Bool.and_eq_true, decide_eq_true_eq] at holds
  omega

private theorem map_inked (unblanked : Unblanked shifts special) (inked : isBlank c = false) :
    Inked (Case.mapBy shifts special c) := by
  unfold Case.mapBy
  split
  · rename_i images found
    intro image member
    obtain ⟨code, listed, rfl⟩ := List.mem_map.mp member
    exact unblanked.several _ (List.mem_of_find?_eq_some found) code listed
  · split
    · rename_i shift found
      intro image member
      have holds : shift.run.holds c.toNat = true := by simpa using List.find?_some found
      rw [List.mem_singleton.mp member]
      exact shift_inked unblanked (List.mem_of_find?_eq_some found) holds
    · simpa [Inked] using inked

private theorem ascii_codes_inked : ∀ code ∈ List.range 128, isBlank (Char.ofNat code) = false →
    isBlank (Char.ofNat code).toUpper = false ∧ isBlank (Char.ofNat code).toLower = false := by
  decide +kernel

private theorem ascii_inked (ascii : c.toNat < 128) (inked : isBlank c = false) :
    isBlank c.toUpper = false ∧ isBlank c.toLower = false := by
  have cased := ascii_codes_inked c.toNat (List.mem_range.mpr ascii)
  rw [Char.ofNat_toNat] at cased
  exact cased inked

private theorem upper_inked (inked : isBlank c = false) : Inked (upperOf c) := by
  unfold upperOf
  split
  · simpa [Inked] using (ascii_inked ‹_› inked).1
  · exact map_inked upper_unblanked inked

private theorem lower_inked (inked : isBlank c = false) : Inked (lowerOf c) := by
  unfold lowerOf
  split
  · simpa [Inked] using (ascii_inked ‹_› inked).2
  · exact map_inked lower_unblanked inked

private theorem lower_after_inked (before : List Char) (inked : Inked text) :
    Inked (Chars.lowerAfter before text) := by
  induction text generalizing before with
  | nil => exact inked
  | cons c rest ih =>
    obtain ⟨here, others⟩ := List.forall_mem_cons.mp inked
    have final : Inked ['ς'] := by simp [Inked, isBlank]
    have inner : Inked ['σ'] := by simp [Inked, isBlank]
    apply inked_append.mpr
    refine ⟨?_, ih _ others⟩
    split
    · split
      · exact final
      · exact inner
    · exact lower_inked here

private theorem recase_inked (casing : Casing) (first : Bool) (inked : Inked word) :
    Inked (recaseWord casing first word) := by
  unfold recaseWord
  split
  · exact inked
  · split
    · exact lower_after_inked [] inked
    · cases word with
      | nil => exact inked
      | cons c rest =>
        obtain ⟨here, others⟩ := List.forall_mem_cons.mp inked
        exact inked_append.mpr ⟨upper_inked here, lower_after_inked [] others⟩

private theorem join_inked (casing : Casing) (inked : ∀ word ∈ parts, Inked word) :
    Inked (joinWords casing parts) := by
  cases parts with
  | nil => exact nofun
  | cons word rest =>
    obtain ⟨here, others⟩ := List.forall_mem_cons.mp inked
    apply inked_append.mpr
    refine ⟨recase_inked casing true here, fun c member => ?_⟩
    obtain ⟨next, listed, inside⟩ := List.mem_flatMap.mp member
    exact recase_inked casing false (others next listed) c inside

private theorem camel_inked (casing : Casing) (inked : Inked name) : Inked (camelChars casing name) := by
  apply join_inked
  intro word listed c inside
  have kept : c ∈ (words name).flatten := List.mem_flatten.mpr ⟨word, listed, inside⟩
  rw [NameWords.divided_flatten (NameWords.words_divided name)] at kept
  exact inked c (List.mem_filter.mp kept).1

private theorem bare_inked (raw : List Char) : Inked (bareToken raw) := by
  have token : Inked (Chars.firstToken raw) := by
    intro c member
    have kept := List.mem_takeWhile_imp member
    simpa using kept
  unfold bareToken
  split
  · rename_i same
    rw [same] at token
    exact (List.forall_mem_cons.mp token).2
  · exact token

private theorem normalize_inked (naming : Naming) (raw : String) : Inked (Identifier.normalize naming raw).toList := by
  unfold Identifier.normalize
  split
  · rw [String.toList_ofList]
    split
    · exact bare_inked _
    · exact camel_inked _ (bare_inked _)
  · rw [String.toList_ofList]
    exact bare_inked _

private theorem name_one_line (naming : Naming) (raw : String) :
    ∀ c ∈ (Identifier.normalize naming raw).toList, endsLine c = false := by
  intro c member
  apply Bool.eq_false_iff.mpr
  intro ends
  have inked := normalize_inked naming raw c member
  rw [ends_line_blank ends] at inked
  cases inked

private theorem entry_literal_chars (style : Style) (name : String) :
    (style.entryLiteral name).toList = '\'' ::
      ((Identifier.normalize style.settings.enumNaming name).toList.flatMap quotedChar ++ ['\'']) := by
  simp [Style.entryLiteral, escaped_by_chars]

private theorem entry_literal_said (style : Style) (name : String) :
    Says (style.entryLiteral name) (Identifier.normalize style.settings.enumNaming name) := by
  have oneLine := name_one_line style.settings.enumNaming name
  constructor
  · intro rest
    rw [entry_literal_chars, List.cons_append, List.append_assoc]
    exact read_quoted oneLine rest
  · intro c member
    rw [entry_literal_chars, List.mem_cons, List.mem_append, List.mem_singleton] at member
    rcases member with rfl | member | rfl
    · rfl
    · obtain ⟨d, listed, inside⟩ := List.mem_flatMap.mp member
      rcases mem_quoted inside with rfl | rfl
      · exact oneLine c listed
      · rfl
    · rfl

/-- The literals of entries, in their order. -/
def literals (style : Style) (entries : List EnumEntry) : List String :=
  entries.map fun entry => style.entryLiteral entry.name

private theorem literals_say (style : Style) (entries : List EnumEntry) :
    List.Forall₂ (fun entry literal => Says literal (Identifier.normalize style.settings.enumNaming entry.name))
      entries (literals style entries) := by
  induction entries with
  | nil => exact .nil
  | cons entry rest ih => exact .cons (entry_literal_said style entry.name) ih

/-- A member of a union of as many members as given, from its literal and its place. -/
def memberLine (style : Style) (count : Nat) (member : String × Nat) : String :=
  "    " ++ (member.1 ++ if member.2 + 1 = count then style.terminator else " |")

private theorem union_members_eq (style : Style) (entries : List EnumEntry) (place : Nat) :
    style.unionMembers entries =
      ((literals style entries).zipIdx place).map (memberLine style (place + entries.length)) := by
  induction entries generalizing place with
  | nil => rfl
  | cons entry rest ih =>
    cases rest with
    | nil => simp [Style.unionMembers, literals, memberLine, Style.indent]
    | cons next rest =>
      have more : place + (entry :: next :: rest).length = place + 1 + (next :: rest).length := by
        simp only [List.length_cons]
        omega
      have inner : place + 1 ≠ place + 1 + (next :: rest).length := by
        simp only [List.length_cons]
        omega
      have first : memberLine style (place + 1 + (next :: rest).length) (style.entryLiteral entry.name, place) =
          Style.indent (style.entryLiteral entry.name ++ " |") := by
        rw [memberLine, if_neg inner]
        rfl
      rw [more, Style.unionMembers, ih (place + 1), ← first]
      · rfl
      · exact nofun

/-- An entry of an enum, from its literal. -/
def entryLine (entry : EnumEntry) (literal : String) : String :=
  "    " ++ (Text.trim entry.name ++ " = " ++ literal ++ ",")

private theorem entry_lines_eq (style : Style) (named : style.settings.numericEnums = false)
    (entries : List EnumEntry) (place : Nat) :
    style.entryLines place entries = List.zipWith entryLine entries (literals style entries) := by
  induction entries generalizing place with
  | nil => rfl
  | cons entry rest ih =>
    have value : style.entryValue place entry = style.entryLiteral entry.name := by
      simp [Style.entryValue, named]
    rw [Style.entryLines, value, ih (place + 1)]
    rfl

/-- Every entry of an enumeration has a line, in order, with a literal on one line that says
the name of the entry as an identifier. In a union a bar follows every literal but the last,
and the end of the statement follows that one; in an enum that is not numeric the literal is
the value of the entry. -/
theorem entries_say_names (style : Style) (source : String) (enumeration : Enumeration) :
    ∃ quoted,
      List.Forall₂ (fun entry literal => Says literal (Identifier.normalize style.settings.enumNaming entry.name))
        enumeration.entries quoted ∧
      (style.settings.unionEnums = true → style.enumLines source enumeration =
        style.pathComment source ++
          ["export type " ++ enumeration.name ++
            if enumeration.entries = [] then " = never" ++ style.terminator else " ="] ++
          quoted.zipIdx.map (memberLine style quoted.length) ++ [""]) ∧
      (style.settings.unionEnums = false → style.settings.numericEnums = false →
        style.enumLines source enumeration =
          style.pathComment source ++ ["export enum " ++ enumeration.name ++ " \x7b"] ++
            List.zipWith entryLine enumeration.entries quoted ++ ["\x7d", ""]) := by
  refine ⟨literals style enumeration.entries, literals_say style _, fun union => ?_, fun plain named => ?_⟩
  · have members := union_members_eq style enumeration.entries 0
    have count : (literals style enumeration.entries).length = enumeration.entries.length :=
      List.length_map _
    rw [Nat.zero_add] at members
    rw [Style.enumLines, if_pos union, Style.unionLines, count, ← members]
    cases entries : enumeration.entries with
    | nil => simp [Style.unionMembers, String.append_assoc]
    | cons entry rest => simp
  · rw [Style.enumLines, if_neg (by simp [plain]), entry_lines_eq style named]
    simp

/-- Names with a quote, with a backslash behind the end of a line, and with words to case. -/
def marks : Enumeration :=
  ⟨"Mark", [⟨"it's", none⟩, ⟨"\u2028@back\\slash more", none⟩, ⟨"GROSS_straße", some "3"⟩]⟩

def markStyle (union : Bool) : Style :=
  .ofSettings { unionEnums := union, recaseEnums := true, omitPathComment := true }

/-- The marks as a union and as an enum. -/
theorem entries_say_names_marks :
    ((markStyle true).settings.unionEnums = true ∧ (∃ quoted,
      List.Forall₂ (fun entry literal => Says literal (Identifier.normalize ⟨true, {}⟩ entry.name))
        marks.entries quoted ∧
      (markStyle true).enumLines "" marks =
        ["export type Mark ="] ++ quoted.zipIdx.map (memberLine (markStyle true) quoted.length) ++ [""]) ∧
      (markStyle true).enumLines "" marks =
        ["export type Mark =", "    'it\\'s' |", "    'back\\\\slash' |", "    'grossStraße';", ""]) ∧
    ((markStyle false).settings.unionEnums = false ∧ (markStyle false).settings.numericEnums = false ∧
      ∃ quoted,
        List.Forall₂ (fun entry literal => Says literal (Identifier.normalize ⟨true, {}⟩ entry.name))
          marks.entries quoted ∧
        (markStyle false).enumLines "" marks =
          ["export enum Mark \x7b"] ++ List.zipWith entryLine marks.entries quoted ++ ["\x7d", ""]) := by
  obtain ⟨members, say, union, -⟩ := entries_say_names (markStyle true) "" marks
  obtain ⟨values, sayToo, -, plain⟩ := entries_say_names (markStyle false) "" marks
  exact ⟨⟨rfl, ⟨members, say, union rfl⟩, by decide +kernel⟩, rfl, rfl, values, sayToo, plain rfl rfl⟩

end TypeStubs.EntryLiterals

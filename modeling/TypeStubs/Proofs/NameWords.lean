import Mathlib
import TypeStubs.Identifier
import TypeStubs.Text.Pieces

/-! The words of a name are all of the name but its separators. A division into words is
stated character by character, without the word that is under way: a character is a
separator, it ends its word, or it goes on with the character behind it. What the words of a
name are made of, and that casing them changes no more than the case, follows from there. -/
namespace TypeStubs.NameWords
open Identifier

/-- A new word starts with the first character of a text, behind a given character. -/
inductive Opens (before : Char) : List Char → Prop where
  | capital (small : isLowercase before = true) (capital : isUppercase c = true) :
      Opens before (c :: rest)
  | lastCapital (first : isUppercase before = true) (second : isUppercase c = true)
      (small : isLowercase next = true) : Opens before (c :: next :: rest)
  | letter (digit : before.isDigit = true) (letter : isAlphabetic c = true) : Opens before (c :: rest)

/-- A word goes on from a character into the text behind it. -/
structure GoesOn (before : Char) (text : List Char) : Prop where
  separated : ∀ c ∈ text.head?, isSeparator c = false
  some : text ≠ []
  closed : ¬ Opens before text

/-- The division of a text into words. -/
inductive Divided : List Char → List (List Char) → Prop where
  | nothing : Divided [] []
  | separator (between : isSeparator c = true) (rest : Divided text parts) : Divided (c :: text) parts
  | last (inside : isSeparator c = false) (ends : ¬ GoesOn c text) (rest : Divided text parts) :
      Divided (c :: text) ([c] :: parts)
  | next (inside : isSeparator c = false) (goesOn : GoesOn c text) (rest : Divided text (word :: parts)) :
      Divided (c :: text) ((c :: word) :: parts)

/-- No new word starts inside of a word. -/
structure Whole (word : List Char) : Prop where
  uncapitalized : ∀ {front small capital back}, word = front ++ small :: capital :: back →
    isLowercase small = true → isUppercase capital = false
  unlettered : ∀ {front digit letter back}, word = front ++ digit :: letter :: back →
    digit.isDigit = true → isAlphabetic letter = false
  together : ∀ {front first second small back}, word = front ++ first :: second :: small :: back →
    isUppercase first = true → isUppercase second = true → isLowercase small = false

private theorem starts_word_iff (before c : Char) (rest : List Char) :
    startsWord before c rest.head? = true ↔ Opens before (c :: rest) := by
  constructor
  · intro starts
    simp only [startsWord, Bool.or_eq_true, Bool.and_eq_true] at starts
    rcases starts with (⟨small, capital⟩ | ⟨⟨first, second⟩, small⟩) | ⟨digit, letter⟩
    · exact .capital small capital
    · cases rest with
      | nil => simp at small
      | cons next rest => exact .lastCapital first second (by simpa using small)
    · exact .letter digit letter
  · intro opens
    cases opens with
    | capital small capital => simp [startsWord, small, capital]
    | lastCapital first second small => simp [startsWord, first, second, small]
    | letter digit letter => simp [startsWord, digit, letter]

private theorem goes_on_iff (before c : Char) (rest : List Char) :
    GoesOn before (c :: rest) ↔ isSeparator c = false ∧ startsWord before c rest.head? = false := by
  rw [← Bool.not_eq_true (startsWord ..), starts_word_iff]
  constructor
  · intro goesOn
    exact ⟨goesOn.separated c rfl, goesOn.closed⟩
  · rintro ⟨inside, closed⟩
    exact ⟨by simpa using inside, by simp, closed⟩

/-- The words of a text, and those of a text behind a word that is under way. -/
theorem words_after_divided (text : List Char) :
    Divided text (wordsAfter [] text) ∧
      ∀ before more, isSeparator before = false → ∃ rest parts,
        wordsAfter (before :: more) text = ((before :: more).reverse ++ rest) :: parts ∧
        Divided (before :: text) ((before :: rest) :: parts) := by
  induction text with
  | nil =>
    refine ⟨.nothing, fun before more inside => ⟨[], [], by simp [wordsAfter], ?_⟩⟩
    exact .last inside (fun goesOn => goesOn.some rfl) .nothing
  | cons c text ih =>
    obtain ⟨divided, begun⟩ := ih
    by_cases between : isSeparator c = true
    · have behind : Divided (c :: text) (wordsAfter [] text) := .separator between divided
      refine ⟨by simpa [wordsAfter, between] using behind, fun before more inside => ?_⟩
      refine ⟨[], wordsAfter [] text, by simp [wordsAfter, between], .last inside ?_ behind⟩
      simp [goes_on_iff, between]
    · have inner : isSeparator c = false := Bool.eq_false_iff.mpr between
      obtain ⟨rest, parts, cut, behind⟩ := begun c [] inner
      have whole : wordsAfter [c] text = (c :: rest) :: parts := by simpa using cut
      refine ⟨by simpa [wordsAfter, inner, whole] using behind, fun before more inside => ?_⟩
      by_cases starts : startsWord before c text.head? = true
      · refine ⟨[], (c :: rest) :: parts, by simp [wordsAfter, inner, starts, whole], ?_⟩
        exact .last inside (by simp [goes_on_iff, starts]) behind
      · have goesOn : GoesOn before (c :: text) := (goes_on_iff ..).mpr ⟨inner, Bool.eq_false_iff.mpr starts⟩
        obtain ⟨rest, parts, cut, behind⟩ := begun c (before :: more) inner
        refine ⟨c :: rest, parts, ?_, .next inside goesOn behind⟩
        simp [wordsAfter, inner, starts, cut]

theorem words_divided (name : List Char) : Divided name (words name) := (words_after_divided name).1

theorem divided_flatten (divided : Divided text parts) :
    parts.flatten = text.filter fun c => !isSeparator c := by
  induction divided with
  | nothing => rfl
  | separator between _ ih => simp [between, ih]
  | last inside _ _ ih => simp [inside, ih]
  | next inside _ _ ih => simpa [inside] using ih

private theorem divided_nonempty (divided : Divided text parts) : ∀ word ∈ parts, word ≠ [] := by
  induction divided with
  | nothing => simp
  | separator _ _ ih => exact ih
  | last _ _ _ ih => simpa using ih
  | next _ _ _ ih => simpa using fun word member => ih word (List.mem_cons_of_mem _ member)

/-- A word that starts a text is there as it stands. -/
theorem divided_start (divided : Divided text (word :: parts)) (inside : ∀ c ∈ text.head?, isSeparator c = false) :
    word <+: text := by
  generalize same : word :: parts = all at divided
  induction divided generalizing word parts with
  | nothing => cases same
  | separator between _ _ => simp [between] at inside
  | last _ _ _ _ =>
    cases same
    exact ⟨_, rfl⟩
  | next _ goesOn _ ih =>
    cases same
    obtain ⟨tail, behind⟩ := ih goesOn.separated rfl
    exact ⟨tail, by rw [List.cons_append, behind]⟩

/-- What starts a new word in the part of a text starts one in the text. -/
theorem opens_append (opens : Opens before front) (back : List Char) : Opens before (front ++ back) := by
  cases opens with
  | capital small capital => exact .capital small capital
  | lastCapital first second small => exact .lastCapital first second small
  | letter digit letter => exact .letter digit letter

private theorem whole_cons {word : List Char} (whole : Whole word) (closed : ¬ Opens c word) : Whole (c :: word) := by
  constructor
  · intro front small capital back spelled lower
    cases front with
    | nil =>
      cases spelled
      exact Bool.eq_false_iff.mpr fun upper => closed (.capital lower upper)
    | cons _ front =>
      cases spelled
      exact whole.uncapitalized rfl lower
  · intro front digit letter back spelled isDigit
    cases front with
    | nil =>
      cases spelled
      exact Bool.eq_false_iff.mpr fun alphabetic => closed (.letter isDigit alphabetic)
    | cons _ front =>
      cases spelled
      exact whole.unlettered rfl isDigit
  · intro front first second small back spelled upper alsoUpper
    cases front with
    | nil =>
      cases spelled
      exact Bool.eq_false_iff.mpr fun lower => closed (.lastCapital upper alsoUpper lower)
    | cons _ front =>
      cases spelled
      exact whole.together rfl upper alsoUpper

private theorem whole_nil : Whole [] := by constructor <;> simp

private theorem divided_whole (divided : Divided text parts) : ∀ word ∈ parts, Whole word := by
  induction divided with
  | nothing => simp
  | separator _ _ ih => exact ih
  | last _ _ _ ih => exact List.forall_mem_cons.mpr ⟨whole_cons whole_nil nofun, ih⟩
  | next _ goesOn rest ih =>
    obtain ⟨whole, others⟩ := List.forall_mem_cons.mp ih
    obtain ⟨tail, spelled⟩ := divided_start rest goesOn.separated
    have closed := goesOn.closed
    rw [← spelled] at closed
    exact List.forall_mem_cons.mpr ⟨whole_cons whole fun opens => closed (opens_append opens tail), others⟩

/-- A text of ASCII characters. -/
def Ascii (text : List Char) : Prop := ∀ c ∈ text, c.toNat < 128

private theorem ascii_cons : Ascii (c :: text) ↔ c.toNat < 128 ∧ Ascii text := List.forall_mem_cons

private theorem lower_after_ascii (before : List Char) (ascii : Ascii text) :
    Chars.lowerAfter before text = Chars.asciiLower text := by
  induction text generalizing before with
  | nil => rfl
  | cons c rest ih =>
    obtain ⟨small, ascii⟩ := ascii_cons.mp ascii
    have noSigma : c ≠ 'Σ' := by
      rintro rfl
      simp at small
    simp [Chars.lowerAfter, noSigma, lowerOf, small, ih _ ascii, Chars.asciiLower]

private theorem lower_twice (text : List Char) : Chars.asciiLower (Chars.asciiLower text) = Chars.asciiLower text := by
  simp [Chars.asciiLower]

private theorem lower_append (front back : List Char) :
    Chars.asciiLower (front ++ back) = Chars.asciiLower front ++ Chars.asciiLower back := List.map_append

private theorem capitalize_ascii (ascii : Ascii word) : Chars.asciiLower (capitalize word) = Chars.asciiLower word := by
  cases word with
  | nil => rfl
  | cons c rest =>
    obtain ⟨small, ascii⟩ := ascii_cons.mp ascii
    rw [capitalize, lower_append, Chars.toLower, lower_after_ascii [] ascii, lower_twice]
    simp [upperOf, small, Chars.asciiLower]

/-- A cased word is the word, up to case. -/
theorem recase_ascii (casing : Casing) (first : Bool) (ascii : Ascii word) :
    Chars.asciiLower (recaseWord casing first word) = Chars.asciiLower word := by
  unfold recaseWord
  split
  · rfl
  · split
    · rw [Chars.toLower, lower_after_ascii [] ascii, lower_twice]
    · exact capitalize_ascii ascii

private theorem join_ascii (casing : Casing) (parts : List (List Char)) (ascii : ∀ word ∈ parts, Ascii word) :
    Chars.asciiLower (joinWords casing parts) = Chars.asciiLower parts.flatten := by
  have behind (parts : List (List Char)) (ascii : ∀ word ∈ parts, Ascii word) :
      Chars.asciiLower (parts.flatMap (recaseWord casing false)) = Chars.asciiLower parts.flatten := by
    induction parts with
    | nil => rfl
    | cons word rest ih =>
      obtain ⟨here, others⟩ := List.forall_mem_cons.mp ascii
      rw [List.flatMap_cons, List.flatten_cons, lower_append, lower_append, recase_ascii casing false here, ih others]
  cases parts with
  | nil => rfl
  | cons word rest =>
    obtain ⟨here, others⟩ := List.forall_mem_cons.mp ascii
    rw [joinWords, List.flatten_cons, lower_append, lower_append, recase_ascii casing true here, behind rest others]

/-- Casing a name loses nothing. The words are those of the division of the name; together
they are the name without its separators, none of them is empty, and no new word starts inside
of one. The words of an ASCII name, cased and put together again, differ from the name without
its separators in the case of letters at most. -/
theorem casing_loses_nothing :
    (∀ name, Divided name (words name) ∧
      (words name).flatten = name.filter (fun c => !isSeparator c) ∧
      ∀ word ∈ words name, word ≠ [] ∧ Whole word) ∧
    ∀ (casing : Casing) (name : String), Ascii name.toList →
      Chars.asciiLower (camelCase casing name).toList =
        Chars.asciiLower (name.toList.filter fun c => !isSeparator c) := by
  refine ⟨fun name => ?_, fun casing name ascii => ?_⟩
  · have divided := words_divided name
    exact ⟨divided, divided_flatten divided, fun word member =>
      ⟨divided_nonempty divided word member, divided_whole divided word member⟩⟩
  · have together := divided_flatten (words_divided name.toList)
    have asciiWords : ∀ word ∈ words name.toList, Ascii word := by
      intro word member c inside
      have kept : c ∈ (words name.toList).flatten := List.mem_flatten.mpr ⟨word, member, inside⟩
      rw [together] at kept
      exact ascii c (List.mem_filter.mp kept).1
    rw [camelCase, String.toList_ofList, camelChars, join_ascii casing _ asciiWords, together]

/-- A row of capitals, a number and a separator in one name. -/
theorem casing_loses_nothing_response :
    words "getHTTPResponse_v2Last".toList = ["get", "HTTP", "Response", "v2", "Last"].map String.toList ∧
    camelCase ⟨false, true⟩ "getHTTPResponse_v2Last" = "getHTTPResponseV2Last" ∧
    Chars.asciiLower (camelCase ⟨false, true⟩ "getHTTPResponse_v2Last").toList =
      Chars.asciiLower ("getHTTPResponse_v2Last".toList.filter fun c => !isSeparator c) := by
  refine ⟨by rfl, by rfl, casing_loses_nothing.2 _ _ ?_⟩
  have ascii : "getHTTPResponse_v2Last".toList.all (fun c => c.toNat < 128) = true := by rfl
  exact fun c member => of_decide_eq_true (List.all_eq_true.mp ascii c member)

end TypeStubs.NameWords

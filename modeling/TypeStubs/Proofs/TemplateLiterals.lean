import TypeStubs.Json.Reader

/-! How a template literal is read. Its text is cooked: escapes are resolved, the ends of
lines are line feeds, and what comes out are sixteen-bit units. The code of an interpolation
is followed to the brace that ends it, through braces, strings, comments and literals of its
own; a regular expression is not told from a division there.

No text is read into more than it has characters for, and where nothing is lost, no unit
comes out that a writer has to escape. -/
namespace TypeStubs.TemplateLiterals
open Json.Reader (hexValue?)
open Json.Written (isTrail)

/-! ## What a literal says -/

/-- A part of what a template literal says: a unit of its text, or the code of an
interpolation as it is written. -/
inductive Element where
  | unit (n : Nat)
  | code (chars : List Char)
  deriving DecidableEq, Repr

/-- The sixteen-bit units of a code point. -/
def units (n : Nat) : List Nat :=
  if n < 0x10000 then [n] else [0xD800 + (n - 0x10000) / 0x400, 0xDC00 + (n - 0x10000) % 0x400]

/-- A text unit by unit. -/
def spelled (text : List Char) : List Element := text.flatMap fun c => (units c.toNat).map .unit

/-! ## Following code -/

/-- What a character of code stands in. -/
inductive Frame where
  | braces
  | template
  | quotes (mark : Char)
  /-- A comment to the end of its line. -/
  | line
  /-- A comment to its closing mark. -/
  | remark
  deriving DecidableEq, Repr

/-- Whether the character ends a line. -/
def endsLine (c : Char) : Bool := c == '\n' || c == '\r' || c == '\u2028' || c == '\u2029'

/-- What a character of code leaves open, innermost first. Given is the character before it
where the two could belong together. A brace that closes nothing and the end of a line
between quotes are errors. -/
def advance (last : Option Char) : List Frame → Char → Option (Option Char × List Frame)
  | .template :: outer, c =>
    if last = some '\\' then some (none, .template :: outer)
    else if c = '`' then some (none, outer)
    else if last = some '$' ∧ c = '\x7b' then some (none, .braces :: .template :: outer)
    else some (some c, .template :: outer)
  | .quotes mark :: outer, c =>
    if last = some '\\' then some (if c = '\r' then some c else none, .quotes mark :: outer)
    else if c = mark then some (none, outer)
    else if c = '\r' ∨ c = '\n' ∧ last ≠ some '\r' then none
    else some (some c, .quotes mark :: outer)
  | .line :: outer, c => some (none, if endsLine c then outer else .line :: outer)
  | .remark :: outer, c =>
    if last = some '*' ∧ c = '/' then some (none, outer) else some (some c, .remark :: outer)
  | frames, c =>
    if c = '\x7d' then
      match frames with
      | [] => none
      | _ :: outer => some (none, outer)
    else if c = '\x7b' then some (none, .braces :: frames)
    else if c = '`' then some (none, .template :: frames)
    else if c = '"' ∨ c = '\'' then some (none, .quotes c :: frames)
    else if last = some '/' ∧ c = '/' then some (none, .line :: frames)
    else if last = some '/' ∧ c = '*' then some (none, .remark :: frames)
    else some (some c, frames)

/-- What a text of code leaves open. -/
def follow (last : Option Char) (frames : List Frame) : List Char → Option (Option Char × List Frame)
  | [] => some (last, frames)
  | c :: rest => (advance last frames c).bind fun (last, frames) => follow last frames rest

/-- Code that closes all that it opens. -/
def Whole (code : List Char) : Prop := (follow none [] code).map Prod.snd = some []

instance (code : List Char) : Decidable (Whole code) :=
  inferInstanceAs (Decidable ((follow none [] code).map Prod.snd = some []))

/-! ## Reading -/

/-- What is being read. -/
inductive Mode where
  | text
  /-- What follows a backslash. -/
  | escaped
  /-- What follows a backslash and the letter for a code point. -/
  | unicode
  /-- A hexadecimal digit with as many behind it, and the value of those before it. -/
  | digits (more value : Nat)
  /-- A code point between braces. -/
  | braced (value : Option Nat)
  /-- What follows the dollar sign of an interpolation. -/
  | opening
  /-- The code of an interpolation, its characters so far last first. -/
  | code (before : List Char) (last : Option Char) (frames : List Frame)
  deriving DecidableEq, Repr

/-- The character that an escape stands for. -/
def meant (c : Char) : Char :=
  if c = 'b' then '\x08' else if c = 't' then '\t' else if c = 'n' then '\n'
  else if c = 'v' then '\x0b' else if c = 'f' then '\x0c' else if c = 'r' then '\r' else c

namespace Mode

/-- What a character adds, and what is read behind it. The next character decides where a
line ends in two, where a dollar sign opens an interpolation, and whether digits follow a
zero. -/
def step : Mode → Char → Option Char → Option (List Element × Mode)
  | .text, c, next =>
    if c = '\\' then some ([], .escaped)
    else if c = '$' ∧ next = some '\x7b' then some ([], .opening)
    else if c = '\r' then some (if next = some '\n' then [] else [.unit 10], .text)
    else some (spelled [c], .text)
  | .escaped, c, next =>
    if c = 'x' then some ([], .digits 1 0)
    else if c = 'u' then some ([], .unicode)
    else if c = '\r' ∧ next = some '\n' then some ([], .escaped)
    else if endsLine c then some ([], .text)
    else if c.isDigit then
      if c = '0' ∧ next.any Char.isDigit = false then some ([.unit 0], .text) else none
    else some (spelled [meant c], .text)
  | .unicode, c, _ =>
    if c = '\x7b' then some ([], .braced none)
    else (hexValue? c).map fun digit => ([], .digits 2 digit)
  | .digits 0 value, c, _ => (hexValue? c).map fun digit => ([.unit (value * 16 + digit)], .text)
  | .digits (more + 1) value, c, _ =>
    (hexValue? c).map fun digit => ([], .digits more (value * 16 + digit))
  | .braced value, c, _ =>
    if c = '\x7d' then value.map fun n => ((units n).map .unit, .text)
    else
      (hexValue? c).bind fun digit =>
        let n := value.getD 0 * 16 + digit
        if n ≤ 0x10FFFF then some ([], .braced (some n)) else none
  | .opening, _, _ => some ([], .code [] none [])
  | .code before last frames, c, _ =>
    if c = '\x7d' ∧ frames = [] then some ([.code before.reverse], .text)
    else (advance last frames c).map fun (last, frames) => ([], .code (c :: before) last frames)

end Mode

/-- Reads to the backtick that closes the literal, which has to be the last character. -/
def read (mode : Mode) : List Char → Option (List Element)
  | [] => none
  | c :: rest =>
    if mode = .text ∧ c = '`' then if rest = [] then some [] else none
    else (mode.step c rest.head?).bind fun (elements, after) => (read after rest).map (elements ++ ·)

/-- What a template literal says, if the text is one. -/
def lex : List Char → Option (List Element)
  | [] => none
  | c :: rest => if c = '`' then read .text rest else none

/-! ## What is read as it is written -/

section
variable {mode after : Mode} {c : Char} {rest : List Char}

private theorem read_step (goesOn : ¬(mode = .text ∧ c = '`'))
    (steps : mode.step c rest.head? = some (elements, after)) :
    read mode (c :: rest) = (read after rest).map (elements ++ ·) := by
  rw [read, if_neg goesOn, steps]
  rfl

/-- Where a character adds nothing, only what is read changes. -/
theorem read_silent (goesOn : ¬(mode = .text ∧ c = '`'))
    (steps : mode.step c rest.head? = some ([], after)) : read mode (c :: rest) = read after rest := by
  rw [read_step goesOn steps]
  exact Option.map_id_apply

/-- What is read is at its end, or goes on with a step. -/
theorem read_cases (done : read mode (c :: rest) = some elements) :
    (mode = .text ∧ c = '`') ∧ rest = [] ∧ elements = [] ∨
      ¬(mode = .text ∧ c = '`') ∧ ∃ first after others, mode.step c rest.head? = some (first, after) ∧
        read after rest = some others ∧ elements = first ++ others := by
  rw [read] at done
  split at done
  · split at done
    · cases done
      exact .inl ⟨‹_›, ‹_›, rfl⟩
    · cases done
  · obtain ⟨⟨first, after⟩, steps, done⟩ := Option.bind_eq_some_iff.mp done
    obtain ⟨others, done, same⟩ := Option.map_eq_some_iff.mp done
    exact .inr ⟨‹_›, first, after, others, steps, done, same.symm⟩

end

/-- A character that is no mark of any kind stands for itself. -/
theorem read_char (unmarked : c ≠ '`' ∧ c ≠ '\\' ∧ c ≠ '\r')
    (unopened : c = '$' → rest.head? ≠ some '\x7b') :
    read .text (c :: rest) = (read .text rest).map (spelled [c] ++ ·) := by
  obtain ⟨backtick, backslash, feed⟩ := unmarked
  have plain : ¬(c = '$' ∧ rest.head? = some '\x7b') := fun opens => unopened opens.1 opens.2
  refine read_step (by simp [backtick]) ?_
  rw [Mode.step, if_neg backslash, if_neg plain, if_neg feed]

theorem read_backtick (rest : List Char) :
    read .text ('\\' :: '`' :: rest) = (read .text rest).map (spelled ['`'] ++ ·) := by
  rw [read_silent (by simp) rfl, read_step (by simp) rfl]
  rfl

private theorem follow_cons (followed : follow last frames (c :: rest) = some ended) :
    ∃ next inner, advance last frames c = some (next, inner) ∧ follow next inner rest = some ended := by
  rw [follow, Option.bind_eq_some_iff] at followed
  obtain ⟨⟨next, inner⟩, advanced, followed⟩ := followed
  exact ⟨next, inner, advanced, followed⟩

private theorem read_code (followed : follow last frames code = some (ended, [])) (before rest : List Char) :
    read (.code before last frames) (code ++ '\x7d' :: rest) =
      (read .text rest).map (.code (before.reverse ++ code) :: ·) := by
  induction code generalizing last frames before with
  | nil =>
    simp only [follow, Option.some.injEq, Prod.mk.injEq] at followed
    simp [read, Mode.step, followed.2]
  | cons c code ih =>
    obtain ⟨next, inner, advanced, followed⟩ := follow_cons followed
    have inside : ¬(c = '\x7d' ∧ frames = []) := by
      rintro ⟨rfl, rfl⟩
      simp [advance] at advanced
    have steps : (Mode.code before last frames).step c (code ++ '\x7d' :: rest).head? =
        some ([], .code (c :: before) next inner) := by
      rw [Mode.step, if_neg inside, advanced]
      rfl
    rw [List.cons_append, read_silent (by simp) steps, ih followed]
    simp

/-- An interpolation of whole code is read as that. -/
theorem read_interpolation (whole : Whole code) (rest : List Char) :
    read .text ('$' :: '\x7b' :: code ++ '\x7d' :: rest) = (read .text rest).map (.code code :: ·) := by
  obtain ⟨⟨last, frames⟩, followed, closed⟩ := Option.map_eq_some_iff.mp whole
  subst closed
  rw [List.cons_append, List.cons_append, read_silent (by simp) rfl, read_silent (by simp) rfl]
  exact read_code followed [] rest

/-! ## Nothing is read for free -/

namespace Element

/-- The characters that it takes at least to write an element. The second half of a pair
comes with the first. -/
def cost : Element → Nat
  | .unit n => if n = 96 then 2 else if isTrail n then 0 else 1
  | .code chars => chars.length + 3

end Element

def cost : List Element → Nat
  | [] => 0
  | element :: rest => element.cost + cost rest

theorem cost_append (front back : List Element) : cost (front ++ back) = cost front + cost back := by
  induction front with
  | nil => exact (Nat.zero_add _).symm
  | cons element front ih => rw [List.cons_append, cost, cost, ih, Nat.add_assoc]

private theorem unit_cost_le (n : Nat) : (Element.unit n).cost ≤ 2 := by
  simp only [Element.cost]
  split
  · exact Nat.le_refl 2
  · split <;> omega

private theorem trail_cost (low : 0xDC00 ≤ n) (high : n < 0xE000) : (Element.unit n).cost = 0 := by
  have trail : isTrail n = true := by
    simp only [isTrail, Bool.and_eq_true, decide_eq_true_iff]
    omega
  have apart : n ≠ 96 := by omega
  simp only [Element.cost, apart, trail, ↓reduceIte]

private theorem cost_units_le (n : Nat) : cost ((units n).map .unit) ≤ 2 := by
  unfold units
  split
  · simpa [cost] using unit_cost_le n
  · have lead := unit_cost_le (0xD800 + (n - 0x10000) / 0x400)
    have trail := @trail_cost (0xDC00 + (n - 0x10000) % 0x400) (by omega) (by omega)
    rw [List.map_cons, List.map_cons, List.map_nil, cost, cost, cost, trail, Nat.add_zero]
    exact lead

private theorem backtick_code (c : Char) : c.toNat = 96 ↔ c = '`' := by
  constructor
  · intro same
    exact Char.toNat_inj.mp same
  · rintro rfl
    rfl

/-- A character is one unit or a pair. -/
theorem spelled_cases (c : Char) :
    spelled [c] = [.unit c.toNat] ∧ (c.toNat < 0xD800 ∨ 0xDFFF < c.toNat) ∨
      ∃ lead trail, spelled [c] = [.unit lead, .unit trail] ∧ 0xFFFF < c.toNat ∧
        (0xD800 ≤ lead ∧ lead < 0xDC00) ∧ 0xDC00 ≤ trail ∧ trail < 0xE000 := by
  have valid : c.toNat < 0xD800 ∨ 0xDFFF < c.toNat ∧ c.toNat < 0x110000 := c.valid
  simp only [spelled, List.flatMap_cons, List.flatMap_nil, List.append_nil, units]
  split
  · exact .inl ⟨rfl, by omega⟩
  · exact .inr ⟨_, _, rfl, by omega, by omega, by omega⟩

/-- A character costs one, and a backtick two. -/
theorem cost_char (c : Char) : cost (spelled [c]) = if c = '`' then 2 else 1 := by
  rcases spelled_cases c with ⟨single, range⟩ | ⟨lead, trail, pair, beyond, range, low, high⟩
  · have whole : isTrail c.toNat = false := by
      simp only [isTrail, Bool.and_eq_false_iff, decide_eq_false_iff_not]
      omega
    simp [single, cost, Element.cost, whole, backtick_code]
  · have first : isTrail lead = false := by
      simp only [isTrail, Bool.and_eq_false_iff, decide_eq_false_iff_not]
      omega
    have apart : lead ≠ 96 := by omega
    have other : c ≠ '`' := fun backtick => by
      have := (backtick_code c).mpr backtick
      omega
    rw [pair, cost, cost, trail_cost low high, if_neg other]
    simp [cost, Element.cost, first, apart]

/-- What has been read without an element for it yet. -/
def Mode.credit : Mode → Nat
  | .text => 0
  | .escaped | .opening => 1
  | .unicode | .digits _ _ | .braced _ => 2
  | .code before _ _ => before.length + 2

/-- What a character adds where nothing is lost, and what is read behind it. -/
inductive Exact (mode : Mode) (c : Char) (next : Option Char) : List Element → Mode → Prop where
  | silent {after : Mode} (inside : after ≠ .text) : Exact mode c next [] after
  | interpolation (code : List Char) : Exact mode c next [.code code] .text
  | backtick : Exact mode c next [.unit 96] .text
  | feed : Exact mode c next [.unit 10] .text
  | char (reading : mode = .text) (unescaped : c ≠ '\\' ∧ c ≠ '\r')
      (unopened : c = '$' → next ≠ some '\x7b') : Exact mode c next (spelled [c]) .text

section
variable {mode after : Mode} {c : Char} {next : Option Char} {elements : List Element}

/-- A step adds no more than the character and what was read before it pay for. -/
def Paid (mode : Mode) (c : Char) (next : Option Char) (elements : List Element) (after : Mode) : Prop :=
  cost elements + after.credit < mode.credit + 1 ∨
    cost elements + after.credit = mode.credit + 1 ∧ Exact mode c next elements after

private theorem text_paid (goesOn : c ≠ '`') (steps : Mode.text.step c next = some (elements, after)) :
    Paid .text c next elements after := by
  rw [Mode.step] at steps
  split at steps
  · cases steps
    exact .inr ⟨rfl, .silent nofun⟩
  · split at steps
    · cases steps
      exact .inr ⟨rfl, .silent nofun⟩
    · split at steps
      · cases steps
        split
        · exact .inl Nat.zero_lt_one
        · exact .inr ⟨rfl, .feed⟩
      · rename_i backslash opens feed
        cases steps
        refine .inr ⟨?_, .char rfl ⟨backslash, feed⟩ fun dollar brace => opens ⟨dollar, brace⟩⟩
        rw [cost_char, if_neg goesOn]
        rfl

private theorem escaped_paid (steps : Mode.escaped.step c next = some (elements, after)) :
    Paid .escaped c next elements after := by
  rw [Mode.step] at steps
  split at steps
  · cases steps
    exact .inr ⟨rfl, .silent nofun⟩
  · split at steps
    · cases steps
      exact .inr ⟨rfl, .silent nofun⟩
    · split at steps
      · cases steps
        exact .inl (Nat.lt_succ_self 1)
      · split at steps
        · cases steps
          exact .inl Nat.zero_lt_two
        · split at steps
          · split at steps
            · cases steps
              exact .inl (Nat.lt_succ_self 1)
            · cases steps
          · -- Of all short escapes, that of the backtick alone is worth its two characters.
            cases steps
            have price := cost_char (meant c)
            by_cases backtick : meant c = '`'
            · rw [backtick] at price ⊢
              exact .inr ⟨price, .backtick⟩
            · rw [if_neg backtick] at price
              refine .inl ?_
              rw [price]
              exact Nat.lt_succ_self 1

/-- An escape by number is longer than what it stands for. -/
theorem Paid.of_cheap (cheap : cost elements + after.credit ≤ 2) (rich : mode.credit = 2) :
    Paid mode c next elements after :=
  .inl (by omega)

private theorem braced_paid (steps : (Mode.braced value).step c next = some (elements, after)) :
    Paid (.braced value) c next elements after := by
  rw [Mode.step] at steps
  split at steps
  · obtain ⟨n, -, same⟩ := Option.map_eq_some_iff.mp steps
    cases same
    exact .of_cheap (cost_units_le n) rfl
  · obtain ⟨digit, -, bounded⟩ := Option.bind_eq_some_iff.mp steps
    simp only at bounded
    split at bounded
    · cases bounded
      exact .of_cheap (Nat.le_refl 2) rfl
    · cases bounded

private theorem code_paid (steps : (Mode.code before last frames).step c next = some (elements, after)) :
    Paid (.code before last frames) c next elements after := by
  rw [Mode.step] at steps
  split at steps
  · cases steps
    refine .inr ⟨?_, .interpolation _⟩
    simp [cost, Element.cost, Mode.credit]
  · obtain ⟨⟨next, inner⟩, -, same⟩ := Option.map_eq_some_iff.mp steps
    cases same
    refine .inr ⟨?_, .silent nofun⟩
    simp [cost, Mode.credit]

private theorem step_paid (goesOn : ¬(mode = .text ∧ c = '`'))
    (steps : mode.step c next = some (elements, after)) : Paid mode c next elements after := by
  cases mode with
  | text => exact text_paid (fun backtick => goesOn ⟨rfl, backtick⟩) steps
  | escaped => exact escaped_paid steps
  | unicode =>
    rw [Mode.step] at steps
    split at steps
    · cases steps
      exact .of_cheap (Nat.le_refl 2) rfl
    · obtain ⟨digit, -, same⟩ := Option.map_eq_some_iff.mp steps
      cases same
      exact .of_cheap (Nat.le_refl 2) rfl
  | digits more value =>
    cases more with
    | zero =>
      obtain ⟨digit, -, same⟩ := Option.map_eq_some_iff.mp steps
      cases same
      exact .of_cheap (unit_cost_le _) rfl
    | succ more =>
      obtain ⟨digit, -, same⟩ := Option.map_eq_some_iff.mp steps
      cases same
      exact .of_cheap (Nat.le_refl 2) rfl
  | braced value => exact braced_paid steps
  | opening =>
    cases steps
    exact .inr ⟨rfl, .silent nofun⟩
  | code before last frames => exact code_paid steps

end

/-! ## What comes out where nothing is lost -/

/-- Whether elements have no unit that text cannot have as it is: no backslash and no
carriage return, and no dollar sign before an opening brace. -/
def Clean : List Element → Prop
  | [] => True
  | .code _ :: rest => Clean rest
  | .unit n :: rest => (n ≠ 92 ∧ n ≠ 13) ∧ (n = 36 → rest.head? ≠ some (.unit 123)) ∧ Clean rest

theorem clean_char (c : Char) (rest : List Element) :
    Clean (spelled [c] ++ rest) ↔
      (c ≠ '\\' ∧ c ≠ '\r') ∧ (c = '$' → rest.head? ≠ some (.unit 123)) ∧ Clean rest := by
  have code (d : Char) : c.toNat = d.toNat ↔ c = d := Char.toNat_inj
  rcases spelled_cases c with ⟨single, -⟩ | ⟨lead, trail, pair, beyond, range, low, high⟩
  · rw [single]
    exact and_congr (and_congr (not_congr (code '\\')) (not_congr (code '\r')))
      (and_congr (imp_congr_left (code '$')) Iff.rfl)
  · have apart {d : Char} (small : d.toNat ≤ 0xFFFF) : c ≠ d := by
      rintro rfl
      omega
    have others : (lead ≠ 92 ∧ lead ≠ 13) ∧ (trail ≠ 92 ∧ trail ≠ 13) ∧ lead ≠ 36 ∧ trail ≠ 36 := by omega
    rw [pair]
    simp [Clean, others, apart (show '\\'.toNat ≤ 0xFFFF by decide), apart (show '\r'.toNat ≤ 0xFFFF by decide),
      apart (show '$'.toNat ≤ 0xFFFF by decide)]

private theorem char_of_brace (brace : (spelled [c] ++ rest).head? = some (.unit 123)) : c = '\x7b' := by
  rcases spelled_cases c with ⟨single, -⟩ | ⟨lead, trail, pair, -, range, -⟩
  · simp only [single, List.cons_append, List.head?_cons, Option.some.injEq, Element.unit.injEq] at brace
    exact Char.toNat_inj.mp brace
  · simp only [pair, List.cons_append, List.head?_cons, Option.some.injEq, Element.unit.injEq] at brace
    omega

/-- What is read costs no more characters than there are; and where it costs them all, it
is clean, and starts with an opening brace only if the text does. -/
theorem read_paid (done : read mode text = some elements) :
    cost elements + 1 < mode.credit + text.length ∨
      cost elements + 1 = mode.credit + text.length ∧ Clean elements ∧
        (elements.head? = some (.unit 123) → mode = .text ∧ text.head? = some '\x7b') := by
  induction text generalizing mode elements with
  | nil => cases done
  | cons c rest ih =>
    rcases read_cases done with ⟨⟨rfl, rfl⟩, rfl, rfl⟩ | ⟨goesOn, first, after, others, steps, goes, rfl⟩
    · exact .inr ⟨rfl, trivial, nofun⟩
    · have total := cost_append first others
      rw [List.length_cons]
      rcases step_paid goesOn steps with loss | ⟨even, exactly⟩
      · rcases ih goes with later | ⟨later, -⟩ <;> exact .inl (by omega)
      · rcases ih goes with later | ⟨later, clean, starts⟩
        · exact .inl (by omega)
        · refine .inr ⟨by omega, ?_⟩
          cases exactly with
          | silent inside => exact ⟨clean, fun brace => absurd (starts brace).1 inside⟩
          | interpolation code => exact ⟨clean, nofun⟩
          | backtick => exact ⟨⟨by decide, nofun, clean⟩, nofun⟩
          | feed => exact ⟨⟨by decide, nofun, clean⟩, nofun⟩
          | char reading unescaped unopened =>
            have apart (dollar : c = '$') : others.head? ≠ some (.unit 123) := fun brace =>
              unopened dollar (starts brace).2
            exact ⟨(clean_char c others).mpr ⟨unescaped, apart, clean⟩,
              fun brace => ⟨reading, congrArg some (char_of_brace brace)⟩⟩

end TypeStubs.TemplateLiterals

import TypeStubs.Settings.Environment
import TypeStubs.Proofs.TextPieces

/-! References to variables, and what becomes of them. Values are put in one variable after
the other, into a text that may hold values already. The target is a single pass over the
references that the text had at first. Both agree, in whatever order the variables are taken,
exactly when the outcome of the single pass refers to none of the variables. -/
namespace TypeStubs.VariableSubstitution
open Environment TextPieces

/-! ## References -/

/-- A name that a reference can have. -/
def IsVariable : List Char → Prop
  | [] => False
  | first :: rest => isNameStart first = true ∧ ∀ c ∈ rest, isNameChar c = true

/-- A part of a text. -/
inductive Part where
  | char (c : Char)
  | reference (name : List Char)
  deriving DecidableEq, Repr

/-- A part as it is written. -/
def Part.chars : Part → List Char
  | .char c => [c]
  | .reference name => written name

/-- The text that parts make up. -/
def spelled (parts : List Part) : List Char := parts.flatMap Part.chars

/-- A text is read as parts: a reference wherever one stands, and else a character. -/
inductive Reads : List Char → List Part → Prop where
  | nothing : Reads [] []
  | reference (valid : IsVariable name) (rest : Reads text parts) :
      Reads (written name ++ text) (.reference name :: parts)
  | char (plain : ∀ name, IsVariable name → ¬ written name <+: c :: text) (rest : Reads text parts) :
      Reads (c :: text) (.char c :: parts)

/-- A part with the value of the variable in place of a reference, if the variable is set. -/
def shown (env : Environment) : Part → List Char
  | .char c => [c]
  | .reference name => (env (String.ofList name)).elim (written name) String.toList

/-- The parts with all values in place at once. -/
def filled (env : Environment) (parts : List Part) : List Char := parts.flatMap (shown env)

/-- With all values in place nothing refers to a variable of the text any more, but where the
value of the variable is the reference itself. -/
def Settled (env : Environment) (parts : List Part) : Prop :=
  ∀ name value, .reference name ∈ parts → env (String.ofList name) = some value →
    value.toList ≠ written name → ¬ written name <:+: filled env parts

/-! ## Reading -/

private theorem name_start_char (start : isNameStart c = true) : isNameChar c = true := by
  simp only [isNameStart, isNameChar, Bool.or_eq_true] at start ⊢
  exact start.elim (fun upper => .inl (.inl upper)) .inr

private theorem variable_chars (valid : IsVariable name) : ∀ c ∈ name, isNameChar c = true := by
  cases name with
  | nil => exact valid.elim
  | cons first rest => exact List.forall_mem_cons.mpr ⟨name_start_char valid.1, valid.2⟩

private theorem variable_free (valid : IsVariable name) (mark : isNameChar c = false) : c ∉ name := by
  intro member
  rw [variable_chars valid c member] at mark
  cases mark

/-- Two references that start in the same place are the same. -/
theorem written_start_unique (valid : IsVariable name) (otherValid : IsVariable other)
    (starts : written name <+: written other ++ rest) : name = other := by
  obtain ⟨tail, same⟩ := starts
  have brace : isNameChar '\x7d' = false := rfl
  have same : name ++ '\x7d' :: tail = other ++ '\x7d' :: rest := by simpa [written] using same
  have cut := congrArg (Chars.cutFirst? '\x7d') same
  rw [cut_first_append _ _ _ (variable_free valid brace),
    cut_first_append _ _ _ (variable_free otherValid brace)] at cut
  exact congrArg Prod.fst (Option.some.inj cut)

/-- A reference is seen where one is written. -/
theorem reference_some_iff (text name : List Char) :
    reference? text = some name ↔ IsVariable name ∧ written name <+: text := by
  constructor
  · intro seen
    unfold reference? at seen
    split at seen
    · rename_i first rest
      simp only [Option.ite_none_right_eq_some, Bool.and_eq_true, beq_iff_eq, Option.some.injEq] at seen
      obtain ⟨⟨start, closed⟩, rfl⟩ := seen
      obtain ⟨tail, behind⟩ := List.head?_eq_some_iff.mp closed
      refine ⟨⟨start, List.all_eq_true.mp List.all_takeWhile⟩, tail, ?_⟩
      have whole : rest = rest.takeWhile isNameChar ++ '\x7d' :: tail := by
        rw [← behind, List.takeWhile_append_dropWhile]
      simpa [written] using whole.symm
    · cases seen
  · rintro ⟨valid, tail, rfl⟩
    cases name with
    | nil => exact valid.elim
    | cons first rest =>
      have brace : ¬ isNameChar '\x7d' = true := by simp [show isNameChar '\x7d' = false from rfl]
      have spelling : written (first :: rest) ++ tail = '$' :: '\x7b' :: first :: (rest ++ '\x7d' :: tail) := by
        simp [written]
      rw [spelling, reference?, List.takeWhile_append_of_pos valid.2, List.takeWhile_cons_of_neg brace,
        List.dropWhile_append_of_pos valid.2, List.dropWhile_cons_of_neg brace]
      simp [valid.1]

private theorem reference_none_iff (text : List Char) :
    reference? text = none ↔ ∀ name, IsVariable name → ¬ written name <+: text := by
  rw [Option.eq_none_iff_forall_ne_some]
  constructor
  · intro unseen name valid starts
    exact unseen name ((reference_some_iff ..).mpr ⟨valid, starts⟩)
  · intro plain name seen
    obtain ⟨valid, starts⟩ := (reference_some_iff ..).mp seen
    exact plain name valid starts

/-- Passes over characters, then reads the rest. -/
def partsFrom : Nat → List Char → List Part
  | _, [] => []
  | skip + 1, _ :: text => partsFrom skip text
  | 0, c :: text =>
    match reference? (c :: text) with
    | some name => .reference name :: partsFrom ((written name).length - 1) text
    | none => .char c :: partsFrom 0 text

/-- The parts of a text. -/
def partsOf (text : List Char) : List Part := partsFrom 0 text

private theorem parts_from_read (skip : Nat) (text : List Char) : Reads (text.drop skip) (partsFrom skip text) := by
  induction text generalizing skip with
  | nil => simpa [partsFrom] using Reads.nothing
  | cons c text ih =>
    cases skip with
    | succ skip => simpa [partsFrom] using ih skip
    | zero =>
      rw [List.drop_zero, partsFrom]
      split
      · rename_i name seen
        obtain ⟨valid, tail, spelling⟩ := (reference_some_iff ..).mp seen
        have behind : text.drop ((written name).length - 1) = tail := by
          have dropped := congrArg (List.drop ((written name).length - 1 + 1)) spelling
          simpa [written] using dropped.symm
        have read := Reads.reference valid (ih ((written name).length - 1))
        rwa [behind, spelling] at read
      · rename_i unseen
        exact .char ((reference_none_iff _).mp unseen) (ih 0)

private theorem parts_read (text : List Char) : Reads text (partsOf text) := parts_from_read 0 text

private theorem reads_spelled (reads : Reads text parts) : spelled parts = text := by
  induction reads with
  | nothing => rfl
  | reference _ _ ih => simp [spelled, Part.chars, ← ih]
  | char _ _ ih => simp [spelled, Part.chars, ← ih]

private theorem reads_valid (reads : Reads text parts) : ∀ name, .reference name ∈ parts → IsVariable name := by
  induction reads with
  | nothing => simp
  | reference valid _ ih =>
    intro name member
    rcases List.mem_cons.mp member with same | behind
    · cases same
      exact valid
    · exact ih name behind
  | char _ _ ih =>
    intro name member
    rcases List.mem_cons.mp member with same | behind
    · cases same
    · exact ih name behind

/-! ## The references in order -/

/-- No reference starts with a character that is no dollar sign. -/
theorem references_free (front text : List Char) (free : '$' ∉ front) :
    references (front ++ text) = references text := by
  induction front with
  | nil => rfl
  | cons c front ih =>
    rw [List.mem_cons, not_or] at free
    have unseen : reference? (c :: (front ++ text)) = none := by
      refine (reference_none_iff _).mpr fun name _ starts => free.1 ?_
      obtain ⟨tail, spelling⟩ := starts
      exact (List.cons.inj spelling).1
    rw [List.cons_append, references, unseen]
    exact ih free.2

private theorem written_tail_free (valid : IsVariable name) : '$' ∉ '\x7b' :: name ++ ['\x7d'] := by
  have free := variable_free valid (show isNameChar '$' = false from rfl)
  simpa using free

/-- The references that are replaced are those that the text is read with. -/
theorem mem_references_iff (reads : Reads text parts) (name : List Char) :
    name ∈ references text ↔ .reference name ∈ parts := by
  induction reads with
  | nothing => simp [references]
  | @reference other text parts valid _ ih =>
    have seen : reference? (written other ++ text) = some other :=
      (reference_some_iff ..).mpr ⟨valid, List.prefix_append _ _⟩
    have behind := references_free _ text (written_tail_free valid)
    have next : references (written other ++ text) = other :: references text := by
      rw [written, List.cons_append, List.cons_append] at seen ⊢
      rw [references, seen]
      simp only [List.cons.injEq, true_and]
      exact behind
    rw [next, List.mem_cons, List.mem_cons, ih, Part.reference.injEq]
  | char plain _ ih =>
    rw [references, (reference_none_iff _).mpr plain]
    simpa using ih

/-! ## Replacing -/

section
variable (old new : List Char)

private theorem replace_from_drop (skip : Nat) (text : List Char) :
    Chars.replaceFrom old new skip text = Chars.replace old new (text.drop skip) := by
  induction text generalizing skip with
  | nil => cases skip <;> simp [Chars.replace, Chars.replaceFrom]
  | cons c text ih =>
    cases skip with
    | zero => rfl
    | succ skip => rw [Chars.replaceFrom, ih, List.drop_succ_cons]

private theorem replace_char (apart : ¬ old <+: c :: text) :
    Chars.replace old new (c :: text) = c :: Chars.replace old new text := by
  rw [Chars.replace, Chars.replaceFrom, if_neg (by simpa using apart)]
  rfl

variable {old} (some : old ≠ [])
include some

private theorem replace_word (text : List Char) :
    Chars.replace old new (old ++ text) = new ++ Chars.replace old new text := by
  cases old with
  | nil => exact absurd rfl some
  | cons c rest =>
    have starts : (c :: rest).isPrefixOf (c :: (rest ++ text)) = true := by simp
    rw [List.cons_append, Chars.replace, Chars.replaceFrom, if_pos starts, replace_from_drop]
    simp

/-- A text is gone through by whole occurrences and by characters at which none starts. -/
theorem by_occurrences {motive : List Char → Prop} (nothing : motive [])
    (word : ∀ text, motive text → motive (old ++ text))
    (char : ∀ c text, ¬ old <+: c :: text → motive text → motive (c :: text)) (text : List Char) :
    motive text := by
  induction size : text.length using Nat.strongRecOn generalizing text with
  | ind length ih =>
    subst size
    by_cases starts : old <+: text
    · obtain ⟨tail, rfl⟩ := starts
      have shorter : tail.length < (old ++ tail).length := by
        have positive := List.length_pos_iff.mpr some
        rw [List.length_append]
        omega
      exact word tail (ih _ shorter tail rfl)
    · cases text with
      | nil => exact nothing
      | cons c text => exact char c text starts (ih _ (by simp) text rfl)

/-- A text put in place of itself changes nothing. -/
theorem replace_self (text : List Char) : Chars.replace old old text = text := by
  induction text using by_occurrences some with
  | nothing => rfl
  | word text ih => rw [replace_word old some, ih]
  | char c text apart ih => rw [replace_char old old apart, ih]

/-- Each replacement changes the length by the same number. -/
theorem replace_length (text : List Char) :
    ∃ count, (Chars.replace old new text).length + count * old.length = text.length + count * new.length := by
  induction text using by_occurrences some with
  | nothing => exact ⟨0, by simp [Chars.replace, Chars.replaceFrom]⟩
  | word text ih =>
    obtain ⟨count, same⟩ := ih
    refine ⟨count + 1, ?_⟩
    rw [replace_word new some, List.length_append, List.length_append, Nat.succ_mul, Nat.succ_mul]
    omega
  | char c text apart ih =>
    obtain ⟨count, same⟩ := ih
    refine ⟨count, ?_⟩
    rw [replace_char old new apart, List.length_cons, List.length_cons]
    omega

/-- A replacement that is made and changes nothing puts a text in place of itself. -/
theorem replace_fixed (text : List Char) (inside : old <:+: text)
    (fixed : Chars.replace old new text = text) : new = old := by
  induction text using by_occurrences some with
  | nothing => exact absurd (List.eq_nil_of_infix_nil inside) some
  | word text ih =>
    rw [replace_word new some] at fixed
    obtain ⟨count, same⟩ := replace_length new some text
    have total := congrArg List.length fixed
    rw [List.length_append, List.length_append] at total
    have scaled : (count + 1) * new.length = (count + 1) * old.length := by
      rw [Nat.succ_mul, Nat.succ_mul]
      omega
    exact (List.append_inj fixed (Nat.eq_of_mul_eq_mul_left (Nat.succ_pos count) scaled)).1
  | char c text apart ih =>
    rw [replace_char old new apart] at fixed
    refine ih ?_ (List.cons.inj fixed).2
    obtain ⟨front, back, spelling⟩ := inside
    cases front with
    | nil => exact absurd ⟨back, spelling⟩ apart
    | cons _ front => exact ⟨front, back, (List.cons.inj spelling).2⟩

end

/-! ## Some of the values in place -/

/-- A part with its value in place, as parts: what is put in is no reference. -/
def opened (env : Environment) : Part → List Part
  | .char c => [.char c]
  | .reference name => (env (String.ofList name)).elim [.reference name] fun value => value.toList.map .char

private theorem spelled_append (front back : List Part) : spelled (front ++ back) = spelled front ++ spelled back :=
  List.flatMap_append

private theorem spelled_chars (text : List Char) : spelled (text.map .char) = text := by
  induction text with
  | nil => rfl
  | cons c text ih =>
    rw [List.map_cons, spelled, List.flatMap_cons, ← spelled, ih]
    rfl

private theorem opened_chars (env : Environment) (text : List Char) :
    (text.map Part.char).flatMap (opened env) = text.map .char := by
  induction text with
  | nil => rfl
  | cons c text ih => rw [List.map_cons, List.flatMap_cons, ih]; rfl

private theorem filled_opened (env : Environment) (parts : List Part) :
    filled env parts = spelled (parts.flatMap (opened env)) := by
  induction parts with
  | nil => rfl
  | cons part parts ih =>
    have here : shown env part = spelled (opened env part) := by
      cases part with
      | char c => rfl
      | reference name =>
        rw [shown, opened]
        cases env (String.ofList name) with
        | none => exact (List.append_nil _).symm
        | some value => exact (spelled_chars value.toList).symm
    rw [List.flatMap_cons, spelled_append, ← ih, ← here]
    rfl

/-- An environment in which only these variables are set. -/
def only (names : List (List Char)) (env : Environment) : Environment := fun name =>
  if name.toList ∈ names then env name else none

/-- An environment in which one variable is set. -/
def single (name : List Char) (value : String) : Environment := only [name] fun _ => some value

/-- More values can be put in later. -/
theorem opened_twice (env other both : Environment)
    (first : ∀ name value, env name = some value → both name = some value)
    (second : ∀ name, env name = none → both name = other name) (parts : List Part) :
    (parts.flatMap (opened env)).flatMap (opened other) = parts.flatMap (opened both) := by
  rw [List.flatMap_assoc]
  congr 1
  funext part
  cases part with
  | char c => rfl
  | reference name =>
    cases value : env (String.ofList name) with
    | none => simp [opened, value, second _ value]
    | some held => simpa [opened, value, first _ _ value] using opened_chars other held.toList

/-! ## One variable -/

/-- No reference with this name stands across the characters of the parts. -/
def Plain (name : List Char) (parts : List Part) : Prop :=
  ∀ front c back, parts = front ++ .char c :: back → ¬ written name <+: c :: spelled back

private theorem replace_free (name new : List Char) {front : List Char} (free : '$' ∉ front) (text : List Char) :
    Chars.replace (written name) new (front ++ text) = front ++ Chars.replace (written name) new text := by
  induction front with
  | nil => rfl
  | cons c front ih =>
    rw [List.mem_cons, not_or] at free
    have apart : ¬ written name <+: c :: (front ++ text) := by
      rintro ⟨tail, spelling⟩
      exact free.1 (List.cons.inj spelling).1
    rw [List.cons_append, replace_char _ _ apart, ih free.2, List.cons_append]

/-- Another reference is passed over as a whole. -/
theorem replace_other (new : List Char) (valid : IsVariable name) (otherValid : IsVariable other)
    (different : name ≠ other) (text : List Char) :
    Chars.replace (written name) new (written other ++ text) =
      written other ++ Chars.replace (written name) new text := by
  have apart : ¬ written name <+: '$' :: ('\x7b' :: other ++ ['\x7d'] ++ text) := fun starts =>
    different (written_start_unique valid otherValid starts)
  calc Chars.replace (written name) new ('$' :: ('\x7b' :: other ++ ['\x7d'] ++ text))
      = '$' :: Chars.replace (written name) new ('\x7b' :: other ++ ['\x7d'] ++ text) := replace_char _ _ apart
    _ = '$' :: ('\x7b' :: other ++ ['\x7d'] ++ Chars.replace (written name) new text) := by
      rw [replace_free name new (written_tail_free otherValid)]

private theorem replace_spelled (valid : IsVariable name) (value : String) (parts : List Part)
    (valids : ∀ other, .reference other ∈ parts → IsVariable other) (plain : Plain name parts) :
    Chars.replace (written name) value.toList (spelled parts) =
      spelled (parts.flatMap (opened (single name value))) := by
  induction parts with
  | nil => rfl
  | cons part parts ih =>
    have behind := ih (fun other member => valids other (List.mem_cons_of_mem _ member))
      (fun front c back spelling => plain (part :: front) c back (by rw [spelling]; rfl))
    rw [List.flatMap_cons, spelled_append, ← behind, spelled, List.flatMap_cons, ← spelled]
    cases part with
    | char c => exact replace_char _ _ (plain [] c parts rfl)
    | reference other =>
      by_cases same : name = other
      · subst same
        have here : opened (single name value) (.reference name) = value.toList.map .char := by
          simp [opened, single, only]
        rw [here, spelled_chars]
        exact replace_word _ (List.cons_ne_nil _ _) _
      · have here : opened (single name value) (.reference other) = [.reference other] := by
          simp [opened, single, only, Ne.symm same]
        rw [here]
        simpa [spelled, Part.chars] using
          replace_other value.toList valid (valids other List.mem_cons_self) same (spelled parts)

/-- A text without dollar signs at the start of parts is made of characters. -/
theorem spelled_start (free : '$' ∉ text) (starts : text <+: spelled parts) :
    ∃ rest, parts = text.map .char ++ rest := by
  induction text generalizing parts with
  | nil => exact ⟨parts, rfl⟩
  | cons c text ih =>
    obtain ⟨tail, spelling⟩ := starts
    rw [List.mem_cons, not_or] at free
    cases parts with
    | nil => cases spelling
    | cons part parts =>
      cases part with
      | char d =>
        obtain ⟨rfl, behind⟩ := List.cons.inj spelling
        obtain ⟨rest, rfl⟩ := ih free.2 ⟨tail, behind⟩
        exact ⟨rest, rfl⟩
      | reference name => exact absurd (List.cons.inj spelling).1.symm free.1

/-- A reference that comes up with some of the values in place is still there with all of them. -/
theorem plain_of_absent (env : Environment) (done : List (List Char)) (valid : IsVariable name)
    (absent : ¬ written name <:+: filled env parts) :
    Plain name (parts.flatMap (opened (only done env))) := by
  rintro front c back spelling ⟨tail, starts⟩
  obtain ⟨rfl, behind⟩ := List.cons.inj starts
  obtain ⟨rest, rfl⟩ := spelled_start (written_tail_free valid) ⟨tail, behind⟩
  have whole : parts.flatMap (opened env) =
      front.flatMap (opened env) ++ (written name).map .char ++ rest.flatMap (opened env) := by
    rw [← opened_twice (only done env) env env ?_ ?_, spelling]
    · have middle := opened_chars env (written name)
      rw [← middle, ← List.flatMap_append, ← List.flatMap_append]
      simp [written]
    · intro name value set
      by_cases inside : name.toList ∈ done
      · simpa [only, inside] using set
      · simp [only, inside] at set
    · exact fun _ _ => rfl
  apply absent
  rw [filled_opened, whole, spelled_append, spelled_append, spelled_chars]
  exact ⟨_, _, rfl⟩

private theorem opened_valid (env : Environment) {parts : List Part}
    (valids : ∀ name, .reference name ∈ parts → IsVariable name) :
    ∀ name, .reference name ∈ parts.flatMap (opened env) → IsVariable name := by
  intro name member
  obtain ⟨part, inside, here⟩ := List.mem_flatMap.mp member
  cases part with
  | char c => simp [opened] at here
  | reference other =>
    rw [opened] at here
    cases value : env (String.ofList other) with
    | none =>
      rw [value] at here
      cases List.mem_singleton.mp here
      exact valids name inside
    | some value => simp [value] at here

/-! ## All variables -/

section
variable (env : Environment) {parts : List Part}
  (valids : ∀ name, .reference name ∈ parts → IsVariable name)
  (absent : ∀ name value, .reference name ∈ parts → env (String.ofList name) = some value →
    ¬ written name <:+: filled env parts)
include valids absent

/-- One variable more. -/
theorem replace_one_filled (done : List (List Char)) (member : .reference name ∈ parts) :
    env.replaceOne (filled (only done env) parts) name = filled (only (name :: done) env) parts := by
  unfold Environment.replaceOne
  cases set : env (String.ofList name) with
  | none =>
    have same : only (name :: done) env = only done env := by
      funext other
      by_cases here : other.toList = name
      · have unset : env other = none := by rw [← set, ← here, String.ofList_toList]
        simp [only, unset]
      · simp [only, here]
    rw [same]
  | some value =>
    have plain := plain_of_absent env done (valids name member) (absent name value member set)
    simp only [filled_opened]
    rw [replace_spelled (valids name member) value _ (opened_valid _ valids) plain, opened_twice]
    · intro other held before
      by_cases inside : other.toList ∈ done
      · simpa [only, inside] using before
      · simp [only, inside] at before
    · intro other before
      by_cases here : other.toList = name
      · have held : env other = some value := by rw [← set, ← here, String.ofList_toList]
        simp [only, single, here, held]
      · simpa [only, single, here] using before

private theorem replace_all_filled (order done : List (List Char)) (known : ∀ name ∈ order, .reference name ∈ parts) :
    order.foldl env.replaceOne (filled (only done env) parts) = filled (only (order.reverse ++ done) env) parts := by
  induction order generalizing done with
  | nil => rfl
  | cons name order ih =>
    obtain ⟨here, behind⟩ := List.forall_mem_cons.mp known
    rw [List.foldl_cons, replace_one_filled env valids absent done here, ih (name :: done) behind]
    simp

end

/-- An environment without the variables whose value is the reference to them. -/
def effective (env : Environment) : Environment := fun name =>
  (env name).filter fun value => value.toList ≠ written name.toList

/-- Either nothing is put in, or what stands there already. -/
theorem effective_cases (env : Environment) (name : List Char) :
    effective env (String.ofList name) = env (String.ofList name) ∨
      effective env (String.ofList name) = none ∧
        ∃ value, env (String.ofList name) = some value ∧ value.toList = written name := by
  unfold effective
  cases env (String.ofList name) with
  | none => exact .inl rfl
  | some value =>
    by_cases itself : value.toList = written name
    · exact .inr ⟨by simp [Option.filter_some, itself], value, rfl, itself⟩
    · exact .inl (by simp [Option.filter_some, itself])

private theorem replace_one_effective (env : Environment) (text name : List Char) :
    (effective env).replaceOne text name = env.replaceOne text name := by
  unfold Environment.replaceOne
  rcases effective_cases env name with same | ⟨unset, value, set, itself⟩
  · rw [same]
  · have nonempty : written name ≠ [] := List.cons_ne_nil _ _
    simp only [unset, set, itself, replace_self nonempty]

private theorem filled_effective (env : Environment) (parts : List Part) :
    filled (effective env) parts = filled env parts := by
  unfold filled
  congr 1
  funext part
  cases part with
  | char c => rfl
  | reference name =>
    rw [shown, shown]
    rcases effective_cases env name with same | ⟨unset, value, set, itself⟩
    · rw [same]
    · simp only [unset, set, Option.elim, itself]

private theorem filled_congr {env other : Environment} {parts : List Part}
    (same : ∀ name, .reference name ∈ parts → env (String.ofList name) = other (String.ofList name)) :
    filled env parts = filled other parts := by
  have shownSame : parts.map (shown env) = parts.map (shown other) := by
    apply List.map_congr_left
    intro part member
    cases part with
    | char c => rfl
    | reference name => rw [shown, shown, same name member]
  rw [filled, filled, List.flatMap_def, List.flatMap_def, shownSame]

/-- With all of its variables, in whatever order and however often, a text becomes what a single
pass makes of it. -/
theorem replaced_in_any_order (env : Environment) (reads : Reads text parts) (settled : Settled env parts)
    (order : List (List Char)) (known : ∀ name, name ∈ order ↔ .reference name ∈ parts) :
    order.foldl env.replaceOne text = filled env parts := by
  have absent (name : List Char) (value : String) (member : .reference name ∈ parts)
      (set : effective env (String.ofList name) = some value) : ¬ written name <:+: filled (effective env) parts := by
    obtain ⟨held, other⟩ := Option.filter_eq_some_iff.mp set
    rw [filled_effective]
    exact settled name value member held (by simpa using other)
  have replaced := replace_all_filled (effective env) (reads_valid reads) absent order []
    fun name member => (known name).mp member
  have start : filled (only [] (effective env)) parts = text := by
    have unset : shown (only [] (effective env)) = Part.chars := by
      funext part
      cases part with
      | char c => rfl
      | reference name => simp [shown, only, Part.chars]
    rw [filled, unset, ← spelled, reads_spelled reads]
  have finish : filled (only (order.reverse ++ []) (effective env)) parts = filled (effective env) parts := by
    apply filled_congr
    intro name member
    simp [only, (known name).mpr member]
  have same : env.replaceOne = (effective env).replaceOne := by
    funext text name
    exact (replace_one_effective env text name).symm
  rw [same, ← start, replaced, finish, filled_effective]

/-- If the outcome never depends on the order of the variables or on how often one is replaced,
then it refers to none of them. -/
theorem settled_of_any_order (env : Environment) (reads : Reads text parts)
    (same : ∀ order : List (List Char), (∀ name, name ∈ order ↔ .reference name ∈ parts) →
      order.foldl env.replaceOne text = filled env parts) : Settled env parts := by
  intro name value member set other inside
  have once := same (references text) (mem_references_iff reads)
  -- Replacing the variable once more, at the end, changes nothing either.
  have again := same (references text ++ [name]) fun probe => by
    rw [List.mem_append, List.mem_singleton, mem_references_iff reads]
    constructor
    · rintro (listed | rfl)
      · exact listed
      · exact member
    · exact .inl
  rw [List.foldl_append, once, List.foldl_cons, List.foldl_nil, Environment.replaceOne, set] at again
  exact other (replace_fixed value.toList (List.cons_ne_nil _ _) _ inside again)

/-- When substitution is simultaneous. The references are read from the text as it is given.
If the outcome of putting all values in at once refers to none of the variables, then it is the
outcome of substitution. It is the outcome for every order in which the variables could be
replaced, and however often, exactly then. -/
theorem simultaneous_iff_settled (env : Environment) (text : List Char) :
    Reads text (partsOf text) ∧
    (Settled env (partsOf text) → env.substitute text = filled env (partsOf text)) ∧
    (Settled env (partsOf text) ↔
      ∀ order : List (List Char), (∀ name, name ∈ order ↔ .reference name ∈ partsOf text) →
        order.foldl env.replaceOne text = filled env (partsOf text)) := by
  have reads := parts_read text
  refine ⟨reads, fun settled => ?_, fun settled order known => ?_, settled_of_any_order env reads⟩
  · exact replaced_in_any_order env reads settled (references text) (mem_references_iff reads)
  · exact replaced_in_any_order env reads settled order known

/-- Two variables, the value of one of which refers to the other. -/
def chained : Environment := fun name =>
  if name = "FIRST" then some "$\x7bSECOND\x7d" else if name = "SECOND" then some "x" else none

/-- A value that refers to a variable is replaced in its turn, if the text refers to that
variable later, and is kept if the text refers to it earlier. -/
theorem inserted_reference_replaced :
    chained.substitute "$\x7bFIRST\x7d$\x7bSECOND\x7d".toList = "xx".toList ∧
    filled chained (partsOf "$\x7bFIRST\x7d$\x7bSECOND\x7d".toList) = "$\x7bSECOND\x7dx".toList ∧
    chained.substitute "$\x7bSECOND\x7d$\x7bFIRST\x7d".toList = "x$\x7bSECOND\x7d".toList := by
  refine ⟨rfl, rfl, rfl⟩

private theorem settled_of_free (env : Environment) (parts : List Part) (free : '$' ∉ filled env parts) :
    Settled env parts := by
  intro name value _ _ _ inside
  exact free (inside.subset List.mem_cons_self)

/-- A directory and a stage, the value of which could be part of a name. -/
def deployed : Environment := fun name =>
  if name = "HOME" then some "/srv" else if name = "STAGE" then some "TEST_2" else none

theorem simultaneous_deployed :
    Settled deployed (partsOf "root = '$\x7bHOME\x7d/$\x7bSTAGE\x7d/\x7bSTAGE\x7d'".toList) ∧
    deployed.substitute "root = '$\x7bHOME\x7d/$\x7bSTAGE\x7d/\x7bSTAGE\x7d'".toList =
      "root = '/srv/TEST_2/\x7bSTAGE\x7d'".toList := by
  have once : filled deployed (partsOf "root = '$\x7bHOME\x7d/$\x7bSTAGE\x7d/\x7bSTAGE\x7d'".toList) =
      "root = '/srv/TEST_2/\x7bSTAGE\x7d'".toList := rfl
  have settled := settled_of_free deployed _ (by rw [once]; decide)
  exact ⟨settled, ((simultaneous_iff_settled deployed _).2.1 settled).trans once⟩

end TypeStubs.VariableSubstitution

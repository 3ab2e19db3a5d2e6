import Mathlib.Data.List.Forall2
import TypeStubs.Proofs.RouteHoles
import TypeStubs.Proofs.SignatureBlanks

/-! Reducing the holes of a route, for any text at all. A route is taken apart from the left
into texts and holes, a hole going from an opening brace to the first closing brace behind
it. There is one way to do that, and reducing keeps to it: no braces are paired in another
way afterwards, the texts between the holes are the same, and what stands in a hole is cut
down to its name. -/
namespace TypeStubs.HoleReduction
open Route RouteHoles SignatureBlanks SignatureReading TextPieces
open SignatureGrammar (Gap)

/-- What stands in a hole, and the name that it is reduced to. Stars come off its start, as
many as there are; then the first modifier goes with all that follows it, and then the blanks
on both sides of the rest. -/
inductive ReducesTo (inner name : List Char) : Prop where
  | intro (stars : List Char) (lead trail : Gap) (modifier : List Char)
      (whole : inner = stars ++ (lead.chars ++ name ++ trail.chars ++ modifier))
      (starred : ∀ c ∈ stars, c = '*')
      (unstarred : ∀ c ∈ (lead.chars ++ name ++ trail.chars ++ modifier).head?, c ≠ '*')
      (unmodified : ∀ c ∈ lead.chars ++ name ++ trail.chars, c ≠ '=' ∧ c ≠ ':' ∧ c ≠ '?')
      (modified : ∀ c ∈ modifier.head?, c = '=' ∨ c = ':' ∨ c = '?')
      (starts : StartsBare name) (ends : EndsBare name)

private theorem modifier_iff (c : Char) : (!Piece.isModifier c) = false ↔ c = '=' ∨ c = ':' ∨ c = '?' := by
  rw [Bool.not_eq_false']
  simp [Piece.isModifier, or_assoc]

private theorem unmodified_iff (c : Char) : (!Piece.isModifier c) = true ↔ c ≠ '=' ∧ c ≠ ':' ∧ c ≠ '?' := by
  rw [← Bool.not_eq_false, modifier_iff, not_or, not_or]

private theorem hole_name_reduces (inner : List Char) : ReducesTo inner (Piece.holeName inner) := by
  -- A run of stars comes off first, and of what is left a run without modifiers stays.
  obtain ⟨stars, body, starsTaken, starsDropped⟩ :
      ∃ stars body, inner.takeWhile (· == '*') = stars ∧ inner.dropWhile (· == '*') = body := ⟨_, _, rfl, rfl⟩
  obtain ⟨bare, modifier, cut, behind⟩ : ∃ bare modifier, (body.takeWhile fun c => !Piece.isModifier c) = bare ∧
      (body.dropWhile fun c => !Piece.isModifier c) = modifier := ⟨_, _, rfl, rfl⟩
  obtain ⟨whole, starred, unstarred⟩ := (run_iff ..).mp ⟨starsTaken, starsDropped⟩
  obtain ⟨rfl, unmodified, modified⟩ := (run_iff ..).mp ⟨cut, behind⟩
  obtain ⟨lead, trail, padded⟩ := trim_decomposed bare
  rw [Piece.holeName, starsDropped, cut]
  refine .intro stars lead trail modifier (padded ▸ whole) ?_ ?_ ?_ ?_ (trim_starts_bare bare) (trim_ends_bare bare)
  · exact fun c member => beq_iff_eq.mp (starred c member)
  · rw [← padded]
    exact fun c first => beq_eq_false_iff_ne.mp (unstarred c first)
  · rw [← padded]
    exact fun c member => (unmodified_iff c).mp (unmodified c member)
  · exact fun c first => (modifier_iff c).mp (modified c first)

theorem hole_name_of_reduces {inner : List Char} (reduces : ReducesTo inner name) : Piece.holeName inner = name := by
  obtain ⟨stars, lead, trail, modifier, whole, starred, unstarred, unmodified, modified, starts, ends⟩ := reduces
  have body := (run_iff (· == '*') ..).mpr
    ⟨whole, fun c member => beq_iff_eq.mpr (starred c member),
      fun c first => beq_eq_false_iff_ne.mpr (unstarred c first)⟩
  have bare := (run_iff (fun c => !Piece.isModifier c) ..).mpr
    ⟨rfl, fun c member => (unmodified_iff c).mpr (unmodified c member),
      fun c first => (modifier_iff c).mpr (modified c first)⟩
  rw [Piece.holeName, body.2, bare.1, trim_padded lead trail starts ends]

/-- What stands in a hole is reduced to one name only. -/
theorem reduces_iff (inner name : List Char) : ReducesTo inner name ↔ name = Piece.holeName inner := by
  constructor
  · exact fun reduces => (hole_name_of_reduces reduces).symm
  · rintro rfl
    exact hole_name_reduces inner

private theorem reduces_subset {inner : List Char} (reduces : ReducesTo inner name) : name ⊆ inner := by
  obtain ⟨stars, lead, trail, modifier, rfl, -⟩ := reduces
  intro c member
  simp [member]

private theorem reduces_unmodified {inner : List Char} (reduces : ReducesTo inner name) :
    '=' ∉ name ∧ ':' ∉ name ∧ '?' ∉ name := by
  obtain ⟨stars, lead, trail, modifier, -, -, -, unmodified, -⟩ := reduces
  have apart (c : Char) (member : c ∈ name) := unmodified c (by simp [member])
  exact ⟨fun member => (apart _ member).1 rfl, fun member => (apart _ member).2.1 rfl,
    fun member => (apart _ member).2.2 rfl⟩

/-- A text with the hole behind it. The hole starts at the first opening brace, and ends at the
first closing brace behind that. -/
structure Span where
  text : List Char
  inner : List Char
  unopened : '\x7b' ∉ text
  unclosed : '\x7d' ∉ inner

/-- A text with no hole in it: an opening brace is never closed. -/
def Holeless (text : List Char) : Prop := ∀ before after, text = before ++ '\x7b' :: after → '\x7d' ∉ after

/-- A route as texts with a hole behind each of them, and a last text. -/
structure Decomposition where
  spans : List Span
  last : List Char
  holeless : Holeless last

/-- A text and its hole as they are written. -/
def Span.chars (span : Span) : List Char := span.text ++ '\x7b' :: span.inner ++ ['\x7d']

namespace Decomposition

/-- The route that is taken apart. -/
def chars (parts : Decomposition) : List Char := parts.spans.flatMap Span.chars ++ parts.last

/-- The texts outside of holes. -/
def outside (parts : Decomposition) : List (List Char) := parts.spans.map Span.text ++ [parts.last]

/-- What stands in the holes. -/
def inners (parts : Decomposition) : List (List Char) := parts.spans.map Span.inner

/-- One more text with a hole in front. -/
def behind (span : Span) (parts : Decomposition) : Decomposition := { parts with spans := span :: parts.spans }

end Decomposition

private theorem span_chars_append (span : Span) (rest : List Char) :
    span.chars ++ rest = span.text ++ '\x7b' :: (span.inner ++ '\x7d' :: rest) := by
  simp [Span.chars]

private theorem behind_chars (span : Span) (parts : Decomposition) :
    (parts.behind span).chars = span.chars ++ parts.chars := by
  simp [Decomposition.behind, Decomposition.chars]

/-- The first hole of a route with the text before it, and what follows. -/
def cutSpan? (route : List Char) : Option (Span × List Char) :=
  match opens : Chars.cutFirst? '\x7b' route with
  | none => none
  | some (text, behind) =>
    match closes : Chars.cutFirst? '\x7d' behind with
    | none => none
    | some (inner, rest) => some (⟨text, inner, (cut_first_some opens).2, (cut_first_some closes).2⟩, rest)

private theorem cut_span_some (cut : cutSpan? route = some (span, rest)) : route = span.chars ++ rest := by
  unfold cutSpan? at cut
  split at cut
  · cases cut
  · rename_i text behind opens
    split at cut
    · cases cut
    · rename_i inner after closes
      cases cut
      rw [span_chars_append]
      exact (cut_first_some closes).1 ▸ (cut_first_some opens).1

private theorem cut_span_none (none : cutSpan? route = none) : Holeless route := by
  intro before after whole closed
  unfold cutSpan? at none
  split at none
  · rename_i unopened
    exact (cut_first_none_iff ..).mp unopened (by simp [whole])
  · rename_i text behind opens
    split at none
    · rename_i unclosed
      exact (cut_first_none_iff ..).mp unclosed (cut_first_behind opens whole closed)
    · cases none

/-- A route starts with one text and hole only. -/
theorem span_unique {first second : Span} (same : first.chars ++ rest = second.chars ++ other) :
    first = second ∧ rest = other := by
  rw [span_chars_append, span_chars_append] at same
  -- Both are cut at the first opening brace, and behind it at the first closing brace.
  have opens := congrArg (Chars.cutFirst? '\x7b') same
  rw [cut_first_append _ _ _ first.unopened, cut_first_append _ _ _ second.unopened] at opens
  obtain ⟨texts, behind⟩ := Prod.mk.inj (Option.some.inj opens)
  have closes := congrArg (Chars.cutFirst? '\x7d') behind
  rw [cut_first_append _ _ _ first.unclosed, cut_first_append _ _ _ second.unclosed] at closes
  obtain ⟨inners, rests⟩ := Prod.mk.inj (Option.some.inj closes)
  cases first
  cases second
  cases texts
  cases inners
  exact ⟨rfl, rests⟩

private theorem holeless_apart (holeless : Holeless text) (span : Span) (rest : List Char) :
    text ≠ span.chars ++ rest := by
  intro whole
  rw [span_chars_append] at whole
  exact holeless span.text _ whole (by simp)

private theorem cut_span_none_iff (text : List Char) : cutSpan? text = none ↔ Holeless text := by
  constructor
  · exact cut_span_none
  · intro holeless
    apply Option.eq_none_iff_forall_ne_some.mpr
    rintro ⟨span, rest⟩ cut
    exact holeless_apart holeless span rest (cut_span_some cut)

instance (text : List Char) : Decidable (Holeless text) :=
  decidable_of_iff ((cutSpan? text).isNone = true) (Option.isNone_iff_eq_none.trans (cut_span_none_iff text))

private theorem cut_span_shorter (cut : cutSpan? route = some (span, rest)) : rest.length < route.length := by
  rw [cut_span_some cut]
  simp [Span.chars]
  omega

/-- Takes a route apart from the left, as long as there is a hole. -/
def decompose (route : List Char) : Decomposition :=
  match cut : cutSpan? route with
  | none => ⟨[], route, cut_span_none cut⟩
  | some (span, rest) => (decompose rest).behind span
termination_by route.length
decreasing_by exact cut_span_shorter cut

private theorem decompose_holeless (holeless : Holeless route) : decompose route = ⟨[], route, holeless⟩ := by
  rw [decompose]
  split
  · rfl
  · rename_i span rest cut
    exact absurd (cut_span_some cut) (holeless_apart holeless span rest)

private theorem decompose_span (span : Span) (rest : List Char) :
    decompose (span.chars ++ rest) = (decompose rest).behind span := by
  rw [decompose]
  split
  · rename_i none
    exact absurd rfl (holeless_apart (cut_span_none none) span rest)
  · rename_i first behind cut
    obtain ⟨rfl, rfl⟩ := span_unique (cut_span_some cut)
    rfl

private theorem chars_decompose (route : List Char) : (decompose route).chars = route := by
  fun_induction decompose route with
  | case1 route none => rfl
  | case2 route span rest cut ih => rw [behind_chars, ih, cut_span_some cut]

private theorem decompose_chars (parts : Decomposition) : decompose parts.chars = parts := by
  obtain ⟨spans, last, holeless⟩ := parts
  induction spans with
  | nil => exact decompose_holeless holeless
  | cons span spans ih =>
    have again := decompose_span span (Decomposition.chars ⟨spans, last, holeless⟩)
    rw [ih, ← behind_chars] at again
    exact again

/-- There is one way to take a route apart. -/
theorem decompose_eq_iff (route : List Char) (parts : Decomposition) :
    decompose route = parts ↔ parts.chars = route := by
  constructor
  · rintro rfl
    exact chars_decompose route
  · rintro rfl
    exact decompose_chars parts

/-- A text with its hole reduced. -/
def Span.reduced (span : Span) : Span where
  text := span.text
  inner := Piece.holeName span.inner
  unopened := span.unopened
  unclosed closed := span.unclosed (reduces_subset (hole_name_reduces span.inner) closed)

/-- All holes reduced, and nothing else. -/
def Decomposition.reduced (parts : Decomposition) : Decomposition :=
  { parts with spans := parts.spans.map Span.reduced }

private theorem reduce_span (span : Span) (rest : List Char) :
    reduceHoles (span.chars ++ rest) = span.reduced.chars ++ reduceHoles rest := by
  rw [span_chars_append, span_chars_append, reduce_text span.unopened, ← List.cons_append, reduce_hole span.unclosed]
  rfl

private theorem reduce_holeless (holeless : Holeless text) : reduceHoles text = text := by
  cases cut : Chars.cutFirst? '\x7b' text with
  | none =>
    have free := (cut_first_none_iff ..).mp cut
    have reduced := reduce_text free []
    rwa [List.append_nil, show reduceHoles [] = [] from rfl, List.append_nil] at reduced
  | some parts =>
    obtain ⟨whole, free⟩ := cut_first_some cut
    have open_ := holeless parts.1 parts.2 whole
    rw [whole, reduce_text free, reduce_open open_]

/-- Reducing goes through the texts and holes one by one. -/
theorem reduce_chars (parts : Decomposition) : reduceHoles parts.chars = parts.reduced.chars := by
  obtain ⟨spans, last, holeless⟩ := parts
  induction spans with
  | nil => exact reduce_holeless holeless
  | cons span spans ih =>
    have step := reduce_span span (Decomposition.chars ⟨spans, last, holeless⟩)
    rw [ih, ← behind_chars, ← behind_chars] at step
    exact step

private theorem decompose_reduced (route : List Char) : decompose (reduceHoles route) = (decompose route).reduced := by
  rw [decompose_eq_iff, ← reduce_chars, chars_decompose]

private theorem reduced_outside (parts : Decomposition) : parts.reduced.outside = parts.outside := by
  simp [Decomposition.reduced, Decomposition.outside, Span.reduced]

private theorem reduced_inners (parts : Decomposition) : parts.reduced.inners = parts.inners.map Piece.holeName := by
  simp [Decomposition.reduced, Decomposition.inners, Span.reduced]

/-- Reducing rewrites what stands in holes, and nothing else. For every route there is one way
to take it apart into texts and holes. Taken apart, the reduced route has the same texts
outside of its holes as the route, and as many holes; each hole holds the name that what was
in it reduces to, and so no modifier. -/
theorem only_holes_reduced (route : List Char) :
    (∀ parts, decompose route = parts ↔ parts.chars = route) ∧
    (decompose (reduceHoles route)).outside = (decompose route).outside ∧
    List.Forall₂ (fun inner name => ∀ other, ReducesTo inner other ↔ other = name)
      (decompose route).inners (decompose (reduceHoles route)).inners ∧
    ∀ inner ∈ (decompose (reduceHoles route)).inners, '=' ∉ inner ∧ ':' ∉ inner ∧ '?' ∉ inner := by
  rw [decompose_reduced, reduced_outside, reduced_inners]
  refine ⟨decompose_eq_iff route, rfl, ?_, fun name member => ?_⟩
  · rw [List.forall₂_map_right_iff, List.forall₂_same]
    exact fun inner _ => reduces_iff inner
  · obtain ⟨inner, -, rfl⟩ := List.mem_map.mp member
    exact reduces_unmodified (hole_name_reduces inner)

/-- A route with stray, nested and unclosed braces, and a star behind a blank. -/
def strayRoute : List Char := "a\x7d/\x7b**x\x7b y :z\x7d\x7b *q?\x7d\x7d/\x7bu=1".toList

/-- The same route with its holes reduced, taken apart. -/
def strayReduced : Decomposition where
  spans := [⟨"a\x7d/".toList, "x\x7b y".toList, by decide, by decide⟩, ⟨[], "*q".toList, by decide, by decide⟩]
  last := "\x7d/\x7bu=1".toList
  holeless := by decide

theorem only_holes_reduced_stray :
    "x\x7b y".toList ∈ (decompose (reduceHoles strayRoute)).inners ∧ ':' ∉ "x\x7b y".toList ∧
    (decompose strayRoute).outside = strayReduced.outside := by
  have reduced : decompose (reduceHoles strayRoute) = strayReduced := (decompose_eq_iff ..).mpr rfl
  obtain ⟨-, outside, -, unmodified⟩ := only_holes_reduced strayRoute
  have member : "x\x7b y".toList ∈ (decompose (reduceHoles strayRoute)).inners := by
    rw [reduced]
    exact List.mem_cons_self
  exact ⟨member, (unmodified _ member).2.1, reduced ▸ outside.symm⟩

/-- A star behind a blank is part of the name, and reducing once more takes it off. -/
example : reduceHoles "\x7b *id\x7d".toList = "\x7b*id\x7d".toList ∧
    reduceHoles "\x7b*id\x7d".toList = "\x7bid\x7d".toList := ⟨rfl, rfl⟩

end TypeStubs.HoleReduction

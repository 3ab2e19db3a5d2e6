import TypeStubs.Proofs.HoleReduction

/-! The request template of a route that is put together from texts and holes. Parameters
are bound one after the other, each in the path that the ones before it have left, and a
hole is found by its characters. When no name stands for two parameters, the outcome is
that of putting all interpolations into their holes at once: no interpolation is taken for
a hole, and no hole is found twice. -/
namespace TypeStubs.RouteParts
open Route RouteHoles HoleReduction SignatureBlanks SignatureReading SignatureLexemes

/-- The name in a hole: it can stand before a modifier and behind stars. -/
structure HoleName (name : List Char) : Prop extends Unbraced name where
  unmodified : '=' ∉ name ∧ ':' ∉ name ∧ '?' ∉ name
  trimmed : Chars.trim name = name
  unstarred : name.head? ≠ some '*'

/-- What stands behind the name in a hole: nothing, or a default value, a constraint or the
mark of an option. -/
structure HoleModifier (modifier : List Char) : Prop where
  starts : modifier.head? ∈ [none, some '=', some ':', some '?']
  unclosed : '\x7d' ∉ modifier

instance (name : List Char) : Decidable (HoleName name) :=
  decidable_of_iff (Unbraced name ∧ ('=' ∉ name ∧ ':' ∉ name ∧ '?' ∉ name) ∧ Chars.trim name = name ∧
      name.head? ≠ some '*')
    ⟨fun all => ⟨all.1, all.2.1, all.2.2.1, all.2.2.2⟩,
      fun named => ⟨named.toUnbraced, named.unmodified, named.trimmed, named.unstarred⟩⟩

instance (modifier : List Char) : Decidable (HoleModifier modifier) :=
  decidable_of_iff (modifier.head? ∈ [none, some '=', some ':', some '?'] ∧ '\x7d' ∉ modifier)
    ⟨fun both => ⟨both.1, both.2⟩, fun modified => ⟨modified.starts, modified.unclosed⟩⟩

/-- A part of a route. -/
inductive Part where
  | text (chars : List Char) (unbraced : Unbraced chars) (undollared : '$' ∉ chars)
  | hole (stars : Nat) (name modifier : List Char) (named : HoleName name)
      (modified : HoleModifier modifier)

/-- Whether a name is the key of a parameter, whatever the case of letters. -/
def names (param : Member) (name : List Char) : Bool :=
  Chars.asciiLower param.key.toList == Chars.asciiLower name

namespace Part

/-- A part as the route has it. -/
def written : Part → List Char
  | .text chars _ _ => chars
  | .hole stars name modifier _ _ =>
    '\x7b' :: (List.replicate stars '*' ++ name ++ modifier) ++ ['\x7d']

/-- A part with the parameters put in: a hole becomes the interpolation of the parameter
that it names, and keeps its bare name when there is none. -/
def filled (params : List Member) : Part → List Char
  | .text chars _ _ => chars
  | .hole _ name _ _ _ =>
    match params.find? fun param => names param name with
    | some param => interpolation param.ident.toList
    | none => '\x7b' :: name ++ ['\x7d']

/-- Whether a part is a hole for a parameter. -/
def mentions (param : Member) : Part → Bool
  | .text _ _ _ => false
  | .hole _ name _ _ _ => names param name

end Part

/-- The parameters that no part is a hole for, in order, the first of all having the given
position. -/
def unmentioned (parts : List Part) (params : List Member) (index : Nat) : List Param :=
  ((params.zipIdx index).filter fun entry => !parts.any (Part.mentions entry.1)).map positioned

/-- No name stands for both of two parameters, whatever the case of letters. -/
structure Distinguished (first second : Member) : Prop where
  keys : Chars.asciiLower first.key.toList ≠ Chars.asciiLower second.key.toList
  forward : Chars.asciiLower first.key.toList ≠ Chars.asciiLower second.ident.toList
  backward : Chars.asciiLower first.ident.toList ≠ Chars.asciiLower second.key.toList

instance (first second : Member) : Decidable (Distinguished first second) :=
  decidable_of_iff
    (Chars.asciiLower first.key.toList ≠ Chars.asciiLower second.key.toList ∧
      Chars.asciiLower first.key.toList ≠ Chars.asciiLower second.ident.toList ∧
      Chars.asciiLower first.ident.toList ≠ Chars.asciiLower second.key.toList)
    ⟨fun all => ⟨all.1, all.2.1, all.2.2⟩, fun apart => ⟨apart.keys, apart.forward, apart.backward⟩⟩

/-- Parameters that holes can tell apart. -/
structure Bindable (params : List Member) : Prop where
  unbraced : ∀ param ∈ params, Unbraced param.key.toList
  distinguished : params.Pairwise Distinguished

private theorem hole_name_eq (stars : Nat) (named : HoleName name) (modified : HoleModifier modifier) :
    Piece.holeName (List.replicate stars '*' ++ name ++ modifier) = name := by
  have starts := trim_starts_bare name
  have ends := trim_ends_bare name
  rw [named.trimmed] at starts ends
  have behind : ∀ c ∈ modifier.head?, c = '=' ∨ c = ':' ∨ c = '?' := by
    intro c first
    simpa [Option.mem_def.mp first] using modified.starts
  refine hole_name_of_reduces (.intro (List.replicate stars '*') Spelling.noGap Spelling.noGap modifier
    (by simp [Spelling.noGap]) (fun c => List.eq_of_mem_replicate) ?_ ?_ behind starts ends)
  · simp only [Spelling.noGap, List.nil_append, List.append_nil]
    cases name with
    | nil =>
      rintro c first rfl
      exact absurd (behind '*' first) (by decide)
    | cons first name => exact fun c head star => named.unstarred (star ▸ head)
  · simp only [Spelling.noGap, List.nil_append, List.append_nil]
    obtain ⟨noDefault, noConstraint, noOption⟩ := named.unmodified
    exact fun c member => ⟨ne_of_mem_of_not_mem member noDefault, ne_of_mem_of_not_mem member noConstraint,
      ne_of_mem_of_not_mem member noOption⟩

/-- Reducing its holes leaves a route with no parameter put in. -/
theorem reduce_parts (parts : List Part) :
    reduceHoles (parts.flatMap Part.written) = parts.flatMap (Part.filled []) := by
  induction parts with
  | nil => rfl
  | cons part rest ih =>
    rw [List.flatMap_cons, List.flatMap_cons, ← ih]
    cases part with
    | text chars unbraced undollared => exact reduce_text unbraced.unopened _
    | hole stars name modifier named modified =>
      have closes : '\x7d' ∉ List.replicate stars '*' ++ name ++ modifier := by
        simp [named.unclosed, modified.unclosed]
      have reduced := reduce_hole closes (rest.flatMap Part.written)
      rw [hole_name_eq stars named modified] at reduced
      simpa [Part.written, Part.filled] using reduced

theorem ident_unbraced {param : Member} (unbraced : Unbraced param.key.toList) :
    Unbraced param.ident.toList := by
  unfold Member.ident
  split
  · constructor <;> simp [unbraced.unopened, unbraced.unclosed]
  · exact unbraced

section
variable {before : List Member} {param : Member} (bindable : Bindable (before ++ [param]))
include bindable

/-- A parameter put in before is told apart from the one that comes. -/
theorem distinguished_before (member : other ∈ before) : Distinguished other param :=
  (List.pairwise_append.mp bindable.distinguished).2.2 other member param (by simp)

/-- One part, and one more parameter put in behind those before it. -/
theorem bind_part (part : Part) (rest : List Char) :
    bindHole (part.filled before ++ rest) param.key.toList param.ident.toList =
      (part.filled (before ++ [param]) ++ (bindHole rest param.key.toList param.ident.toList).1,
        part.mentions param || (bindHole rest param.key.toList param.ident.toList).2) := by
  have keyUnbraced := bindable.unbraced param (by simp)
  cases part with
  | text chars unbraced undollared =>
    have last : chars.getLast? ≠ some '$' := fun ends => undollared (List.mem_of_getLast? ends)
    simpa [Part.filled, Part.mentions] using bind_text unbraced.unopened last rest
  | hole stars name modifier named modified =>
    simp only [Part.filled, Part.mentions, List.find?_append]
    cases earlier : before.find? fun other => names other name with
    | some other =>
      -- The hole is an interpolation already, and neither it nor the hole it was shows the key.
      have member := List.mem_of_find?_eq_some earlier
      have apart := distinguished_before bindable member
      have identUnbraced := ident_unbraced (bindable.unbraced other (by simp [member]))
      have elsewhere : names param name = false := by
        have found : names other name = true := by simpa using List.find?_some earlier
        refine beq_eq_false_iff_ne.mpr fun same => apart.keys ?_
        exact (beq_iff_eq.mp found).trans same.symm
      simpa [elsewhere] using bind_interpolated keyUnbraced identUnbraced apart.backward rest
    | none =>
      have unbraced := named.toUnbraced
      cases here : names param name with
      | true =>
        have same := (beq_iff_eq.mp here).symm
        simpa [here] using bind_named same rest
      | false =>
        have other := (beq_eq_false_iff_ne.mp here).symm
        simpa [here] using bind_other keyUnbraced unbraced other rest

/-- All parts, and one more parameter put in behind those before it. -/
theorem bind_parts (parts : List Part) :
    bindHole (parts.flatMap (Part.filled before)) param.key.toList param.ident.toList =
      (parts.flatMap (Part.filled (before ++ [param])), parts.any (Part.mentions param)) := by
  induction parts with
  | nil => rfl
  | cons part rest ih =>
    rw [List.flatMap_cons, List.flatMap_cons, List.any_cons, bind_part bindable, ih]

end

/-- Binding parameters one after the other puts all of them in. -/
theorem bind_params (parts : List Part) (before params : List Member) (index : Nat)
    (bindable : Bindable (before ++ params)) :
    bindParams index (parts.flatMap (Part.filled before)) params =
      (parts.flatMap (Part.filled (before ++ params)), unmentioned parts params index) := by
  induction params generalizing before index with
  | nil => simp [bindParams, unmentioned]
  | cons param rest ih =>
    have regrouped : before ++ param :: rest = (before ++ [param]) ++ rest := by simp
    rw [regrouped] at bindable ⊢
    have first : Bindable (before ++ [param]) :=
      ⟨fun other member => bindable.unbraced other (List.mem_append_left _ member),
        (List.pairwise_append.mp bindable.distinguished).1⟩
    rw [bind_params_cons, bind_parts first, ih (before ++ [param]) (index + 1) bindable]
    cases mentioned : parts.any (Part.mentions param) <;>
      simp [unmentioned, positioned, List.zipIdx_cons, mentioned]

/-- The request template of a route in parts has the parameters put into the holes that name
them, and leaves over those that no hole names. -/
theorem template_fills_parts (method : Method) {route : String} (parts : List Part)
    (given : method.route = some route)
    (written : Route.unquote route.toList = parts.flatMap Part.written)
    (nonempty : parts.flatMap Part.written ≠ []) (bindable : Bindable method.parameters) :
    (Route.template method).path =
        String.ofList (literalText (parts.flatMap (Part.filled method.parameters))) ∧
      (Route.template method).unbound = unmentioned parts method.parameters 0 := by
  have raw : rawPath method = parts.flatMap Part.written := by
    simp [rawPath, given, written, nonempty]
  have bound := bind_params parts [] method.parameters 0 bindable
  rw [← reduce_parts, ← raw, List.nil_append] at bound
  simp [Route.template, bound]

/-- A hole twice in different cases, one for a reserved word with stars and a constraint,
and one that no parameter fills. -/
def orderParts : List Part := [
  .text "~/orders/".toList (by decide) (by decide),
  .hole 0 "ORDERID".toList "=0".toList (by decide +kernel) (by decide),
  .text "/".toList (by decide) (by decide),
  .hole 2 "class".toList ":w\x7b2".toList (by decide +kernel) (by decide),
  .hole 0 "orderid".toList [] (by decide +kernel) (by decide),
  .hole 0 "page".toList "?".toList (by decide +kernel) (by decide)]

def orderMethod : Method :=
  { identifier := "Find", returns := "Order",
    route := some "@\"~/orders/\x7bORDERID=0\x7d/\x7b**class:w\x7b2\x7d\x7borderid\x7d\x7bpage?\x7d\"",
    parameters := [⟨"note", "string"⟩, ⟨"orderId = 0", "int"⟩, ⟨"@class", "string"⟩] }

theorem template_fills_order_parts :
    Bindable orderMethod.parameters ∧
    (Route.template orderMethod).path =
      "orders/$\x7borderId\x7d/$\x7bclass_\x7d$\x7borderId\x7d\x7bpage\x7d" ∧
    (Route.template orderMethod).unbound = [⟨0, "note", "note"⟩] := by
  have bindable : Bindable orderMethod.parameters := ⟨by decide +kernel, by decide +kernel⟩
  obtain ⟨path, unbound⟩ := template_fills_parts orderMethod orderParts rfl (by decide +kernel)
    (by decide +kernel) bindable
  exact ⟨bindable, path.trans (by decide +kernel), unbound.trans (by decide +kernel)⟩

end TypeStubs.RouteParts

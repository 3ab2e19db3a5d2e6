import TypeStubs.Declaration.Client

/-! Which parameters of an emitted method may be left out. A caller can leave out only the
last ones, so the optional parameters are the longest tail of the list in which every type
allows null; a parameter before that tail that allows null says so in its type. -/
namespace TypeStubs.OptionalParameters

/-- Whether the type of a parameter allows null. -/
def mayBeNull (style : Style) (param : Member) : Bool := (style.read param.signature).isNullable

/-- The ways to declare a parameter. -/
inductive Kind where
  | optional
  | orNull
  | required
  deriving DecidableEq, Repr

/-- A parameter as it is declared. -/
def declared (style : Style) (param : Member) : Kind → String
  | .optional => param.ident ++ "?: " ++ style.print (style.read param.signature)
  | .orNull => param.ident ++ ": " ++ style.print (style.read param.signature) ++ " | null"
  | .required => param.ident ++ ": " ++ style.print (style.read param.signature)

/-- An entry of a parameter list, and the parameter that it is for. -/
structure Placed (params : List Member) (entries : List String) (i : Nat) (param : Member) (entry : String) :
    Prop where
  param : params[i]? = some param
  entry : entries[i]? = some entry

/-- The number of parameters before the tail in which every type allows null, counted from the
end. -/
def beforeTail (style : Style) (params : List Member) : Nat :=
  params.length - (params.reverse.takeWhile (mayBeNull style)).length

/-- The entries of a parameter list declare the parameters in their order, and what may be left
out is what ends the list. -/
structure Declares (style : Style) (params : List Member) (entries : List String) : Prop where
  oneEach : entries.length = params.length
  optional : ∀ {i param entry}, Placed params entries i param entry →
    (entry = declared style param .optional ↔ ∀ other ∈ params.drop i, mayBeNull style other = true)
  orNull : ∀ {i param entry}, Placed params entries i param entry →
    (entry = declared style param .orNull ↔
      mayBeNull style param = true ∧ ∃ other ∈ params.drop i, mayBeNull style other = false)
  required : ∀ {i param entry}, Placed params entries i param entry →
    (entry = declared style param .required ↔ mayBeNull style param = false)
  /-- Where the optional ones start. -/
  counted : ∀ {i param entry}, Placed params entries i param entry →
    (entry = declared style param .optional ↔ beforeTail style params ≤ i)
  /-- Behind an optional parameter there are only optional ones. -/
  closed : ∀ {i j param other entry later}, Placed params entries i param entry →
    Placed params entries j other later → i ≤ j → entry = declared style param .optional →
    later = declared style other .optional
  /-- A parameter that may be null shows it. -/
  marked : ∀ {i param entry}, Placed params entries i param entry → mayBeNull style param = true →
    entry = declared style param .optional ∨ entry = declared style param .orNull

/-- How an entry declares its parameter can be told from its text. -/
theorem declared_eq_iff (style : Style) (param : Member) (kind other : Kind) :
    declared style param kind = declared style param other ↔ kind = other := by
  constructor
  · intro same
    have same := congrArg String.toList same
    cases kind <;> cases other <;> first | rfl | simp [declared] at same
  · rintro rfl
    rfl

/-- How a parameter is declared before others. -/
def kindBefore (style : Style) (param : Member) (behind : List Member) : Kind :=
  if (param :: behind).all (mayBeNull style) then .optional
  else if mayBeNull style param then .orNull
  else .required

private theorem kind_optional_iff (style : Style) (param : Member) (behind : List Member) :
    kindBefore style param behind = .optional ↔ ∀ other ∈ param :: behind, mayBeNull style other = true := by
  rw [← List.all_eq_true, kindBefore]
  split
  · simp_all
  · split <;> simp_all

private theorem kind_or_null_iff (style : Style) (param : Member) (behind : List Member) :
    kindBefore style param behind = .orNull ↔
      mayBeNull style param = true ∧ ∃ other ∈ param :: behind, mayBeNull style other = false := by
  have firm : (∃ other ∈ param :: behind, mayBeNull style other = false) ↔
      ¬ (param :: behind).all (mayBeNull style) = true := by
    simp only [List.all_eq_true, Classical.not_forall, Bool.not_eq_true, exists_prop]
  rw [firm, kindBefore]
  split
  · simp_all
  · split <;> simp_all

private theorem kind_required_iff (style : Style) (param : Member) (behind : List Member) :
    kindBefore style param behind = .required ↔ mayBeNull style param = false := by
  unfold kindBefore
  split
  · simp_all
  · split <;> simp_all

/-- Counting from the end finds where the parameters start that may all be null. -/
theorem before_tail_le_iff (style : Style) (params : List Member) (i : Nat) :
    beforeTail style params ≤ i ↔ ∀ other ∈ params.drop i, mayBeNull style other = true := by
  unfold beforeTail
  induction params generalizing i with
  | nil => simp
  | cons param rest ih =>
    have bound : (rest.reverse.takeWhile (mayBeNull style)).length ≤ rest.length := by
      simpa using (List.takeWhile_sublist (l := rest.reverse) (mayBeNull style)).length_le
    -- One parameter more at the front makes the tail longer only if the tail is all of the rest.
    have longer : ((param :: rest).reverse.takeWhile (mayBeNull style)).length =
        if (rest.reverse.takeWhile (mayBeNull style)).length = rest.length then
          rest.length + (if mayBeNull style param then 1 else 0)
        else (rest.reverse.takeWhile (mayBeNull style)).length := by
      rw [List.reverse_cons, List.takeWhile_append, List.length_reverse]
      split
      · rw [List.length_append, List.length_reverse, List.takeWhile_cons, List.takeWhile_nil]
        split <;> rfl
      · rfl
    rw [longer, List.length_cons]
    cases i with
    | zero =>
      have behind := ih 0
      rw [List.drop_zero] at behind
      rw [List.drop_zero, List.forall_mem_cons, ← behind]
      by_cases null : mayBeNull style param = true
      · rw [if_pos null]
        split <;> simp [null] <;> omega
      · rw [if_neg null]
        split
        · simp [null]
        · simp [null]
          omega
    | succ i =>
      rw [List.drop_succ_cons, ← ih i]
      split <;> omega

private theorem first_optional_eq (style : Style) (params : List Member) :
    Style.firstOptional (params.map fun param => style.read param.signature) = beforeTail style params := by
  rw [Style.firstOptional, ← List.map_reverse, List.takeWhile_map, List.length_map, List.length_map]
  rfl

/-- How a parameter is declared depends on its type and the types behind it. -/
theorem param_text_eq (style : Style) (here : params[i]? = some param) :
    style.paramText (beforeTail style params) i param =
      declared style param (kindBefore style param (params.drop (i + 1))) := by
  obtain ⟨inside, rfl⟩ := List.getElem?_eq_some_iff.mp here
  have tail := before_tail_le_iff style params i
  rw [List.drop_eq_getElem_cons inside, ← kind_optional_iff] at tail
  unfold Style.paramText
  simp only [tail]
  cases kind : kindBefore style params[i] (params.drop (i + 1)) with
  | optional => exact if_pos rfl
  | orNull =>
    obtain ⟨null, -⟩ := (kind_or_null_iff ..).mp kind
    rw [if_neg (by simp)]
    exact if_pos null
  | required =>
    have given := (kind_required_iff ..).mp kind
    rw [if_neg (by simp)]
    exact if_neg (Bool.eq_false_iff.mp given)

private theorem param_texts_at (style : Style) (params : List Member) (i : Nat) :
    (style.paramTexts params)[i]? =
      params[i]?.map fun param => declared style param (kindBefore style param (params.drop (i + 1))) := by
  rw [Style.paramTexts, first_optional_eq, List.getElem?_mapIdx]
  cases here : params[i]? with
  | none => rfl
  | some param => exact congrArg some (param_text_eq style here)

private theorem param_texts_length (style : Style) (params : List Member) :
    (style.paramTexts params).length = params.length := List.length_mapIdx

/-- What an entry says depends on its parameter and those behind it. -/
theorem placed_kind (placed : Placed params (style.paramTexts params) i param entry) :
    entry = declared style param (kindBefore style param (params.drop (i + 1))) ∧
      params.drop i = param :: params.drop (i + 1) := by
  obtain ⟨here, text⟩ := placed
  rw [param_texts_at, here] at text
  refine ⟨(Option.some.inj text).symm, ?_⟩
  obtain ⟨inside, rfl⟩ := List.getElem?_eq_some_iff.mp here
  exact List.drop_eq_getElem_cons inside

/-- The parameter list of a method has one entry for each parameter, in order. The optional
ones are exactly those from which on every type allows null, so that none stands before a
parameter that has to be given; any other one that may be null says so. -/
theorem optional_are_nullable_tail (style : Style) (method : Method) :
    ∃ entries, style.parameterList method = Text.join ", " entries ∧
      Declares style method.parameters entries := by
  have told {i : Nat} {param : Member} {entry : String}
      (placed : Placed method.parameters (style.paramTexts method.parameters) i param entry) :
      (entry = declared style param .optional ↔
        ∀ other ∈ method.parameters.drop i, mayBeNull style other = true) := by
    obtain ⟨rfl, rest⟩ := placed_kind placed
    rw [declared_eq_iff, kind_optional_iff, rest]
  refine ⟨style.paramTexts method.parameters, rfl, param_texts_length _ _, told, ?_, ?_, ?_, ?_, ?_⟩
  · intro i param entry placed
    obtain ⟨rfl, rest⟩ := placed_kind placed
    rw [declared_eq_iff, kind_or_null_iff, rest]
  · intro i param entry placed
    obtain ⟨rfl, rest⟩ := placed_kind placed
    rw [declared_eq_iff, kind_required_iff]
  · intro i param entry placed
    rw [told placed, before_tail_le_iff]
  · intro i j param other entry later placed behind before optional
    rw [told placed] at optional
    rw [told behind]
    intro last member
    exact optional last (List.drop_subset_drop_left _ before member)
  · intro i param entry placed null
    obtain ⟨rfl, -⟩ := placed_kind placed
    rw [declared_eq_iff, declared_eq_iff]
    cases kind : kindBefore style param (method.parameters.drop (i + 1)) with
    | optional => exact .inl rfl
    | orNull => exact .inr rfl
    | required => simp [(kind_required_iff ..).mp kind] at null

end TypeStubs.OptionalParameters

import TypeStubs.Proofs.ModuleLinks

/-! The import lines for the edges of a file. The edges are put in order, and each becomes one
link: its names are imported, or the root of a namespace under an alias, with one declaration for
each name behind it. An alias is searched for among those that are not taken. -/
namespace TypeStubs.ImportLinks
open ModuleLinks

/-- The aliases that are tried, in order: the base, and then the base with the numbers from 2 on. -/
def candidate (base : String) : Nat → String
  | 0 => base
  | n + 1 => Alias.numbered base (n + 2)

/-- The aliases for a sequence of namespaces and specifiers. -/
def labels (taken : List String) : List (String × String) → List String
  | [] => []
  | request :: rest =>
    let label := Alias.fresh taken (Alias.base request.1 request.2)
    label :: labels (label :: taken) rest

private theorem numbered_injective (same : Alias.numbered base i = Alias.numbered base j) : i = j := by
  have number : i.repr = j.repr := (String.append_right_inj (base ++ "_")).mp same
  have digits : Nat.toDigits 10 i = Nat.toDigits 10 j := by
    rw [← Nat.toList_repr, ← Nat.toList_repr, number]
  rw [← Nat.ofDigitChars_ten_toDigits (n := i), digits, Nat.ofDigitChars_ten_toDigits]

private theorem numbered_ne_base (base : String) (n : Nat) : Alias.numbered base n ≠ base := by
  intro same
  have length := congrArg (fun text => text.toList.length) same
  simp only [Alias.numbered, String.toList_append, List.length_append] at length
  have underscore : "_".toList.length = 1 := rfl
  omega

private theorem candidate_injective (base : String) (same : candidate base i = candidate base j) : i = j := by
  cases i with
  | zero =>
    cases j with
    | zero => rfl
    | succ j => exact absurd same.symm (numbered_ne_base base _)
  | succ i =>
    cases j with
    | zero => exact absurd same (numbered_ne_base base _)
    | succ j =>
      have numbers := numbered_injective same
      omega

/-- The search goes on over taken aliases only, and ends at a free one unless all tries are used. -/
theorem first_free_search (taken : List String) (base : String) (tries start : Nat) :
    ∃ n, start < n ∧ n ≤ start + 1 + tries ∧
      Alias.firstFree taken base tries (start + 2) = candidate base n ∧
      (∀ m, start < m → m < n → candidate base m ∈ taken) ∧
      (n ≤ start + tries → candidate base n ∉ taken) := by
  induction tries generalizing start with
  | zero => exact ⟨start + 1, by omega, by omega, rfl, by omega, by omega⟩
  | succ tries ih =>
    rw [Alias.firstFree]
    split
    · rename_i held
      obtain ⟨n, above, within, found, tried, free⟩ := ih (start + 1)
      refine ⟨n, by omega, by omega, found, ?_, fun bound => free (by omega)⟩
      intro m after before
      by_cases here : m = start + 1
      · subst here
        exact List.contains_iff_mem.mp held
      · exact tried m (by omega) before
    · rename_i unheld
      refine ⟨start + 1, by omega, by omega, rfl, by omega, ?_⟩
      intro _ member
      exact unheld (List.contains_iff_mem.mpr member)

/-- As many different aliases as are taken, and one more, are not all taken. -/
theorem candidate_free (taken : List String) (base : String) : ∃ n ≤ taken.length, candidate base n ∉ taken := by
  apply Classical.byContradiction
  intro none
  have inside : (List.range (taken.length + 1)).map (candidate base) ⊆ taken := by
    intro label member
    obtain ⟨n, bound, rfl⟩ := List.mem_map.mp member
    have bound := List.mem_range.mp bound
    exact Classical.byContradiction fun free => none ⟨n, by omega, free⟩
  have distinct : ((List.range (taken.length + 1)).map (candidate base)).Nodup :=
    List.pairwise_map.mpr (List.nodup_range.imp fun different same => different (candidate_injective base same))
  have bound := distinct.length_le_of_subset inside
  rw [List.length_map, List.length_range] at bound
  omega

/-- The search ends at the first alias that is free. -/
theorem fresh_first (taken : List String) (base : String) :
    ∃ n ≤ taken.length, Alias.fresh taken base = candidate base n ∧ candidate base n ∉ taken ∧
      ∀ m < n, candidate base m ∈ taken := by
  unfold Alias.fresh
  split
  · rename_i held
    obtain ⟨n, above, -, found, tried, free⟩ := first_free_search taken base taken.length 0
    have before (m : Nat) (bound : m < n) : candidate base m ∈ taken := by
      cases m with
      | zero => exact List.contains_iff_mem.mp held
      | succ m => exact tried (m + 1) (by omega) bound
    obtain ⟨k, within, unheld⟩ := candidate_free taken base
    have reached : n ≤ k := Nat.le_of_not_lt fun bound => unheld (before k bound)
    exact ⟨n, by omega, found, free (by omega), before⟩
  · rename_i unheld
    exact ⟨0, by omega, rfl, fun member => unheld (List.contains_iff_mem.mpr member), by omega⟩

private theorem fresh_not_taken (taken : List String) (base : String) : Alias.fresh taken base ∉ taken := by
  obtain ⟨n, -, found, free, -⟩ := fresh_first taken base
  rwa [found]

theorem labels_apart (taken : List String) (requests : List (String × String)) :
    (labels taken requests).Nodup ∧ ∀ label ∈ labels taken requests, label ∉ taken := by
  induction requests generalizing taken with
  | nil => simp [labels]
  | cons request rest ih =>
    obtain ⟨distinct, apart⟩ := ih (Alias.fresh taken (Alias.base request.1 request.2) :: taken)
    refine ⟨List.nodup_cons.mpr ⟨fun member => apart _ member List.mem_cons_self, distinct⟩, ?_⟩
    refine List.forall_mem_cons.mpr ⟨fresh_not_taken _ _, fun label member held => ?_⟩
    exact apart label member (List.mem_cons_of_mem _ held)

private theorem insert_perm (edge : ImportEdge) (edges : List ImportEdge) :
    (ImportEdge.insert edge edges).Perm (edge :: edges) := by
  induction edges with
  | nil => exact .refl _
  | cons head rest ih =>
    rw [ImportEdge.insert]
    split
    · exact (ih.cons head).trans (List.Perm.swap edge head rest)
    · exact .refl _

theorem sort_perm (edges : List ImportEdge) : (ImportEdge.sort edges).Perm edges := by
  induction edges with
  | nil => exact .refl _
  | cons edge rest ih => exact (insert_perm edge (ImportEdge.sort rest)).trans (ih.cons edge)

private theorem specifier_le_of_before {head edge : ImportEdge} (before : head.before edge = true) :
    head.specifier ≤ edge.specifier := by
  simp only [ImportEdge.before, Bool.or_eq_true, Bool.and_eq_true, decide_eq_true_eq, beq_iff_eq] at before
  rcases before with less | ⟨same, -⟩
  · exact Std.le_of_lt less
  · exact same ▸ String.le_refl head.specifier

private theorem specifier_le_of_not_before {head edge : ImportEdge} (notBefore : ¬ head.before edge = true) :
    edge.specifier ≤ head.specifier := by
  apply String.not_lt.mp
  intro less
  exact notBefore (by simp [ImportEdge.before, less])

private theorem insert_ordered (edge : ImportEdge) (edges : List ImportEdge)
    (ordered : edges.Pairwise fun first second => first.specifier ≤ second.specifier) :
    (ImportEdge.insert edge edges).Pairwise fun first second => first.specifier ≤ second.specifier := by
  induction edges with
  | nil => exact List.pairwise_singleton _ _
  | cons head rest ih =>
    obtain ⟨below, behind⟩ := List.pairwise_cons.mp ordered
    rw [ImportEdge.insert]
    split
    · rename_i before
      refine List.pairwise_cons.mpr ⟨fun other member => ?_, ih behind⟩
      rcases (mem_insert_edge ..).mp member with rfl | inside
      · exact specifier_le_of_before before
      · exact below other inside
    · rename_i notBefore
      have first := specifier_le_of_not_before notBefore
      refine List.pairwise_cons.mpr ⟨fun other member => ?_, ordered⟩
      rcases List.mem_cons.mp member with rfl | inside
      · exact first
      · exact String.le_trans first (below other inside)

theorem sort_ordered (edges : List ImportEdge) :
    (ImportEdge.sort edges).Pairwise fun first second => first.specifier ≤ second.specifier := by
  induction edges with
  | nil => exact .nil
  | cons edge rest ih => exact insert_ordered edge _ ih

/-- How an edge is imported: by its names, or through an alias of the namespace that the other
module has around its declarations. -/
inductive Link where
  | plain (edge : ImportEdge)
  | through (edge : ImportEdge) (space label : String)
  deriving DecidableEq, Repr

namespace Link

def edge : Link → ImportEdge
  | .plain edge => edge
  | .through edge _ _ => edge

/-- The namespace of the other module. -/
def space? : Link → Option String
  | .plain _ => none
  | .through _ space _ => some space

/-- The alias of the namespace. -/
def label? : Link → Option String
  | .plain _ => none
  | .through _ _ label => some label

/-- The import line. -/
def line : Link → String
  | .plain edge => "import \x7b " ++ Text.join ", " edge.names ++ " \x7d from '" ++ edge.specifier ++ "';"
  | .through edge space label =>
    "import \x7b " ++ ((ImportBlock.splitNamespace space).1 ++ " as " ++ label) ++ " \x7d from '" ++
      edge.specifier ++ "';"

/-- The declarations that make each name stand for the one in the namespace. -/
def shorts : Link → List String
  | .plain _ => []
  | .through edge space label =>
    edge.names.map fun name => "import " ++ name ++ " = " ++ (label ++ behindRoot space) ++ "." ++ name ++ ";"

end Link

/-- The links for edges, with the aliases that are taken so far. -/
def links (namespaceOf : String → Option String) (taken : List String) : List ImportEdge → List Link
  | [] => []
  | edge :: rest =>
    match namespaceOf edge.path with
    | none => .plain edge :: links namespaceOf taken rest
    | some space =>
      let label := Alias.fresh taken (Alias.base (ImportBlock.splitNamespace space).1 edge.specifier)
      .through edge space label :: links namespaceOf (label :: taken) rest

/-- What an alias is needed for: the root of a namespace and the specifier of the module. -/
def request? (namespaceOf : String → Option String) (edge : ImportEdge) : Option (String × String) :=
  (namespaceOf edge.path).map fun space => ((ImportBlock.splitNamespace space).1, edge.specifier)

section
variable (namespaceOf : String → Option String) (taken : List String) (edges : List ImportEdge)

/-- The emitted lines are those of the links. -/
theorem of_edges_links :
    ImportBlock.ofEdges namespaceOf taken edges =
      ⟨(links namespaceOf taken edges).map Link.line, (links namespaceOf taken edges).flatMap Link.shorts⟩ := by
  induction edges generalizing taken with
  | nil => rfl
  | cons edge rest ih =>
    rw [ImportBlock.ofEdges, links]
    cases namespaceOf edge.path with
    | none =>
      simp only [ih, List.map_cons, List.flatMap_cons, Link.shorts, List.nil_append]
      rfl
    | some space =>
      simp only [ih, List.map_cons, List.flatMap_cons, qualifier_eq]
      rfl

theorem links_edges : (links namespaceOf taken edges).map Link.edge = edges := by
  induction edges generalizing taken with
  | nil => rfl
  | cons edge rest ih =>
    rw [links]
    split
    · exact congrArg (edge :: ·) (ih taken)
    · exact congrArg (edge :: ·) (ih _)

theorem links_spaces : ∀ link ∈ links namespaceOf taken edges, link.space? = namespaceOf link.edge.path := by
  induction edges generalizing taken with
  | nil => simp [links]
  | cons edge rest ih =>
    rw [links]
    split
    · rename_i unwrapped
      exact List.forall_mem_cons.mpr ⟨unwrapped.symm, ih taken⟩
    · rename_i space wrapped
      exact List.forall_mem_cons.mpr ⟨wrapped.symm, ih _⟩

/-- The aliases of the links are those of the namespaces and specifiers in their order. -/
theorem links_labels :
    (links namespaceOf taken edges).filterMap Link.label? =
      labels taken (edges.filterMap (request? namespaceOf)) := by
  induction edges generalizing taken with
  | nil => rfl
  | cons edge rest ih =>
    rw [links]
    cases wrapped : namespaceOf edge.path with
    | none =>
      have unasked : request? namespaceOf edge = none := by rw [request?, wrapped]; rfl
      rw [List.filterMap_cons_none unasked, ← ih]
      exact List.filterMap_cons_none rfl
    | some space =>
      have asked : request? namespaceOf edge = some ((ImportBlock.splitNamespace space).1, edge.specifier) := by
        rw [request?, wrapped]
        rfl
      rw [List.filterMap_cons_some asked, labels, ← ih]
      exact List.filterMap_cons_some rfl

end

end TypeStubs.ImportLinks

import TypeStubs.Proofs.ImportLinks
import TypeStubs.Proofs.OutputPaths
import TypeStubs.Proofs.PrintedLayers

/-! The names that the imports of a module bind. They are read from the text of its import lines
and aliases again, and are compared with the edges of the file. No name is bound twice, since a
name is imported from the path that declares it. -/
namespace TypeStubs.ImportBindings
open ImportLinks ImportRelation ModuleLinks OrderedMaps SignatureGrammar SignatureBlanks TextPieces

/-! ## Reading the lines -/

/-- The name that an entry between braces binds: the alias where there is one. -/
def localName (entry : List Char) : String := String.ofList (Chars.lastPiece ' ' (Chars.trim entry))

/-- The names that an import binds, read from its text: those between the braces, or else the
one behind the keyword. -/
def boundBy (line : String) : List String :=
  match Chars.dropLead? "import \x7b".toList line.toList with
  | some rest => (Chars.splitOn ',' (rest.takeWhile (· != '\x7d'))).map localName
  | none => ((Chars.dropLead? "import ".toList line.toList).map fun rest =>
      String.ofList (rest.takeWhile fun c => !isBlank c)).toList

/-- A text of characters that names have, so that nothing in it ends a name. -/
def Readable (name : String) : Prop := ∀ c ∈ name.toList, TypeExpr.Lexeme.isNameChar c = true ∨ c = '@'

private theorem readable_inked (readable : Readable name) : ∀ c ∈ name.toList, isBlank c = false :=
  fun c member => name_char_inked (readable c member)

private theorem readable_free (readable : Readable name) (mark : (TypeExpr.Lexeme.isNameChar c || c == '@') = false) :
    c ∉ name.toList := by
  intro member
  simp only [Bool.or_eq_false_iff, beq_eq_false_iff_ne] at mark
  rcases readable c member with nameChar | same
  · rw [mark.1] at nameChar
    cases nameChar
  · exact mark.2 same

/-- Names as they stand between braces. -/
def braced (names : List String) : List Char := ' ' :: (Text.join ", " names).toList ++ [' ']

private theorem braced_single (name : String) : braced [name] = ' ' :: name.toList ++ [' '] := by
  simp [braced, Text.join]

private theorem braced_cons (name next : String) (rest : List String) :
    braced (name :: next :: rest) = (' ' :: name.toList) ++ ',' :: braced (next :: rest) := by
  have joined : Text.join ", " (name :: next :: rest) = name ++ (", " ++ Text.join ", " (next :: rest)) := by
    simp [Text.join, String.append_assoc]
  simp [braced, joined]

/-- The blank on either side of the names. -/
def blank : Gap := ⟨[' '], fun _ member => List.mem_singleton.mp member ▸ rfl⟩

/-- An entry is one piece, and the name in it is found again. -/
theorem entry_read (readable : Readable name) (trail : Gap) (free : ',' ∉ trail.chars) :
    (Chars.splitOn ',' (' ' :: name.toList ++ trail.chars)).map localName = [name] := by
  have inked := readable_inked readable
  have comma : ',' ∉ ' ' :: name.toList ++ trail.chars := by
    have inName : ',' ∉ name.toList := readable_free readable rfl
    simp [inName, free]
  have piece : Chars.splitOn ',' (' ' :: name.toList ++ trail.chars) = [' ' :: name.toList ++ trail.chars] := by
    have split := split_free_append ',' _ [] comma
    simpa [Chars.splitOn] using split
  have trimmed : Chars.trim (blank.chars ++ name.toList ++ trail.chars) = name.toList :=
    trim_padded blank trail (fun c first => inked c (List.mem_of_head? first))
      (fun c last => inked c (List.mem_of_getLast? last))
  have unblanked : ' ' ∉ name.toList := readable_free readable rfl
  rw [piece, List.map_singleton, localName]
  change [String.ofList (Chars.lastPiece ' ' (Chars.trim (blank.chars ++ name.toList ++ trail.chars)))] = _
  rw [trimmed, last_piece_of_free ' ' _ unblanked, String.ofList_toList]

private theorem braced_read {names : List String} (nonempty : names ≠ []) (readable : ∀ name ∈ names, Readable name) :
    (Chars.splitOn ',' (braced names)).map localName = names := by
  induction names with
  | nil => exact absurd rfl nonempty
  | cons name rest ih =>
    obtain ⟨here, others⟩ := List.forall_mem_cons.mp readable
    cases rest with
    | nil =>
      rw [braced_single]
      exact entry_read here blank (by simp [blank])
    | cons next rest =>
      rw [braced_cons, split_append, List.map_append, ih (List.cons_ne_nil _ _) others]
      have entry := entry_read here ⟨[], by simp⟩ (by simp)
      rw [List.append_nil] at entry
      rw [entry]
      rfl

private theorem braced_unclosed {names : List String} (readable : ∀ name ∈ names, Readable name) :
    '\x7d' ∉ braced names := by
  induction names with
  | nil => simp [braced, Text.join]
  | cons name rest ih =>
    obtain ⟨here, others⟩ := List.forall_mem_cons.mp readable
    have inName : '\x7d' ∉ name.toList := readable_free here rfl
    cases rest with
    | nil => simp [braced_single, inName]
    | cons next rest =>
      have behind := ih others
      simp [braced_cons, inName, behind]

private theorem lead_dropped (lead rest : List Char) : Chars.dropLead? lead (lead ++ rest) = some rest := by
  simp [Chars.dropLead?]

private theorem taken_before {keep : Char → Bool} (kept : ∀ c ∈ front, keep c = true) (stops : keep stop = false)
    (rest : List Char) : (front ++ stop :: rest).takeWhile keep = front := by
  rw [List.takeWhile_append_of_pos kept, List.takeWhile_cons_of_neg (by simp [stops]), List.append_nil]

/-- What an import of names binds are these names. -/
theorem names_read {names : List String} (nonempty : names ≠ []) (readable : ∀ name ∈ names, Readable name)
    (specifier : String) : boundBy (ImportBlock.importLine (Text.join ", " names) specifier) = names := by
  have line : (ImportBlock.importLine (Text.join ", " names) specifier).toList =
      "import \x7b".toList ++ (braced names ++ '\x7d' :: (" from '" ++ specifier ++ "';").toList) := by
    simp [ImportBlock.importLine, braced]
  have kept : ∀ c ∈ braced names, (c != '\x7d') = true := by
    intro c member
    rw [bne_iff_ne]
    rintro rfl
    exact braced_unclosed readable member
  rw [boundBy, line, lead_dropped]
  simp only [taken_before kept (bne_self_eq_false _), braced_read nonempty readable]

/-- What a declaration of an alias binds is its name. -/
theorem short_read (readable : Readable name) (meaning : String) :
    boundBy ("import " ++ name ++ " = " ++ meaning) = [name] := by
  have line : ("import " ++ name ++ " = " ++ meaning).toList =
      "import ".toList ++ (name.toList ++ ' ' :: ("= " ++ meaning).toList) := by
    simp
  have unbraced : Chars.dropLead? "import \x7b".toList
      ("import ".toList ++ (name.toList ++ ' ' :: ("= " ++ meaning).toList)) = none := by
    have brace : '\x7b' ∉ name.toList := readable_free readable rfl
    cases chars : name.toList with
    | nil => simp [Chars.dropLead?]
    | cons c rest =>
      rw [chars, List.mem_cons, not_or] at brace
      simp [Chars.dropLead?, brace.1]
  have kept : ∀ c ∈ name.toList, (!isBlank c) = true := by
    intro c member
    rw [readable_inked readable c member]
    rfl
  rw [boundBy, line, unbraced, lead_dropped]
  simp only [taken_before kept (show (!isBlank ' ') = false from rfl), Option.map_some, Option.toList_some,
    String.ofList_toList]

/-! ## Edges and unresolved names -/

private theorem insert_nonempty (text : String) (set : List String) : Ordered.insert text set ≠ [] :=
  List.ne_nil_of_mem ((mem_insert text text set).mpr (.inl rfl))

private theorem insert_strict (text : String) (set : List String) (strict : set.Pairwise (· < ·)) :
    (Ordered.insert text set).Pairwise (· < ·) := by
  induction set with
  | nil => exact List.pairwise_singleton _ _
  | cons head rest ih =>
    obtain ⟨below, behind⟩ := List.pairwise_cons.mp strict
    rw [Ordered.insert]
    split
    · rename_i before
      refine List.pairwise_cons.mpr ⟨List.forall_mem_cons.mpr ⟨before, ?_⟩, strict⟩
      intro other member
      exact String.lt_trans before (below other member)
    · rename_i notBefore
      split
      · exact strict
      · rename_i different
        refine List.pairwise_cons.mpr ⟨fun other member => ?_, ih behind⟩
        rcases (mem_insert ..).mp member with rfl | inside
        · exact Std.lt_of_le_of_ne (String.not_lt.mp notBefore) fun same => different (by simp [same])
        · exact below other inside

private theorem strict_nodup {set : List String} (strict : set.Pairwise (· < ·)) : set.Nodup := by
  refine strict.imp fun {first second} before same => ?_
  rw [same] at before
  exact String.lt_irrefl second before

/-- The paths of the edges, the names of each edge and the unresolved names stand in strict
order, and no edge is without a name. -/
structure InOrder (imports : Imports) : Prop where
  paths : Sorted imports.edges
  names : ∀ path listed, imports.edges.lookup path = some listed → listed ≠ [] ∧ listed.Pairwise (· < ·)
  unresolved : imports.unresolved.Pairwise (· < ·)

private theorem edge_in_order {imports : Imports} (path symbol : String) (inOrder : InOrder imports) :
    InOrder (imports.addEdge path symbol) := by
  have strict : ((imports.edges.lookup path).getD []).Pairwise (· < ·) := by
    cases held : imports.edges.lookup path with
    | none => exact .nil
    | some listed => exact (inOrder.names path listed held).2
  refine ⟨sorted_alter _ _ _ inOrder.paths, ?_, inOrder.unresolved⟩
  intro probe listed found
  rw [Imports.addEdge, lookup_alter _ _ _ _ inOrder.paths] at found
  split at found
  · cases found
    exact ⟨insert_nonempty _ _, insert_strict _ _ strict⟩
  · exact inOrder.names probe listed found

private theorem recorded_in_order (recorded : Recorded files table file reference before after)
    (inOrder : InOrder before) : InOrder after := by
  cases recorded with
  | edge needs => exact edge_in_order _ _ inOrder
  | unresolved fails =>
    exact ⟨inOrder.paths, inOrder.names, insert_strict _ _ inOrder.unresolved⟩
  | nothing noEdge known => exact inOrder

section
variable (files : List SourceFile) (table : TypeTable) (omitted : List String) (file : SourceFile)

private theorem run_in_order (references : List Reference) (start : Imports) (inOrder : InOrder start) :
    InOrder (references.foldl ((Resolver.mk (.ofFiles files) table omitted).record file) start) := by
  induction references generalizing start with
  | nil => exact inOrder
  | cons reference rest ih =>
    exact ih _ (recorded_in_order (record_cases files table omitted file start reference) inOrder)

private theorem resolve_in_order : InOrder ((Resolver.mk (.ofFiles files) table omitted).resolve file) := by
  apply run_in_order
  exact ⟨.nil, by simp, .nil⟩

end

/-! ## Readable names -/

/-- Every type in a file is read from a signature. -/
theorem occurs_parsed (occurs : Occurs table omitted file scope expr) :
    ∃ signature, expr = .parse table signature := by
  have parsed {bases : List String}
      (member : expr ∈ (Heritage.kept omitted bases).map (TypeExpr.parse table)) :
      ∃ signature, expr = .parse table signature := by
    obtain ⟨signature, -, same⟩ := List.mem_map.mp member
    exact ⟨signature, same.symm⟩
  cases occurs with
  | modelBase model declared base => exact parsed (List.mem_filter.mp base).1
  | modelIndex model declared index => exact parsed (List.mem_of_find?_eq_some index)
  | field model declared member inside => exact ⟨_, rfl⟩
  | property model declared member inside => exact ⟨_, rfl⟩
  | controllerBase controller declared base => exact parsed (List.mem_filter.mp base).1
  | controllerIndex controller declared index => exact parsed (List.mem_of_find?_eq_some index)
  | returned controller declared method answers => exact ⟨_, rfl⟩
  | parameter controller declared method answers member inside => exact ⟨_, rfl⟩

private theorem referred_readable (refers : Refers table omitted file scope name) : Readable name := by
  obtain ⟨expr, occurs, member⟩ := refers
  obtain ⟨signature, rfl⟩ := occurs_parsed occurs
  intro c inside
  exact name_member (PrintedLayers.parse_names table signature name member) inside

private theorem short_readable (readable : Readable name) : Readable (TypeTable.shortName name) := by
  intro c member
  rw [TypeTable.shortName, Text.lastPiece, String.toList_ofList] at member
  rcases last_piece_cases '.' name.toList with ⟨-, same⟩ | ⟨front, whole⟩
  · exact readable c (same ▸ member)
  · apply readable c
    rw [whole]
    exact List.mem_append_right _ (List.mem_cons_of_mem _ member)

section
variable {files : List SourceFile} {table : TypeTable} {omitted : List String} {file : SourceFile}

/-- A name of an edge is declared at the path of the edge, and nowhere before. -/
theorem edge_name (edge : (path, names) ∈ ((Resolver.mk (.ofFiles files) table omitted).resolve file).edges)
    (member : name ∈ names) : declaringPath files name = some path ∧ Readable name := by
  have held := (mem_iff_lookup (resolve_sorted files table omitted file)).mp edge
  have imported : ((Resolver.mk (.ofFiles files) table omitted).resolve file).importsFrom path name = true := by
    simpa [Imports.importsFrom, held] using member
  obtain ⟨scope, reference, refers, -, -, declared⟩ := (resolve_edges files table omitted file path name).mp imported
  have readable := referred_readable refers
  cases declared with
  | full declared => exact ⟨declared, readable⟩
  | short undeclared declared => exact ⟨declared, short_readable readable⟩

private theorem unresolved_name
    (member : name ∈ ((Resolver.mk (.ofFiles files) table omitted).resolve file).unresolved) :
    declaringPath files name = none ∧ Readable name := by
  obtain ⟨scope, refers, -, unknown⟩ := (resolve_unresolved files table omitted file name).mp member
  exact ⟨unknown.undeclared, referred_readable refers⟩

/-- Different edges have no name in common, since a name has one declaring path. -/
theorem edge_names_apart :
    (((Resolver.mk (.ofFiles files) table omitted).resolve file).edges.flatMap (·.2)).Nodup := by
  have inOrder := resolve_in_order files table omitted file
  refine List.pairwise_flatMap.mpr ⟨fun edge member => ?_, ?_⟩
  · exact strict_nodup (inOrder.names _ _ ((mem_iff_lookup inOrder.paths).mp member)).2
  · refine inOrder.paths.imp_of_mem fun {first second} here there before name inFirst other inSecond same => ?_
    subst same
    have paths : some first.1 = some second.1 := (edge_name here inFirst).1.symm.trans (edge_name there inSecond).1
    rw [Option.some.inj paths] at before
    exact String.lt_irrefl _ before

end

/-! ## What links bind -/

/-- The names that the plain import lines and the declarations of aliases bind. -/
def bound (links : List Link) : List String :=
  (links.filter (·.space?.isNone)).flatMap (fun link => boundBy link.line) ++
    (links.flatMap Link.shorts).flatMap boundBy

private theorem shorts_read (edge : ImportEdge) (space label : String) (readable : ∀ name ∈ edge.names, Readable name) :
    (Link.shorts (.through edge space label)).flatMap boundBy = edge.names := by
  have each : ∀ name ∈ edge.names,
      boundBy ("import " ++ name ++ " = " ++ (label ++ behindRoot space) ++ "." ++ name ++ ";") = [name] := by
    intro name member
    have read := short_read (readable name member) (label ++ behindRoot space ++ "." ++ name ++ ";")
    simpa only [String.append_assoc] using read
  rw [Link.shorts, List.flatMap_map, List.flatMap_def, List.map_congr_left each, ← List.flatMap_def]
  exact List.flatMap_singleton' _

/-- Read from the text, the bound names are those of the edges. -/
theorem bound_perm (links : List Link)
    (readable : ∀ link ∈ links, link.edge.names ≠ [] ∧ ∀ name ∈ link.edge.names, Readable name) :
    (bound links).Perm (links.flatMap (·.edge.names)) := by
  induction links with
  | nil => exact .refl _
  | cons link rest ih =>
    obtain ⟨⟨nonempty, here⟩, others⟩ := List.forall_mem_cons.mp readable
    cases link with
    | plain edge =>
      have line : boundBy (Link.plain edge).line = edge.names := names_read nonempty here edge.specifier
      have front : bound (.plain edge :: rest) = edge.names ++ bound rest := by
        simp [bound, Link.space?, Link.shorts, line]
      rw [front, List.flatMap_cons]
      exact (ih others).append_left _
    | through edge space label =>
      have inserted : bound (.through edge space label :: rest) =
          (rest.filter (·.space?.isNone)).flatMap (fun link => boundBy link.line) ++
            (edge.names ++ (rest.flatMap Link.shorts).flatMap boundBy) := by
        rw [← shorts_read edge space label here]
        simp [bound, Link.space?]
      have front : (bound (.through edge space label :: rest)).Perm (edge.names ++ bound rest) := by
        rw [inserted, bound, ← List.append_assoc, ← List.append_assoc]
        exact List.perm_append_comm.append_right _
      rw [List.flatMap_cons]
      exact front.trans ((ih others).append_left _)

/-- A specifier starts with a dot. -/
theorem relative_import_nonempty (source target : List String) : Layout.relativeImport source target ≠ "" := by
  have dotted : ∃ first others, first ≠ "" ∧ Layout.relativeParts source target = first :: others := by
    simp only [Layout.relativeParts]
    split
    · exact ⟨".", _, by simp, rfl⟩
    · rename_i ups
      obtain ⟨n, more⟩ := Nat.exists_eq_succ_of_ne_zero ups
      rw [more]
      exact ⟨"..", _, by simp, rfl⟩
  obtain ⟨first, others, nonempty, parts⟩ := dotted
  obtain ⟨tail, joined⟩ := OutputPaths.join_first first others
  rw [Layout.relativeImport, parts, joined]
  intro empty
  exact nonempty (String.append_eq_empty_iff.mp empty).1

/-! ## Import blocks -/

/-- The import block of a file has these links, and these lines for the names that no file
declares. Read from the text, the links bind each name of an edge once and nothing else. -/
structure Binds (settings : Settings) (files : List SourceFile) (file : SourceFile) (links : List Link)
    (missing : List String) : Prop where
  lines : (blockOf settings files file).lines =
    ImportBlock.environmentLine (.ofSettings settings) file.path :: (links.map Link.line ++ missing)
  aliases : (blockOf settings files file).aliases = links.flatMap Link.shorts
  environment : (Layout.ofSettings settings).rootSpecifier file.path settings.client.environmentModule ≠ ""
  /-- There is one link for each edge. -/
  edges : (links.map fun link => (link.edge.path, link.edge.names)).Perm (moduleOf settings files file).imports.edges
  specifiers : ∀ link ∈ links, link.edge.specifier ≠ "" ∧
    link.edge.specifier = (Layout.ofSettings settings).specifier file.path link.edge.path
  /-- An edge is imported through a namespace exactly when the other file has one. -/
  spaces : ∀ link ∈ links, link.space? = Bundle.namespaceOf settings files link.edge.path
  ordered : links.Pairwise fun first second => first.edge.specifier ≤ second.edge.specifier
  labels : (links.filterMap Link.label?).Nodup
  once : (bound links).Nodup
  needed : ∀ name, name ∈ bound links ↔ ∃ edge ∈ (moduleOf settings files file).imports.edges, name ∈ edge.2
  absent : missing = [] ↔
    (moduleOf settings files file).imports.unresolved = [] ∨ settings.omitUnresolved = true
  listed : ∀ line ∈ missing, missing = [line] ∧ (∃ texts, line = ImportBlock.importLine texts "") ∧
    boundBy line = (moduleOf settings files file).imports.unresolved
  unresolved : (moduleOf settings files file).imports.unresolved.Nodup
  apart : ∀ name ∈ (moduleOf settings files file).imports.unresolved, name ∉ bound links

/-- The links of a file. -/
def linksOf (settings : Settings) (files : List SourceFile) (file : SourceFile) : List Link :=
  links (Bundle.namespaceOf settings files) []
    (ImportBlock.edges (.ofSettings settings) file.path (moduleOf settings files file).imports)

section
variable (settings : Settings) (files : List SourceFile) (file : SourceFile)

private theorem link_edges_perm :
    ((linksOf settings files file).map Link.edge).Perm
      ((moduleOf settings files file).imports.edges.map fun edge =>
        ⟨(Layout.ofSettings settings).specifier file.path edge.1, edge.1, edge.2⟩) := by
  rw [linksOf, links_edges]
  exact sort_perm _

/-- The edge of a link is one of the file's, with the specifier of its path. -/
theorem link_edge (member : link ∈ linksOf settings files file) :
    (link.edge.path, link.edge.names) ∈ (moduleOf settings files file).imports.edges ∧
      link.edge.specifier = (Layout.ofSettings settings).specifier file.path link.edge.path := by
  have inside := (link_edges_perm settings files file).mem_iff.mp (List.mem_map_of_mem member)
  obtain ⟨edge, there, same⟩ := List.mem_map.mp inside
  have specifier := congrArg ImportEdge.specifier same
  have path := congrArg ImportEdge.path same
  have listed := congrArg ImportEdge.names same
  dsimp only at specifier path listed
  rw [← specifier, ← path, ← listed]
  exact ⟨there, rfl⟩

private theorem link_edges :
    ((linksOf settings files file).map fun link => (link.edge.path, link.edge.names)).Perm
      (moduleOf settings files file).imports.edges := by
  have perm := (link_edges_perm settings files file).map fun edge => (edge.path, edge.names)
  simpa only [List.map_map, Function.comp_def, List.map_id'] using perm

private theorem link_names (member : link ∈ linksOf settings files file) :
    link.edge.names ≠ [] ∧ ∀ name ∈ link.edge.names, Readable name := by
  have edge := (link_edge settings files file member).1
  have inOrder := resolve_in_order files settings.typeTable settings.omittedBases file
  exact ⟨(inOrder.names _ _ ((mem_iff_lookup inOrder.paths).mp edge)).1, fun name inside => (edge_name edge inside).2⟩

private theorem bound_edges :
    (bound (linksOf settings files file)).Perm ((moduleOf settings files file).imports.edges.flatMap (·.2)) := by
  have read := bound_perm (linksOf settings files file) fun link member => link_names settings files file member
  have edges := (link_edges settings files file).flatMap_right (·.2)
  rw [List.flatMap_map] at edges
  exact read.trans edges

private theorem unresolved_apart (member : name ∈ (moduleOf settings files file).imports.unresolved) :
    name ∉ bound (linksOf settings files file) := by
  intro bound
  obtain ⟨edge, inside, listed⟩ := List.mem_flatMap.mp ((bound_edges settings files file).mem_iff.mp bound)
  have declared := (edge_name inside listed).1
  rw [(unresolved_name member).1] at declared
  cases declared

private theorem unresolved_lines_absent (imports : Imports) :
    ImportBlock.unresolvedLines settings imports = [] ↔ imports.unresolved = [] ∨ settings.omitUnresolved = true := by
  unfold ImportBlock.unresolvedLines
  split
  · rename_i left
    simpa using left
  · rename_i kept
    simpa using kept

private theorem unresolved_line_read
    (member : line ∈ ImportBlock.unresolvedLines settings (moduleOf settings files file).imports) :
    ImportBlock.unresolvedLines settings (moduleOf settings files file).imports = [line] ∧
      (∃ texts, line = ImportBlock.importLine texts "") ∧
      boundBy line = (moduleOf settings files file).imports.unresolved := by
  unfold ImportBlock.unresolvedLines at member ⊢
  split at member
  · cases member
  · rename_i kept
    rw [if_neg kept]
    cases List.mem_singleton.mp member
    have nonempty : (moduleOf settings files file).imports.unresolved ≠ [] := fun empty => kept (by simp [empty])
    exact ⟨rfl, ⟨_, rfl⟩, names_read nonempty (fun name inside => (unresolved_name inside).2) ""⟩

private theorem block_links :
    blockOf settings files file =
      ⟨ImportBlock.environmentLine (.ofSettings settings) file.path ::
          ((linksOf settings files file).map Link.line ++
            ImportBlock.unresolvedLines settings (moduleOf settings files file).imports),
        (linksOf settings files file).flatMap Link.shorts⟩ := by
  rw [blockOf, ImportBlock.ofImports, of_edges_links]
  rfl

private theorem links_ordered :
    (linksOf settings files file).Pairwise fun first second => first.edge.specifier ≤ second.edge.specifier := by
  have ordered : ((linksOf settings files file).map Link.edge).Pairwise
      fun first second => first.specifier ≤ second.specifier := by
    rw [linksOf, links_edges]
    exact sort_ordered _
  rwa [List.pairwise_map] at ordered

end

/-- The search for an alias ends at the first free one, so that aliases for any namespaces and
specifiers are different, and the import block of a file binds each name of its edges once. -/
theorem names_bound_once :
    (∀ taken base, ∃ n ≤ taken.length, Alias.fresh taken base = candidate base n ∧ candidate base n ∉ taken ∧
      ∀ m < n, candidate base m ∈ taken) ∧
    (∀ requests, (labels [] requests).Nodup) ∧
    ∀ settings files file, ∃ links missing, Binds settings files file links missing := by
  refine ⟨fresh_first, fun requests => (labels_apart [] requests).1, fun settings files file => ?_⟩
  have block := block_links settings files file
  have bindings := bound_edges settings files file
  refine ⟨linksOf settings files file,
    ImportBlock.unresolvedLines settings (moduleOf settings files file).imports, ?_⟩
  exact {
    lines := congrArg ImportBlock.lines block
    aliases := congrArg ImportBlock.aliases block
    environment := relative_import_nonempty _ _
    edges := link_edges settings files file
    specifiers := by
      intro link member
      have specifier := (link_edge settings files file member).2
      rw [specifier]
      exact ⟨relative_import_nonempty _ _, rfl⟩
    spaces := links_spaces _ _ _
    ordered := links_ordered settings files file
    labels := by
      rw [linksOf, links_labels]
      exact (labels_apart [] _).1
    once := bindings.nodup_iff.mpr edge_names_apart
    needed := by
      intro name
      rw [bindings.mem_iff, List.mem_flatMap]
    absent := unresolved_lines_absent settings _
    listed := fun line member => unresolved_line_read settings files file member
    unresolved := strict_nodup (resolve_in_order ..).unresolved
    apart := fun name member => unresolved_apart settings files file member }

end TypeStubs.ImportBindings

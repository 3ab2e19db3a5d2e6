import TypeStubs.Proofs.ModuleLinks
import TypeStubs.Proofs.SignatureBlanks

/-! A declared name is cut into its bare name and its type parameters when it is indexed, and
put together again when it is declared. Cutting always gives a name in one normal form, and
a name in normal form is read back from its declaration, so both sides agree on any text at
all: with parameters, with none between the brackets, and with brackets that do not match. -/
namespace TypeStubs.DeclaredNames
open ModuleLinks SignatureBlanks SignatureLexemes SignatureReading TextPieces

/-- A text that neither starts nor ends with a blank. -/
structure Trimmed (text : List Char) : Prop where
  starts : StartsBare text
  ends : EndsBare text

private theorem trim_trimmed (text : List Char) : Trimmed (Chars.trim text) :=
  ⟨trim_starts_bare text, trim_ends_bare text⟩

/-- A blank before a trimmed text is removed, and without one nothing is. -/
theorem Trimmed.trim_behind (trimmed : Trimmed text) (lead : SignatureGrammar.Gap) :
    Chars.trim (lead.chars ++ text) = text := by
  have padded := trim_padded lead Spelling.noGap trimmed.starts trimmed.ends
  rwa [Spelling.noGap, List.append_nil] at padded

private theorem Trimmed.trim_self (trimmed : Trimmed text) : Chars.trim text = text :=
  trimmed.trim_behind Spelling.noGap

/-- The blanks at the end of a text go, and where it starts stays. -/
theorem trim_end_trimmed (starts : StartsBare text) : Trimmed (Chars.trimEnd text) := by
  have same : Chars.trim text = Chars.trimEnd text := by
    rw [Chars.trim, Chars.trimStart, drop_blanks_of_bare starts]
  exact same ▸ trim_trimmed text

private theorem Trimmed.trim_end (trimmed : Trimmed text) : Chars.trimEnd text = text := by
  have same := trimmed.trim_self
  rwa [Chars.trim, Chars.trimStart, drop_blanks_of_bare trimmed.starts] at same

private theorem trim_end_subset (member : c ∈ Chars.trimEnd text) : c ∈ text :=
  List.mem_reverse.mp ((List.dropWhile_sublist _).subset (List.mem_reverse.mp member))

/-- The parameters of a list as it is written between its brackets. -/
def paramsIn (list : List Char) : List String :=
  (((Chars.splitOn ',' list).map Chars.trim).filter fun param => !param.isEmpty).map String.ofList

/-- A name is bare as a whole, or it ends in a list behind its first opening bracket. -/
theorem of_chars_cases (text : List Char) :
    (('<' ∈ Chars.trim text → (Chars.trim text).getLast? ≠ some '>') ∧
      GenericName.ofChars text = ⟨String.ofList (Chars.trim text), []⟩) ∨
    ∃ before list, Chars.trim text = before ++ '<' :: (list ++ ['>']) ∧ '<' ∉ before ∧
      GenericName.ofChars text = ⟨String.ofList (Chars.trimEnd before), paramsIn list⟩ := by
  unfold GenericName.ofChars
  cases cut : Chars.cutFirst? '<' (Chars.trim text) with
  | none =>
    refine .inl ⟨fun opened => ?_, by simp [cut]⟩
    exact absurd opened ((cut_first_none_iff ..).mp cut)
  | some parts =>
    obtain ⟨before, after⟩ := parts
    obtain ⟨whole, absent⟩ := cut_first_some cut
    by_cases closed : ['>'].isSuffixOf after = true
    · obtain ⟨list, rfl⟩ := List.isSuffixOf_iff_suffix.mp closed
      refine .inr ⟨before, list, whole, absent, ?_⟩
      simp [cut, Chars.dropTail?, paramsIn]
    · refine .inl ⟨fun _ last => closed (List.isSuffixOf_iff_suffix.mpr ?_), ?_⟩
      · rcases List.eq_nil_or_concat after with rfl | ⟨list, c, rfl⟩
        · simp [whole] at last
        · have same : c = '>' := by simpa [whole, List.getLast?_append, List.getLast?_cons] using last
          exact ⟨list, by rw [same, List.concat_eq_append]⟩
      · simp [cut, Chars.dropTail?, closed]

/-- A name as cutting leaves it. -/
structure Cut (name : GenericName) : Prop where
  bare : Trimmed name.bare.toList
  params : ∀ param ∈ name.params, param ≠ "" ∧ Trimmed param.toList ∧ ',' ∉ param.toList
  /-- A bracket is left in the bare name only where no list ends it. -/
  unlisted : '<' ∈ name.bare.toList → name.params = [] ∧ name.bare.toList.getLast? ≠ some '>'

private theorem params_cut (list : List Char) :
    ∀ param ∈ paramsIn list, param ≠ "" ∧ Trimmed param.toList ∧ ',' ∉ param.toList := by
  intro param member
  obtain ⟨chars, kept, rfl⟩ := List.mem_map.mp member
  obtain ⟨listed, some⟩ := List.mem_filter.mp kept
  obtain ⟨piece, split, rfl⟩ := List.mem_map.mp listed
  have free := split_pieces_free ',' list piece split
  obtain ⟨lead, trail, whole⟩ := trim_decomposed piece
  refine ⟨?_, ?_, ?_⟩
  · intro empty
    have none := congrArg String.toList empty
    simp only [String.toList_ofList] at none
    rw [none] at some
    cases some
  · rw [String.toList_ofList]
    exact trim_trimmed piece
  · rw [String.toList_ofList]
    intro comma
    apply free
    rw [whole]
    exact List.mem_append_left _ (List.mem_append_right _ comma)

private theorem of_chars_cut (text : List Char) : Cut (GenericName.ofChars text) := by
  have trimmed := trim_trimmed text
  rcases of_chars_cases text with ⟨open_, whole⟩ | ⟨before, list, spelled, absent, listed⟩
  · rw [whole]
    refine ⟨by simpa using trimmed, nofun, fun opened => ⟨rfl, ?_⟩⟩
    rw [String.toList_ofList] at opened ⊢
    exact open_ opened
  · rw [listed]
    have starts : StartsBare before := by
      intro c first
      apply trimmed.starts c
      rw [spelled, List.head?_append, Option.mem_def.mp first]
      rfl
    refine ⟨by simpa using trim_end_trimmed starts, params_cut list, fun opened => ?_⟩
    rw [String.toList_ofList] at opened
    exact absurd (trim_end_subset opened) absent

private theorem split_params (first : String) (others : List String)
    (free : ∀ param ∈ first :: others, ',' ∉ param.toList) :
    Chars.splitOn ',' (Text.join ", " (first :: others)).toList =
      first.toList :: others.map fun param => ' ' :: param.toList := by
  induction others generalizing first with
  | nil =>
    have alone := split_free ',' first.toList (free first List.mem_cons_self)
    simpa [Text.join] using alone
  | cons next rest ih =>
    have behind := ih next fun param member => free param (List.mem_cons_of_mem _ member)
    have spelled : (Text.join ", " (first :: next :: rest)).toList =
        first.toList ++ ',' :: ([' '] ++ (Text.join ", " (next :: rest)).toList) := by
      simp [Text.join, String.intercalate_cons_cons]
    rw [spelled, split_append, split_free ',' first.toList (free first List.mem_cons_self),
      split_free_append ',' [' '] _ (by simp), behind]
    rfl

/-- A list of parameters is read back as it was. -/
theorem params_read (first : String) (others : List String)
    (cut : ∀ param ∈ first :: others, param ≠ "" ∧ Trimmed param.toList ∧ ',' ∉ param.toList) :
    paramsIn (Text.join ", " (first :: others)).toList = first :: others := by
  have bared (param : String) (member : param ∈ first :: others) :
      Chars.trim (' ' :: param.toList) = param.toList :=
    (cut param member).2.1.trim_behind ⟨[' '], by simp [isBlank]⟩
  have trimmed : (Chars.splitOn ',' (Text.join ", " (first :: others)).toList).map Chars.trim =
      (first :: others).map String.toList := by
    rw [split_params first others fun param member => (cut param member).2.2, List.map_cons, List.map_map,
      List.map_cons, (cut first List.mem_cons_self).2.1.trim_self]
    congr 1
    exact List.map_congr_left fun param member => bared param (List.mem_cons_of_mem _ member)
  have kept : ((first :: others).map String.toList).filter (fun param => !param.isEmpty) =
      (first :: others).map String.toList := by
    rw [List.filter_eq_self]
    intro chars member
    obtain ⟨param, inside, rfl⟩ := List.mem_map.mp member
    simpa using (cut param inside).1
  rw [paramsIn, trimmed, kept, List.map_map]
  simp [Function.comp_def]

private theorem listed_trimmed (trimmed : Trimmed bare) (list : List Char) :
    Trimmed (bare ++ '<' :: (list ++ ['>'])) := by
  constructor
  · intro c start
    cases bare with
    | nil =>
      cases Option.some.inj start
      rfl
    | cons d rest => exact trimmed.starts c start
  · intro c last
    have same : c = '>' := by simpa [List.getLast?_append, List.getLast?_cons, eq_comm] using last
    rw [same]
    rfl

/-- A bare name and a list behind it are cut apart again. -/
theorem of_chars_listed (trimmed : Trimmed bare) (free : '<' ∉ bare) (list : List Char) :
    GenericName.ofChars (bare ++ '<' :: (list ++ ['>'])) = ⟨String.ofList bare, paramsIn list⟩ := by
  have whole := (listed_trimmed trimmed list).trim_self
  rcases of_chars_cases (bare ++ '<' :: (list ++ ['>'])) with ⟨unlisted, -⟩ | ⟨before, inner, spelled, absent, read⟩
  · rw [whole] at unlisted
    exact absurd (by simp [List.getLast?_append, List.getLast?_cons]) (unlisted (by simp))
  · -- Both texts are cut at their first opening bracket.
    have cut := cut_first_append '<' before (inner ++ ['>']) absent
    rw [← spelled, whole, cut_first_append '<' bare _ free] at cut
    obtain ⟨rfl, same⟩ := Prod.mk.inj (Option.some.inj cut)
    rw [read, trimmed.trim_end, List.append_cancel_right same]

/-- A name in normal form is read back from its declaration. -/
theorem declaration_read (cut : Cut name) : GenericName.ofString name.declaration = name := by
  obtain ⟨bare, params⟩ := name
  rw [GenericName.ofString]
  cases params with
  | nil =>
    have spelled : (GenericName.declaration ⟨bare, []⟩).toList = bare.toList := by simp [GenericName.declaration]
    rw [spelled]
    rcases of_chars_cases bare.toList with ⟨-, whole⟩ | ⟨before, list, listed, -, -⟩
    · rw [whole, cut.bare.trim_self, String.ofList_toList]
    · rw [cut.bare.trim_self] at listed
      have unclosed := (cut.unlisted (by simp [listed])).2
      exact absurd (by simp [listed, List.getLast?_append, List.getLast?_cons]) unclosed
  | cons first others =>
    have free : '<' ∉ bare.toList := fun opened => by cases (cut.unlisted opened).1
    have spelled : (GenericName.declaration ⟨bare, first :: others⟩).toList =
        bare.toList ++ '<' :: ((Text.join ", " (first :: others)).toList ++ ['>']) := by
      simp [GenericName.declaration]
    rw [spelled, of_chars_listed cut.bare free, params_read first others cut.params, String.ofList_toList]

private theorem declaration_name_read (raw : String) :
    GenericName.ofString (Style.declarationName raw) = GenericName.ofString raw :=
  declaration_read (of_chars_cut raw.toList)

/-- A declaration of a file exports a name under which the file is indexed. -/
structure ExportedAs (settings : Settings) (files : List SourceFile) (file : SourceFile)
    (keyword raw name : String) : Prop where
  /-- The name comes first in the declaration, and its list or a blank ends it. -/
  declared : ∃ list tail, (list = "" ∨ ∃ inside, list = "<" ++ inside ++ ">") ∧
    Style.declarationName raw = name ++ list ∧
    keyword ++ name ++ list ++ " " ++ tail ∈ Module.bodyLines (.ofSettings settings) file
  listed : name ∈ file.declaredNames
  /-- A look-up leads to the first file that declares the name. -/
  indexed : ∃ first ∈ files, name ∈ first.declaredNames ∧
    (SymbolTable.ofFiles files).lookup name = some first.path

private theorem declaration_starts (name : GenericName) :
    ∃ list, (list = "" ∨ ∃ inside, list = "<" ++ inside ++ ">") ∧ name.declaration = name.bare ++ list := by
  unfold GenericName.declaration
  split
  · exact ⟨"", .inl rfl, by simp⟩
  · refine ⟨"<" ++ Text.join ", " name.params ++ ">", .inr ⟨_, rfl⟩, ?_⟩
    simp only [String.append_assoc]

private theorem symbol_found (inside : file ∈ files) (listed : name ∈ file.declaredNames) :
    ∃ first ∈ files, name ∈ first.declaredNames ∧
      (SymbolTable.ofFiles files).lookup name = some first.path := by
  have found : (files.find? fun file => decide (name ∈ file.declaredNames)).isSome := by
    rw [List.find?_isSome]
    exact ⟨file, inside, by simpa using listed⟩
  obtain ⟨first, same⟩ := Option.isSome_iff_exists.mp found
  refine ⟨first, List.mem_of_find?_eq_some same, by simpa using List.find?_some same, ?_⟩
  rw [ImportRelation.lookup_symbols, ImportRelation.declaringPath, same]
  rfl

private theorem exported_as (settings : Settings) (inside : file ∈ files)
    (listed : (GenericName.ofString raw).bare ∈ file.declaredNames)
    (line : keyword ++ Style.declarationName raw ++ " " ++ tail ∈ Module.bodyLines (.ofSettings settings) file) :
    ExportedAs settings files file keyword raw (GenericName.ofString raw).bare := by
  obtain ⟨list, shape, whole⟩ := declaration_starts (.ofString raw)
  refine ⟨⟨list, tail, shape, whole, ?_⟩, listed, symbol_found inside listed⟩
  have joined : keyword ++ (GenericName.ofString raw).bare ++ list = keyword ++ Style.declarationName raw := by
    rw [String.append_assoc, ← whole]
    rfl
  rwa [joined]

/-- Cutting a name and declaring it are in step. The declaration of any text at all is cut into
the same bare name and the same parameters as the text; so declaring it once more changes
nothing, and what an interface or a class exports is the name that the symbols have for it. -/
theorem declarations_cut_alike :
    (∀ raw, GenericName.ofString (Style.declarationName raw) = GenericName.ofString raw) ∧
    (∀ raw, Style.declarationName (Style.declarationName raw) = Style.declarationName raw) ∧
    ∀ (settings : Settings) (files : List SourceFile), ∀ file ∈ files,
      (∀ model ∈ file.models, ExportedAs settings files file "export interface " model.name
        (GenericName.ofString (Style.declarationName model.name)).bare) ∧
      (∀ controller ∈ file.controllers, ExportedAs settings files file "export class " controller.name
        (GenericName.ofString (Style.declarationName controller.name)).bare) := by
  refine ⟨declaration_name_read, fun raw => congrArg GenericName.declaration (declaration_name_read raw), ?_⟩
  intro settings files file inside
  refine ⟨fun model declared => ?_, fun controller declared => ?_⟩
  · obtain ⟨tail, line⟩ := model_exported settings file model declared
    rw [declaration_name_read]
    refine exported_as settings inside ?_ line
    exact List.mem_append_left _ (List.mem_append_left _ (List.mem_map.mpr ⟨model, declared, rfl⟩))
  · obtain ⟨tail, line⟩ := controller_exported settings file controller declared
    rw [declaration_name_read]
    refine exported_as settings inside ?_ line
    exact List.mem_append_right _ (List.mem_map.mpr ⟨controller, declared, rfl⟩)

/-- Two files with a nested list, an empty one and one that is never closed. -/
def pageFiles : List SourceFile := [
  { path := "page.cs", models := [{ name := " Page < Map<K, V> , T>" }] },
  { path := "list.cs", models := [{ name := "List< , >" }], controllers := [{ name := "Broken<T" }] }]

theorem declarations_cut_alike_pages :
    pageFiles[1] ∈ pageFiles ∧
    pageFiles.map SourceFile.declaredNames = [["Page"], ["List", "Broken<T"]] ∧
    Style.declarationName " Page < Map<K, V> , T>" = "Page<Map<K, V>, T>" ∧
    GenericName.ofString "Page<Map<K, V>, T>" = ⟨"Page", ["Map<K", "V>", "T"]⟩ ∧
    (∀ model ∈ pageFiles[1].models, ExportedAs {} pageFiles pageFiles[1] "export interface " model.name
      (GenericName.ofString (Style.declarationName model.name)).bare) ∧
    ∀ controller ∈ pageFiles[1].controllers, ExportedAs {} pageFiles pageFiles[1] "export class " controller.name
      (GenericName.ofString (Style.declarationName controller.name)).bare := by
  have inside : pageFiles[1] ∈ pageFiles := List.getElem_mem _
  exact ⟨inside, by decide +kernel, by decide +kernel, by decide +kernel,
    declarations_cut_alike.2.2 {} pageFiles pageFiles[1] inside⟩

end TypeStubs.DeclaredNames

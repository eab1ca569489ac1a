import InteropGen.Proofs.Configurations
import InteropGen.Proofs.Correspondence.Records
import InteropGen.Proofs.Views
import Mathlib.Data.List.Nodup

/-!
# Where source files stand

The source files of a configuration are written one after the other, and at each place stands the last one
that goes there (`Writes.holds`). The files of structs are named by the last segment of a native name, with
and without the suffix of views, and the others by their class. So two structs may share a file. When no
name has slashes and the classes have names of their own, the paths are distinct exactly if the names of the
structs and views are, and then every file is found in full (`paths_nodup_iff`).
-/

namespace InteropGen.Generate

open Metadata Decl Build Symbols Files

variable {document : Metadata} {s s' : Symbols} {b : Bindings} {project : Project}
  {config : Configuration} {state after : RunState} {paths : List String} {tree tree' : Tree}
  {directory : String} {file last : Render.SourceFile} {files : List Render.SourceFile}
  {place : List String}

/-! ### Writing over -/

/-- The place of a source file. -/
def sourcePlace (directory : String) (file : Render.SourceFile) : List String :=
  resolvePath (sourcePath directory file)

/-- The last of the source files that go to a place. -/
def lastAt (directory : String) (place : List String) (files : List Render.SourceFile) :
    Option Render.SourceFile :=
  files.reverse.find? fun file => sourcePlace directory file = place

/-- The file at a path has the text of a source file. -/
def Holds (s : Symbols) (tree : Tree) (path : String) (file : Render.SourceFile) : Prop :=
  ∃ text, Render.fileText s file = .ok text ∧ tree.contents path = .ok (.text text)

theorem lastAt_cons (directory : String) (place : List String) (file : Render.SourceFile)
    (files : List Render.SourceFile) :
    lastAt directory place (file :: files) =
      (lastAt directory place files).or (if sourcePlace directory file = place then some file else none) := by
  unfold lastAt
  rw [List.reverse_cons, List.find?_append]
  by_cases h : sourcePlace directory file = place
  · simp [h]
  · simp [h]

theorem exists_lastAt (h : file ∈ files) (directory : String) :
    ∃ last, lastAt directory (sourcePlace directory file) files = some last := by
  refine Option.isSome_iff_exists.mp (List.find?_isSome.mpr ⟨file, List.mem_reverse.mpr h, ?_⟩)
  simp

theorem lastAt_eq_none (h : lastAt directory place files = none) :
    ∀ file ∈ files, sourcePlace directory file ≠ place := by
  intro file hfile
  simpa using List.find?_eq_none.mp h file (List.mem_reverse.mpr hfile)

/-- Where no two files go to one place each is the last at its own. -/
theorem lastAt_of_nodup (h : (files.map (sourcePlace directory)).Nodup) (hfile : file ∈ files) :
    lastAt directory (sourcePlace directory file) files = some file := by
  obtain ⟨last, hlast⟩ := exists_lastAt hfile directory
  have hmem : last ∈ files := List.mem_reverse.mp (List.mem_of_find?_eq_some hlast)
  have hplace : sourcePlace directory last = sourcePlace directory file := by
    simpa using List.find?_some hlast
  rw [hlast, List.inj_on_of_nodup_map h hmem hfile hplace]

/-- A file that is placed stands at its place with its text, and nothing else is touched. -/
theorem ok_placeSource {text : String}
    (h : (ExceptT.run (placeSource directory file text)).run tree = (.ok (), tree')) :
    Leads tree' (sourcePath directory file) (sourcePlace directory file) ∧
      tree'.read? (sourcePlace directory file) = some (.text text) ∧
      Alters (· = sourcePlace directory file) tree tree' := by
  obtain ⟨⟨⟩, made, hmake, h⟩ := run_bind_eq_ok.mp h
  obtain ⟨⟨⟩, cleared, hclear, hwrite⟩ := run_bind_eq_ok.mp h
  have hmade := Confined.makeDirectories (P := (· = sourcePlace directory file))
    (sourceDirectory directory file) true tree
  rw [hmake] at hmade
  obtain ⟨-, hentry, rfl⟩ := ok_writeFile hclear
  obtain ⟨hleads, hentry', rfl⟩ := ok_writeFile hwrite
  have haltered := alters_write hentry' (.text text)
  refine ⟨hleads.alters haltered, ?_, (hmade.trans (alters_write hentry _)).trans haltered⟩
  exact (Tree.read?_write _ _ _ _).trans (if_pos rfl)

theorem Writes.alters (h : Writes s directory tree files tree') :
    Alters (∃ file ∈ files, sourcePlace directory file = ·) tree tree' := by
  induction h with
  | nil tree => exact .refl _ _
  | cons htext hplace rest ih =>
    have hfirst := (ok_placeSource hplace).2.2
    refine (hfirst.mono fun place hplace => ?_).trans (ih.mono fun place hplace => ?_)
    · exact ⟨_, List.mem_cons_self, hplace.symm⟩
    · exact hplace.imp fun other hother => ⟨List.mem_cons_of_mem _ hother.1, hother.2⟩

theorem Writes.leads (h : Writes s directory tree files tree') (hfile : file ∈ files) :
    Leads tree' (sourcePath directory file) (sourcePlace directory file) := by
  induction h with
  | nil tree => simp at hfile
  | cons htext hplace rest ih =>
    rcases List.mem_cons.mp hfile with rfl | hfile
    · exact (ok_placeSource hplace).1.alters rest.alters
    · exact ih hfile

/-- At a place stands the last file that goes there. -/
theorem Writes.read (h : Writes s directory tree files tree')
    (hlast : lastAt directory place files = some last) :
    ∃ text, Render.fileText s last = .ok text ∧ tree'.read? place = some (.text text) := by
  induction h with
  | nil tree => simp [lastAt] at hlast
  | @cons _ _ _ file files text htext hplace rest ih =>
    rw [lastAt_cons] at hlast
    cases hrest : lastAt directory place files with
    | some other =>
      rw [hrest] at hlast
      obtain rfl : other = last := by simpa using hlast
      exact ih hrest
    | none =>
      rw [hrest, Option.none_or, Option.ite_none_right_eq_some] at hlast
      obtain ⟨rfl, hlast⟩ := hlast
      obtain rfl := Option.some.inj hlast
      refine ⟨text, htext, ?_⟩
      rw [rest.alters.files _ ?_]
      · exact (ok_placeSource hplace).2.1
      · rintro ⟨other, hother, heq⟩
        exact lastAt_eq_none hrest other hother heq

theorem Writes.holds (h : Writes s directory tree files tree') (hfile : file ∈ files)
    (hlast : lastAt directory (sourcePlace directory file) files = some last) :
    Holds s tree' (sourcePath directory file) last := by
  obtain ⟨text, htext, hread⟩ := h.read hlast
  exact ⟨text, htext, (h.leads hfile).contents hread⟩

/-! ### The names of files -/

/-- The names that lead from the output directory to a source file. -/
def location (file : Render.SourceFile) : List String :=
  if file.subdirectory.isEmpty then [file.fileName] else [file.subdirectory, file.fileName]

theorem sourcePath_eq (directory : String) (file : Render.SourceFile) :
    sourcePath directory file = (location file).foldl joinPath directory := by
  unfold sourcePath sourceDirectory location
  split <;> rfl

theorem sourcePlace_eq (h : ∀ name ∈ location file, IsPlain name) (directory : String) :
    sourcePlace directory file = resolvePath directory ++ location file := by
  rw [sourcePlace, sourcePath_eq, resolvePath_foldl_joinPath h]

theorem map_sourcePath (directory : String) (files : List Render.SourceFile) :
    files.map (sourcePath directory) = (files.map location).map (List.foldl joinPath directory) := by
  rw [List.map_map]
  exact List.map_congr_left fun file _ => sourcePath_eq directory file

theorem map_sourcePlace (h : ∀ file ∈ files, ∀ name ∈ location file, IsPlain name)
    (directory : String) :
    files.map (sourcePlace directory) = (files.map location).map (resolvePath directory ++ ·) := by
  rw [List.map_map]
  exact List.map_congr_left fun file hfile => sourcePlace_eq (h file hfile) directory

/-- The classes that have a file of their own, by the stems of the files. -/
def classStems (config : Configuration) : List String :=
  ["Constants", "Enums", config.nativeClass, "Delegates", config.mainClass]

/-- The names of the structs and views that are kept. -/
def structStems (b : Bindings) (s : Symbols) : List String :=
  b.structs.flatMap fun pair =>
    [Identifier.lastSegment pair.1.nativeName,
      Identifier.lastSegment pair.1.nativeName ++ s.settings.viewSuffix]

/-- The name of a file with a stem. -/
def genName (stem : String) : String := stem ++ ".gen.cs"

theorem genName_injective : Function.Injective genName := fun _ _ h => (String.append_left_inj _).mp h

theorem isPlain_genName {stem : String} (h : '/' ∉ stem.toList) : IsPlain (genName stem) := by
  have hlength : 7 ≤ (genName stem).length := by
    rw [genName, String.length_append]
    exact Nat.le_add_left 7 _
  refine ⟨?_, ?_, ?_, ?_⟩
  · rw [genName, String.toList_append, List.mem_append]
    exact fun hmem => hmem.elim h (by decide)
  all_goals
    intro heq
    rw [heq] at hlength
    exact absurd hlength (by decide)

/-- The locations of the source files, in the order in which they are written. -/
def locations (config : Configuration) (stems : List String) : List (List String) :=
  [[genName "Constants"], [genName "Enums"]] ++ stems.map (fun stem => ["Structs", genName stem]) ++
    [[genName config.nativeClass], [genName "Delegates"], [genName config.mainClass]]

theorem perm_locations (config : Configuration) (stems : List String) :
    (locations config stems).Perm ((classStems config).map (fun stem => [genName stem]) ++
      stems.map fun stem => ["Structs", genName stem]) := by
  unfold locations classStems
  rw [List.append_assoc]
  refine (List.perm_append_comm.append_left _).trans ?_
  rw [← List.append_assoc]
  exact .append_right _ (.refl _)

/-- Files of different classes and files of structs are apart; structs and views share files or not. -/
theorem nodup_locations_iff (hclasses : (classStems config).Nodup) {stems : List String} :
    (locations config stems).Nodup ↔ stems.Nodup := by
  rw [(perm_locations config stems).nodup_iff]
  constructor
  · exact fun h => h.of_append_right.of_map
  · intro hstems
    refine List.Nodup.append (hclasses.map ?_) (hstems.map ?_) ?_
    · intro stem other h
      exact genName_injective (List.singleton_inj.mp h)
    · intro stem other h
      exact genName_injective (List.singleton_inj.mp (List.cons.inj h).2)
    · simp [List.disjoint_left]

theorem isPlain_locations {stems : List String}
    (h : ∀ stem ∈ classStems config ++ stems, '/' ∉ stem.toList) :
    ∀ names ∈ locations config stems, ∀ name ∈ names, IsPlain name := by
  intro names hnames
  rcases List.mem_append.mp ((perm_locations config stems).mem_iff.mp hnames) with hmem | hmem
  · obtain ⟨stem, hstem, rfl⟩ := List.mem_map.mp hmem
    simpa using isPlain_genName (h stem (List.mem_append_left _ hstem))
  · obtain ⟨stem, hstem, rfl⟩ := List.mem_map.mp hmem
    have hplain : IsPlain "Structs" := ⟨by decide, by decide, by decide, by decide⟩
    simpa [hplain] using isPlain_genName (h stem (List.mem_append_right _ hstem))

/-- What is kept of a document are structs of it, named by the last segment of their native names. -/
theorem kept_bindings {nativeClass : String} (hnone : s.delegates = {})
    (hrun : (bindings nativeClass document).runOn s = (.ok b, s')) :
    s'.settings = s.settings ∧ ∀ pair ∈ b.structs,
      pair.2.head.name = pair.1.head.name ++ s.settings.viewSuffix ∧
        ∃ item ∈ document.structs, pair.1.nativeName = item.name ∧
          pair.1.head.name = Identifier.lastSegment item.name := by
  rw [bindings_eq] at hrun
  obtain ⟨built, middle, hdeclared, hsettle⟩ := ok_bind.mp hrun
  obtain ⟨rfl, hrules, -⟩ := skips_settle hsettle
  obtain ⟨hgrows, hdeclares⟩ := declares hnone hdeclared
  have hsettings : s'.settings = s.settings := by
    rw [hrules.settings, hgrows.settings, (opens_opened document s).settings]
  refine ⟨hsettings, fun pair hpair => ?_⟩
  have hmem : pair ∈ built.structs := (List.mem_filter.mp hpair).1
  obtain ⟨item, hitem, hof⟩ := forall₂_mem hdeclares.structs.flip hmem
  exact ⟨view_declared hdeclared pair hmem, item, (List.mem_filter.mp hitem).1, hof.nativeName, hof.name⟩

/-- The structs and views of a document are named by the last segment of a native name. -/
theorem named_bindings {nativeClass : String} (hnone : s.delegates = {})
    (hrun : (bindings nativeClass document).runOn s = (.ok b, s')) :
    ∀ pair ∈ b.structs, pair.1.head.name = Identifier.lastSegment pair.1.nativeName ∧
      pair.2.head.name = Identifier.lastSegment pair.1.nativeName ++ s'.settings.viewSuffix := by
  obtain ⟨hsettings, hkept⟩ := kept_bindings hnone hrun
  intro pair hpair
  obtain ⟨hview, item, -, hnative, hname⟩ := hkept pair hpair
  rw [← hnative] at hname
  exact ⟨hname, by rw [hview, hname, hsettings]⟩

theorem map_location_sources (config : Configuration) (h : ∀ pair ∈ b.structs,
      pair.1.head.name = Identifier.lastSegment pair.1.nativeName ∧
        pair.2.head.name = Identifier.lastSegment pair.1.nativeName ++ s.settings.viewSuffix) :
    (sources config b s).map location = locations config (structStems b s) := by
  have htidy : location ∘ tidyFile = location := rfl
  unfold sources placeFiles locations structStems
  rw [List.map_map, htidy]
  simp only [List.map_append, List.map_flatMap]
  congr 1
  congr 1
  refine List.flatMap_congr fun pair hpair => ?_
  obtain ⟨hlayout, hview⟩ := h pair hpair
  rw [← hview, ← hlayout]
  rfl

/-! ### Configurations -/

/-- At the path of every source file is the last one that goes to its place. -/
def LastFound (s : Symbols) (tree : Tree) (directory : String) (files : List Render.SourceFile) : Prop :=
  ∀ file ∈ files, ∃ last, lastAt directory (sourcePlace directory file) files = some last ∧
    Holds s tree (sourcePath directory file) last

/-- Every source file is found in full at its path. -/
def AllFound (s : Symbols) (tree : Tree) (directory : String) (files : List Render.SourceFile) : Prop :=
  ∀ file ∈ files, Holds s tree (sourcePath directory file) file

theorem Writes.lastFound (h : Writes s directory tree files tree') : LastFound s tree' directory files := by
  intro file hfile
  obtain ⟨last, hlast⟩ := exists_lastAt hfile directory
  exact ⟨last, hlast, h.holds hfile hlast⟩

theorem Writes.allFound (h : Writes s directory tree files tree')
    (hplaces : (files.map (sourcePlace directory)).Nodup) : AllFound s tree' directory files :=
  fun _ hfile => h.holds hfile (lastAt_of_nodup hplaces hfile)

/--
When a configuration completes whose classes differ in name, every path holds the last file that goes to its
place. If no class, struct or view has a slash in its name, the paths are distinct exactly if the names of
the structs and views that are kept are, and then every file is found in full.
-/
theorem paths_nodup_iff
    (hrun : (ExceptT.run (Run.generate project config)).run state = (.ok paths, after))
    (hclasses : (classStems config).Nodup) :
    ∃ document b s, Generated project config state paths after document b s ∧
      LastFound s after.tree (joinPath project.outputRoot config.outputSubdirectory)
        (sources config b s) ∧
      ((∀ stem ∈ classStems config ++ structStems b s, '/' ∉ stem.toList) →
        (paths.Nodup ↔ (structStems b s).Nodup) ∧
        ((structStems b s).Nodup →
          AllFound s after.tree (joinPath project.outputRoot config.outputSubdirectory)
            (sources config b s))) := by
  obtain ⟨document, b, s, hgenerated⟩ := generated hrun
  refine ⟨document, b, s, hgenerated, hgenerated.writes.lastFound, fun hslash => ?_⟩
  have hlocations := map_location_sources config (named_bindings rfl hgenerated.builds)
  have hplain : ∀ file ∈ sources config b s, ∀ name ∈ location file, IsPlain name := fun file hfile =>
    isPlain_locations hslash _ (hlocations ▸ List.mem_map_of_mem hfile)
  have hplaces : (structStems b s).Nodup → ((sources config b s).map (sourcePlace
      (joinPath project.outputRoot config.outputSubdirectory))).Nodup := by
    intro hstems
    rw [map_sourcePlace hplain, hlocations]
    exact ((nodup_locations_iff hclasses).mpr hstems).map (List.append_right_injective _)
  refine ⟨⟨fun hpaths => ?_, fun hstems => ?_⟩, fun hstems => ?_⟩
  · rw [hgenerated.paths, map_sourcePath, hlocations] at hpaths
    exact (nodup_locations_iff hclasses).mp hpaths.of_map
  · have hdistinct := hplaces hstems
    rw [show sourcePlace _ = resolvePath ∘ sourcePath _ from rfl, ← List.map_map,
      ← hgenerated.paths] at hdistinct
    exact hdistinct.of_map
  · exact hgenerated.writes.allFound (hplaces hstems)

/-! ### Structs with one field -/

/-- A struct with one field. -/
def fieldStruct (name field : String) : String :=
  "\x7b\"name\":\"" ++ name ++ "\",\"fields\":[\x7b\"name\":\"" ++ field ++
    "\",\"type\":\x7b\"description\":\x7b\"kind\":\"Builtin\"\x7d\x7d\x7d]\x7d"

/-- The value of such a struct. -/
def fieldValue (name field : String) : Json.Value :=
  .object [("name", .text name), ("fields", .array [.object [("name", .text field),
    ("type", .object [("description", .object [("kind", .text "Builtin")])])]])]

/-- Such a struct in a document. -/
def fieldItem (name field : String) : Metadata.Struct where
  name := name
  fields := [{ name := field, info := { type := { kind := .builtin } } }]

set_option maxRecDepth 2000 in
theorem holds_fieldStruct :
    HoldsDocument (structsState (fieldStruct "A" "x")).tree (metadataPath plainProject plainConfiguration)
      { structs := [fieldItem "A" "x"] } := by
  refine ⟨_, structsValue [fieldValue "A" "x"], rfl, ?_, rfl⟩
  apply Json.Value.read_of_toList
  · unfold fieldStruct
    repeat' first | with_reducible exact String.toList_ofList | apply Text.toList_append_eq
  · rfl

set_option maxRecDepth 2000 in
theorem holds_twoStructs :
    HoldsDocument (structsState (fieldStruct "A" "x" ++ "," ++ fieldStruct "_A" "y")).tree
      (metadataPath plainProject plainConfiguration) { structs := [fieldItem "A" "x", fieldItem "_A" "y"] } := by
  refine ⟨_, structsValue [fieldValue "A" "x", fieldValue "_A" "y"], rfl, ?_, rfl⟩
  apply Json.Value.read_of_toList
  · unfold fieldStruct
    repeat' first | with_reducible exact String.toList_ofList | apply Text.toList_append_eq
  · rfl

set_option maxRecDepth 2000 in
theorem holds_leadingStruct :
    HoldsDocument (structsState (fieldStruct "../Enums" "x")).tree (metadataPath plainProject plainConfiguration)
      { structs := [fieldItem "../Enums" "x"] } := by
  refine ⟨_, structsValue [fieldValue "../Enums" "x"], rfl, ?_, rfl⟩
  apply Json.Value.read_of_toList
  · unfold fieldStruct
    repeat' first | with_reducible exact String.toList_ofList | apply Text.toList_append_eq
  · rfl

theorem paths_nodup_iff_struct :
    ∃ paths after,
      (ExceptT.run (Run.generate plainProject plainConfiguration)).run
        (structsState (fieldStruct "A" "x")) = (.ok paths, after) ∧
      (classStems plainConfiguration).Nodup ∧ paths.Nodup ∧ ∃ document b s,
        Generated plainProject plainConfiguration (structsState (fieldStruct "A" "x")) paths after
          document b s ∧ structStems b s = ["A", "APtr"] ∧
        AllFound s after.tree (joinPath "out" "") (sources plainConfiguration b s) := by
  have hclasses : (classStems plainConfiguration).Nodup := by decide
  obtain ⟨paths, after, hrun, -⟩ := run_exists_ok (Run.generate plainProject plainConfiguration)
    (structsState (fieldStruct "A" "x")) (fun _ _ => ())
    (show _ = some () by
      rw [run_generate, readOutcome_eq_ok.mpr holds_fieldStruct]
      decide +kernel)
  obtain ⟨document, b, s, hgenerated, -, hnames⟩ := paths_nodup_iff hrun hclasses
  obtain rfl := hgenerated.reads.unique holds_fieldStruct
  have hstems : structStems b s = ["A", "APtr"] := by
    obtain ⟨b', s', hbuild, hstems⟩ := exists_ok
      (bindings plainConfiguration.nativeClass { structs := [fieldItem "A" "x"] })
      (startSymbols plainProject (structsState (fieldStruct "A" "x"))) structStems (b := ["A", "APtr"])
      (by decide +kernel)
    cases hgenerated.builds.symm.trans hbuild
    exact hstems
  rw [hstems] at hnames
  obtain ⟨hpaths, hfound⟩ := hnames (by decide)
  exact ⟨paths, after, hrun, hclasses, hpaths.mpr (by decide), _, b, s, hgenerated, hstems,
    hfound (by decide)⟩

/-! ### Files that are written over -/

/--
Two structs whose names end alike share their files. A class or a struct with slashes in its name can lead to
the file of the enums; then the paths are distinct, but the places are not.
-/
theorem sources_overwritten :
    (∃ paths after, (ExceptT.run (Run.generate plainProject plainConfiguration)).run
        (structsState (fieldStruct "A" "x" ++ "," ++ fieldStruct "_A" "y")) = (.ok paths, after) ∧
      (classStems plainConfiguration).Nodup ∧ ¬ paths.Nodup) ∧
    (∃ paths after, (ExceptT.run (Run.generate plainProject
        { plainConfiguration with mainClass := "./Enums" })).run (structsState "") = (.ok paths, after) ∧
      (classStems { plainConfiguration with mainClass := "./Enums" }).Nodup ∧
      paths.Nodup ∧ ¬ (paths.map resolvePath).Nodup) ∧
    ∃ paths after, (ExceptT.run (Run.generate plainProject plainConfiguration)).run
        (structsState (fieldStruct "../Enums" "x")) = (.ok paths, after) ∧
      (classStems plainConfiguration).Nodup ∧ paths.Nodup ∧ ¬ (paths.map resolvePath).Nodup := by
  refine ⟨?_, ?_, ?_⟩
  · obtain ⟨paths, after, hrun, hpaths⟩ := run_exists_ok (Run.generate plainProject plainConfiguration)
      (structsState (fieldStruct "A" "x" ++ "," ++ fieldStruct "_A" "y"))
      (fun paths _ => decide paths.Nodup) (show _ = some false by
        rw [run_generate, readOutcome_eq_ok.mpr holds_twoStructs]
        decide +kernel)
    exact ⟨paths, after, hrun, by decide, of_decide_eq_false hpaths⟩
  · obtain ⟨paths, after, hrun, hread⟩ := run_exists_ok
      (Run.generate plainProject { plainConfiguration with mainClass := "./Enums" }) (structsState "")
      (fun paths _ => (decide paths.Nodup, decide (paths.map resolvePath).Nodup))
      (show _ = some (true, false) by decide +kernel)
    obtain ⟨hpaths, hplaces⟩ := Prod.mk.inj hread
    exact ⟨paths, after, hrun, by decide, of_decide_eq_true hpaths, of_decide_eq_false hplaces⟩
  · obtain ⟨paths, after, hrun, hread⟩ := run_exists_ok (Run.generate plainProject plainConfiguration)
      (structsState (fieldStruct "../Enums" "x"))
      (fun paths _ => (decide paths.Nodup, decide (paths.map resolvePath).Nodup))
      (show _ = some (true, false) by
        rw [run_generate, readOutcome_eq_ok.mpr holds_leadingStruct]
        decide +kernel)
    obtain ⟨hpaths, hplaces⟩ := Prod.mk.inj hread
    exact ⟨paths, after, hrun, by decide, of_decide_eq_true hpaths, of_decide_eq_false hplaces⟩

end InteropGen.Generate

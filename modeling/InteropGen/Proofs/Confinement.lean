import InteropGen.Proofs.Correspondence.Document
import InteropGen.Proofs.FailedRuns
import InteropGen.Proofs.Renewal
import InteropGen.Proofs.Sources

/-!
# Runs that stay below the output directory

A call of a run may do with the output directory what it wants, but around it only the directories on the way
are made (`Within`). This holds of making directories and writing files below it, of making it anew, and so of
whole configurations, whether they fail or not, if the names of their files do not lead out (`Contained`). The
names of structs come from documents, so they are part of the condition; it need only hold of the documents that
stand outside of the output directory at the beginning, as no call changes them (`between_afterCalls`).
-/

namespace InteropGen

/-! ### What holds in every state -/

namespace Build

variable {ε σ α β : Type} {P : σ → Prop}

/-- What holds before the steps holds after them, whether they fail or not. -/
def Keeps (P : σ → Prop) (steps : ExceptT ε (StateM σ) α) : Prop :=
  ∀ s, P s → P ((ExceptT.run steps).run s).2

namespace Keeps

theorem pure (a : α) : Keeps P (pure a : ExceptT ε (StateM σ) α) := fun _ hs => hs

theorem throw (error : ε) : Keeps P (throw error : ExceptT ε (StateM σ) α) := fun _ hs => hs

theorem bind {steps : ExceptT ε (StateM σ) α} {next : α → ExceptT ε (StateM σ) β} (h : Keeps P steps)
    (hnext : ∀ a, Keeps P (next a)) : Keeps P (steps >>= next) := by
  intro s hs
  have hfirst := h s hs
  rw [run_bind]
  rcases hrun : (ExceptT.run steps).run s with ⟨error | a, middle⟩ <;> rw [hrun] at hfirst
  · exact hfirst
  · exact hnext a middle hfirst

theorem mapM {step : α → ExceptT ε (StateM σ) β} {items : List α} (h : ∀ item ∈ items, Keeps P (step item)) :
    Keeps P (items.mapM step) := by
  induction items with
  | nil =>
    rw [List.mapM_nil]
    exact pure _
  | cons item items ih =>
    rw [List.mapM_cons]
    exact bind (h item List.mem_cons_self) fun _ =>
      bind (ih fun other hother => h other (List.mem_cons_of_mem _ hother)) fun _ => pure _

end Keeps

end Build

/-! ### Changes below a place -/

namespace Files

variable {t u v : Tree} {place other : List String} {path : String} {contents : Contents}
  {found : Option Contents}

/-- Around a place only directories on the way to it were made, and at the place there is no file. -/
structure Within (place : List String) (t u : Tree) : Prop where
  grounded : Grounded u
  noFile : ∀ contents, u.entry? place ≠ some (.file contents)
  outside : ∀ other, ¬ place <+: other → u.entry? other = t.entry? other ∨
    (other <+: place ∧ t.entry? other = none ∧ u.entry? other = some .directory)

theorem Within.refl (h : Grounded t) (hfile : ∀ contents, t.entry? place ≠ some (.file contents)) :
    Within place t t :=
  ⟨h, hfile, fun _ _ => .inl rfl⟩

theorem Within.trans (h : Within place t u) (h' : Within place u v) : Within place t v := by
  refine ⟨h'.grounded, h'.noFile, fun other hother => ?_⟩
  rcases h'.outside other hother with heq' | ⟨hlead, hnone, hmade⟩
  · rcases h.outside other hother with heq | ⟨hlead, hnone, hmade⟩
    · exact .inl (heq'.trans heq)
    · exact .inr ⟨hlead, hnone, heq'.trans hmade⟩
  · rcases h.outside other hother with heq | ⟨-, -, hdirectory⟩
    · exact .inr ⟨hlead, heq ▸ hnone, hmade⟩
    · rw [hdirectory] at hnone
      cases hnone

/-- Files outside stay as they are. -/
theorem Within.read? (h : Within place t u) (hother : ¬ place <+: other) : u.read? other = t.read? other := by
  rcases h.outside other hother with heq | ⟨-, hnone, hmade⟩
  · cases hread : t.read? other with
    | some contents => exact entry?_eq_file.mp (heq.trans (entry?_eq_file.mpr hread))
    | none =>
      cases hread' : u.read? other with
      | none => rfl
      | some contents =>
        rw [entry?_eq_file.mp (heq ▸ entry?_eq_file.mpr hread')] at hread
        cases hread
  · rw [(entry?_eq_none.mp hnone).1, (entry?_eq_directory.mp hmade).1]

theorem keeps_look {α : Type} {P : Tree → Prop} (f : Tree → Except PathError α) :
    Build.Keeps P (Change.look f) := by
  intro t ht
  rw [run_look_eq]
  exact ht

/-- Directories are made below a place. -/
theorem keeps_makeDirectories (hup : ".." ∉ (routeOf path).names) (hbelow : place <+: resolvePath path)
    (mayExist : Bool) : Build.Keeps (Within place t) (Change.makeDirectories path mayExist) := by
  intro u hu
  have hpaves := paves_makeDirectories mayExist hu.grounded hup
  refine hu.trans ⟨hpaves.grounded, fun contents hfile => ?_, fun other hother => ?_⟩
  · rcases hpaves.entries place with heq | ⟨-, -, hdirectory⟩
    · exact hu.noFile contents (heq ▸ hfile)
    · rw [hdirectory] at hfile
      cases hfile
  · refine (hpaves.entries other).imp_right fun ⟨hlead, hmade⟩ => ⟨?_, hmade⟩
    exact (List.prefix_or_prefix_of_prefix hlead hbelow).resolve_right hother

/-- A file is written below a place. -/
theorem keeps_writeFile (hup : ".." ∉ (routeOf path).names) (hbelow : place <+: resolvePath path)
    (hne : place ≠ resolvePath path) (contents : Contents) :
    Build.Keeps (Within place t) (Change.writeFile path contents) := by
  unfold Change.writeFile
  split
  · exact .throw _
  intro u hu
  rw [Build.run_bind, run_look_eq]
  rcases hfind : u.find path with error | ⟨found, entry⟩
  · exact hu
  obtain ⟨hfollow, hentry⟩ := follow_of_find hfind
  obtain rfl : found = resolvePath path := follow_ok hfollow
  have hwrites : u.entry? (resolvePath path) ≠ some .directory →
      Within place t (u.write (resolvePath path) contents) := by
    intro hplace
    obtain ⟨q, name, heq, hq, hshort⟩ := hu.grounded.found_below hup hfollow hplace
    refine hu.trans ⟨?_, fun found => ?_, fun other hother => ?_⟩
    · rw [heq] at hplace ⊢
      exact hu.grounded.write hq hshort hplace contents
    · rw [entry?_write, if_neg hne]
      exact hu.noFile found
    · rw [entry?_write, if_neg fun hsame : other = _ => hother (hsame ▸ hbelow)]
      exact .inl rfl
  rcases entry with _ | _ | found
  · exact hwrites (by simp [hentry])
  · exact hu
  · exact hwrites (by simp [hentry])

/-- Removing a directory touches no file. -/
theorem keeps_removeDirectory (path : String) :
    Build.Keeps (fun t : Tree => t.read? place = found) (Change.removeDirectory path) := by
  unfold Change.removeDirectory
  split
  · exact .throw _
  have hlast : ∀ (refused : Prop) [Decidable refused] (here : List String),
      Build.Keeps (fun t : Tree => t.read? place = found)
        (if refused then throw .unusable >>= fun _ : Unit => modify fun t =>
            { t with directories := t.directories.filter (· ≠ here) }
          else modify fun t => { t with directories := t.directories.filter (· ≠ here) } : Change Unit) := by
    intro refused _ here
    split
    · exact .bind (.throw _) fun _ _ ht => ht
    · exact fun _ ht => ht
  dsimp only
  split
  · exact .bind (.pure _) fun _ => .bind (keeps_look _) fun _ => hlast _ _
  · exact .bind (keeps_look _) fun _ => .bind (keeps_look _) fun _ => hlast _ _

/-- Removing a directory with all that is in it touches no file elsewhere. -/
theorem keeps_removeAll (hapart : ¬ resolvePath path <+: place) :
    Build.Keeps (fun t : Tree => t.read? place = found) (Change.removeAll path) := by
  intro t ht
  unfold Change.removeAll
  rw [Build.run_bind, run_look_eq]
  rcases hfind : t.find path with error | ⟨here, _ | _ | contents⟩
  · exact ht
  · exact ht
  · obtain rfl : here = resolvePath path := follow_ok (follow_of_find hfind).1
    have hnot : (resolvePath path).isPrefixOf place = false :=
      Bool.eq_false_iff.mpr (mt List.isPrefixOf_iff_prefix.mp hapart)
    have hcleared : (t.clear (resolvePath path)).read? place = found := by
      rw [← ht, Tree.read?, Tree.clear, Tree.lookup_filter (fun way => !Tree.isBelow (resolvePath path) way),
        if_pos (by simp [Tree.isBelow, hnot])]
      rfl
    exact keeps_removeDirectory path _ hcleared
  · exact ht

theorem keeps_read?_renewDirectory (hapart : ¬ resolvePath path <+: place) :
    Build.Keeps (fun t : Tree => t.read? place = found) (Change.renewDirectory path) := by
  have hmake : Build.Keeps (fun t : Tree => t.read? place = found) (Change.makeDirectories path false) :=
    fun t ht => ((Confined.makeDirectories (P := fun _ => False) path false t).files place id).trans ht
  refine .bind (fun _ ht => ht) fun before => ?_
  dsimp only
  split
  · exact .bind (keeps_removeAll hapart) fun _ => hmake
  · exact hmake

/-- The directory at a place is made anew. -/
theorem keeps_renewDirectory (hpath : Renewable path) :
    Build.Keeps (Within (resolvePath path) t) (Change.renewDirectory path) := by
  intro u hu
  have hrenewed := run_renewDirectory hpath hu.grounded hu.noFile
  exact hu.trans ⟨hrenewed.grounded, hrenewed.noFile, hrenewed.outside⟩

end Files

/-! ### Source files below a place -/

namespace Text

/-- What comes after the last separator stays with the last part. -/
theorem splitChars_append_of_notMem {separator : Char} {back : List Char} (h : separator ∉ back)
    (front : List Char) :
    ∃ parts part, splitChars separator (front ++ back) = parts ++ [part ++ back] := by
  induction front with
  | nil => exact ⟨[], [], splitChars_of_notMem h⟩
  | cons c rest ih =>
    obtain ⟨parts, part, hsplit⟩ := ih
    rw [List.cons_append, splitChars, hsplit]
    split
    · exact ⟨[] :: parts, part, rfl⟩
    · cases parts with
      | nil => exact ⟨[], c :: part, rfl⟩
      | cons first parts => exact ⟨(c :: first) :: parts, part, rfl⟩

end Text

namespace Generate

open Metadata Decl Build Symbols Files

variable {document : Metadata} {s s' : Symbols} {b : Bindings} {α : Type} {project : Project}
  {config : Configuration} {state : RunState} {t : Tree} {place : List String}
  {directory path stem : String} {file : Render.SourceFile}

/-- The name of a file with a stem leads on to the file. -/
theorem onward_genName_ne_nil (stem : String) : onward (routeOf (genName stem)).names ≠ [] := by
  have hending : '/' ∉ ".gen.cs".toList := by decide
  obtain ⟨parts, part, hsplit⟩ := Text.splitChars_append_of_notMem hending stem.toList
  have hlast : part ++ ".gen.cs".toList ∈ (routeOf (genName stem)).names.map String.toList := by
    rw [toList_names, genName, String.toList_append, hsplit]
    exact List.mem_filter.mpr ⟨List.mem_append_right _ List.mem_cons_self, by simp⟩
  obtain ⟨name, hname, hchars⟩ := List.mem_map.mp hlast
  refine List.ne_nil_of_mem (List.mem_filter.mpr ⟨hname, ?_⟩)
  have hlength := congrArg List.length hchars
  rw [List.length_append] at hlength
  refine decide_eq_true fun hdot => ?_
  rw [hdot] at hlength
  exact absurd hlength (by simp)

/-- The source file goes below a place, along a way that does not lead up. -/
structure LandsBelow (place : List String) (directory : String) (file : Render.SourceFile) : Prop where
  noUpDirectory : ".." ∉ (routeOf (sourceDirectory directory file)).names
  directoryBelow : place <+: resolvePath (sourceDirectory directory file)
  noUp : ".." ∉ (routeOf (sourcePath directory file)).names
  below : place <+: sourcePlace directory file
  ne : place ≠ sourcePlace directory file

theorem landsBelow (hup : ".." ∉ (routeOf directory).names) (hbelow : place <+: resolvePath directory)
    (hsubdirectory : Inward file.subdirectory) (hname : Inward file.fileName)
    (hstem : file.fileName = genName stem) : LandsBelow place directory file := by
  have hdirectory : ".." ∉ (routeOf (sourceDirectory directory file)).names ∧
      place <+: resolvePath (sourceDirectory directory file) := by
    unfold sourceDirectory
    split
    · exact ⟨hup, hbelow⟩
    · rw [resolvePath_joinPath_of_inward hsubdirectory]
      exact ⟨noUp_joinPath hup hsubdirectory, hbelow.trans (List.prefix_append _ _)⟩
  have hplace : sourcePlace directory file = resolvePath (sourceDirectory directory file) ++
      onward (routeOf file.fileName).names := resolvePath_joinPath_of_inward hname _
  refine ⟨hdirectory.1, hdirectory.2, noUp_joinPath hdirectory.1 hname, ?_, fun heq => ?_⟩
  · rw [hplace]
    exact hdirectory.2.trans (List.prefix_append _ _)
  · have hlength := congrArg List.length (heq.trans hplace)
    have hpos := List.length_pos_iff.mpr (hstem ▸ onward_genName_ne_nil stem)
    have := hdirectory.2.length_le
    rw [List.length_append] at hlength
    omega

/-- The files of a configuration go below a place if their names do not lead out of its directory. -/
theorem landsBelow_of_mem (hup : ".." ∉ (routeOf directory).names) (hbelow : place <+: resolvePath directory)
    (hnative : Inward (genName config.nativeClass)) (hmain : Inward (genName config.mainClass))
    (hstems : ∀ stem ∈ structStems b s, Inward (genName stem))
    (hnames : ∀ pair ∈ b.structs, pair.1.head.name = Identifier.lastSegment pair.1.nativeName ∧
      pair.2.head.name = Identifier.lastSegment pair.1.nativeName ++ s.settings.viewSuffix)
    (hfile : file ∈ sources config b s) : LandsBelow place directory file := by
  have hmem := List.mem_map_of_mem (f := location) hfile
  rw [map_location_sources config hnames, (perm_locations config _).mem_iff] at hmem
  have hplain : ∀ stem : String, '/' ∉ stem.toList → Inward (genName stem) := fun stem h =>
    (isPlain_genName h).inward
  rcases List.mem_append.mp hmem with hmem | hmem
  · obtain ⟨stem, hstem, hlocation⟩ := List.mem_map.mp hmem
    have hname : Inward (genName stem) := by
      simp only [classStems, List.mem_cons, List.not_mem_nil, or_false] at hstem
      rcases hstem with rfl | rfl | rfl | rfl | rfl
      · exact hplain _ (by decide)
      · exact hplain _ (by decide)
      · exact hnative
      · exact hplain _ (by decide)
      · exact hmain
    unfold location at hlocation
    split at hlocation
    · next hempty =>
      have heq := List.singleton_inj.mp hlocation
      refine landsBelow hup hbelow ?_ (heq ▸ hname) heq.symm
      rw [String.isEmpty_iff.mp hempty]
      exact ⟨by decide, by decide⟩
    · exact absurd (congrArg List.length hlocation) (by simp)
  · obtain ⟨stem, hstem, hlocation⟩ := List.mem_map.mp hmem
    unfold location at hlocation
    split at hlocation
    · exact absurd (congrArg List.length hlocation) (by simp)
    · obtain ⟨hsubdirectory, hrest⟩ := List.cons.inj hlocation
      have hname := List.singleton_inj.mp hrest
      exact landsBelow hup hbelow (hsubdirectory ▸ IsPlain.inward ⟨by decide, by decide, by decide, by decide⟩)
        (hname ▸ hstems stem hstem) hname.symm

/-! ### Calls -/

/-- The file at a place holds the document. -/
def StoresDocument (t : Tree) (place : List String) (document : Metadata) : Prop :=
  ∃ text value, t.read? place = some (.text text) ∧ Json.Value.read text = .ok value ∧
    Metadata.ofValue value = .ok document

theorem storesDocument_of_readOutcome (h : readOutcome t path = .ok document) :
    StoresDocument t (resolvePath path) document := by
  obtain ⟨text, value, hcontents, hread, hvalue⟩ := readOutcome_eq_ok.mp h
  exact ⟨text, value, read?_of_contents hcontents, hread, hvalue⟩

/--
No file of a configuration goes out of the output directory, and its document is not in it: the names that the
configuration gives lead inward, and so do those of the structs that are kept of the document.
-/
structure Contained (project : Project) (t : Tree) (config : Configuration) : Prop where
  subdirectory : Inward config.outputSubdirectory
  nativeClass : Inward (genName config.nativeClass)
  mainClass : Inward (genName config.mainClass)
  apart : ¬ resolvePath project.outputRoot <+: resolvePath (metadataPath project config)
  structs : ∀ document, StoresDocument t (resolvePath (metadataPath project config)) document →
    ∀ s, Reached project.settings s → ∀ b s',
      (bindings config.nativeClass document).runOn s.beginConfiguration = (.ok b, s') →
        ∀ stem ∈ structStems b s', Inward (genName stem)

/-- Between calls the files around the output directory are those of the tree, and the symbols are those of a run. -/
structure Between (project : Project) (t : Tree) (state : RunState) : Prop where
  within : Within (resolvePath project.outputRoot) t state.tree
  reached : Reached project.settings (foundSymbols project state)

theorem keeps_change {steps : Change α} (h : Keeps (Within (resolvePath project.outputRoot) t) steps) :
    Keeps (Between project t) (Run.change steps) := by
  intro state hstate
  rw [run_change_eq]
  exact ⟨h _ hstate.within, hstate.reached⟩

theorem keeps_writeSource (h : LandsBelow (resolvePath project.outputRoot) directory file) :
    Keeps (Between project t) (Run.writeSource s directory file) := by
  have hwrite := fun contents => keeps_writeFile (t := t) h.noUp h.below h.ne contents
  refine .bind (keeps_change (.bind (keeps_makeDirectories h.noUpDirectory h.directoryBelow true)
    fun _ => hwrite _)) fun _ => ?_
  split
  · exact .bind (keeps_change (hwrite _)) fun _ => .pure _
  · exact .throw _

theorem keeps_generate (hroot : ".." ∉ (routeOf project.outputRoot).names) (h : Contained project t config) :
    Keeps (Between project t) (Run.generate project config) := by
  intro state hstate
  rw [run_generate]
  cases hread : readOutcome state.tree (metadataPath project config) with
  | error failure => exact ⟨hstate.within, hstate.reached⟩
  | ok document =>
    have hnext := hstate.reached.next config.nativeClass document
    rw [show (foundSymbols project state).beginConfiguration = startSymbols project state from rfl] at hnext
    dsimp only
    rcases hbuild : (bindings config.nativeClass document).runOn (startSymbols project state) with
      ⟨fault | b, s⟩ <;> rw [hbuild] at hnext
    · exact ⟨hstate.within, hnext⟩
    · have hdocument : StoresDocument t (resolvePath (metadataPath project config)) document := by
        obtain ⟨text, value, hfile, hvalue⟩ := storesDocument_of_readOutcome hread
        exact ⟨text, value, (hstate.within.read? h.apart).symm.trans hfile, hvalue⟩
      have hstems := h.structs document hdocument _ hstate.reached b s hbuild
      have hup : ".." ∉ (routeOf (outputDirectory project config)).names :=
        noUp_joinPath hroot h.subdirectory
      have hbelow : resolvePath project.outputRoot <+: resolvePath (outputDirectory project config) := by
        rw [outputDirectory, resolvePath_joinPath_of_inward h.subdirectory]
        exact List.prefix_append _ _
      have hwrites : Keeps (Between project t) ((sources config b s).mapM
          (Run.writeSource s (outputDirectory project config))) :=
        .mapM fun file hfile => keeps_writeSource (landsBelow_of_mem hup hbelow h.nativeClass h.mainClass hstems
          (named_bindings rfl hbuild) hfile)
      have hwritten := hwrites { state with
        symbols := some s
        log := state.log ++ progress project config (startSymbols project state) s } ⟨hstate.within, hnext⟩
      dsimp only
      split
      · next failure after hrun =>
        rw [hrun] at hwritten
        exact hwritten
      · next paths after hrun =>
        rw [hrun] at hwritten
        exact ⟨hwritten.within, hwritten.reached⟩

theorem keeps_prepare (hroot : Renewable project.outputRoot) : Keeps (Between project t) (Run.prepare project) :=
  .bind (fun _ hstate => ⟨hstate.within, hstate.reached⟩) fun _ => keeps_change (keeps_renewDirectory hroot)

theorem keeps_generateAll (hroot : Renewable project.outputRoot)
    (h : ∀ config ∈ project.configurations, Contained project t config) :
    Keeps (Between project t) (Run.generateAll project) :=
  .bind (keeps_prepare hroot) fun _ => .bind (fun _ hstate => ⟨hstate.within, .start⟩) fun _ =>
    .bind (.mapM fun config hconfig => keeps_generate hroot.noUp (h config hconfig)) fun _ => .pure _

/-- What can be asked of a generator. -/
inductive Call
  | all
  | prepare
  | one (config : Configuration)

/-- The state after a call, whether it fails or not. -/
def Call.stateAfter (project : Project) (state : RunState) : Call → RunState
  | .all => ((ExceptT.run (Run.generateAll project)).run state).2
  | .prepare => ((ExceptT.run (Run.prepare project)).run state).2
  | .one config => ((ExceptT.run (Run.generate project config)).run state).2

/-- The state after calls on a new generator, from the files that were there. -/
def afterCalls (project : Project) (t : Tree) (calls : List Call) : RunState :=
  calls.foldl (Call.stateAfter project) { tree := t }

theorem between_afterCalls {calls : List Call} (hroot : Renewable project.outputRoot) (ht : Grounded t)
    (hfile : ∀ contents, t.entry? (resolvePath project.outputRoot) ≠ some (.file contents))
    (hall : ∀ config ∈ project.configurations, Contained project t config)
    (hone : ∀ config, .one config ∈ calls → Contained project t config) :
    Between project t (afterCalls project t calls) := by
  have hsteps : ∀ (calls : List Call) (state : RunState),
      (∀ config, .one config ∈ calls → Contained project t config) → Between project t state →
        Between project t (calls.foldl (Call.stateAfter project) state) := by
    intro calls
    induction calls with
    | nil => exact fun _ _ hstate => hstate
    | cons call calls ih =>
      intro state hone hstate
      refine ih _ (fun config hmem => hone config (List.mem_cons_of_mem _ hmem)) ?_
      cases call with
      | all => exact keeps_generateAll hroot hall state hstate
      | prepare => exact keeps_prepare hroot state hstate
      | one config => exact keeps_generate hroot.noUp (hone config List.mem_cons_self) state hstate
  exact hsteps calls _ hone ⟨.refl ht hfile, .start⟩

end Generate

end InteropGen

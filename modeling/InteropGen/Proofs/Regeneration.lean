import InteropGen.Proofs.Bodies
import InteropGen.Proofs.Confinement

/-!
# Regeneration from scratch

Two runs from trees in which the same stands everywhere go the same way (`Agrees`): every step looks only at what
stands at a place. So do two runs over all configurations from trees that only differ below the output directory,
as that is made anew and the symbols are new ones. The calls before them leave the files around the output directory
alone, so what they did and what was below the output directory does not matter (`regenerates`), unless a name
leads out of the output directory, or the directory cannot be made anew (`regeneration_differs`).
-/

namespace InteropGen

/-! ### Two runs -/

namespace Build

variable {ε σ α β : Type} {R : σ → σ → Prop}

/-- From related states the steps come to one outcome and to related states. -/
def Agrees (R : σ → σ → Prop) (steps : ExceptT ε (StateM σ) α) : Prop :=
  ∀ s s', R s s' → ((ExceptT.run steps).run s).1 = ((ExceptT.run steps).run s').1 ∧
    R ((ExceptT.run steps).run s).2 ((ExceptT.run steps).run s').2

namespace Agrees

theorem pure (a : α) : Agrees R (pure a : ExceptT ε (StateM σ) α) := fun _ _ h => ⟨rfl, h⟩

theorem throw (error : ε) : Agrees R (throw error : ExceptT ε (StateM σ) α) := fun _ _ h => ⟨rfl, h⟩

theorem modify {f : σ → σ} (hf : ∀ s s', R s s' → R (f s) (f s')) :
    Agrees R (modify f : ExceptT ε (StateM σ) PUnit) := fun s s' h => ⟨rfl, hf s s' h⟩

theorem bind {steps : ExceptT ε (StateM σ) α} {next : α → ExceptT ε (StateM σ) β} (h : Agrees R steps)
    (hnext : ∀ a, Agrees R (next a)) : Agrees R (steps >>= next) := by
  intro s s' hs
  obtain ⟨houtcome, hafter⟩ := h s s' hs
  rw [run_bind, run_bind]
  rcases hrun : (ExceptT.run steps).run s with ⟨outcome, middle⟩
  rcases hrun' : (ExceptT.run steps).run s' with ⟨outcome', middle'⟩
  rw [hrun, hrun'] at houtcome hafter
  obtain rfl : outcome = outcome' := houtcome
  cases outcome with
  | error error => exact ⟨rfl, hafter⟩
  | ok a => exact hnext a middle middle' hafter

/-- What is read off the state must be the same for related states. -/
theorem get_bind {next : σ → ExceptT ε (StateM σ) α} (hsame : ∀ s s', R s s' → next s = next s')
    (hnext : ∀ s, Agrees R (next s)) : Agrees R (get >>= next) := by
  intro s s' hs
  have hget : ∀ s, (ExceptT.run (get : ExceptT ε (StateM σ) σ)).run s = (.ok s, s) := fun _ => rfl
  rw [run_bind_ok (hget s), run_bind_ok (hget s'), ← hsame s s' hs]
  exact hnext s s s' hs

theorem mapM {step : α → ExceptT ε (StateM σ) β} {items : List α} (h : ∀ item, Agrees R (step item)) :
    Agrees R (items.mapM step) := by
  induction items with
  | nil =>
    rw [List.mapM_nil]
    exact pure _
  | cons item items ih =>
    rw [List.mapM_cons]
    exact bind (h item) fun _ => bind ih fun _ => pure _

end Agrees

end Build

/-! ### Trees in which the same stands -/

namespace Files

open Build

variable {t t' u u' : Tree} {place other : List String} {path : String} {α : Type}

/-- At every place there is the same in both trees. -/
def SameEntries (t t' : Tree) : Prop := t.entry? = t'.entry?

namespace SameEntries

theorem find_eq (h : SameEntries t t') (path : String) : t.find path = t'.find path := by
  have henter : t.enter = t'.enter := by
    funext place name
    rw [Tree.enter, Tree.enter, h]
  have hfollow : t.follow (routeOf path) = t'.follow (routeOf path) := by
    rw [Tree.follow, Tree.follow, henter]
  unfold Tree.find
  rw [hfollow, h]

theorem has_eq (h : SameEntries t t') (path : String) : t.has path = t'.has path := by
  rw [Tree.has, Tree.has, h.find_eq]

theorem isDirectory_eq (h : SameEntries t t') (path : String) : t.isDirectory path = t'.isDirectory path := by
  rw [Tree.isDirectory, Tree.isDirectory, h.find_eq]

theorem contents_eq (h : SameEntries t t') (path : String) : t.contents path = t'.contents path := by
  rw [Tree.contents, Tree.contents, h.find_eq]

theorem write (h : SameEntries t t') (place : List String) (contents : Contents) :
    SameEntries (t.write place contents) (t'.write place contents) := by
  funext other
  rw [entry?_write, entry?_write, h]

theorem addDirectories (h : SameEntries t t') (place : List String) :
    SameEntries (t.addDirectories place) (t'.addDirectories place) := by
  funext other
  rw [entry?_addDirectories, entry?_addDirectories, h]

end SameEntries

theorem agrees_look {f : Tree → Except PathError α} (hf : ∀ t t', SameEntries t t' → f t = f t') :
    Agrees SameEntries (Change.look f) := by
  intro t t' h
  rw [run_look_eq, run_look_eq]
  exact ⟨hf t t' h, h⟩

theorem agrees_tryCatch {steps : Change α} {handler : PathError → Change α} (h : Agrees SameEntries steps)
    (hhandler : ∀ error, Agrees SameEntries (handler error)) : Agrees SameEntries (tryCatch steps handler) := by
  intro t t' ht
  obtain ⟨houtcome, hafter⟩ := h t t' ht
  rw [run_tryCatch, run_tryCatch]
  rcases hrun : (ExceptT.run steps).run t with ⟨outcome, middle⟩
  rcases hrun' : (ExceptT.run steps).run t' with ⟨outcome', middle'⟩
  rw [hrun, hrun'] at houtcome hafter
  obtain rfl : outcome = outcome' := houtcome
  cases outcome with
  | error error => exact hhandler error middle middle' hafter
  | ok a => exact ⟨rfl, hafter⟩

theorem agrees_writeFile (path : String) (contents : Contents) :
    Agrees SameEntries (Change.writeFile path contents) := by
  unfold Change.writeFile
  split
  · exact .throw _
  · refine .bind (agrees_look fun _ _ h => h.find_eq path) fun found => ?_
    split
    · exact .throw _
    · exact .modify fun _ _ h => h.write _ _

theorem agrees_ensureDirectory (path : String) (mayExist : Bool) :
    Agrees SameEntries (Change.ensureDirectory path mayExist) := by
  refine agrees_tryCatch ?_ fun error => .get_bind (fun t t' h => ?_) fun t => ?_
  · refine .bind (agrees_look fun _ _ h => h.find_eq path) fun found => ?_
    split
    · exact .throw _
    · exact .modify fun _ _ h => h.addDirectories _
  · rw [h.isDirectory_eq]
  · split
    · exact .throw _
    · exact .pure _

theorem agrees_makeRoute (fromRoot mayExist : Bool) (names : List String) :
    Agrees SameEntries (Change.makeRoute fromRoot mayExist names) := by
  induction names with
  | nil => exact agrees_ensureDirectory _ _
  | cons name front ih =>
    have hlast : ∀ (needed : Prop) [Decidable needed] (path : String),
        Agrees SameEntries (if needed then Change.ensureDirectory path mayExist else Pure.pure ()) := by
      intro needed _ path
      split
      · exact agrees_ensureDirectory path mayExist
      · exact .pure ()
    refine .get_bind (fun t t' h => ?_) fun t => ?_
    · rw [h.has_eq]
    · dsimp only
      split
      · refine .bind (agrees_tryCatch ih fun error => ?_) fun _ => hlast _ _
        split
        · exact .pure ()
        · exact .throw error
      · exact hlast _ _

theorem agrees_makeDirectories (path : String) (mayExist : Bool) :
    Agrees SameEntries (Change.makeDirectories path mayExist) :=
  agrees_makeRoute _ _ _

end Files

namespace Render

/-- The text of a source file begins with a comment. -/
theorem toList_fileText {s : Symbols} {file : SourceFile} {text : String} (h : fileText s file = .ok text) :
    ∃ rest, text.toList = '/' :: rest := by
  obtain ⟨body, -, h⟩ := Build.except_bind_ok.mp h
  cases h
  rw [Code.render, Code.Builder.output, Code.toList_emitAll]
  show ∃ rest, (String.intercalate "\n" (Code.placed 0 generatedHeader :: Code.linesOf 0 _) ++ "\n").toList = _
  generalize Code.linesOf 0 _ = lines
  obtain ⟨first, hfirst⟩ : ∃ first, (Code.placed 0 generatedHeader).toList = '/' :: first := by
    rw [Code.placed, if_neg (by decide), String.toList_append]
    exact ⟨_, rfl⟩
  rw [String.toList_append, String.toList_intercalate, List.map_cons, hfirst]
  cases lines with
  | nil => exact ⟨_, rfl⟩
  | cons line lines => exact ⟨_, rfl⟩

end Render

namespace Generate

open Metadata Decl Build Symbols Files

variable {document : Metadata} {s s' : Symbols} {b : Bindings} {α : Type} {project : Project}
  {config : Configuration} {state state' : RunState} {t t' u u' : Tree} {base base' : List String}
  {place other : List String} {path text : String} {calls calls' : List Call} {file : Render.SourceFile}

/-! ### Runs that go the same way -/

/-- The same stands in the trees, the symbols are the same, and the same lines were logged since the two runs began. -/
structure Alike (base base' : List String) (state state' : RunState) : Prop where
  trees : SameEntries state.tree state'.tree
  symbols : state.symbols = state'.symbols
  log : ∃ lines, state.log = base ++ lines ∧ state'.log = base' ++ lines

theorem Alike.say (h : Alike base base' state state') (lines : List String) : Alike base base'
    { state with log := state.log ++ lines } { state' with log := state'.log ++ lines } := by
  obtain ⟨earlier, hlog, hlog'⟩ := h.log
  exact ⟨h.trees, h.symbols, earlier ++ lines, by simp [hlog], by simp [hlog']⟩

theorem agrees_change {steps : Change α} (h : Agrees SameEntries steps) :
    Agrees (Alike base base') (Run.change steps) := by
  intro state state' hstate
  obtain ⟨houtcome, htrees⟩ := h _ _ hstate.trees
  rw [run_change_eq, run_change_eq, houtcome]
  exact ⟨rfl, htrees, hstate.symbols, hstate.log⟩

theorem agrees_writeSource (s : Symbols) (directory : String) (file : Render.SourceFile) :
    Agrees (Alike base base') (Run.writeSource s directory file) := by
  refine .bind (agrees_change (.bind (agrees_makeDirectories _ true) fun _ => agrees_writeFile _ _)) fun _ => ?_
  split
  · exact .bind (agrees_change (agrees_writeFile _ _)) fun _ => .pure _
  · exact .throw _

theorem readOutcome_congr (h : SameEntries t t') (path : String) : readOutcome t path = readOutcome t' path := by
  unfold readOutcome
  rw [h.has_eq, h.contents_eq]

theorem agrees_generate (project : Project) (config : Configuration) :
    Agrees (Alike base base') (Run.generate project config) := by
  intro state state' h
  have hfound : foundSymbols project state = foundSymbols project state' := by
    rw [foundSymbols, foundSymbols, h.symbols]
  have hstart : startSymbols project state = startSymbols project state' := congrArg beginConfiguration hfound
  rw [run_generate, run_generate, ← readOutcome_congr h.trees, ← hfound, ← hstart]
  cases readOutcome state.tree (metadataPath project config) with
  | error failure => exact ⟨rfl, ⟨h.trees, rfl, (h.say _).log⟩⟩
  | ok document =>
    dsimp only
    rcases (bindings config.nativeClass document).runOn (startSymbols project state) with ⟨fault | b, s⟩
    · exact ⟨rfl, ⟨h.trees, rfl, (h.say _).log⟩⟩
    · have hwrites : Agrees (Alike base base') ((sources config b s).mapM
          (Run.writeSource s (outputDirectory project config))) :=
        .mapM fun file => agrees_writeSource s _ file
      have hbuilt : Alike base base'
          { state with
            symbols := some s
            log := state.log ++ progress project config (startSymbols project state) s }
          { state' with
            symbols := some s
            log := state'.log ++ progress project config (startSymbols project state) s } :=
        ⟨h.trees, rfl, (h.say _).log⟩
      obtain ⟨houtcome, hafter⟩ := hwrites _ _ hbuilt
      dsimp only
      rcases hrun : (ExceptT.run ((sources config b s).mapM
        (Run.writeSource s (outputDirectory project config)))).run _ with ⟨outcome, written⟩
      rcases hrun' : (ExceptT.run ((sources config b s).mapM
        (Run.writeSource s (outputDirectory project config)))).run _ with ⟨outcome', written'⟩
      rw [hrun, hrun'] at houtcome hafter
      obtain rfl : outcome = outcome' := houtcome
      cases outcome with
      | error failure => exact ⟨rfl, hafter⟩
      | ok paths => exact ⟨rfl, hafter.say _⟩

/-! ### Trees that differ in the output -/

/-- No file is at the place, and outside of it there is the same in both trees, but for directories on the way. -/
structure SameAround (place : List String) (t t' : Tree) : Prop where
  noFile : ∀ contents, t.entry? place ≠ some (.file contents)
  noFile' : ∀ contents, t'.entry? place ≠ some (.file contents)
  outside : ∀ other, ¬ place <+: other → t.entry? other = t'.entry? other ∨
    (other <+: place ∧ (∀ contents, t.entry? other ≠ some (.file contents)) ∧
      ∀ contents, t'.entry? other ≠ some (.file contents))

namespace SameAround

theorem of_within (h : SameAround place t t') (hu : Within place t u) (hu' : Within place t' u') :
    SameAround place u u' := by
  refine ⟨hu.noFile, hu'.noFile, fun other hother => ?_⟩
  rcases hu.outside other hother with heq | ⟨hlead, hnone, hmade⟩
  · rcases hu'.outside other hother with heq' | ⟨hlead, hnone', hmade'⟩
    · rw [heq, heq']
      exact h.outside other hother
    · rw [heq, hmade']
      refine .inr ⟨hlead, ?_, by simp⟩
      rcases h.outside other hother with hsame | ⟨-, hnoFile, -⟩
      · simp [hsame, hnone']
      · exact hnoFile
  · rw [hmade]
    refine .inr ⟨hlead, by simp, ?_⟩
    rcases hu'.outside other hother with heq' | ⟨-, -, hmade'⟩
    · rw [heq']
      rcases h.outside other hother with hsame | ⟨-, -, hnoFile⟩
      · simp [← hsame, hnone]
      · exact hnoFile
    · simp [hmade']

/-- The same files are outside. -/
theorem file_iff (h : SameAround place t t') (hother : ¬ place <+: other ∨ other = place) (contents : Contents) :
    t.entry? other = some (.file contents) ↔ t'.entry? other = some (.file contents) := by
  rcases hother with hother | rfl
  · rcases h.outside other hother with hsame | ⟨-, hnoFile, hnoFile'⟩
    · rw [hsame]
    · exact iff_of_false (hnoFile contents) (hnoFile' contents)
  · exact iff_of_false (h.noFile contents) (h.noFile' contents)

theorem blocked_eq (h : SameAround (resolvePath path) t t') (hpath : Renewable path) :
    pathBlocked? t path = pathBlocked? t' path := by
  refine hpath.blocked_congr fun place hlead => h.file_iff ?_
  by_cases hbelow : resolvePath path <+: place
  · exact .inr (hlead.eq_of_length_le hbelow.length_le)
  · exact .inl hbelow

/-- Once the directory is made anew the same stands everywhere. -/
theorem sameEntries (h : SameAround (resolvePath path) t t') (hpath : Renewable path)
    {run run' : Except PathError Unit × Tree} (hrun : Renewed t path run) (hrun' : Renewed t' path run')
    (hfree : pathBlocked? t path = none) : SameEntries run.2 run'.2 := by
  funext other
  by_cases hlead : other <+: resolvePath path
  · rw [hrun.above hfree other hlead, hrun'.above (h.blocked_eq hpath ▸ hfree) other hlead]
  by_cases hbelow : resolvePath path <+: other
  · have hne : other ≠ resolvePath path := by
      rintro rfl
      exact hlead (List.prefix_refl _)
    rw [hrun.below other hbelow hne, hrun'.below other hbelow hne]
  · rw [(hrun.outside other hbelow).resolve_right fun hmade => hlead hmade.1,
      (hrun'.outside other hbelow).resolve_right fun hmade => hlead hmade.1]
    exact (h.outside other hbelow).resolve_right fun hway => hlead hway.1

theorem contained (h : SameAround (resolvePath project.outputRoot) t t') (hconfig : Contained project t config) :
    Contained project t' config := by
  refine ⟨hconfig.subdirectory, hconfig.nativeClass, hconfig.mainClass, hconfig.apart, fun document hdocument => ?_⟩
  obtain ⟨text, value, hread, hvalue⟩ := hdocument
  have hread' := (h.file_iff (.inl hconfig.apart) _).mpr (entry?_eq_file.mpr hread)
  exact hconfig.structs document ⟨text, value, entry?_eq_file.mp hread', hvalue⟩

end SameAround

/-! ### Generating everything -/

/-- Generating everything is making the output directory anew and then all configurations over new symbols. -/
theorem run_generateAll (project : Project) (state : RunState) :
    (ExceptT.run (Run.generateAll project)).run state =
      match (ExceptT.run (Change.renewDirectory project.outputRoot)).run state.tree with
      | (.error error, tree) => (.error (.refused error), { state with
          tree := tree
          log := state.log ++ ["=== Generating C# bindings:"] })
      | (.ok (), tree) =>
        (ExceptT.run (project.configurations.mapM (Run.generate project) >>= fun written =>
          pure written.flatten)).run {
            tree := tree
            symbols := some (ofSettings project.settings)
            log := state.log ++ ["=== Generating C# bindings:"] } := by
  have hprepare : (ExceptT.run (Run.prepare project)).run state =
      (ExceptT.run (Run.change (Change.renewDirectory project.outputRoot))).run
        { state with log := state.log ++ ["=== Generating C# bindings:"] } := rfl
  unfold Run.generateAll
  rw [run_bind, hprepare, run_change_eq]
  dsimp only
  rcases (ExceptT.run (Change.renewDirectory project.outputRoot)).run state.tree with ⟨error | ⟨⟩, tree⟩ <;> rfl

/-- Two runs return or fail with the same, log the same lines, and leave the same below a place. -/
structure SameGeneration (place : List String) (before before' : RunState)
    (run run' : Except Failure (List String) × RunState) : Prop where
  outcome : run.1 = run'.1
  lines : ∃ lines, run.2.log = before.log ++ lines ∧ run'.2.log = before'.log ++ lines
  below : ∀ other, place <+: other → other ≠ place → Tree.entry? run.2.tree other = Tree.entry? run'.2.tree other

theorem sameGeneration_generateAll (hroot : Renewable project.outputRoot) (hground : Grounded state.tree)
    (hground' : Grounded state'.tree)
    (h : SameAround (resolvePath project.outputRoot) state.tree state'.tree) :
    SameGeneration (resolvePath project.outputRoot) state state'
      ((ExceptT.run (Run.generateAll project)).run state)
      ((ExceptT.run (Run.generateAll project)).run state') := by
  have hrenewed := run_renewDirectory hroot hground h.noFile
  have hrenewed' := run_renewDirectory hroot hground' h.noFile'
  have hsame := h.sameEntries hroot hrenewed hrenewed'
  have hblocked := h.blocked_eq hroot
  rw [run_generateAll, run_generateAll]
  rcases hrun : (ExceptT.run (Change.renewDirectory project.outputRoot)).run state.tree with ⟨outcome, tree⟩
  rcases hrun' : (ExceptT.run (Change.renewDirectory project.outputRoot)).run state'.tree with ⟨outcome', tree'⟩
  rw [hrun] at hrenewed hsame
  rw [hrun'] at hrenewed' hsame
  have houtcome : outcome = _ := hrenewed.outcome
  have houtcome' : outcome' = _ := hrenewed'.outcome
  rw [← hblocked] at houtcome'
  cases hfree : pathBlocked? state.tree project.outputRoot with
  | some error =>
    rw [hfree] at houtcome houtcome'
    rw [houtcome, houtcome']
    refine ⟨rfl, ⟨_, rfl, rfl⟩, fun other hlead hne => ?_⟩
    exact (hrenewed.below other hlead hne).trans (hrenewed'.below other hlead hne).symm
  | none =>
    rw [hfree] at houtcome houtcome'
    rw [houtcome, houtcome']
    have hall : Agrees (Alike state.log state'.log) (project.configurations.mapM (Run.generate project) >>=
        fun written => pure written.flatten) :=
      .bind (.mapM fun config => agrees_generate project config) fun _ => .pure _
    obtain ⟨hpaths, hafter⟩ := hall
      { tree := tree
        symbols := some (ofSettings project.settings)
        log := state.log ++ ["=== Generating C# bindings:"] }
      { tree := tree'
        symbols := some (ofSettings project.settings)
        log := state'.log ++ ["=== Generating C# bindings:"] }
      ⟨hsame hfree, rfl, _, rfl, rfl⟩
    exact ⟨hpaths, hafter.log, fun other _ _ => congrFun hafter.trees other⟩

/-- Generating everything comes to the same from two trees and after different calls. -/
def Regenerates (project : Project) (t t' : Tree) (calls calls' : List Call) : Prop :=
  SameGeneration (resolvePath project.outputRoot) (afterCalls project t calls) (afterCalls project t' calls')
    ((ExceptT.run (Run.generateAll project)).run (afterCalls project t calls))
    ((ExceptT.run (Run.generateAll project)).run (afterCalls project t' calls'))

/--
Generating everything comes to the same, logs the same and leaves the same below the output directory, whatever was
there before and whatever calls went before, failing or not: if the output directory can be made anew and what the
configurations write stays below it.
-/
theorem regenerates (hroot : Renewable project.outputRoot) (ht : Grounded t) (ht' : Grounded t')
    (hsame : SameAround (resolvePath project.outputRoot) t t')
    (hall : ∀ config ∈ project.configurations, Contained project t config)
    (hone : ∀ config, .one config ∈ calls ++ calls' → Contained project t config) :
    Regenerates project t t' calls calls' := by
  have hbetween := between_afterCalls hroot ht hsame.noFile hall fun config hmem =>
    hone config (List.mem_append_left _ hmem)
  have hbetween' := between_afterCalls hroot ht' hsame.noFile' (fun config hmem => hsame.contained (hall config hmem))
    fun config hmem => hsame.contained (hone config (List.mem_append_right _ hmem))
  exact sameGeneration_generateAll hroot hbetween.within.grounded hbetween'.within.grounded
    (hsame.of_within hbetween.within hbetween'.within)

/-! ### A struct with one field -/

/-- If the names of all structs of a document lead inward, so do those that are kept. -/
theorem inward_structStems {nativeClass : String} (hs : Reached project.settings s)
    (hbuild : (bindings nativeClass document).runOn s.beginConfiguration = (.ok b, s'))
    (hnames : ∀ item ∈ document.structs, Inward (genName (Identifier.lastSegment item.name)) ∧
      Inward (genName (Identifier.lastSegment item.name ++ project.settings.viewSuffix))) :
    ∀ stem ∈ structStems b s', Inward (genName stem) := by
  obtain ⟨hsettings, hkept⟩ := kept_bindings rfl hbuild
  rw [show s.beginConfiguration.settings = s.settings from rfl, hs.settings] at hsettings
  intro stem hstem
  obtain ⟨pair, hpair, hmem⟩ := List.mem_flatMap.mp hstem
  obtain ⟨-, item, hitem, hname, -⟩ := hkept pair hpair
  rw [hname, hsettings] at hmem
  rcases List.mem_pair.mp hmem with rfl | rfl
  · exact (hnames item hitem).1
  · exact (hnames item hitem).2

/-- A project with one configuration. -/
def oneProject : Project := { plainProject with configurations := [plainConfiguration] }

/-- The files of a project whose document has one struct. -/
def oneTree : Tree := (structsState (fieldStruct "A" "x")).tree

/-- The same files, and in the output directory one of an earlier run. -/
def usedTree : Tree := (oneTree.addDirectories ["out"]).write ["out", "Old.gen.cs"] (.text "")

/-- There is one file, which holds the document. -/
theorem oneTree_eq : ∃ text value, oneTree = Tree.write {} ["a.json"] (.text text) ∧
    Json.Value.read text = .ok value ∧ Metadata.ofValue value = .ok { structs := [fieldItem "A" "x"] } := by
  obtain ⟨text, value, hfile, hread, hvalue⟩ := holds_fieldStruct
  rw [show (structsState (fieldStruct "A" "x")).tree.contents _ = .ok (.text _) from rfl, Except.ok.injEq,
    Contents.text.injEq] at hfile
  exact ⟨text, value, hfile ▸ rfl, hread, hvalue⟩

theorem grounded_oneTree : Grounded oneTree := by
  obtain ⟨text, -, htree, -⟩ := oneTree_eq
  rw [htree]
  exact Grounded.empty.write Grounded.empty.here (by decide) (by rw [show Tree.entry? {} _ = none from rfl]; simp) _

theorem grounded_usedTree : Grounded usedTree := by
  have hmade : Grounded (oneTree.addDirectories ["out"]) :=
    grounded_oneTree.addDirectories grounded_oneTree.here (by decide)
  refine hmade.write (q := ["out"]) rfl (by decide) ?_ _
  rw [show Tree.entry? (oneTree.addDirectories ["out"]) _ = none from rfl]
  simp

theorem sameAround_usedTree : SameAround (resolvePath oneProject.outputRoot) oneTree usedTree := by
  have hroot : resolvePath oneProject.outputRoot = ["out"] := by decide +kernel
  rw [hroot]
  refine ⟨?_, ?_, fun other hother => ?_⟩
  · rw [show oneTree.entry? ["out"] = none from rfl]
    simp
  · rw [show usedTree.entry? ["out"] = some .directory from rfl]
    simp
  · have hne : other ≠ ["out", "Old.gen.cs"] := by
      rintro rfl
      exact hother ⟨["Old.gen.cs"], rfl⟩
    rw [usedTree, entry?_write, if_neg hne, entry?_addDirectories]
    cases hentry : oneTree.entry? other with
    | some entry => exact .inl rfl
    | none =>
      by_cases hlead : other <+: ["out"]
      · exact .inr ⟨hlead, by simp, by simp [hlead]⟩
      · exact .inl (if_neg hlead).symm

theorem contained_oneProject (metadataFile : String)
    (hapart : ¬ resolvePath oneProject.outputRoot <+: resolvePath (joinPath "" metadataFile)) :
    Contained oneProject oneTree { plainConfiguration with metadataFile := metadataFile } := by
  have hplain : ∀ stem : String, '/' ∉ stem.toList → Inward (genName stem) := fun stem h =>
    (isPlain_genName h).inward
  have hhere : Inward "" := ⟨by decide, by decide⟩
  refine ⟨hhere, hplain "Native" (by decide), hplain "Main" (by decide), hapart,
    fun document hdocument s hs b s' hbuild => inward_structStems hs hbuild fun item hitem => ?_⟩
  have hname : item.name = "A" := by
    obtain ⟨text, value, htree, hread, hvalue⟩ := oneTree_eq
    obtain ⟨text', value', hread', hvalue'⟩ := hdocument
    rw [htree, Tree.read?_write] at hread'
    split at hread'
    · cases hread'
      cases hread.symm.trans hvalue'.1
      cases hvalue.symm.trans hvalue'.2
      rw [List.mem_singleton.mp hitem]
      rfl
    · cases hread'
  rw [hname]
  exact ⟨hplain _ (by decide), hplain _ (by decide)⟩

/-- Calls of which the last fails. -/
def someCalls : List Call :=
  [.one plainConfiguration, .all, .one { plainConfiguration with metadataFile := "b.json" }]

/-- A file of an earlier run and calls of which one fails make no difference. -/
theorem regenerates_oneProject :
    Renewable oneProject.outputRoot ∧ Grounded oneTree ∧ Grounded usedTree ∧
      SameAround (resolvePath oneProject.outputRoot) oneTree usedTree ∧
      (∀ config ∈ oneProject.configurations, Contained oneProject oneTree config) ∧
      (∀ config, .one config ∈ someCalls ++ [] → Contained oneProject oneTree config) ∧
      Regenerates oneProject oneTree usedTree someCalls [] := by
  have hroot : Renewable oneProject.outputRoot := ⟨by decide, by decide, [], "out", by decide, by decide⟩
  have hplain : Contained oneProject oneTree plainConfiguration :=
    contained_oneProject "a.json" (by decide +kernel)
  have hall : ∀ config ∈ oneProject.configurations, Contained oneProject oneTree config := by
    intro config hmem
    rwa [List.mem_singleton.mp hmem]
  have hone : ∀ config, .one config ∈ someCalls ++ [] → Contained oneProject oneTree config := by
    intro config hmem
    simp only [someCalls, List.append_nil, List.mem_cons, Call.one.injEq, reduceCtorEq, List.not_mem_nil,
      or_false, false_or] at hmem
    rcases hmem with rfl | rfl
    · exact hplain
    · exact contained_oneProject "b.json" (by decide +kernel)
  exact ⟨hroot, grounded_oneTree, grounded_usedTree, sameAround_usedTree, hall, hone,
    regenerates hroot grounded_oneTree grounded_usedTree sameAround_usedTree hall hone⟩

/-! ### Runs that depend on earlier ones -/

/-- Does a run over everything complete? -/
def completes (project : Project) (state : RunState) : Bool :=
  ((ExceptT.run (Run.generateAll project)).run state).1.isOk

theorem afterCalls_all (project : Project) (t : Tree) :
    afterCalls project t [.all] = ((ExceptT.run (Run.generateAll project)).run { tree := t }).2 := rfl

theorem not_regenerates (fresh : Bool) (h : completes project (afterCalls project t calls) = fresh)
    (h' : completes project (afterCalls project t' calls') = !fresh) :
    ¬ Regenerates project t t' calls calls' := by
  intro hsame
  have houtcome := congrArg Except.isOk hsame.outcome
  rw [completes] at h h'
  rw [h, h'] at houtcome
  cases fresh <;> cases houtcome

/-- A source file that stands where the document of the first configuration is read is no document. -/
theorem completes_of_source {configs : List Configuration} (hconfigs : project.configurations = config :: configs)
    (hapart : ¬ resolvePath project.outputRoot <+: resolvePath (metadataPath project config))
    (htext : Render.fileText s file = .ok text)
    (hread : state.tree.read? (resolvePath (metadataPath project config)) = some (.text text)) :
    completes project state = false := by
  obtain ⟨rest, hslash⟩ := Render.toList_fileText htext
  have hkept := keeps_read?_renewDirectory hapart state.tree hread
  rw [completes, run_generateAll]
  rcases hrenewed : (ExceptT.run (Change.renewDirectory project.outputRoot)).run state.tree with ⟨error | ⟨⟩, tree⟩
  · rfl
  rw [hrenewed] at hkept
  have hunread : ∃ failure, readOutcome tree (metadataPath project config) = .error failure := by
    rcases hread' : readOutcome tree (metadataPath project config) with failure | document
    · exact ⟨failure, rfl⟩
    · obtain ⟨text', value, hfile, hvalue, -⟩ := storesDocument_of_readOutcome hread'
      cases hkept.symm.trans hfile
      rw [Json.Value.read_of_slash hslash] at hvalue
      cases hvalue
  obtain ⟨failure, hunread⟩ := hunread
  dsimp only
  rw [hconfigs, List.mapM_cons, run_bind, run_bind, run_generate, hunread]
  rfl

/-- A path that is too long is refused, and no file is touched. -/
theorem read?_renewDirectory_of_long (hlong : Tree.maxPathBytes < path.utf8ByteSize) (t : Tree)
    (place : List String) :
    ((ExceptT.run (Change.renewDirectory path)).run t).2.read? place = t.read? place := by
  have hget : (ExceptT.run (get : Change Tree)).run t = (.ok t, t) := rfl
  have hhas : t.has path = false := by
    rw [Tree.has, Tree.find, if_pos hlong]
    rfl
  unfold Change.renewDirectory
  rw [Build.run_bind_ok hget, hhas]
  exact (Confined.makeDirectories (P := fun _ => False) path false t).files place id

/-- A project without configurations. -/
def emptyProject (outputRoot : String) : Project := { metadataRoot := "meta", outputRoot := outputRoot }

theorem not_regenerates_of_long (hlong : Tree.maxPathBytes < path.utf8ByteSize) :
    ¬ Regenerates (emptyProject path) {} (Tree.put {} (resolvePath path ++ ["b"]) (.text "")) [] [] := by
  intro hsame
  have hkept : ∀ t place, ((ExceptT.run (Run.generateAll (emptyProject path))).run { tree := t }).2.tree.read?
      place = t.read? place := by
    intro t place
    have hrenewed := read?_renewDirectory_of_long hlong t place
    rw [run_generateAll]
    rcases hrun : (ExceptT.run (Change.renewDirectory (emptyProject path).outputRoot)).run t with
      ⟨error | ⟨⟩, tree⟩
    all_goals
      rw [show (emptyProject path).outputRoot = path from rfl] at hrun
      rw [hrun] at hrenewed
      exact hrenewed
  have hstale : Tree.read? (Tree.put {} (resolvePath path ++ ["b"]) (.text "")) (resolvePath path ++ ["b"]) =
      some (.text "") :=
    (Tree.read?_write _ _ _ _).trans (if_pos rfl)
  have hsame := hsame.below (resolvePath path ++ ["b"]) (List.prefix_append _ _)
    (by simp [show (emptyProject path).outputRoot = path from rfl])
  have hfile := hsame.trans (entry?_eq_file.mpr ((hkept _ _).trans hstale))
  cases (hkept {} _).symm.trans (entry?_eq_file.mp hfile)

/-- Many directories, each in the one before. -/
def deepPath (n : Nat) : String := String.ofList (List.replicate n ['a', '/']).flatten

theorem size_deepPath (n : Nat) : (deepPath n).utf8ByteSize = 2 * n := by
  rw [deepPath, String.utf8ByteSize_ofList]
  induction n with
  | zero => rfl
  | succ n ih =>
    rw [List.replicate_succ, List.flatten_cons, String.utf8Len_append, ih, show String.utf8Len ['a', '/'] = 2 from rfl]
    omega

/-- A project whose document has the ending of a source file. -/
def outwardProject : Project where
  metadataRoot := "meta"
  outputRoot := "out"
  configurations := [{ plainConfiguration with metadataFile := "a.gen.cs" }]

/-- The files of a project whose document has a struct with a name that leads to the document. -/
def outwardTree : Tree where
  directories := [["meta"]]
  files := (structsState (fieldStruct "../../meta/a" "x")).tree.files.map fun file => (["meta", "a.gen.cs"], file.2)

/-- The configuration of the project. -/
def outwardConfiguration : Configuration := { plainConfiguration with metadataFile := "a.gen.cs" }

/-- A new run with these files, once the output directory is made. -/
def outwardState : RunState where
  tree := outwardTree.addDirectories ["out"]
  symbols := some (ofSettings {})
  log := ["=== Generating C# bindings:"]

set_option maxRecDepth 2000 in
theorem holds_outwardState : HoldsDocument outwardState.tree (metadataPath outwardProject outwardConfiguration)
    { structs := [fieldItem "../../meta/a" "x"] } := by
  refine ⟨_, structsValue [fieldValue "../../meta/a" "x"], rfl, ?_, rfl⟩
  apply Json.Value.read_of_toList
  · unfold fieldStruct
    repeat' first | with_reducible exact String.toList_ofList | apply Text.toList_append_eq
  · rfl

/-- The first run completes and puts a source file in place of the document. -/
theorem outward_overwritten : ∃ paths after,
    (ExceptT.run (Run.generateAll outwardProject)).run { tree := outwardTree } = (.ok paths, after) ∧
      completes outwardProject after = false := by
  have hrenewed : (ExceptT.run (Change.renewDirectory outwardProject.outputRoot)).run outwardTree =
      (.ok (), outwardState.tree) := rfl
  obtain ⟨paths, after, hrun, -⟩ := run_exists_ok (Run.generate outwardProject outwardConfiguration) outwardState
    (fun _ _ => ()) (show _ = some () by
      rw [run_generate, readOutcome_eq_ok.mpr holds_outwardState]
      decide +kernel)
  have hall : (ExceptT.run (Run.generateAll outwardProject)).run { tree := outwardTree } =
      (.ok [paths].flatten, after) := by
    rw [run_generateAll, hrenewed]
    show (ExceptT.run ([outwardConfiguration].mapM (Run.generate outwardProject) >>= _)).run outwardState = _
    rw [List.mapM_cons, List.mapM_nil, bind_assoc, run_bind_ok hrun]
    rfl
  obtain ⟨document, b, s, hgenerated⟩ := generated hrun
  obtain rfl := hgenerated.reads.unique holds_outwardState
  obtain ⟨b', s', hbuild, hplaces⟩ := exists_ok
    (bindings outwardConfiguration.nativeClass { structs := [fieldItem "../../meta/a" "x"] })
    (startSymbols outwardProject outwardState)
    (fun b s => (sources outwardConfiguration b s).any
      (sourcePlace (outputDirectory outwardProject outwardConfiguration) · = ["meta", "a.gen.cs"]))
    (b := true) (by decide +kernel)
  cases hgenerated.builds.symm.trans hbuild
  obtain ⟨file, hfile, hplace⟩ := List.any_eq_true.mp hplaces
  obtain ⟨last, -, text, htext, hcontents⟩ := hgenerated.writes.lastFound file hfile
  have hdocument : resolvePath (metadataPath outwardProject outwardConfiguration) = ["meta", "a.gen.cs"] := by
    decide +kernel
  have hread : after.tree.read? (resolvePath (metadataPath outwardProject outwardConfiguration)) =
      some (.text text) := by
    rw [hdocument, ← of_decide_eq_true hplace]
    exact read?_of_contents hcontents
  exact ⟨_, after, hall, completes_of_source rfl (hdocument ▸ by decide +kernel) htext hread⟩

/--
What was there or ran before matters if a struct has a name that leads out of the output directory, here to the
document; if the path of the output directory ends in a dot, as it can be made once but not removed then; if a file is
there; or if the path is too long, so that nothing is removed.
-/
theorem regeneration_differs :
    (Renewable outwardProject.outputRoot ∧
      (∀ config ∈ outwardProject.configurations, Inward config.outputSubdirectory ∧
        Inward (genName config.nativeClass) ∧ Inward (genName config.mainClass) ∧
        ¬ resolvePath outwardProject.outputRoot <+: resolvePath (metadataPath outwardProject config)) ∧
      ¬ Regenerates outwardProject outwardTree outwardTree [] [.all]) ∧
    ¬ Regenerates (emptyProject "out/.") {} {} [] [.all] ∧
    ¬ Regenerates (emptyProject "out") {} (Tree.put {} ["out"] (.text "")) [] [] ∧
    ¬ Regenerates (emptyProject (deepPath 2049)) {}
      (Tree.put {} (resolvePath (deepPath 2049) ++ ["b"]) (.text "")) [] [] := by
  refine ⟨⟨⟨by decide, by decide, [], "out", by decide, by decide⟩, fun config hmem => ?_, ?_⟩, ?_, ?_, ?_⟩
  · rw [List.mem_singleton.mp hmem]
    exact ⟨⟨by decide, by decide⟩, (isPlain_genName (by decide)).inward, (isPlain_genName (by decide)).inward,
      by decide +kernel⟩
  · obtain ⟨paths, after, hrun, hagain⟩ := outward_overwritten
    refine not_regenerates true ?_ ?_
    · rw [completes, show afterCalls outwardProject outwardTree [] = { tree := outwardTree } from rfl, hrun]
      rfl
    · rw [afterCalls_all, hrun]
      exact hagain
  · exact not_regenerates true (by decide +kernel) (by decide +kernel)
  · exact not_regenerates true (by decide +kernel) (by decide +kernel)
  · refine not_regenerates_of_long ?_
    rw [size_deepPath]
    decide

end Generate

end InteropGen

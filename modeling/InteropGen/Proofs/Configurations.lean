import InteropGen.Proofs.Trees
import InteropGen.Run

/-!
# Configurations

Generating a configuration reads a document, builds its bindings and writes their files one after the
other. The `run_*_eq` lemmas say what each of these parts does to the state of a run, whether it fails or not,
and `run_generate` puts them together; what is known of configurations that complete or fail follows from
these equations. `Generated` says what a configuration that completes has done: each of its fields is about
one of the parts, and a theorem about completed configurations starts from the field that it needs
(`generated`).
-/

namespace InteropGen

/-! ### Reading by characters -/

theorem Text.toList_append_eq {front back : String} {chars chars' : List Char} (h : front.toList = chars)
    (h' : back.toList = chars') : (front ++ back).toList = chars ++ chars' := by
  rw [String.toList_append, h, h']

theorem Json.Value.read_of_toList {text : String} {chars : List Char} {value : Value} (htext : text.toList = chars)
    (hread : readValue (2 * chars.length + 2) maxNesting (skipSpace chars) = .ok (value, [])) :
    Value.read text = .ok value := by
  unfold Value.read
  rw [htext]
  dsimp only
  rw [hread]
  rfl

/-- A comment is no value. -/
theorem Json.Value.read_of_slash {text : String} {rest : List Char} (h : text.toList = '/' :: rest) :
    Value.read text = .error .malformed := by
  have hword : readWord? ('/' :: rest) = none := by simp [readWord?, afterWord?]
  have hmagnitude : readMagnitude false ('/' :: rest) = none := by simp [readMagnitude, Text.isPlainDigit]
  have hnumber : readNumber ('/' :: rest) = .error .malformed := by
    show (wellFormed (readMagnitude false ('/' :: rest)) >>= _) = _
    rw [hmagnitude]
    rfl
  have hscalar : readScalar ('/' :: rest) = .error .malformed := by
    rw [readScalar, hword]
    exact hnumber
  unfold Value.read
  rw [h]
  show (readValue _ maxNesting ('/' :: rest) >>= _) = _
  rw [readValue]
  · rw [hscalar]
    rfl
  all_goals simp

namespace Generate

open Metadata Decl Build Symbols Files

variable {document : Metadata} {s s' : Symbols} {b : Bindings} {α : Type}
  {state after : RunState} {project : Project} {config : Configuration} {paths : List String} {tree : Tree}

/-! ### Reading -/

/-- A change of the files leaves the rest of the run alone, and fails only where it is refused. -/
theorem run_change_eq (steps : Change α) (state : RunState) :
    (ExceptT.run (Run.change steps)).run state =
      (((ExceptT.run steps).run state.tree).1.mapError .refused,
        { state with tree := ((ExceptT.run steps).run state.tree).2 }) := by
  have hget : (ExceptT.run (get : Run RunState)).run state = (.ok state, state) := rfl
  unfold Run.change
  rw [run_bind_ok hget]
  rcases (ExceptT.run steps).run state.tree with ⟨error | a, tree⟩ <;> rfl

theorem ok_change {steps : Change α} {a : α}
    (hrun : (ExceptT.run (Run.change steps)).run state = (.ok a, after)) :
    ∃ tree, (ExceptT.run steps).run state.tree = (.ok a, tree) ∧
      after = { state with tree := tree } := by
  rw [run_change_eq] at hrun
  rcases hsteps : (ExceptT.run steps).run state.tree with ⟨error | value, tree⟩ <;> rw [hsteps] at hrun
  · cases hrun
  · cases hrun
    exact ⟨tree, rfl, rfl⟩

/-- What reading the metadata at a path comes to. -/
def readOutcome (tree : Tree) (path : String) : Except Failure Metadata :=
  if !tree.has path then .error (.missingMetadata path)
  else match tree.contents path with
    | .error error => .error (.refused error)
    | .ok (.bytes _) => .error (.noText path)
    | .ok (.text text) =>
      match Json.Value.read text with
      | .error .malformed => .error (.noJson path)
      | .error .longInteger => .error (.longInteger path)
      | .error .tooDeep => .error (.deepJson path)
      | .ok value => (Metadata.ofValue value).mapError .rejected

/-- Reading metadata changes nothing. -/
theorem run_readMetadata_eq (path : String) (state : RunState) :
    (ExceptT.run (Run.readMetadata path)).run state = (readOutcome state.tree path, state) := by
  have hget : (ExceptT.run (get : Run RunState)).run state = (.ok state, state) := rfl
  have hlook : (ExceptT.run (Run.change (Change.look (·.contents path)))).run state =
      ((state.tree.contents path).mapError .refused, state) := by
    rw [run_change_eq, run_look_eq]
  unfold Run.readMetadata readOutcome
  rw [run_bind_ok hget]
  split
  · rfl
  · rw [run_bind, hlook]
    rcases state.tree.contents path with error | text | bytes
    · rfl
    · dsimp only [Except.mapError]
      rcases Json.Value.read text with unread | value
      · cases unread <;> rfl
      · dsimp only
        cases Metadata.ofValue value <;> rfl
    · rfl

/-- A text that is read is decoded. -/
theorem readOutcome_of_read {path text : String} {value : Json.Value} (hfile : tree.contents path = .ok (.text text))
    (hread : Json.Value.read text = .ok value) :
    readOutcome tree path = (Metadata.ofValue value).mapError .rejected := by
  rw [readOutcome, if_neg (by simp [has_of_contents hfile]), hfile]
  dsimp only
  rw [hread]

/-- The document that a path leads to. -/
def HoldsDocument (tree : Tree) (path : String) (document : Metadata) : Prop :=
  ∃ text value, tree.contents path = .ok (.text text) ∧ Json.Value.read text = .ok value ∧
    Metadata.ofValue value = .ok document

theorem readOutcome_eq_ok {path : String} :
    readOutcome tree path = .ok document ↔ HoldsDocument tree path document := by
  constructor
  · intro h
    unfold readOutcome at h
    split at h
    · cases h
    · split at h
      · cases h
      · cases h
      · next text hcontents =>
        split at h
        · cases h
        · cases h
        · cases h
        · next value hread =>
          rcases hvalue : Metadata.ofValue value with rejection | metadata <;> rw [hvalue] at h <;> cases h
          exact ⟨text, value, hcontents, hread, hvalue⟩
  · rintro ⟨text, value, hfile, hread, hvalue⟩
    rw [readOutcome_of_read hfile hread, hvalue]
    rfl

theorem HoldsDocument.unique {path : String} {other : Metadata} (h : HoldsDocument tree path document)
    (h' : HoldsDocument tree path other) : document = other :=
  Except.ok.inj ((readOutcome_eq_ok.mpr h).symm.trans (readOutcome_eq_ok.mpr h'))

/-- A metadata file that holds what the schema accepts is read, and the run is where it was. -/
theorem run_readMetadata {path text : String} {value : Json.Value}
    (hfile : state.tree.contents path = .ok (.text text)) (hread : Json.Value.read text = .ok value)
    (hvalue : Metadata.ofValue value = .ok document) :
    (ExceptT.run (Run.readMetadata path)).run state = (.ok document, state) := by
  rw [run_readMetadata_eq, readOutcome_eq_ok.mpr ⟨text, value, hfile, hread, hvalue⟩]

/-! ### Building -/

/-- Building takes the symbols along, and logs their new warnings, whether it fails or not. -/
theorem run_build_eq (steps : Build Symbols α) (s : Symbols) (state : RunState) :
    (ExceptT.run (Run.build steps s)).run state =
      ((steps.runOn s).1.mapError .fault, { state with
        symbols := some (steps.runOn s).2
        log := state.log ++
          ((steps.runOn s).2.warnings.drop s.warnings.length).map ("  >> warning: " ++ ·) }) := by
  unfold Run.build
  rcases steps.runOn s with ⟨fault | a, s'⟩ <;> rfl

theorem ok_build {steps : Build Symbols α} {a : α}
    (hrun : (ExceptT.run (Run.build steps s)).run state = (.ok a, after)) :
    ∃ s', steps.runOn s = (.ok a, s') ∧ after = { state with
      symbols := some s'
      log := state.log ++
        (s'.warnings.drop s.warnings.length).map ("  >> warning: " ++ ·) } := by
  rw [run_build_eq] at hrun
  rcases hsteps : steps.runOn s with ⟨fault | value, s'⟩ <;> rw [hsteps] at hrun
  · cases hrun
  · cases hrun
    exact ⟨s', rfl, rfl⟩

/-! ### Writing -/

/-- The directory that a source file is placed in. -/
def sourceDirectory (directory : String) (file : Render.SourceFile) : String :=
  if file.subdirectory.isEmpty then directory else joinPath directory file.subdirectory

/-- The path that a source file is written to. -/
def sourcePath (directory : String) (file : Render.SourceFile) : String :=
  joinPath (sourceDirectory directory file) file.fileName

/-- The steps that put a source file with a text into its directory. -/
def placeSource (directory : String) (file : Render.SourceFile) (text : String) : Change Unit := do
  Change.makeDirectories (sourceDirectory directory file) true
  Change.writeFile (sourcePath directory file) (.text "")
  Change.writeFile (sourcePath directory file) (.text text)

/-- Source files are rendered and placed one after the other. -/
inductive Writes (s : Symbols) (directory : String) : Tree → List Render.SourceFile → Tree → Prop
  | nil (tree : Tree) : Writes s directory tree [] tree
  | cons {tree middle tree' file files text} (htext : Render.fileText s file = .ok text)
      (hplace : (ExceptT.run (placeSource directory file text)).run tree = (.ok (), middle))
      (rest : Writes s directory middle files tree') :
      Writes s directory tree (file :: files) tree'

theorem ok_writeSource {directory path : String} {file : Render.SourceFile}
    (hrun : (ExceptT.run (Run.writeSource s directory file)).run state = (.ok path, after)) :
    path = sourcePath directory file ∧ ∃ text tree, Render.fileText s file = .ok text ∧
      (ExceptT.run (placeSource directory file text)).run state.tree = (.ok (), tree) ∧
      after = { state with tree := tree } := by
  unfold Run.writeSource at hrun
  dsimp only at hrun
  obtain ⟨⟨⟩, middle, hchange, hrun⟩ := run_bind_eq_ok.mp hrun
  obtain ⟨tree, hopened, rfl⟩ := ok_change hchange
  obtain ⟨⟨⟩, made, hmade, hcleared⟩ := run_bind_eq_ok.mp hopened
  cases htext : Render.fileText s file with
  | error fault =>
    rw [htext] at hrun
    cases hrun
  | ok text =>
    rw [htext] at hrun
    obtain ⟨⟨⟩, written, hchange, hrun⟩ := run_bind_eq_ok.mp hrun
    obtain ⟨last, hwritten, rfl⟩ := ok_change hchange
    cases hrun
    refine ⟨rfl, text, last, rfl, ?_, rfl⟩
    exact (run_bind_ok hmade).trans ((run_bind_ok hcleared).trans hwritten)

theorem ok_writeSources {directory : String} {files : List Render.SourceFile}
    (hrun : (ExceptT.run (files.mapM (Run.writeSource s directory))).run state = (.ok paths, after)) :
    paths = files.map (sourcePath directory) ∧ ∃ tree, Writes s directory state.tree files tree ∧
      after = { state with tree := tree } := by
  induction files generalizing state paths with
  | nil =>
    rw [List.mapM_nil] at hrun
    cases hrun
    exact ⟨rfl, _, .nil _, rfl⟩
  | cons file files ih =>
    rw [List.mapM_cons] at hrun
    obtain ⟨path, middle, hfirst, hrun⟩ := run_bind_eq_ok.mp hrun
    obtain ⟨others, last, hothers, hrun⟩ := run_bind_eq_ok.mp hrun
    cases hrun
    obtain ⟨rfl, text, tree, htext, hplace, rfl⟩ := ok_writeSource hfirst
    obtain ⟨rfl, tree', hwrites, rfl⟩ := ih hothers
    exact ⟨rfl, tree', .cons htext hplace hwrites, rfl⟩

/-! ### Configurations -/

/-- The symbols that a configuration finds, or makes if there are none. -/
def foundSymbols (project : Project) (state : RunState) : Symbols :=
  state.symbols.getD (.ofSettings project.settings)

/-- The path of the document of a configuration. -/
def metadataPath (project : Project) (config : Configuration) : String :=
  joinPath project.metadataRoot config.metadataFile

/-- The directory that the files of a configuration go to. -/
def outputDirectory (project : Project) (config : Configuration) : String :=
  joinPath project.outputRoot config.outputSubdirectory

/-- The symbols that a configuration starts from. -/
def startSymbols (project : Project) (state : RunState) : Symbols :=
  (state.symbols.getD (.ofSettings project.settings)).beginConfiguration

/-- The source files of a configuration, in the order in which they are written. -/
def sources (config : Configuration) (b : Bindings) (s : Symbols) : List Render.SourceFile :=
  (placeFiles config b s.delegates.values).map tidyFile

/-- The lines that are logged of a configuration before its summary: its document and the new warnings. -/
def progress (project : Project) (config : Configuration) (before s : Symbols) : List String :=
  ("  " ++ joinPath project.metadataRoot config.metadataFile ++ " => " ++ config.namespaceName) ::
    (s.warnings.drop before.warnings.length).map ("  >> warning: " ++ ·)

/-- Generating is reading the document, building the bindings, and writing their files one after the other. -/
theorem run_generate (project : Project) (config : Configuration) (state : RunState) :
    (ExceptT.run (Run.generate project config)).run state =
      match readOutcome state.tree (metadataPath project config) with
      | .error failure => (.error failure, { state with
          symbols := some (foundSymbols project state)
          log := state.log ++ ["  " ++ metadataPath project config ++ " => " ++ config.namespaceName] })
      | .ok document =>
        match (bindings config.nativeClass document).runOn (startSymbols project state) with
        | (.error fault, s) => (.error (.fault fault), { state with
            symbols := some s
            log := state.log ++ progress project config (startSymbols project state) s })
        | (.ok b, s) =>
          match (ExceptT.run ((sources config b s).mapM
              (Run.writeSource s (outputDirectory project config)))).run { state with
                symbols := some s
                log := state.log ++ progress project config (startSymbols project state) s } with
          | (.error failure, after) => (.error failure, after)
          | (.ok paths, after) =>
            (.ok paths, { after with log := after.log ++ (Run.skipSummary? s.skipped).toList }) := by
  have hget : ∀ state, (ExceptT.run (get : Run RunState)).run state = (.ok state, state) := fun _ => rfl
  have hmodify : ∀ f state, (ExceptT.run (modify f : Run PUnit)).run state = (.ok ⟨⟩, f state) :=
    fun _ _ => rfl
  have hsay : ∀ text (state : RunState), (ExceptT.run (Run.say text : Run PUnit)).run state =
      (.ok ⟨⟩, { state with log := state.log ++ [text] }) := fun _ _ => rfl
  unfold Run.generate
  rw [run_bind_ok (hget _), run_bind_ok (hmodify _ _), run_bind_ok (hsay _ _), run_bind, run_readMetadata_eq]
  dsimp only
  rw [show joinPath project.metadataRoot config.metadataFile = metadataPath project config from rfl]
  cases readOutcome state.tree (metadataPath project config) with
  | error failure => rfl
  | ok document =>
    dsimp only
    rw [run_bind, run_build_eq,
      show (state.symbols.getD (ofSettings project.settings)).beginConfiguration =
        startSymbols project state from rfl]
    rcases hbuild : (bindings config.nativeClass document).runOn (startSymbols project state) with ⟨fault | b, s⟩
    · simp [progress, metadataPath, Except.mapError]
    · dsimp only [Except.mapError]
      rw [run_bind_ok (hget _), run_bind]
      dsimp only [Option.getD_some]
      rw [show (placeFiles config b s.delegates.values).map tidyFile = sources config b s from rfl,
        show joinPath project.outputRoot config.outputSubdirectory = outputDirectory project config from rfl,
        List.append_assoc,
        show ["  " ++ metadataPath project config ++ " => " ++ config.namespaceName] ++ _ =
          progress project config (startSymbols project state) s from rfl]
      rcases (ExceptT.run ((sources config b s).mapM
        (Run.writeSource s (outputDirectory project config)))).run _ with ⟨failure | paths, after⟩
      · rfl
      · dsimp only
        cases Run.skipSummary? s.skipped with
        | none => exact congrArg (Prod.mk _) (by simp)
        | some summary => rfl

/-- What a configuration that completes has read, built, written and logged. -/
structure Generated (project : Project) (config : Configuration) (state : RunState)
    (paths : List String) (after : RunState) (document : Metadata) (b : Bindings) (s : Symbols) :
    Prop where
  reads : HoldsDocument state.tree (joinPath project.metadataRoot config.metadataFile) document
  builds : (bindings config.nativeClass document).runOn (startSymbols project state) = (.ok b, s)
  paths : paths =
    (sources config b s).map (sourcePath (joinPath project.outputRoot config.outputSubdirectory))
  writes : Writes s (joinPath project.outputRoot config.outputSubdirectory) state.tree
    (sources config b s) after.tree
  symbols : after.symbols = some s
  log : after.log = state.log ++ progress project config (startSymbols project state) s ++
    (Run.skipSummary? s.skipped).toList

theorem generated
    (hrun : (ExceptT.run (Run.generate project config)).run state = (.ok paths, after)) :
    ∃ document b s, Generated project config state paths after document b s := by
  rw [run_generate] at hrun
  cases hread : readOutcome state.tree (metadataPath project config) with
  | error failure =>
    rw [hread] at hrun
    cases hrun
  | ok document =>
    rw [hread] at hrun
    dsimp only at hrun
    rcases hbuild : (bindings config.nativeClass document).runOn (startSymbols project state) with
      ⟨fault | b, s⟩ <;> rw [hbuild] at hrun <;> dsimp only at hrun
    · cases hrun
    · rcases hwrite : (ExceptT.run ((sources config b s).mapM
        (Run.writeSource s (outputDirectory project config)))).run _ with ⟨failure | written, last⟩ <;>
        rw [hwrite] at hrun <;> cases hrun
      obtain ⟨hpaths, tree, hwrites, rfl⟩ := ok_writeSources hwrite
      exact ⟨document, b, s, readOutcome_eq_ok.mp hread, hbuild, hpaths, hwrites, rfl, rfl⟩

/-! ### A small run -/

/-- A project with its metadata in the current directory. -/
def plainProject : Project := { metadataRoot := "", outputRoot := "out" }

/-- A configuration for one metadata file. -/
def plainConfiguration : Configuration where
  metadataFile := "a.json"
  namespaceName := "N"
  mainClass := "Main"
  nativeClass := "Native"

/-- A new run with nothing but the metadata file, which has these structs and no other items. -/
def structsState (structs : String) : RunState where
  tree := { files := [(["a.json"], .text ("\x7b\"defines\":[],\"enums\":[],\"typedefs\":[],\"structs\":[" ++
    structs ++ "],\"functions\":[]\x7d"))] }

/-- The value that is read from the metadata file. -/
def structsValue (structs : List Json.Value) : Json.Value :=
  .object [("defines", .array []), ("enums", .array []), ("typedefs", .array []), ("structs", .array structs),
    ("functions", .array [])]

end Generate

end InteropGen

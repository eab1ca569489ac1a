import InteropGen.Files.Change
import InteropGen.Generate.Bindings
import InteropGen.Json.Reader
import InteropGen.Metadata.Decode

/-!
# Runs

A run reads metadata from a file tree and writes sources to it, configuration after configuration
over one set of symbols. It logs its progress line by line. A run that fails keeps what it wrote and
logged before, and a file whose text has no end is left empty.
-/

namespace InteropGen

open Files

/-- What a run works for. -/
structure Project where
  settings : Settings := {}
  metadataRoot : String
  outputRoot : String
  configurations : List Configuration := []

/-- Why a run fails. -/
inductive Failure
  | missingMetadata (path : String)
  | noText (path : String)
  | noJson (path : String)
  | longInteger (path : String)
  | deepJson (path : String)
  | rejected (rejection : Metadata.Rejection)
  | fault (fault : Fault)
  | refused (error : PathError)
  | unknownPlatform (fileName : String)

/-- What a failure says, where it has words of its own. -/
def Failure.message? : Failure → Option String
  | missingMetadata path => some ("Could not find metadata file: " ++ path)
  | rejected (.shape violation) => some violation.message
  | fault f => f.message?
  | unknownPlatform fileName => some ("Unknown platform for file: " ++ fileName)
  | _ => none

/-- The state of a run: the files, the symbols once there are some, and the lines logged. -/
structure RunState where
  tree : Tree
  symbols : Option Symbols := none
  log : List String := []

instance : Inhabited RunState := ⟨{ tree := default }⟩

/-- Steps of a run; a failed step keeps the state it reached. -/
abbrev Run (α : Type) := ExceptT Failure (StateM RunState) α

namespace Run

/-- Logs a line. -/
def say (text : String) : StateM RunState Unit :=
  modify fun state => { state with log := state.log ++ [text] }

/-- Changes the files; what was done before a refusal stays. -/
def change {α : Type} (steps : Change α) : Run α := do
  let state ← get
  let (outcome, tree) := steps.run.run state.tree
  set { state with tree := tree }
  match outcome with
  | .ok value => return value
  | .error error => throw (.refused error)

/-- Runs steps on the symbols; their warnings are logged even if they fail. -/
def build {α : Type} (steps : Build Symbols α) (s : Symbols) : Run α := do
  let (outcome, after) := steps.runOn s
  modify fun state => { state with
    symbols := some after
    log := state.log ++
      (after.warnings.drop s.warnings.length).map ("  >> warning: " ++ ·) }
  match outcome with
  | .ok value => return value
  | .error fault => throw (.fault fault)

/-! ## Reading and writing -/

/-- Reads a metadata file. -/
def readMetadata (path : String) : Run Metadata := do
  if !(← get).tree.has path then throw (.missingMetadata path)
  match ← change (Change.look (·.contents path)) with
  | .bytes _ => throw (.noText path)
  | .text text =>
    match Json.Value.read text with
    | .error .malformed => throw (.noJson path)
    | .error .longInteger => throw (.longInteger path)
    | .error .tooDeep => throw (.deepJson path)
    | .ok value =>
      match Metadata.ofValue value with
      | .ok metadata => return metadata
      | .error rejection => throw (.rejected rejection)

/-- Writes a source file below a directory: the path it has then. -/
def writeSource (s : Symbols) (directory : String) (file : Render.SourceFile) : Run String := do
  let place :=
    if file.subdirectory.isEmpty then directory else joinPath directory file.subdirectory
  let path := joinPath place file.fileName
  change do
    Change.makeDirectories place true
    Change.writeFile path (.text "")
  match Render.fileText s file with
  | .ok text => do
    change (Change.writeFile path (.text text))
    return path
  | .error fault => throw (.fault fault)

/-- What the record of left out items adds up to: their number, and the number for each reason. -/
def skipSummary? (skipped : List Skip) : Option String :=
  if skipped.isEmpty then none
  else
    let reasons := skipped.map (·.reason)
    let counts := reasons.eraseDups.map fun reason =>
      reason.words ++ ": " ++ toString (reasons.count reason)
    some ("  skipped " ++ toString skipped.length ++ " items (" ++
      String.intercalate ", " counts ++ ")")

/-! ## Configurations -/

/-- Generates and writes the files of a configuration: their paths. -/
def generate (project : Project) (config : Configuration) : Run (List String) := do
  let start := (← get).symbols.getD (.ofSettings project.settings)
  modify fun state => { state with symbols := some start }
  let metadataPath := joinPath project.metadataRoot config.metadataFile
  say ("  " ++ metadataPath ++ " => " ++ config.namespaceName)
  let metadata ← readMetadata metadataPath
  let bindings ← build (Generate.bindings config.nativeClass metadata) start.beginConfiguration
  let s := (← get).symbols.getD start
  let files := (Generate.placeFiles config bindings s.delegates.values).map Generate.tidyFile
  let directory := joinPath project.outputRoot config.outputSubdirectory
  let written ← files.mapM (writeSource s directory)
  match skipSummary? s.skipped with
  | some summary => say summary
  | none => pure ()
  return written

/-- Makes the output directory anew. -/
def prepare (project : Project) : Run Unit := do
  say "=== Generating C# bindings:"
  change (Change.renewDirectory project.outputRoot)

/-- Generates all configurations over new symbols: the paths of the files. -/
def generateAll (project : Project) : Run (List String) := do
  prepare project
  modify fun state => { state with symbols := some (.ofSettings project.settings) }
  let written ← project.configurations.mapM (generate project)
  return written.flatten

end Run

end InteropGen

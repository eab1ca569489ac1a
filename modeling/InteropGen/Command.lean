import InteropGen.Binaries
import InteropGen.ImGui

/-!
# The command

The command line names the directories of the metadata and of the output, and maybe one for copies
of the native binaries. An option may be shortened as long as it is the only one that begins so, and
its value may follow it or stand behind an equals sign; the last value given counts. A word that
begins with a dash is a value only if it cannot be meant as an option.
-/

namespace InteropGen.Command

/-- The options and their values. -/
structure Arguments where
  metadata : String
  output : String
  natives : Option String := none
  deriving Repr

/-- The options. -/
def options : List String := ["--metadata", "--output", "--natives", "--help"]

/-- What one word of the command line is. -/
inductive Word
  | option (name : String) (value : Option String)
  | plain (text : String)
  | unknown

/-- A word as an option and the value behind its equals sign. -/
def splitWord (word : String) : String × Option String :=
  let chars := word.toList
  match chars.dropWhile (· != '=') with
  | _ :: value => (String.ofList (chars.takeWhile (· != '=')), some (String.ofList value))
  | [] => (word, none)

/-- The options that begin like a word with two dashes. -/
def optionsLike (word : String) : List String :=
  if Text.startsWith word "--" then options.filter (Text.startsWith · word) else []

/-- Is the word a dash and a number, whole or with a point before its last digits? -/
def isNegative (word : String) : Bool :=
  match word.toList with
  | '-' :: chars =>
    let chars := if chars.getLast? == some '\n' then chars.dropLast else chars
    match chars.dropWhile Text.isDecimal with
    | '.' :: digits => !digits.isEmpty && digits.all Text.isDecimal
    | rest => rest.isEmpty && !chars.isEmpty
  | _ => false

/--
What a word is. A word that begins with a dash and names no option is a value if it is a dash alone,
a negative number, or holds a space.
-/
def Word.of (word : String) : Word :=
  let (name, value) := splitWord word
  if !Text.startsWith word "-" || word = "-" then .plain word
  else if options.contains word then .option word none
  else if options.contains name then .option name value
  else match optionsLike name with
    | [single] => .option single value
    | _ :: _ => .unknown
    | [] =>
      if Text.startsWith word "-h" then .unknown
      else if isNegative word || Text.includes word " " then .plain word
      else .unknown

/-- The values that the words give to options. -/
def values? : List String → Option (Table String)
  | [] => some {}
  | word :: rest =>
    match Word.of word, rest with
    | .option name (some value), rest => do
      let later ← values? rest
      return (Table.empty.insert name value).insertAll later.entries
    | .option name none, next :: rest =>
      match Word.of next with
      | .plain value => do
        let later ← values? rest
        return (Table.empty.insert name value).insertAll later.entries
      | _ => none
    | _, _ => none

/-- The arguments that the words of a command line are. -/
def parse? (words : List String) : Option Arguments := do
  let values ← values? words
  if values.contains "--help" then none
  else return ⟨← values.find? "--metadata", ← values.find? "--output", values.find? "--natives"⟩

/-- Makes the bindings of Dear ImGui, and copies its binaries if a directory is named for them. -/
def run (arguments : Arguments) : Run Unit := do
  let _ ← Run.generateAll (ImGui.project arguments.metadata arguments.output)
  match arguments.natives with
  | some natives =>
    if natives.isEmpty then pure ()
    else do
      Run.say "=== Copying native binaries:"
      let _ ← Binaries.copy arguments.metadata natives ImGui.settings.library
  | none => pure ()

end InteropGen.Command

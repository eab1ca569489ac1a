import InteropGen.Bound.Token
import InteropGen.Guards
import InteropGen.Types.Spelling

/-!
# Constants

The class of constants: first the seeds of the settings, then the defines of a document, grouped by
the number of their guards. A name is emitted once. Defines under two or more guards do not see
each other: their group becomes known only after its last one.
-/

namespace InteropGen.Generate

open Metadata

/-- Is the text a decimal integer, maybe with a minus? -/
def isIntegerText (text : String) : Bool :=
  let digits := match text.toList with
    | '-' :: rest => rest
    | chars => chars
  !digits.isEmpty && digits.all Text.isDecimal

/-- Is the text a hexadecimal integer? -/
def isHexText (text : String) : Bool :=
  match text.toList with
  | '0' :: mark :: digits =>
    (mark = 'x' || mark = 'X') && !digits.isEmpty && digits.all Bound.isHex
  | _ => false

/-- Is the text written between double quotes? -/
def isQuotedText (text : String) : Bool :=
  2 ≤ text.length && Text.startsWith text "\"" && Text.endsWith text "\""

/--
The C# type of a define and the text of its value. The name of a known define has that define's
type, and a define without a readable value is a true truth value.
-/
def constantType (s : Symbols) (define : Define) : String × String :=
  let content := Text.strip (define.content.getD "")
  if content.isEmpty then ("bool", "true")
  else match s.defines.find? content with
    | some (type, _) => ((nonEmpty? type).getD "string", content)
    | none =>
      if isHexText content || isIntegerText content then ("long", content)
      else if isQuotedText content then ("string", content)
      else ("bool", "true")

/-- The constant of a seed: its content as a text. -/
def seedConstant (s : Symbols) (name : String) : Decl.Constant :=
  let content := ((s.defines.find? name).map (·.2)).getD ""
  { head := { name := name, modifiers := ["public", "const"] }
    type := .plain "string"
    value := "\"" ++ Text.replace content "\"" "\\\"" ++ "\"" }

/-- Constants so far, with what is known, and the defines that become known after their group. -/
structure ConstantRun where
  symbols : Symbols
  constants : List Decl.Constant
  discovered : Table (Option String × String) := {}

namespace ConstantRun

/-- Is there a constant of the name? -/
def hasConstant (run : ConstantRun) (name : String) : Bool :=
  run.constants.any (·.head.name = name)

/-- Adds a define; a deep one becomes known later. -/
def addDefine (deep : Bool) (run : ConstantRun) (define : Define) : ConstantRun :=
  if run.symbols.admits define.guards then
    let (type, value) := constantType run.symbols define
    let entry := (some type, define.content.getD "")
    let constant : Decl.Constant :=
      { head := Decl.Head.withComments { name := define.name, modifiers := ["public", "const"] }
          define.comments
        type := .plain type
        value := value }
    { symbols :=
        if deep then run.symbols
        else { run.symbols with defines := run.symbols.defines.insert define.name entry }
      constants :=
        if run.hasConstant define.name then run.constants else run.constants ++ [constant]
      discovered :=
        if deep then run.discovered.insert define.name entry else run.discovered }
  else { run with symbols := run.symbols.skip .define define.name .guards }

/-- Makes the discovered defines known. -/
def publish (run : ConstantRun) : ConstantRun :=
  { run with
    symbols := { run.symbols with
      defines := run.symbols.defines.insertAll run.discovered.entries }
    discovered := {} }

/-- Adds the defines with so many guards. -/
def addGroup (defines : List Define) (run : ConstantRun) (depth : Nat) : ConstantRun :=
  ((defines.filter fun define => define.guards.length = depth).foldl
    (addDefine (2 ≤ depth)) run).publish

end ConstantRun

/-- The numbers of guards that defines have, in order of first appearance. -/
def guardDepths (defines : List Define) : List Nat :=
  (defines.map fun define => define.guards.length).eraseDups

/-- The constants of a document's defines. -/
def constants (defines : List Define) : StateM Symbols (List Decl.Constant) := fun s =>
  let start : ConstantRun :=
    { symbols := s, constants := s.settings.knownDefines.map (seedConstant s) }
  let run := (guardDepths defines).foldl (ConstantRun.addGroup defines) start
  (run.constants, run.symbols)

/-- The class of constants. -/
def constantsClass (constants : List Decl.Constant) : Decl :=
  .group .plainClass { name := "Constants", modifiers := ["public", "static"] }
    (constants.map .constant)

end InteropGen.Generate

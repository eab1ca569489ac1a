import InteropGen.Render.Accessors
import InteropGen.Render.Steps

/-!
# Writing declarations

The code of a tree of declarations. Comments stand above a declaration as documentation; between two
declarations stands an empty line unless both are compact. A part that only its owner writes is
a fault where it stands alone, and so is a wrapper without a plan.
-/

namespace InteropGen.Render

open Decl

/-- The documentation above a declaration. -/
def summaries (head : Head) : List Code :=
  (if head.preceding.isEmpty then []
    else .line "/// <summary>" ::
      head.preceding.map (fun text => line ["/// <para>", Text.escapeXml text, "</para>"]) ++
      [.line "/// </summary>"]) ++
    match head.attached with
    | some text =>
      [.line "/// <summary>", line ["/// ", Text.escapeXml text], .line "/// </summary>"]
    | none => []

/-- The documentation and the attributes above a declaration. -/
def preamble (head : Head) : List Code := summaries head ++ head.attributes.map .line

/-- Result, name and parameters of a method or delegate. -/
def signature (s : Symbols) (m : Method) : Except Fault String := do
  let parameters ← m.parameters.mapM fun p => do return (← s.spell p.type) ++ " " ++ p.name
  let result ← s.spell m.result
  return String.join
    [modifierText m.head, result, " ", m.head.name, "(", String.intercalate ", " parameters, ")"]

/-- Result, name and parameters of a declaration that has all three. -/
def signatureOf (s : Symbols) (d : Decl) : Except Fault String :=
  match d.method? with
  | some m => signature s m
  | none => .error .missingPart

/-- The code of a method or delegate. -/
def methodCode (s : Symbols) (m : Method) : Except Fault (List Code) := do
  return preamble m.head ++ [.line ((← signature s m) ++ ";")]

/-- The code of an enum. -/
def enumCode (e : Enum) : List Code :=
  preamble e.head ++
    [block [modifierText e.head, "enum ", e.head.name]
      (e.elements.flatMap fun element =>
        summaries element.head ++ [line [element.head.name, " = ", element.value, ","]])]

/-- The code of a field. -/
def fieldCode (s : Symbols) (f : Field) : Except Fault (List Code) :=
  match f with
  | .single head type => do
    return preamble head ++ [line [modifierText head, ← s.spell type, " ", head.name, ";"]]
  | .buffer head type size => do
    return preamble head ++
      [line [modifierText head, ← s.spell type, " ", head.name, "[", ← numeral size, "];"]]

/-- The code of a constant. -/
def constantCode (s : Symbols) (c : Constant) : Except Fault (List Code) := do
  return preamble c.head ++
    [line [modifierText c.head, ← s.spell c.type, " ", c.head.name, " = ", c.value, ";"]]

/-- What every view begins with: its pointer, its constructors and its conversions. -/
def viewOpening (handle target name : String) : List Code :=
  [line ["public ", target, "* NativePtr \x7b get; \x7d"],
    line ["public ", name, "(", target, "* nativePtr) => NativePtr = nativePtr;"],
    line ["public ", name, "(", handle, " nativePtr) => NativePtr = (", target, "*)nativePtr;"],
    line ["public static implicit operator ", name, "(", target, "* nativePtr) => new ", name,
      "(nativePtr);"],
    line ["public static implicit operator ", target, "* (", name,
      " wrappedPtr) => wrappedPtr.NativePtr;"],
    line ["public static implicit operator ", name, "(", handle, " nativePtr) => new ", name,
      "(nativePtr);"]]

/-- The code of a group around the code of its members. -/
def groupCode (s : Symbols) (form : GroupForm) (head : Head) (members : List Code) : List Code :=
  preamble head ++
    match form with
    | .plainClass => [block [modifierText head, "class ", head.name] members]
    | .layout _ => [block [modifierText head, "struct ", head.name] members]
    | .view target =>
      [block [modifierText head, "struct ", head.name]
        (viewOpening s.settings.handle target head.name ++
          if members.isEmpty then [] else .line "" :: members)]

mutual

/-- The code of a declaration. -/
def decl (s : Symbols) : Decl → Except Fault (List Code)
  | .group form head members => do return groupCode s form head (← decls s none members)
  | .enum e => .ok (enumCode e)
  | .field f => fieldCode s f
  | .constant c => constantCode s c
  | .method m => methodCode s m
  | .delegate d => methodCode s d
  | .accessor a => do return summaries a.head ++ [.line (← accessorLine s a)]
  | .wrapper w => do return preamble w.head ++ (← wrapper s w)
  | .unplanned w => do
    let _ ← s.spell w.result
    throw .missingPart
  | .element e => .error (.ownedPart "enum_element" e.head.name)
  | .parameter p => .error (.ownedPart "parameter" p.name)

/-- The code of declarations after one that was compact or not, or at the beginning. -/
def decls (s : Symbols) : Option Bool → List Decl → Except Fault (List Code)
  | _, [] => .ok []
  | previous, d :: rest => do
    let gap := match previous with
      | none => []
      | some compact => if compact && d.isCompact then [] else [Code.line ""]
    let first ← decl s d
    let others ← decls s (some d.isCompact) rest
    return gap ++ first ++ others

end

/-- The text of a declaration that stands alone. -/
def declText (s : Symbols) (d : Decl) : Except Fault String := do
  return Code.render (← decl s d)

/-! ## Files -/

/-- The first line of every file. -/
def generatedHeader : String := "// machine generated, do not edit"

/-- A source file: where it goes and what stands in it. -/
structure SourceFile where
  fileName : String
  namespaceName : String
  usings : List String := []
  decls : List Decl := []
  subdirectory : String := ""
  header : List String := []

/-- The text of a file. -/
def fileText (s : Symbols) (file : SourceFile) : Except Fault String := do
  let body ← decls s none file.decls
  return Code.render <|
    .line generatedHeader :: file.header.map .line ++
      file.usings.map (fun name => line ["using ", name, ";"]) ++
      [.line "", block ["namespace ", file.namespaceName] body]

end InteropGen.Render

import InteropGen.Code.Tree
import InteropGen.Decl.Basic
import InteropGen.Identifier
import InteropGen.Types.Spelling

/-!
# Writing wrappers

The code of marshaling steps and of whole wrappers. Steps before the call are followed by an empty
line each; headers of `fixed` blocks stand together above one block around the call and what follows
it.
-/

namespace InteropGen.Render

open Decl

/-- A line of texts that follow each other. -/
def line (parts : List String) : Code := .line (String.join parts)

/-- A block under a line of texts that follow each other. -/
def block (parts : List String) (body : List Code) : Code := .block (String.join parts) body

/-- The comment above the steps of an argument. -/
def marshalNote (name kind : String) : Code :=
  line ["// Marshaling '", name, "' to native ", kind]

/-- Tests whether an encoded text is too long for the stack. -/
def longText (name : String) (body : List Code) : Code :=
  block ["if (", name, "_byteCount > Util.StackAllocationSizeLimit)"] body

/-- A loop over the elements of an argument. -/
def eachElement (name : String) (body : List Code) : Code :=
  block ["for (var i = 0; i < ", name, ".Length; i++)"] body

/-- Memory for an encoded text on the heap or on the stack, for the pointer `target`. -/
def allocateText (name target : String) : List Code :=
  [longText name [line [target, " = Util.Allocate(", name, "_byteCount + 1);"]],
    block ["else"]
      [line ["var ", target, "_stackBytes = stackalloc byte[", name, "_byteCount + 1];"],
        line [target, " = ", target, "_stackBytes;"]]]

/-- A text argument encoded, or a null pointer for none. -/
def encodeText (name native : String) : List Code :=
  [marshalNote name "string",
    line ["byte* ", native, ";"],
    line ["var ", name, "_byteCount = 0;"],
    block ["if (", name, " != null)"]
      (line [name, "_byteCount = Encoding.UTF8.GetByteCount(", name, ");"] ::
        allocateText name native ++
        [line ["var ", name, "_offset = Util.GetUtf8(", name, ", ", native, ", ", name,
            "_byteCount);"],
          line [native, "[", name, "_offset] = 0;"]]),
    line ["else ", native, " = null;"]]

/-- An array of texts encoded one after the other, with a pointer to each. -/
def encodeTexts (name native : String) : List Code :=
  [marshalNote name "string array",
    line ["var ", name, "_byteCounts = stackalloc int[", name, ".Length];"],
    line ["var ", name, "_byteCount = 0;"],
    eachElement name
      [line [name, "_byteCounts[i] = Encoding.UTF8.GetByteCount(", name, "[i]);"],
        line [name, "_byteCount += ", name, "_byteCounts[i] + 1;"]],
    line ["var ", native, "_data = stackalloc byte[", name, "_byteCount];"],
    line ["var ", name, "_offset = 0;"],
    eachElement name
      [line ["var s = ", name, "[i];"],
        line [name, "_offset += Util.GetUtf8(s, ", native, "_data + ", name, "_offset, ", name,
          "_byteCounts[i]);"],
        line [native, "_data[", name, "_offset++] = 0;"]],
    line ["var ", native, " = stackalloc byte*[", name, ".Length];"],
    line [name, "_offset = 0;"],
    eachElement name
      [line [native, "[i] = &", native, "_data[", name, "_offset];"],
        line [name, "_offset += ", name, "_byteCounts[i] + 1;"]]]

/-- A default text encoded into a local of the argument's name. -/
def encodeDefault (name type value : String) : List Code :=
  [line [type, " ", name, ";"],
    line ["var ", name, "_byteCount = Encoding.UTF8.GetByteCount(", value, ");"]] ++
    [longText name [line [name, " = Util.Allocate(", name, "_byteCount + 1);"]],
      block ["else"]
        [line ["var ", name, "_stackBytes = stackalloc byte[", name, "_byteCount + 1];"],
          line [name, " = ", name, "_stackBytes;"]],
      line ["var ", name, "_offset = Util.GetUtf8(", value, ", ", name, ", ", name,
        "_byteCount);"],
      line [name, "[", name, "_offset] = 0;"]]

/-- The code of a step. -/
def step (s : Symbols) : Step → Except Fault (List Code)
  | .boolValue name =>
    let native := Identifier.nativeLocal name
    return [marshalNote name "bool",
      line ["var ", native, " = ", name, " ? (byte)1 : (byte)0;"]]
  | .boolRef name =>
    let native := Identifier.nativeLocal name
    return [marshalNote name "bool",
      line ["var ", native, "_val = ", name, " ? (byte)1 : (byte)0;"],
      line ["var ", native, " = &", native, "_val;"]]
  | .boolWriteback name =>
    return [line [name, " = ", Identifier.nativeLocal name, "_val != 0;"]]
  | .voidPointer name =>
    return [marshalNote name "void pointer",
      line ["var ", Identifier.nativeLocal name, " = ", name, ".ToPointer();"]]
  | .string name => return encodeText name (Identifier.nativeLocal name)
  | .stringFree name =>
    return [longText name [line ["Util.Free(", Identifier.nativeLocal name, ");"]]]
  | .stringBuffer name =>
    return [line ["fixed (byte* ", Identifier.nativeLocal name, " = ", name, ")"]]
  | .pinned name type => do
    let type ← s.spell type
    return [line ["fixed (", type, "* ", Identifier.nativeLocal name, " = &", name, ")"]]
  | .array name type => do
    let type ← s.spell type
    let native := Identifier.nativeLocal name
    return [marshalNote name (type ++ " array"),
      line ["var ", native, " = stackalloc ", type, "[", name, ".Length];"],
      eachElement name [line [native, "[i] = ", name, "[i];"]]]
  | .stringArray name => return encodeTexts name (Identifier.nativeLocal name)
  | .defaultValue name type value => do
    let type ← s.spell type
    let value ← s.spellValue value
    return [line [type, " ", name, " = ", value, ";"]]
  | .defaultString name type value => do
    let type ← s.spell type
    let value ← s.spellValue value
    return encodeDefault name type value
  | .defaultStringFree name => return [longText name [line ["Util.Free(", name, ");"]]]

/-- The code of steps one after the other. -/
def steps (s : Symbols) (list : List Step) : Except Fault (List Code) := do
  return (← list.mapM (step s)).flatten

/-- A parameter of a wrapper as it is written. -/
def managed (s : Symbols) (parameter : Managed) : Except Fault String := do
  let text := (← s.spell parameter.type) ++ parameter.suffix
  let modifier := if parameter.modifier.isEmpty then "" else parameter.modifier ++ " "
  return modifier ++ text ++ " " ++ parameter.name

/-- The modifiers of a declaration and the blank after them. -/
def modifierText (head : Head) : String := String.intercalate " " head.modifiers ++ " "

/-- The code of a wrapper below its comments and attributes. -/
def wrapper (s : Symbols) (w : Wrapper) : Except Fault (List Code) := do
  let result ← s.spell w.result
  let parameters ← w.marshaling.managed.mapM (managed s)
  let before ← w.marshaling.before.mapM (step s)
  let fixed ← steps s w.marshaling.fixed
  let after ← steps s w.marshaling.after
  let call := String.join
    [w.nativeClass, ".", w.entryPoint, "(", String.intercalate ", " w.marshaling.native, ");"]
  let returns := result ≠ "void"
  let inner := line [if returns then "var ret = " else "", call] :: after ++
    (if returns then [line ["return ", w.resultCode, ";"]] else [])
  let header := String.join
    [modifierText w.head, result, " ", w.head.name, "(", String.intercalate ", " parameters, ")"]
  let body := before.flatMap (· ++ [.line ""]) ++
    (if w.marshaling.fixed.isEmpty then inner else fixed ++ [.block "" inner])
  return [.line header, .block "" body]

end InteropGen.Render

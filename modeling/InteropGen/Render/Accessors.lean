import InteropGen.Decl.Basic
import InteropGen.Identifier
import InteropGen.Types.Resolve

/-!
# Writing accessors

The property of a view over one field of its layout. What it returns hangs on the spelling of the
field's type: a wrapping view, text, an opaque handle, a vector, a range of elements, or a
reference to the field itself.
-/

namespace InteropGen.Render

open Decl

/-- The C# type of the elements of a vector, by the name that stands in the vector's own name. -/
def vectorElement (s : Symbols) (name : String) : Except Fault String :=
  match builtinTypes.find? name with
  | some spelled => .ok spelled
  | none =>
    let suffix := s.settings.viewSuffix
    let base := if suffix.isEmpty then "" else Text.dropLast name suffix.length
    let isPointer := builtinTypes.contains base || Text.startsWith base "const_"
    if Text.endsWith name suffix && isPointer then
      .ok s.settings.handle
    else
      let element := Identifier.lastSegment name
      match s.settings.conversions.find? element with
      | some converted => .ok converted
      | none =>
        match Symbols.lookUp element s with
        | (some id, s) => s.spellId id
        | (none, _) => .ok element

/-- Where the elements of a list begin: at a buffer, at its first numbered field, or nowhere. -/
def listAddress (name : String) (size : Int) (inPlace : Bool) : String :=
  if inPlace then "NativePtr->" ++ name
  else if size = 0 then "null"
  else "&NativePtr->" ++ name ++ "_0"

/-- The property over a list of elements, whose number is written out as the count. -/
def listAccessor (s : Symbols) (name spelled : String) (size : Int) (inPlace : Bool)
    (count : String) : String :=
  let element := if Text.endsWith spelled "*" then s.settings.handle else spelled
  String.join ["public RangeAccessor<", element, "> ", name, " => new RangeAccessor<", element,
    ">(", listAddress name size inPlace, ", ", count, ");"]

/-- The property over a vector of elements. -/
def vectorAccessor (s : Symbols) (name element : String) : String :=
  match s.viewName? (element ++ "*") with
  | some view =>
    String.join ["public ImPtrVector<", view, "> ", name, " => new ImPtrVector<", view,
      ">(NativePtr->", name, ", Unsafe.SizeOf<", element, ">());"]
  | none =>
    String.join ["public ImVector<", element, "> ", name, " => new ImVector<", element,
      ">(NativePtr->", name, ");"]

/-- The property over one field. -/
def fieldAccessor (s : Symbols) (name spelled : String) : String :=
  let handle := s.settings.handle
  if Text.endsWith spelled "*" then
    match s.viewName? spelled with
    | some view =>
      String.join ["public ", view, " ", name, " => new ", view, "(NativePtr->", name, ");"]
    | none =>
      if spelled = "byte*" && Identifier.namesText name then
        String.join ["public NullTerminatedString ", name,
          " => new NullTerminatedString(NativePtr->", name, ");"]
      else
        String.join ["public ", handle, " ", name, " \x7b get => (", handle, ")NativePtr->", name,
          "; set => NativePtr->", name, " = (", spelled, ")value; \x7d"]
  else
    String.join ["public ref ", spelled, " ", name, " => ref Unsafe.AsRef<", spelled,
      ">(&NativePtr->", name, ");"]

/-- The line of an accessor. -/
def accessorLine (s : Symbols) (accessor : Accessor) : Except Fault String :=
  let name := accessor.head.name
  match accessor.reach with
  | .list elements size inPlace => do
    return listAccessor s name (← s.spell elements) size inPlace (← numeral size)
  | .vector elementName => do return vectorAccessor s name (← vectorElement s elementName)
  | .field type => do return fieldAccessor s name (← s.spell type)

end InteropGen.Render

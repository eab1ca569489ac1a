import InteropGen.ArraySize
import InteropGen.Generate.Wrappers

/-!
# Structs

A native struct becomes a layout, which has its fields in memory order, and a view, which has an
accessor for each native field and wrappers for the struct's methods. A struct without fields is
opaque. An array field is one buffer if its elements allow that, and numbered fields otherwise.
-/

namespace InteropGen.Generate

open Metadata Decl

/-- The modifiers of layouts and views. -/
def structModifiers : List String := ["public", "unsafe", "partial"]

/-- The head of a field of a layout. -/
def fieldHead (name : String) (isBuffer : Bool) (comments : Option Comments) : Head :=
  Head.withComments
    { name := name, modifiers := if isBuffer then ["public", "fixed"] else ["public"] } comments

/-- The fields of a layout for an array of a size: a buffer, or numbered fields from zero on. -/
def arrayFields (field : Metadata.Field) (element : TypeText) (size : Int) (inPlace : Bool) :
    List Decl.Field :=
  if inPlace then [.buffer (fieldHead field.name true field.comments) element size]
  else (List.range size.toNat).map fun i =>
    .single
      (fieldHead (field.name ++ "_" ++ toString i) false (if i = 0 then field.comments else none))
      element

/-- The accessor of a field. -/
def accessorOf (field : Metadata.Field) (reach : Reach) : Accessor :=
  ⟨Head.withComments { name := field.name } field.comments, reach⟩

/-- The element type and the bounds of an array field. -/
def arrayParts (field : Metadata.Field) : NativeType × String :=
  let t := field.info.type
  let element := match t.kind, t.inner with
    | .array, some inner => inner
    | _, _ => t
  (element, ((nonEmpty? field.bounds).or (nonEmpty? t.bounds)).getD "0")

/-- The type of the elements of an array field. -/
def elementType (t : NativeType) : Build Symbols TypeId := do
  let s ← get
  if s.isVector t then Symbols.namedType s.settings.vectorName else Symbols.resolve none t

/-- Can elements of the type stand in a buffer in place? -/
def fitsBuffer (element : TypeId) (size : Int) : Build Symbols Bool := do
  if 0 < size then
    let spelled ← Build.ofExcept ((← get).spellId element)
    return bufferTypes.contains spelled
  else return false

/-- The fields and the accessor of an array field. -/
def arrayField (structName : String) (field : Metadata.Field) :
    Build Symbols (List Decl.Field × Accessor) := do
  let (t, bounds) := arrayParts field
  let size ← Symbols.readSize bounds (structName ++ "." ++ field.name)
  let element ← elementType t
  let inPlace ← fitsBuffer element size
  return (arrayFields field (.ref element) size inPlace,
    accessorOf field (.list (.ref element) size inPlace))

/-- The name in a vector type after the mark of vectors, if the type is an instance of it. -/
def vectorInstance? (s : Symbols) (t : NativeType) : Option String :=
  let name := t.name.getD ""
  if s.isVector t && name ≠ s.settings.vectorName then
    some (Text.dropFirst name (s.settings.vectorName.length + 1))
  else none

/-- The field and the accessor of a field that is no array. -/
def plainField (field : Metadata.Field) : Build Symbols (List Decl.Field × Accessor) := do
  let t := field.info.type
  match t.callback? with
  | some function =>
    let delegateName := (nonEmpty? t.name).getD field.name ++ "Delegate"
    let _ ← registerDelegate function delegateName
    let id ← Symbols.resolve (some delegateName) t
    return ([.single (fieldHead field.name false field.comments) (.ref id)],
      accessorOf field (.field (.ref id)))
  | none =>
    let id ← Symbols.resolve none t
    let reach := match vectorInstance? (← get) t with
      | some elementName => Reach.vector elementName
      | none => .field (.ref id)
    return ([.single (fieldHead field.name false field.comments) (.ref id)],
      accessorOf field reach)

/-- The fields and the accessor of a field. -/
def layoutField (structName : String) (field : Metadata.Field) :
    Build Symbols (List Decl.Field × Accessor) :=
  if field.isArray then arrayField structName field else plainField field

/-- Why a field is left out, if there is a reason. -/
def fieldSkip? (s : Symbols) (field : Metadata.Field) : Option SkipReason :=
  if !s.admits field.guards then some .guards
  else if Text.includes field.name "__anonymous_type" then some .anonymous
  else none

/-- The fields and accessors of a struct in order. -/
def layoutFields (nativeName structName : String) :
    List Metadata.Field → Build Symbols (List (List Decl.Field × Accessor))
  | [] => return []
  | item :: rest => do
    match fieldSkip? (← get) item with
    | some reason =>
      modify fun s => s.skip .field (nativeName ++ "." ++ item.name) reason
      layoutFields nativeName structName rest
    | none =>
      let first ← layoutField structName item
      let others ← layoutFields nativeName structName rest
      return first :: others

/-- The wrappers of the functions that are methods of a struct. -/
def methodWrappers (target : WrapperClass) (structName : String) :
    List Function → Build Scoped (List Wrapper)
  | [] => return []
  | function :: rest => do
    let state ← get
    if Identifier.pairsWith function.name structName &&
        (skipReason? state.symbols function).isNone then
      let first ← wrappers target function
      let others ← methodWrappers target structName rest
      return first ++ others
    else methodWrappers target structName rest

/-- Why a struct is left out, if there is a reason. -/
def structSkip? (s : Symbols) (item : Struct) : Option SkipReason :=
  if s.settings.customTypes.contains item.name then some .customType
  else if s.isVectorName item.name then some .vectorFamily
  else if !s.admits item.guards then some .guards
  else none

/-- Gives a native struct and its C# name their type. -/
def registerStruct (nativeName name : String) : StateM Symbols Unit := fun s =>
  let (id, s) := Symbols.namedType name s
  ((), (s.registerType nativeName id).registerType name id)

/-- The layout and the view of a struct, unless it is left out or opaque. -/
def struct (target : WrapperClass) (item : Struct) (functions : List Function) :
    Build Scoped (Option (Layout × View)) := do
  let s := (← get).symbols
  match structSkip? s item with
  | some reason =>
    onSymbols (modify fun s => s.skip .struct item.name reason)
    return none
  | none =>
    if item.fields.isEmpty then
      onSymbols (modify fun s => s.addOpaque item.name)
      return none
    else
      let name := Identifier.lastSegment item.name
      onSymbols (registerStruct item.name name)
      let parts ← onSymbols (layoutFields item.name name item.fields)
      beginClass
      let methods ← methodWrappers target name functions
      let head (name : String) : Head :=
        Head.withComments { name := name, modifiers := structModifiers } item.comments
      return some (⟨head name, item.name, parts.flatMap (·.1)⟩,
        ⟨head (name ++ s.settings.viewSuffix), name, parts.map (·.2), methods⟩)

/-- The layouts and views of structs, in order. -/
def structs (target : WrapperClass) (functions : List Function) :
    List Struct → Build Scoped (List (Layout × View))
  | [] => return []
  | item :: rest => do
    let first ← struct target item functions
    let others ← structs target functions rest
    return first.toList ++ others

/--
Keeps the pairs whose layout has members and erases the structs of the others. `emptyLayout?` gives
the native name of a layout without members.
-/
def keepLaidOut {α : Type} (emptyLayout? : α → Except Fault (Option String)) :
    List α → Build Symbols (List α)
  | [] => return []
  | pair :: rest => do
    match ← Build.ofExcept (emptyLayout? pair) with
    | some nativeName =>
      modify fun s => (s.erase nativeName).skip .struct nativeName .noFields
      keepLaidOut emptyLayout? rest
    | none => return pair :: (← keepLaidOut emptyLayout? rest)

/-- The native name of the layout of a struct if it has no fields. -/
def emptyLayout? (pair : Layout × View) : Option String :=
  if pair.1.fields.isEmpty then some pair.1.nativeName else none

/-- The native name of a layout among declarations if it has no members; others have no name. -/
def emptyDecl? : Decl → Except Fault (Option String)
  | .group (.layout nativeName) _ [] => .ok (some nativeName)
  | .group _ _ (_ :: _) => .ok none
  | _ => .error .missingPart

end InteropGen.Generate

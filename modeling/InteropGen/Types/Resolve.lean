import InteropGen.Types.Spelling

/-!
# Resolving native types

How a native type becomes an entry of the arena. A name that is not yet known becomes a forward
reference, which `Symbols.resolvePending` binds once all names are known.
-/

namespace InteropGen

/-- The C# types of the builtin types. -/
def builtinTypes : Table String := ⟨[
  ("void", "void"), ("char", "byte"), ("unsigned_char", "byte"), ("signed_char", "sbyte"),
  ("short", "short"), ("unsigned_short", "ushort"), ("int", "int"), ("unsigned_int", "uint"),
  ("long", "int"), ("unsigned_long", "uint"), ("long_long", "long"),
  ("unsigned_long_long", "ulong"), ("float", "float"), ("double", "double"),
  ("long_double", "double"), ("bool", "byte")]⟩

/-- The element types that a buffer in place may have. -/
def bufferTypes : List String :=
  ["bool", "byte", "sbyte", "short", "ushort", "int", "uint", "long", "ulong", "char", "float",
    "double"]

namespace Symbols

/-! ## Entering types -/

/-- The type of a C# name. -/
def namedType (name : String) : StateM Symbols TypeId := fun s =>
  let (id, arena) := s.arena.named name
  (id, { s with arena := arena })

/-- The type of pointers to a type. -/
def pointerTo (target : TypeId) : StateM Symbols TypeId := fun s =>
  let (id, arena) := s.arena.pointer target
  (id, { s with arena := arena })

/-- The type of a native name, if it is known; the handle for an opaque struct. -/
def lookUp (name : String) : StateM Symbols (Option TypeId) := fun s =>
  if s.opaqueStructs.contains name then
    let (id, s) := namedType s.settings.handle s
    (some id, s)
  else (s.types.find? name, s)

/-- A forward reference to a native name. -/
def defer (name : String) : StateM Symbols TypeId := fun s =>
  let (id, arena) := s.arena.forward name
  (id, { s with arena := arena, pending := s.pending ++ [id] })

/-- Binds a forward reference, or warns that its name is not known. -/
def resolveOne (id : TypeId) : StateM Symbols Unit := do
  let name := (← get).arena.fallbackName id
  match ← lookUp name with
  | none => modify fun s => s.warn ("unresolved type " ++ name)
  | some target => modify fun s => { s with arena := s.arena.bind id target }

/-- Binds the forward references made so far. -/
def resolvePending : StateM Symbols Unit := do
  let pending := (← get).pending
  modify fun s => { s with pending := [] }
  pending.forM resolveOne

/-! ## Vectors -/

/-- Is the name that of the vector or of one of its instances? -/
def isVectorName (s : Symbols) (name : String) : Bool :=
  !name.isEmpty &&
    (name = s.settings.vectorName || Text.startsWith name (s.settings.vectorName ++ "_"))

/-- Is the type a vector? -/
def isVector (s : Symbols) (t : NativeType) : Bool :=
  t.kind = .user && t.name.any s.isVectorName

/-! ## Native types -/

/-- The C# name of a builtin type. -/
def builtinName (s : Symbols) (builtin : String) : String :=
  (s.settings.conversions.find? builtin).getD ((builtinTypes.find? builtin).getD builtin)

/-- The type of a native name: converted, known, a vector, or a forward reference. -/
def resolveName (name : String) : StateM Symbols TypeId := do
  match (← get).settings.conversions.find? name with
  | some converted => namedType converted
  | none =>
    match ← lookUp name with
    | some id => return id
    | none =>
      let s ← get
      if s.isVectorName name then namedType s.settings.vectorName else defer name

/-- The name of the callback type of a synonym, unless another is given. -/
def callbackName (t : NativeType) (given : Option String) : String :=
  (nonEmpty? given).getD (shownName t.name ++ "Delegate")

mutual

/-- The type of a native type; arrays are pointers to their elements. -/
def resolve (delegateName : Option String) : NativeType → Build Symbols TypeId
  | t@⟨kind, builtin, name, inner, _, _, _, _⟩ =>
    match kind with
    | .builtin => do namedType ((← get).builtinName ((nonEmpty? builtin).getD "void"))
    | .user => resolveName (name.getD "")
    | .pointer | .array => do pointerTo (← resolveInner inner)
    | .synonym =>
      if t.isCallback then namedType (callbackName t delegateName) else resolveInner inner
    | .function | .other _ => do
      modify fun s => s.warn ("unrecognized type shape " ++ kind.word ++ " (" ++ shownName name ++
        "), using \"unknown\"")
      namedType "unknown"

/-- The type of an inner type, which must be there. -/
def resolveInner : Option NativeType → Build Symbols TypeId
  | some t => resolve none t
  | none => throw .missingType

end

end Symbols

end InteropGen

import InteropGen.Decl.Basic
import InteropGen.Settings

/-!
# Symbols

What is known about a library while its bindings are made: the types of native names, the defines,
the sizes of arrays, the elements of enums, the opaque structs and the callback types. The tables
outlive one configuration, apart from the last two and the record of what was left out.
-/

namespace InteropGen

/-- The kinds of items that may be left out. -/
inductive ItemKind
  | define
  | enum
  | enumElement
  | typedef
  | struct
  | field
  | function
  deriving DecidableEq, Repr

namespace ItemKind

/-- The word of a kind. -/
def word : ItemKind → String
  | define => "define"
  | enum => "enum"
  | enumElement => "enum element"
  | typedef => "typedef"
  | struct => "struct"
  | field => "field"
  | function => "function"

end ItemKind

/-- Why an item is left out. -/
inductive SkipReason
  | guards
  | customType
  | vectorFamily
  | anonymous
  | skipList
  | variadic
  | flagsAlias
  | noFields
  deriving DecidableEq, Repr

namespace SkipReason

/-- The words of a reason. -/
def words : SkipReason → String
  | guards => "conditionals"
  | customType => "custom type"
  | vectorFamily => "vector family"
  | anonymous => "anonymous"
  | skipList => "skip list"
  | variadic => "varargs"
  | flagsAlias => "flags enum"
  | noFields => "no fields"

end SkipReason

/-- An item that was left out. -/
structure Skip where
  kind : ItemKind
  name : String
  reason : SkipReason
  deriving DecidableEq, Repr

/-- The tables of a run. -/
structure Symbols where
  settings : Settings
  arena : Arena
  /-- The types of native and of C# names; the first entry of a name stays. -/
  types : Table TypeId := {}
  /-- The known defines: the C# type of the constant, if there is one, and the content. -/
  defines : Table (Option String × String) := {}
  /-- Sizes by name of a counting element or by text of a bound. -/
  arraySizes : Table Int := {}
  /-- Elements of the enums with the texts of their values, by C# name. -/
  enums : Table (List (String × String)) := {}
  /-- Structs without fields. -/
  opaqueStructs : List String := []
  /-- Callback types by name. -/
  delegates : Table Decl.Method := {}
  warnings : List String := []
  skipped : List Skip := []
  /-- Forward references that are not yet bound. -/
  pending : List TypeId := []

namespace Symbols

/-- The tables at the start of a run. -/
def ofSettings (settings : Settings) : Symbols where
  settings := settings
  arena := { handle := settings.handle }
  defines := .ofList (settings.knownDefines.map fun name => (name, none, ""))

instance : Inhabited Symbols := ⟨ofSettings {}⟩

/-- Is the name defined? -/
def isDefined (s : Symbols) (name : String) : Bool := s.defines.contains name

/-- Forgets what must not go from one configuration to the next. -/
def beginConfiguration (s : Symbols) : Symbols :=
  { s with opaqueStructs := [], delegates := {}, skipped := [] }

/-- Adds a warning. -/
def warn (s : Symbols) (text : String) : Symbols := { s with warnings := s.warnings ++ [text] }

/-- Records that an item is left out. -/
def skip (s : Symbols) (kind : ItemKind) (name : String) (reason : SkipReason) : Symbols :=
  { s with skipped := s.skipped ++ [⟨kind, name, reason⟩] }

/-- Gives a native name a type unless it has one. -/
def registerType (s : Symbols) (name : String) (id : TypeId) : Symbols :=
  { s with types := s.types.insertNew name id }

/-- Makes every later reference to a struct an opaque one. -/
def addOpaque (s : Symbols) (name : String) : Symbols :=
  if s.opaqueStructs.contains name then s else { s with opaqueStructs := s.opaqueStructs ++ [name] }

/-- Makes every reference to a struct an opaque one, earlier ones too. -/
def erase (s : Symbols) (name : String) : Symbols :=
  let s := s.addOpaque name
  match s.types.find? name with
  | some id => { s with arena := s.arena.erase id }
  | none => s

end Symbols

end InteropGen

import InteropGen.Types.Text

/-!
# Marshaling steps

What a wrapper does to its arguments around the call of a native function. Each step belongs to the
argument whose name it holds; steps stand before the call, in the headers of `fixed` blocks around
it, or after it.
-/

namespace InteropGen.Decl

/-- One step of marshaling an argument. -/
inductive Step
  /-- A local byte for a truth value. -/
  | boolValue (name : String)
  /-- A local byte for a referenced truth value, and its address. -/
  | boolRef (name : String)
  /-- The truth value written back from that byte. -/
  | boolWriteback (name : String)
  /-- A handle as an untyped pointer. -/
  | voidPointer (name : String)
  /-- A text encoded on the stack or, if it is long, on the heap. -/
  | string (name : String)
  /-- The heap memory of a text released. -/
  | stringFree (name : String)
  /-- A byte array pinned. -/
  | stringBuffer (name : String)
  /-- A referenced value pinned. -/
  | pinned (name : String) (type : TypeText)
  /-- An array copied to the stack. -/
  | array (name : String) (type : TypeText)
  /-- An array of texts encoded on the stack. -/
  | stringArray (name : String)
  /-- A local with the default of an argument that the wrapper leaves out. -/
  | defaultValue (name : String) (type : TypeText) (value : ValueText)
  /-- A local text with the default of an argument that the wrapper leaves out. -/
  | defaultString (name : String) (type : TypeText) (value : ValueText)
  /-- The heap memory of such a text released. -/
  | defaultStringFree (name : String)
  deriving Repr

/-- A parameter of a wrapper: a type with a modifier before it and a suffix after it, and a name. -/
structure Managed where
  type : TypeText
  name : String
  modifier : String := ""
  suffix : String := ""
  deriving Repr

/-- The parameters of a wrapper, the expressions it passes on, and the steps around the call. -/
structure Marshaling where
  managed : List Managed := []
  native : List String := []
  before : List Step := []
  fixed : List Step := []
  after : List Step := []
  deriving Repr

instance : Inhabited Marshaling := ⟨{}⟩

end InteropGen.Decl

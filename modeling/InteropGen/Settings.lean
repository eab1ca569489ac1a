import InteropGen.Table

/-!
# Settings

What is particular to one target library: its name, the name patterns of its structs and functions,
the type that stands for opaque pointers, and tables of types and values that have a C# form of
their own.
-/

namespace InteropGen

/-- The settings of a target library. -/
structure Settings where
  /-- The binary that functions are imported from. -/
  library : String := "dcimgui"
  /-- How the names of structs begin that have a wrapping view. -/
  wrapMark : String := "Im"
  /-- The generic vector and, before an underscore, its instances. -/
  vectorName : String := "ImVector"
  /-- How the names of functions of the main class begin. -/
  mainMark : String := "ImGui_"
  /-- The type of opaque pointers. -/
  handle : String := "IntPtr"
  /-- How the names of views end. -/
  viewSuffix : String := "Ptr"
  /-- C# types for native names. -/
  conversions : Table String := {}
  /-- Structs that are written by hand. -/
  customTypes : List String := []
  /-- C# values for default arguments. -/
  defaultValues : Table String := {}
  /-- Functions whose name holds one of these parts are left out. -/
  skippedParts : List String := []
  /-- Defines that are known from the start. -/
  knownDefines : List String := []

instance : Inhabited Settings := ⟨{}⟩

end InteropGen

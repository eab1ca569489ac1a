import InteropGen.Types.Arena

/-!
# Types in declarations

A declaration names a type by a fixed text, by its number in the arena, or as the view that wraps
it. The last two are spelled when the declaration is written.
-/

namespace InteropGen

/-- A type as a declaration refers to it. -/
inductive TypeText
  | plain (text : String)
  | ref (id : TypeId)
  | view (id : TypeId)
  deriving DecidableEq, Repr

instance : Inhabited TypeText := ⟨.plain ""⟩

/--
A value as a declaration refers to it: a fixed text, or the default of an argument, whose text hangs
on how the argument's type is spelled when the declaration is written.
-/
inductive ValueText
  | plain (text : String)
  | default (type : TypeText) (text : String)
  deriving DecidableEq, Repr

end InteropGen

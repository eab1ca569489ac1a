import InteropGen.Generate.Callbacks
import InteropGen.Guards

/-!
# Typedefs

A typedef gives its name the type that it stands for; one of a function pointer becomes a delegate,
and the aliases of flag enums are left out, since the enums themselves are generated.
-/

namespace InteropGen.Generate

open Metadata

/-- Does a name speak of flags, in letters of either case? -/
def namesFlags (name : String) : Bool :=
  Text.occursIn "flags".toList (name.toList.map Char.toLower)

/-- Enters a typedef. -/
def typedef (item : Typedef) : Build Symbols Unit := do
  if !(← get).admits item.guards then
    modify fun s => s.skip .typedef item.name .guards
  else match item.info.type.callback? with
    | some function =>
      let name := (nonEmpty? item.info.type.name).getD item.name
      let _ ← registerDelegate function name item.comments
    | none =>
      if namesFlags item.name then modify fun s => s.skip .typedef item.name .flagsAlias
      else do
        let id ← Symbols.resolve none item.info.type
        modify fun s => s.registerType item.name id

/-- Enters typedefs one after the other. -/
def typedefs (items : List Typedef) : Build Symbols Unit := items.forM typedef

end InteropGen.Generate

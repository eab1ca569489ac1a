import InteropGen.Build

/-!
# Spelling types

The text of a type as the symbols stand. A pointer to a struct that has a view is spelled as the
view where a declaration asks for it.
-/

namespace InteropGen

/-- A text unless it is absent or empty. -/
def nonEmpty? (text : Option String) : Option String := text.filter fun t => !t.isEmpty

/-- An absent name in a text. -/
def shownName (name : Option String) : String := name.getD "None"

namespace Symbols

/-- The spelling of a type of the arena. -/
def spellId (s : Symbols) (id : TypeId) : Except Fault String :=
  match s.arena.spelling? id with
  | some text => .ok text
  | none => .error .endlessSpelling

/--
The view that wraps a spelled type: one for a single pointer to a struct with the wrapping mark
that is neither a vector, an enum, a converted type nor itself a view.
-/
def viewName? (s : Symbols) (spelled : String) : Option String :=
  let base := Text.stripEnd spelled '*'
  if !Text.startsWith spelled s.settings.wrapMark || !Text.endsWith spelled "*" then none
  else if Text.startsWith spelled s.settings.vectorName then none
  else if base.length + 1 < spelled.length then none
  else if s.enums.contains base then none
  else if s.settings.conversions.contains base || s.settings.conversions.values.contains base then
    none
  else if Text.endsWith base s.settings.viewSuffix then none
  else some (base ++ s.settings.viewSuffix)

/-- The spelling of a type in a declaration. -/
def spell (s : Symbols) : TypeText → Except Fault String
  | .plain text => .ok text
  | .ref id => s.spellId id
  | .view id => do
    let spelled ← s.spellId id
    return (s.viewName? spelled).getD spelled

/--
The text of a value in a declaration: a default for a handle is its zero, one for an enum is cast to
the enum.
-/
def spellValue (s : Symbols) : ValueText → Except Fault String
  | .plain text => .ok text
  | .default type text => do
    let spelled ← s.spell type
    if spelled = s.settings.handle then return s.settings.handle ++ ".Zero"
    else if s.enums.contains spelled then return "(" ++ spelled ++ ")" ++ text
    else return text

end Symbols

end InteropGen

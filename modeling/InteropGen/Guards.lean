import InteropGen.Symbols

/-!
# Guards

Which guarded items are part of the library. One guard asks for a define, for its absence, or for
`defined(NAME)`; of several guards the first repeats an outer one, and the second decides.
-/

namespace InteropGen.Symbols

/-- What follows blanks. -/
def skipBlanks (chars : List Char) : List Char := chars.dropWhile Text.isBlank

/-- The name in an expression of the form `defined ( NAME )`, which blanks may stand in. -/
def definedName? (expression : String) : Option String :=
  let word := "defined".toList
  let chars := (Text.strip expression).toList
  if !word.isPrefixOf chars then none
  else match skipBlanks (chars.drop word.length) with
    | '(' :: rest =>
      let rest := skipBlanks rest
      let name := rest.takeWhile Text.isWord
      if name.isEmpty then none
      else if skipBlanks (rest.drop name.length) = [')'] then some (String.ofList name)
      else none
    | _ => none

/-- Does a guard that asks for a define or its absence hold? -/
def holds (s : Symbols) (guard : Guard) : Bool :=
  match guard.condition with
  | .defined => s.isDefined guard.expression
  | .undefined => !s.isDefined guard.expression
  | _ => false

/-- Is an item under the guards part of the library? -/
def admits (s : Symbols) : List Guard → Bool
  | [] => true
  | [guard] =>
    if guard.condition = .expression then (definedName? guard.expression).any s.isDefined
    else s.holds guard
  | _ :: guard :: _ => s.holds guard

end InteropGen.Symbols

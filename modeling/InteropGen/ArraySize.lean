import InteropGen.Bound.Parser
import InteropGen.Build

/-!
# Sizes of arrays

A bound names defines and counting elements of enums. They are replaced by their values as whole
words, and what comes out is evaluated. Every bound is computed once; one without a value counts as
zero and leaves a warning.
-/

namespace InteropGen

/--
The value of a hexadecimal numeral in decimal, unless that has too many digits; any other text
without blanks at its ends.
-/
def asDecimal (value : String) : String :=
  let text := Text.strip value
  match text.toList with
  | '0' :: mark :: digits =>
    if mark = 'x' || mark = 'X' then
      let (shown, rest) := Bound.digitRun (fun c => (Text.hexValue? c).isSome) digits
      let n := Text.digitsValue 16 shown
      if shown.isEmpty || !rest.isEmpty || !Text.hasDecimal n then text else Text.ofInt n
    else text
  | _ => text

namespace Symbols

/-- The words that bounds may hold, with their values: defines that have a content, then sizes. -/
def boundWords (s : Symbols) : Table String :=
  let defined := s.defines.entries.foldl (fun words (name, _, value) =>
    if value.isEmpty then words else words.insert name (asDecimal value)) Table.empty
  s.arraySizes.entries.foldl (fun words (name, size) =>
    if Text.isWordText name then words.insertNew name (Text.ofInt size) else words) defined

/-- The words in the order of their replacement: longer ones first. -/
def replacementOrder (words : Table String) : List (String × String) :=
  words.entries.mergeSort fun a b => b.1.length ≤ a.1.length

/-- Replaces every word once. -/
def replaceRound (words : List (String × String)) (text : String) : String :=
  words.foldl (fun text (word, value) => Text.replaceWord text word value) text

/-- Replaces the words until nothing changes, but no more than so many times. -/
def replaceRounds (words : List (String × String)) : Nat → String → String
  | 0, text => text
  | rounds + 1, text =>
    let next := replaceRound words text
    if next = text then text else replaceRounds words rounds next

/-- A bound with the values of its words; a value may hold words again, to a depth of eight. -/
def substitute (s : Symbols) (bound : String) : String :=
  replaceRounds (replacementOrder s.boundWords) 8 bound

/-- The size that a bound gives, for the owner that a warning names. -/
def arraySize (bound owner : String) : StateM Symbols Int := fun s =>
  match s.arraySizes.find? bound with
  | some size => (size, s)
  | none =>
    let text := s.substitute bound
    let remember (s : Symbols) (size : Int) : Int × Symbols :=
      (size, { s with arraySizes := s.arraySizes.insert bound size })
    match Bound.evaluate text with
    | .ok size => remember s size
    | .error error =>
      let place := if owner.isEmpty then "" else " for " ++ owner
      remember (s.warn ("cannot compute array size" ++ place ++ " with bounds " ++ bound ++ ": " ++
        error.message text)) 0

/-- Does a word stand for a size that has too many digits to be put into a bound? -/
def hasLongWord (s : Symbols) : Bool :=
  s.arraySizes.entries.any fun (name, size) =>
    Text.isWordText name && !Text.hasDecimal size.natAbs

/-- Reads the size that a bound gives; a new bound cannot be read while a word has too long a size. -/
def readSize (bound owner : String) : Build Symbols Int := do
  let s ← get
  if !s.arraySizes.contains bound && s.hasLongWord then throw .longNumber
  else arraySize bound owner

end Symbols

end InteropGen

import InteropGen.Json.Value

/-!
# Values in messages

How a message quotes a JSON value: `None`, `True` and `False` for the words, a text between single
quotes, or between double quotes if it holds a single quote and no double one, lists and mappings
in brackets with a comma and a blank between the entries.
-/

namespace InteropGen.Json

/-- Hexadecimal digits of a code point, at least `width` of them. -/
def paddedHex (n width : Nat) : List Char :=
  let digits := Nat.toDigits 16 n
  List.replicate (width - digits.length) '0' ++ digits

/-- A character between the given quotes. -/
def displayChar (mark c : Char) : List Char :=
  let n := c.toNat
  if c = mark || c = '\\' then ['\\', c]
  else if c = '\n' then ['\\', 'n']
  else if c = '\r' then ['\\', 'r']
  else if c = '\t' then ['\\', 't']
  else if Text.isPrinted c then [c]
  else if n < 0x100 then '\\' :: 'x' :: paddedHex n 2
  else if n < 0x10000 then '\\' :: 'u' :: paddedHex n 4
  else '\\' :: 'U' :: paddedHex n 8

/-- A text between quotes. -/
def displayText (text : String) : List Char :=
  let chars := text.toList
  let mark := if chars.contains '\'' && !chars.contains '"' then '"' else '\''
  mark :: (chars.flatMap (displayChar mark) ++ [mark])

mutual

/-- The characters of a value in a message. -/
def displayValue : Value → List Char
  | .null => "None".toList
  | .bool value => if value then "True".toList else "False".toList
  | .number value => value.toText.toList
  | .text value => displayText value
  | .array items => '[' :: displayItems items
  | .object members => '\x7b' :: displayMembers members

/-- The items of a list with the closing bracket. -/
def displayItems : List Value → List Char
  | [] => [']']
  | [item] => displayValue item ++ [']']
  | item :: items => displayValue item ++ ',' :: ' ' :: displayItems items

/-- The members of a mapping with the closing brace. -/
def displayMembers : List (String × Value) → List Char
  | [] => ['\x7d']
  | [(name, value)] => displayText name ++ ':' :: ' ' :: (displayValue value ++ ['\x7d'])
  | (name, value) :: members =>
    displayText name ++ ':' :: ' ' :: (displayValue value ++ ',' :: ' ' :: displayMembers members)

end

/-- The text of a value in a message. -/
def Value.display (value : Value) : String := String.ofList (displayValue value)

end InteropGen.Json

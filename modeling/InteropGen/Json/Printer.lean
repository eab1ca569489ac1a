import InteropGen.Json.Value

/-!
# Writing JSON

The text of a value on one line: a blank after every comma and colon, members in their order,
doubles as their shortest decimal text, and in strings an escape for the quote, the backslash, the
control characters and everything beyond ASCII.
-/

namespace InteropGen.Json

/-- A `\u` escape of a sixteen-bit unit. -/
def unitEscape (n : Nat) : List Char :=
  ['\\', 'u', Text.hexDigit (n / 4096 % 16), Text.hexDigit (n / 256 % 16),
    Text.hexDigit (n / 16 % 16), Text.hexDigit (n % 16)]

/-- A character as it stands in a string. -/
def escapeChar (c : Char) : List Char :=
  let n := c.toNat
  if c = '"' then ['\\', '"']
  else if c = '\\' then ['\\', '\\']
  else if c = '\x08' then ['\\', 'b']
  else if c = '\x0c' then ['\\', 'f']
  else if c = '\n' then ['\\', 'n']
  else if c = '\r' then ['\\', 'r']
  else if c = '\t' then ['\\', 't']
  else if n < 32 || (127 ≤ n && n < 0x10000) then unitEscape n
  else if n < 127 then [c]
  else unitEscape (0xD800 + (n - 0x10000) / 1024) ++ unitEscape (0xDC00 + (n - 0x10000) % 1024)

/-- The text as a JSON string. -/
def quote (text : String) : List Char := '"' :: (text.toList.flatMap escapeChar ++ ['"'])

/-- The text of a number. -/
def Number.toJson : Number → String
  | .float (.infinite negative) => if negative then "-Infinity" else "Infinity"
  | .float .notANumber => "NaN"
  | number => number.toText

mutual

/-- The characters of a value. -/
def printValue : Value → List Char
  | .null => "null".toList
  | .bool value => if value then "true".toList else "false".toList
  | .number value => value.toJson.toList
  | .text value => quote value
  | .array items => '[' :: printItems items
  | .object members => '\x7b' :: printMembers members

/-- The items of an array with the closing bracket. -/
def printItems : List Value → List Char
  | [] => [']']
  | [item] => printValue item ++ [']']
  | item :: items => printValue item ++ ',' :: ' ' :: printItems items

/-- The members of an object with the closing brace. -/
def printMembers : List (String × Value) → List Char
  | [] => ['\x7d']
  | [(name, value)] => quote name ++ ':' :: ' ' :: (printValue value ++ ['\x7d'])
  | (name, value) :: members =>
    quote name ++ ':' :: ' ' :: (printValue value ++ ',' :: ' ' :: printMembers members)

end

/-- The text of a value. -/
def Value.print (value : Value) : String := String.ofList (printValue value)

end InteropGen.Json

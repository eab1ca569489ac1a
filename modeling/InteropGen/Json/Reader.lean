import InteropGen.Json.Value

/-!
# Reading JSON

A text is read as one value with blanks around it. Besides the standard's numbers the words `NaN`,
`Infinity` and `-Infinity` are read as doubles. Of members with one name the last value stays, at
the place of the first. A text is malformed or, if that shows first, holds an integer with too many
digits or nests its arrays and objects too deep.
-/

namespace InteropGen.Json

/-- How many arrays and objects may be open at once. -/
def maxNesting : Nat := 985

/-- Why a text is not read. -/
inductive ReadError
  | malformed
  | longInteger
  | tooDeep
  deriving DecidableEq, Repr

/-- What was read, unless it is malformed. -/
def wellFormed {α : Type} (found : Option α) : Except ReadError α :=
  match found with
  | some value => .ok value
  | none => .error .malformed

/-- The blanks of JSON. -/
def isSpace (c : Char) : Bool := c == ' ' || c == '\t' || c == '\n' || c == '\r'

/-- What follows the blanks. -/
def skipSpace (chars : List Char) : List Char := chars.dropWhile isSpace

/-- The value of a hexadecimal ASCII digit. -/
def plainHex? (c : Char) : Option Nat := if c.toNat < 128 then Text.hexValue? c else none

/-- The code unit of four hexadecimal digits. -/
def unitOf? (a b c d : Char) : Option Nat := do
  let a ← plainHex? a
  let b ← plainHex? b
  let c ← plainHex? c
  let d ← plainHex? d
  return 4096 * a + 256 * b + 16 * c + d

/-- The character of a one-letter escape. -/
def simpleEscape? : Char → Option Char
  | '"' => some '"'
  | '\\' => some '\\'
  | '/' => some '/'
  | 'b' => some '\x08'
  | 'f' => some '\x0c'
  | 'n' => some '\n'
  | 'r' => some '\r'
  | 't' => some '\t'
  | _ => none

/-- Joins surrogate pairs; one half of a pair alone is the replacement character. -/
def joinPairs : List Nat → List Char
  | [] => []
  | [n] => [if 0xD800 ≤ n && n < 0xE000 then '\uFFFD' else Char.ofNat n]
  | n :: m :: rest =>
    if 0xD800 ≤ n && n < 0xDC00 && 0xDC00 ≤ m && m < 0xE000 then
      Char.ofNat (0x10000 + 1024 * (n - 0xD800) + (m - 0xDC00)) :: joinPairs rest
    else if 0xD800 ≤ n && n < 0xE000 then '\uFFFD' :: joinPairs (m :: rest)
    else Char.ofNat n :: joinPairs (m :: rest)

/-- Reads the rest of a string after its opening quote, to the closing one, as code units. -/
def readUnits : List Char → Option (List Nat × List Char)
  | [] => none
  | '"' :: rest => some ([], rest)
  | '\\' :: 'u' :: a :: b :: c :: d :: rest => do
    let unit ← unitOf? a b c d
    let (units, tail) ← readUnits rest
    return (unit :: units, tail)
  | '\\' :: c :: rest => do
    let c ← simpleEscape? c
    let (units, tail) ← readUnits rest
    return (c.toNat :: units, tail)
  | c :: rest =>
    if c.toNat < 32 || c == '\\' then none
    else do
      let (units, tail) ← readUnits rest
      return (c.toNat :: units, tail)

/-- Reads the rest of a string after its opening quote, to the closing one. -/
def readString (chars : List Char) : Option (String × List Char) :=
  (readUnits chars).map fun (units, rest) => (String.ofList (joinPairs units), rest)

/-- Splits off a fraction: a point and at least one digit. -/
def readFraction : List Char → List Char × List Char
  | '.' :: c :: rest =>
    if Text.isPlainDigit c then
      (c :: rest.takeWhile Text.isPlainDigit, rest.dropWhile Text.isPlainDigit)
    else ([], '.' :: c :: rest)
  | chars => ([], chars)

/-- Splits off an exponent: its value, if there is one with at least one digit. -/
def readExponent (chars : List Char) : Option Int × List Char :=
  match chars with
  | e :: rest =>
    if e == 'e' || e == 'E' then
      let (negative, digits) := match rest with
        | '+' :: more => (false, more)
        | '-' :: more => (true, more)
        | more => (false, more)
      let shown := digits.takeWhile Text.isPlainDigit
      if shown.isEmpty then (none, chars)
      else
        let magnitude : Int := Text.digitsValue 10 shown
        (some (if negative then -magnitude else magnitude), digits.dropWhile Text.isPlainDigit)
    else (none, chars)
  | [] => (none, [])

/-- Reads a number without its sign. -/
def readMagnitude (negative : Bool) (chars : List Char) : Option (Number × List Char) :=
  let whole : Option (List Char × List Char) := match chars with
    | '0' :: rest => some (['0'], rest)
    | c :: rest =>
      if Text.isPlainDigit c then
        some (c :: rest.takeWhile Text.isPlainDigit, rest.dropWhile Text.isPlainDigit)
      else none
    | [] => none
  match whole with
  | none => none
  | some (digits, rest) =>
    let (fraction, rest) := readFraction rest
    let (exponent, rest) := readExponent rest
    if fraction.isEmpty && exponent.isNone then
      let n : Int := Text.digitsValue 10 digits
      some (.int (if negative then -n else n), rest)
    else
      let scale : Int := exponent.getD 0 - Int.ofNat fraction.length
      some (.float (.ofDecimal negative (Text.digitsValue 10 (digits ++ fraction)) scale), rest)

/-- What follows a word, if the characters begin with it. -/
def afterWord? (word : String) (chars : List Char) : Option (List Char) :=
  if word.toList.isPrefixOf chars then some (chars.drop word.toList.length) else none

/-- Reads a word. -/
def readWord? (chars : List Char) : Option (Value × List Char) :=
  let word (text : String) (value : Value) : Option (Value × List Char) :=
    (afterWord? text chars).map fun rest => (value, rest)
  word "null" .null <|> word "true" (.bool true) <|> word "false" (.bool false) <|>
    word "NaN" (.number (.float .notANumber)) <|>
    word "Infinity" (.number (.float (.infinite false))) <|>
    word "-Infinity" (.number (.float (.infinite true)))

/-- Reads a number. -/
def readNumber (chars : List Char) : Except ReadError (Value × List Char) := do
  let (number, rest) ← wellFormed <| match chars with
    | '-' :: rest => readMagnitude true rest
    | _ => readMagnitude false chars
  match number with
  | .int n =>
    if Text.hasDecimal n.natAbs then return (.number number, rest) else throw .longInteger
  | _ => return (.number number, rest)

/-- Reads a number or a word. -/
def readScalar (chars : List Char) : Except ReadError (Value × List Char) :=
  match readWord? chars with
  | some found => .ok found
  | none => readNumber chars

mutual

/--
Reads one value; the fuel bounds the number of nested steps, and `room` says how many arrays and
objects may still be opened.
-/
def readValue : Nat → Nat → List Char → Except ReadError (Value × List Char)
  | 0, _, _ => .error .malformed
  | fuel + 1, room, chars =>
    match chars with
    | '"' :: rest => do
      let (text, rest) ← wellFormed (readString rest)
      return (.text text, rest)
    | '[' :: rest =>
      match room, skipSpace rest with
      | 0, _ => .error .tooDeep
      | _ + 1, ']' :: rest => .ok (.array [], rest)
      | room + 1, rest => do
        let (items, rest) ← readItems fuel room rest
        return (.array items, rest)
    | '{' :: rest =>
      match room, skipSpace rest with
      | 0, _ => .error .tooDeep
      | _ + 1, '}' :: rest => .ok (.object [], rest)
      | room + 1, rest => do
        let (members, rest) ← readMembers fuel room [] rest
        return (.object members, rest)
    | _ => readScalar chars

/-- Reads the items of an array up to its closing bracket. -/
def readItems : Nat → Nat → List Char → Except ReadError (List Value × List Char)
  | 0, _, _ => .error .malformed
  | fuel + 1, room, chars => do
    let (item, rest) ← readValue fuel room chars
    match skipSpace rest with
    | ']' :: rest => return ([item], rest)
    | ',' :: rest =>
      let (items, rest) ← readItems fuel room (skipSpace rest)
      return (item :: items, rest)
    | _ => throw .malformed

/-- Reads the members of an object up to its closing brace and adds them to those before. -/
def readMembers : Nat → Nat → List (String × Value) → List Char →
    Except ReadError (List (String × Value) × List Char)
  | 0, _, _, _ => .error .malformed
  | fuel + 1, room, before, chars =>
    match chars with
    | '"' :: rest => do
      let (name, rest) ← wellFormed (readString rest)
      match skipSpace rest with
      | ':' :: rest =>
        let (value, rest) ← readValue fuel room (skipSpace rest)
        let members := Table.putIn name value before
        match skipSpace rest with
        | '}' :: rest => return (members, rest)
        | ',' :: rest => readMembers fuel room members (skipSpace rest)
        | _ => throw .malformed
      | _ => throw .malformed
    | _ => throw .malformed

end

/-- Reads a text as one value with blanks around it. -/
def Value.read (text : String) : Except ReadError Value := do
  let chars := text.toList
  let (value, rest) ← readValue (2 * chars.length + 2) maxNesting (skipSpace chars)
  if (skipSpace rest).isEmpty then return value else throw .malformed

end InteropGen.Json

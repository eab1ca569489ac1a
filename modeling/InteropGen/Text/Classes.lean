import InteropGen.Text.Letters
import InteropGen.Text.Numerals
import InteropGen.Text.Marks
import InteropGen.Text.Unprintable

/-!
# Character classes

Blanks, word characters, digits, identifier characters and printed characters, each over all of
Unicode. ASCII characters are decided directly, the others by the range tables.
-/

namespace InteropGen.Text

/-- Is the code point in one of the closed ranges? -/
def inRanges (n : Nat) (ranges : List (Nat × Nat)) : Bool :=
  ranges.any fun range => range.1 ≤ n && n ≤ range.2

/-- Blanks: the white space of Unicode and the four information separators. -/
def isBlank (c : Char) : Bool :=
  let n := c.toNat
  (9 ≤ n && n ≤ 13) || (28 ≤ n && n ≤ 32) || n == 0x85 || n == 0xA0 || n == 0x1680 ||
    (0x2000 ≤ n && n ≤ 0x200A) || n == 0x2028 || n == 0x2029 || n == 0x202F || n == 0x205F ||
    n == 0x3000

/-- Letters of any script. -/
def isLetter (c : Char) : Bool :=
  if c.toNat < 128 then c.isAlpha else inRanges c.toNat letterRanges

/-- The range of ten or more digits that holds a decimal digit, by its zero. -/
def digitZero? (n : Nat) : Option Nat :=
  if 48 ≤ n && n ≤ 57 then some 48
  else (decimalRanges.find? fun range => range.1 ≤ n && n ≤ range.2).map (·.1)

/-- The value of a decimal digit of any script. -/
def decimalValue? (c : Char) : Option Nat :=
  (digitZero? c.toNat).map fun first => (c.toNat - first) % 10

/-- Decimal digits of any script. -/
def isDecimal (c : Char) : Bool := (digitZero? c.toNat).isSome

/-- Decimal digits and digits without a place value, such as superscripts. -/
def isDigit (c : Char) : Bool := isDecimal c || inRanges c.toNat digitRanges

/-- Word characters: letters, numerals and the underscore. -/
def isWord (c : Char) : Bool :=
  if c.toNat < 128 then c.isAlphanum || c == '_'
  else isLetter c || isDigit c || inRanges c.toNat numeralRanges

/-- Characters that may begin an identifier. -/
def beginsIdentifier (c : Char) : Bool :=
  if c.toNat < 128 then c.isAlpha || c == '_'
  else
    (isLetter c && !inRanges c.toNat innerRanges && !inRanges c.toNat outsideRanges) ||
      inRanges c.toNat beginRanges

/-- Characters that may stand in an identifier after its first character. -/
def continuesIdentifier (c : Char) : Bool :=
  if c.toNat < 128 then c.isAlphanum || c == '_'
  else
    (isLetter c && !inRanges c.toNat outsideRanges) || isDecimal c ||
      inRanges c.toNat beginRanges || inRanges c.toNat continueRanges

/-- Characters that stand for themselves in a quoted text. -/
def isPrinted (c : Char) : Bool :=
  if c.toNat < 128 then 32 ≤ c.toNat && c.toNat < 127 else !inRanges c.toNat unprintableRanges

/-- An ASCII digit. -/
def isPlainDigit (c : Char) : Bool := '0' ≤ c && c ≤ '9'

/-- The digit of a hexadecimal value below sixteen, in lower case. -/
def hexDigit (n : Nat) : Char := "0123456789abcdef".toList.getD n '0'

/-- The value of a hexadecimal digit; letters are ASCII, digits may be of any script. -/
def hexValue? (c : Char) : Option Nat :=
  let n := c.toNat
  if 97 ≤ n && n ≤ 102 then some (n - 87)
  else if 65 ≤ n && n ≤ 70 then some (n - 55)
  else decimalValue? c

/-- The value of digits in a base up to sixteen; other characters count as zero. -/
def digitsValue (base : Nat) (digits : List Char) : Nat :=
  digits.foldl (fun n c => base * n + (hexValue? c).getD 0) 0

/-- The most digits that a decimal numeral may have; zeros in front count. -/
def maxDigits : Nat := 4300

/-- Does a number without zeros in front have a decimal numeral? -/
def hasDecimal (n : Nat) : Bool := n < Nat.pow 10 maxDigits

end InteropGen.Text

import InteropGen.Text.Basic
import InteropGen.Text.Names.Controls
import InteropGen.Text.Names.Letters
import InteropGen.Text.Names.Pictures
import InteropGen.Text.Names.Symbols

/-!
# Character names

The names that Unicode gives to characters, as an escape in a text may use them: listed names in
capital or small letters, Hangul syllables by their parts, and ideographs by their code points.
-/

namespace InteropGen.Text

/-- An ASCII text in capital letters. -/
def capitals (text : String) : String := String.ofList (text.toList.map Char.toUpper)

/-- What follows an affix at the front. -/
def afterAffix? (affix text : String) : Option String :=
  if startsWith text affix then some (dropFirst text affix.toList.length) else none

/-- Is the name in a list of groups? A group is the words that its names begin with, and endings. -/
def inNameGroups (groups : List (String × String)) (name : String) : Bool :=
  groups.any fun (front, endings) =>
    match afterAffix? (if front.isEmpty then "" else front ++ " ") name with
    | some ending => (split endings ',').any (strip · = ending)
    | none => false

/-! ## Hangul syllables -/

/-- The consonants that begin a syllable; there may be none. -/
def leadingJamo : List String :=
  ["G", "GG", "N", "D", "DD", "R", "M", "B", "BB", "S", "SS", "", "J", "JJ", "C", "K", "T", "P",
    "H"]

/-- The vowels of a syllable. -/
def vowelJamo : List String :=
  ["A", "AE", "YA", "YAE", "EO", "E", "YEO", "YE", "O", "WA", "WAE", "OE", "YO", "U", "WEO", "WE",
    "WI", "YU", "EU", "YI", "I"]

/-- The consonants that end a syllable; there may be none. -/
def trailingJamo : List String :=
  ["", "G", "GG", "GS", "N", "NJ", "NH", "D", "L", "LG", "LM", "LB", "LS", "LT", "LP", "LH", "M",
    "B", "BS", "S", "SS", "NG", "J", "C", "K", "T", "P", "H"]

/-- Is the text a syllable by the names of its parts? -/
def isSyllable (text : String) : Bool :=
  leadingJamo.any fun leading => (afterAffix? leading text).any fun rest =>
    vowelJamo.any fun vowel => (afterAffix? vowel rest).any fun ending =>
      trailingJamo.contains ending

/-! ## Ideographs -/

/-- The code points of the unified ideographs. -/
def ideographRanges : List (Nat × Nat) :=
  [(0x3400, 0x4DBF), (0x4E00, 0x9FFF), (0x20000, 0x2A6DF), (0x2A700, 0x2B738), (0x2B740, 0x2B81D),
   (0x2B820, 0x2CEA1), (0x2CEB0, 0x2EBE0), (0x30000, 0x3134A)]

/-- Is the text the code point of an ideograph in four or five hexadecimal digits? -/
def isIdeographNumber (text : String) : Bool :=
  let digits := text.toList
  (digits.length = 4 || digits.length = 5) &&
    digits.all (fun c => isPlainDigit c || ('A' ≤ c && c ≤ 'F')) &&
    inRanges (digitsValue 16 digits) ideographRanges

/-- Is there a character of that name? -/
def isCharacterName (name : String) : Bool :=
  (afterAffix? "HANGUL SYLLABLE " name).any isSyllable ||
    (afterAffix? "CJK UNIFIED IDEOGRAPH-" name).any isIdeographNumber ||
    [controlNames, letterNames, symbolNames, pictureNames].any (inNameGroups · (capitals name))

end InteropGen.Text

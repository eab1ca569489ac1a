import InteropGen.Text.Classes

/-!
# Text

Affixes, stripping, splitting and literal replacement. Every operation works on the characters of
a text, so its laws are those of lists.
-/

namespace InteropGen.Text

/-! ## Affixes -/

/-- Does the text begin with `affix`? -/
def startsWith (text affix : String) : Bool := affix.toList.isPrefixOf text.toList

/-- Does the text end with `affix`? -/
def endsWith (text affix : String) : Bool := affix.toList.isSuffixOf text.toList

/-- Does `part` stand somewhere in the characters? -/
def occursIn (part : List Char) : List Char → Bool
  | [] => part.isEmpty
  | c :: rest => part.isPrefixOf (c :: rest) || occursIn part rest

/-- Does `part` stand somewhere in the text? -/
def includes (text part : String) : Bool := occursIn part.toList text.toList

/-- The text without its first `n` characters. -/
def dropFirst (text : String) (n : Nat) : String := String.ofList (text.toList.drop n)

/-- The text without its last `n` characters. -/
def dropLast (text : String) (n : Nat) : String :=
  String.ofList (text.toList.take (text.toList.length - n))

theorem startsWith_iff {text affix : String} :
    startsWith text affix = true ↔ affix.toList <+: text.toList :=
  List.isPrefixOf_iff_prefix

theorem endsWith_iff {text affix : String} :
    endsWith text affix = true ↔ affix.toList <:+ text.toList :=
  List.isSuffixOf_iff_suffix

theorem occursIn_iff {part chars : List Char} :
    occursIn part chars = true ↔ part <:+: chars := by
  induction chars with
  | nil => simp [occursIn]
  | cons c rest ih => simp [occursIn, ih, List.infix_cons_iff]

theorem includes_iff {text part : String} :
    includes text part = true ↔ part.toList <:+: text.toList :=
  occursIn_iff

@[simp] theorem toList_dropFirst (text : String) (n : Nat) :
    (dropFirst text n).toList = text.toList.drop n :=
  String.toList_ofList

@[simp] theorem toList_dropLast (text : String) (n : Nat) :
    (dropLast text n).toList = text.toList.take (text.toList.length - n) :=
  String.toList_ofList

/-- What is cut off at the front and what is left make up the text. -/
theorem append_dropFirst {text affix : String} (h : startsWith text affix = true) :
    affix ++ dropFirst text affix.toList.length = text := by
  obtain ⟨rest, hrest⟩ := startsWith_iff.mp h
  simp [← String.toList_inj, ← hrest]

/-- What is left and what is cut off at the end make up the text. -/
theorem dropLast_append {text affix : String} (h : endsWith text affix = true) :
    dropLast text affix.toList.length ++ affix = text := by
  obtain ⟨front, hfront⟩ := endsWith_iff.mp h
  simp [← String.toList_inj, ← hfront]

/-! ## Stripping -/

/-- The characters without those of the class at the end. -/
def dropEndWhile (p : Char → Bool) (chars : List Char) : List Char :=
  (chars.reverse.dropWhile p).reverse

/-- The text without blanks at its two ends. -/
def strip (text : String) : String :=
  String.ofList (dropEndWhile isBlank (text.toList.dropWhile isBlank))

/-- The text without the given character at its end. -/
def stripEnd (text : String) (c : Char) : String :=
  String.ofList (dropEndWhile (· == c) text.toList)

/-- The text without the given character at its beginning. -/
def stripStart (text : String) (c : Char) : String :=
  String.ofList (text.toList.dropWhile (· == c))

/-! ## Splitting -/

/-- The parts between the separators; there is always at least one. -/
def splitChars (separator : Char) : List Char → List (List Char)
  | [] => [[]]
  | c :: rest =>
    if c = separator then [] :: splitChars separator rest
    else match splitChars separator rest with
      | [] => [[c]]
      | part :: parts => (c :: part) :: parts

/-- The parts of the text between the separators. -/
def split (text : String) (separator : Char) : List String :=
  (splitChars separator text.toList).map String.ofList

theorem splitChars_ne_nil (separator : Char) (chars : List Char) :
    splitChars separator chars ≠ [] := by
  cases chars with
  | nil => simp [splitChars]
  | cons c rest =>
    unfold splitChars
    repeat' split
    all_goals simp

/-- There is one part more than there are separators. -/
theorem length_splitChars (separator : Char) (chars : List Char) :
    (splitChars separator chars).length = chars.count separator + 1 := by
  induction chars with
  | nil => simp [splitChars]
  | cons c rest ih =>
    by_cases h : c = separator
    · simp [splitChars, h, ih]
    · have hne := splitChars_ne_nil separator rest
      cases hs : splitChars separator rest with
      | nil => exact absurd hs hne
      | cons part parts =>
        rw [hs] at ih
        simpa [splitChars, h, hs] using ih

/-- The parts with the separators between them are what was split. -/
theorem intercalate_splitChars (separator : Char) (chars : List Char) :
    [separator].intercalate (splitChars separator chars) = chars := by
  induction chars with
  | nil => simp [splitChars]
  | cons c rest ih =>
    have hne := splitChars_ne_nil separator rest
    cases hs : splitChars separator rest with
    | nil => exact absurd hs hne
    | cons part parts =>
      rw [hs] at ih
      by_cases h : c = separator
      · simp [splitChars, h, hs, List.intercalate_cons_cons, ih]
      · cases parts with
        | nil => simpa [splitChars, h, hs] using ih
        | cons next more =>
          simp only [splitChars, h, hs, if_false]
          rw [List.intercalate_cons_cons] at ih ⊢
          simp [← ih]

theorem intercalate_split (text : String) (separator : Char) :
    (String.singleton separator).intercalate (split text separator) = text := by
  rw [← String.toList_inj, String.toList_intercalate, split, List.map_map]
  simp [Function.comp_def, intercalate_splitChars]

/-! ## Replacement -/

/--
Replaces the hits of a pattern of `width` characters from left to right. `hit` sees the character
before a position and what follows it; `skip` counts the characters that the last hit covers.
A hit of width zero puts the value in and goes on one character later.
-/
def replaceHits (hit : Option Char → List Char → Bool) (width : Nat) (value : List Char) :
    Option Char → Nat → List Char → List Char
  | before, _, [] => if width = 0 && hit before [] then value else []
  | _, skip + 1, c :: rest => replaceHits hit width value (some c) skip rest
  | before, 0, c :: rest =>
    if hit before (c :: rest) then
      if width = 0 then value ++ c :: replaceHits hit width value (some c) 0 rest
      else value ++ replaceHits hit width value (some c) (width - 1) rest
    else c :: replaceHits hit width value (some c) 0 rest

/-- What is not hit is kept. -/
theorem replaceHits_miss {hit : Option Char → List Char → Bool} {before : Option Char} {c : Char} {rest : List Char}
    (h : ¬hit before (c :: rest) = true) (width : Nat) (value : List Char) :
    replaceHits hit width value before 0 (c :: rest) = c :: replaceHits hit width value (some c) 0 rest := by
  rw [replaceHits, if_neg h]

/-- Replaces every occurrence of a non-empty part. -/
def replace (text part value : String) : String :=
  String.ofList <|
    replaceHits (fun _ chars => part.toList.isPrefixOf chars) part.length value.toList none 0
      text.toList

/-- Escapes the three characters that XML keeps for itself. -/
def escapeXml (text : String) : String :=
  String.ofList <| text.toList.flatMap fun c =>
    if c = '&' then "&amp;".toList
    else if c = '<' then "&lt;".toList
    else if c = '>' then "&gt;".toList
    else [c]

/-! ## Words -/

/-- Is there a word boundary between the two characters, of which either may be missing? -/
def isBoundary (before after : Option Char) : Bool :=
  before.any isWord != after.any isWord

/-- Does the word stand here as a whole, with a boundary on either side? -/
def wholeWordAt (word : List Char) (before : Option Char) (chars : List Char) : Bool :=
  isBoundary before chars.head? && word.isPrefixOf chars &&
    isBoundary (word.getLast?.or before) (chars.drop word.length).head?

/-- Replaces every whole-word occurrence of `word`. -/
def replaceWord (text word value : String) : String :=
  String.ofList <|
    replaceHits (wholeWordAt word.toList) word.toList.length value.toList none 0 text.toList

/-- Is the text one or more word characters? -/
def isWordText (text : String) : Bool := !text.toList.isEmpty && text.toList.all isWord

/-- Decimal text of an integer. -/
def ofInt : Int → String
  | .ofNat n => String.ofList (Nat.toDigits 10 n)
  | .negSucc n => String.ofList ('-' :: Nat.toDigits 10 (n + 1))

end InteropGen.Text

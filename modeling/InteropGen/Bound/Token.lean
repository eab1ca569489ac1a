import InteropGen.Bound.Quoted

/-!
# Tokens of a bound

The bound of an array is written in an expression language with integers, names, operators,
brackets, texts and keywords. This module splits a text into tokens. Blanks between tokens mean
nothing, a `#` begins a comment, a backslash joins a line with the next one, and line ends count
only outside of brackets. The expressions in a formatted text become tokens behind it, each in
parentheses.
-/

namespace InteropGen.Bound

/--
A token; `hole` stands before each expression of a formatted text, `lineEnd` ends a line outside of
brackets, and `indent` moves a later line to the right.
-/
inductive Token
  | int (value : Nat)
  | fraction
  | quoted (bytes : Bool)
  | hole
  | name (text : String)
  | keyword (text : String)
  | sym (text : String)
  | lineEnd
  | indent
  deriving DecidableEq, Repr

/-! ## Characters -/

/-- A digit below eight. -/
def isOctal (c : Char) : Bool := '0' ≤ c && c ≤ '7'

/-- Zero or one. -/
def isBinary (c : Char) : Bool := c == '0' || c == '1'

/-- Blanks that only separate tokens. -/
def isGap (c : Char) : Bool := c == ' ' || c == '\t' || c == '\x0c'

/-- Characters that a word of the language may be made of; those beyond ASCII are checked later. -/
def isWordPart (c : Char) : Bool := c.isAlphanum || c == '_' || 128 ≤ c.toNat

/-! ## Numbers -/

/-- The digits of a class at the front, each after at most one underscore, and what follows. -/
def digitRun (ok : Char → Bool) : List Char → List Char × List Char
  | [] => ([], [])
  | c :: rest =>
    if ok c then
      let (digits, after) := digitRun ok rest
      (c :: digits, after)
    else if c = '_' then
      match rest with
      | d :: more =>
        if ok d then
          let (digits, after) := digitRun ok more
          (d :: digits, after)
        else ([], c :: rest)
      | [] => ([], c :: rest)
    else ([], c :: rest)

/--
May a number end here? A word may not follow it directly, except one that begins like a keyword
which can stand after a number.
-/
def numberEnds (chars : List Char) : Bool :=
  match chars with
  | [] => true
  | c :: _ =>
    !isWordPart c ||
      ["and", "else", "for", "if", "in", "is", "or", "not"].any fun word =>
        word.toList.isPrefixOf chars

/-- A number in base sixteen, eight or two, after its two-character mark. -/
def basedNumber? (base : Nat) (ok : Char → Bool) (chars : List Char) :
    Option (Token × List Char) :=
  let (digits, rest) := digitRun ok chars
  if digits.isEmpty || !numberEnds rest then none
  else some (.int (Text.digitsValue base digits), rest)

/-- What follows an exponent, if there is one with at least one digit. -/
def afterExponent? : List Char → Option (List Char)
  | e :: rest =>
    if e == 'e' || e == 'E' then
      let digits := match rest with
        | '+' :: more => more
        | '-' :: more => more
        | more => more
      match digits with
      | d :: _ => if Text.isPlainDigit d then some (digitRun Text.isPlainDigit digits).2 else none
      | [] => none
    else none
  | [] => none

/--
A decimal number: an integer without zeros in front and with no more digits than numbers may have,
or a number with a point, an exponent or a unit. Directly before `else` an integer with zeros in
front is read as a fraction.
-/
def decimalNumber? (chars : List Char) : Option (Token × List Char) :=
  let (whole, rest) := digitRun Text.isPlainDigit chars
  let (hasPoint, rest) := match rest with
    | '.' :: d :: more =>
      (true, if Text.isPlainDigit d then (digitRun Text.isPlainDigit (d :: more)).2 else d :: more)
    | ['.'] => (true, [])
    | _ => (false, rest)
  let (hasExponent, rest) := match afterExponent? rest with
    | some after => (true, after)
    | none => (false, rest)
  let (isImaginary, rest) := match rest with
    | 'j' :: after => (true, after)
    | 'J' :: after => (true, after)
    | _ => (false, rest)
  if !numberEnds rest then none
  else if hasPoint || hasExponent || isImaginary then some (.fraction, rest)
  else if whole.all (· == '0') then some (.int 0, rest)
  else if whole.head? == some '0' then
    if "else".toList.isPrefixOf rest then some (.fraction, rest) else none
  else
    let n := Text.digitsValue 10 whole
    if Text.hasDecimal n then some (.int n, rest) else none

/-- A number at the front. -/
def number? : List Char → Option (Token × List Char)
  | '0' :: mark :: rest =>
    if mark == 'x' || mark == 'X' then basedNumber? 16 isHex rest
    else if mark == 'o' || mark == 'O' then basedNumber? 8 isOctal rest
    else if mark == 'b' || mark == 'B' then basedNumber? 2 isBinary rest
    else decimalNumber? ('0' :: mark :: rest)
  | chars => decimalNumber? chars

/-! ## Words and symbols -/

/-- Words that are no names. -/
def keywords : List String :=
  ["False", "None", "True", "and", "as", "assert", "async", "await", "break", "class", "continue",
    "def", "del", "elif", "else", "except", "finally", "for", "from", "global", "if", "import",
    "in", "is", "lambda", "nonlocal", "not", "or", "pass", "raise", "return", "try", "while",
    "with", "yield"]

/-- A word at the front. -/
def word? (chars : List Char) : Option (Token × List Char) :=
  let word := chars.takeWhile isWordPart
  match word with
  | [] => none
  | first :: more =>
    if Text.beginsIdentifier first && more.all Text.continuesIdentifier then
      let text := String.ofList word
      some (if keywords.contains text then .keyword text else .name text, chars.drop word.length)
    else none

/-- The symbols, longer ones first. -/
def symbols : List String :=
  ["**=", "//=", ">>=", "<<=", "...", "**", "//", "<<", ">>", "<=", ">=", "==", "!=", "->", ":=",
    "+=", "-=", "*=", "/=", "%=", "@=", "&=", "|=", "^=", "<>", "+", "-", "*", "/", "%", "@", "&",
    "|", "^", "~", "<", ">", "(", ")", "[", "]", "\x7b", "\x7d", ",", ":", ".", ";", "=", "!"]

/-- The longest symbol at the front. -/
def symbol? (chars : List Char) : Option (Token × List Char) :=
  (symbols.find? fun text => text.toList.isPrefixOf chars).map fun text =>
    (.sym text, chars.drop text.toList.length)

/-- Does a number begin here? -/
def numberBegins : List Char → Bool
  | '.' :: d :: _ => Text.isPlainDigit d
  | c :: _ => Text.isPlainDigit c
  | [] => false

/-- The number, word or symbol at the front. -/
def token? (chars : List Char) : Option (Token × List Char) :=
  if numberBegins chars then number? chars
  else match chars with
    | c :: _ => if isWordPart c then word? chars else symbol? chars
    | [] => none

/-! ## A whole text -/

/-- Writes every line end as one character. -/
def unifyLineEnds : List Char → List Char
  | [] => []
  | '\r' :: '\n' :: rest => '\n' :: unifyLineEnds rest
  | '\r' :: rest => '\n' :: unifyLineEnds rest
  | c :: rest => c :: unifyLineEnds rest

@[simp] theorem unifyLineEnds_nil : unifyLineEnds [] = [] := rfl

theorem unifyLineEnds_return {rest : List Char} (h : rest.head? ≠ some '\n') :
    unifyLineEnds ('\r' :: rest) = '\n' :: unifyLineEnds rest := by
  rw [unifyLineEnds]
  rintro _ rfl
  exact h rfl

theorem unifyLineEnds_cons {c : Char} (hc : c ≠ '\r') (rest : List Char) :
    unifyLineEnds (c :: rest) = c :: unifyLineEnds rest := by
  rw [unifyLineEnds]
  · exact fun _ heq => absurd heq hc
  · exact hc

/-- How many brackets may be open at once. -/
def maxDepth : Nat := 200

/-- The depth of brackets after a token, if it is not too great. -/
def depthAfter? (depth : Nat) : Token → Option Nat
  | .sym text =>
    if text = "(" || text = "[" || text = "\x7b" then
      if depth < maxDepth then some (depth + 1) else none
    else if text = ")" || text = "]" || text = "\x7d" then some (depth - 1)
    else some depth
  | _ => some depth

/-- Do blanks move what follows them to the right? A form feed goes back to the margin. -/
def isIndented (chars : List Char) : Bool :=
  ((chars.takeWhile isGap).reverse.head?).any (· != '\x0c')

/--
The tokens of the characters. `depth` counts open brackets, `fresh` says that the line has no token
yet, and `later` that it is not the first one.
-/
def tokens : Nat → Nat → Bool → Bool → List Char → Option (List Token)
  | 0, _, _, _, _ => none
  | fuel + 1, depth, fresh, later, chars =>
    match chars with
    | [] => some []
    | c :: rest =>
      if isGap c then
        let after := rest.dropWhile isGap
        let hasCode := match after with
          | d :: _ => d != '#' && d != '\n'
          | [] => false
        if fresh && later && depth = 0 && hasCode && isIndented chars then
          (tokens fuel depth false later after).map (.indent :: ·)
        else tokens fuel depth fresh later after
      else if c = '#' then tokens fuel depth fresh later (rest.dropWhile (· != '\n'))
      else if c = '\n' then
        if 0 < depth then tokens fuel depth fresh later rest
        else if fresh then tokens fuel depth true true rest
        else (tokens fuel depth true true rest).map (.lineEnd :: ·)
      else if c = '\\' then
        match rest with
        | '\n' :: more => tokens fuel depth fresh (later || fresh) more
        | _ => none
      else match Quoted.split? chars with
        | some (quoted, after) => do
          let holes ← quoted.holes?
          let inner ← holes.mapM fun hole => tokens fuel 0 true false ('(' :: hole ++ [')'])
          let more ← tokens fuel depth false later after
          return .quoted quoted.isBytes :: inner.flatMap (.hole :: ·) ++ more
        | none => do
          let (token, after) ← token? chars
          let depth ← depthAfter? depth token
          return token :: (← tokens fuel depth false later after)

/-- The tokens of a text, or none if some part of it is no token. -/
def tokensOf? (text : String) : Option (List Token) :=
  let chars := unifyLineEnds text.toList
  tokens (chars.length + 1) 0 true false chars

end InteropGen.Bound

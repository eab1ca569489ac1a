import InteropGen.Text.Names

/-!
# Quoted texts of bounds

A bound may hold texts in quotation marks; letters in front say whether one holds bytes, keeps its
backslashes, or is formatted. A text counts only if its escapes are complete, and a formatted one
only if every brace in it opens or closes a hole: an expression with a format. `holes?` gives the
expressions in the holes.
-/

namespace InteropGen.Bound

/-- A quoted text: the letters in front of it, in small letters, and what is between the marks. -/
structure Quoted where
  letters : String
  content : List Char

namespace Quoted

/-- Does the text hold bytes? -/
def isBytes (q : Quoted) : Bool := q.letters.toList.contains 'b'

/-- Does a backslash stand for itself? -/
def isRaw (q : Quoted) : Bool := q.letters.toList.contains 'r'

/-- Does the text have holes? -/
def isFormatted (q : Quoted) : Bool := q.letters.toList.contains 'f'

end Quoted

/-- A hexadecimal digit. -/
def isHex (c : Char) : Bool :=
  Text.isPlainDigit c || ('a' ≤ c && c ≤ 'f') || ('A' ≤ c && c ≤ 'F')

/-! ## Where a text ends -/

/-- A text in single marks and what follows; it ends on its line unless the line end is escaped. -/
def splitQuoted (mark : Char) : List Char → Option (List Char × List Char)
  | [] => none
  | '\\' :: c :: rest =>
    (splitQuoted mark rest).map fun (content, after) => ('\\' :: c :: content, after)
  | c :: rest =>
    if c = mark then some ([], rest)
    else if c = '\n' then none
    else (splitQuoted mark rest).map fun (content, after) => (c :: content, after)

/-- A text in triple marks and what follows. -/
def splitTriple (mark : Char) : List Char → Option (List Char × List Char)
  | [] => none
  | '\\' :: c :: rest =>
    (splitTriple mark rest).map fun (content, after) => ('\\' :: c :: content, after)
  | c :: rest =>
    if c = mark && [mark, mark].isPrefixOf rest then some ([], rest.drop 2)
    else (splitTriple mark rest).map fun (content, after) => (c :: content, after)

/-- The letters that may stand in front of a text. -/
def textMarks : List String := ["", "b", "u", "r", "f", "br", "rb", "fr", "rf"]

/-- A text at the front, and what follows. -/
def Quoted.split? (chars : List Char) : Option (Quoted × List Char) :=
  let letters := chars.takeWhile Char.isAlpha
  let kind := String.ofList (letters.map Char.toLower)
  match chars.drop letters.length with
  | mark :: rest =>
    if (mark == '"' || mark == '\'') && textMarks.contains kind then
      let parts :=
        if [mark, mark].isPrefixOf rest then splitTriple mark (rest.drop 2)
        else splitQuoted mark rest
      parts.map fun (content, after) => (⟨kind, content⟩, after)
    else none
  | [] => none

/-! ## Escapes -/

/-- The hexadecimal digits that an escape with this letter has; those of bytes have no others. -/
def escapeWidth? (bytes : Bool) (c : Char) : Option Nat :=
  if c = 'x' then some 2
  else if bytes then none
  else if c = 'u' then some 4
  else if c = 'U' then some 8
  else none

/-- Does a character by its number or its name begin here, after the backslash? -/
def isEscape (bytes : Bool) (c : Char) (rest : List Char) : Bool :=
  match escapeWidth? bytes c with
  | some width =>
    let digits := rest.take width
    digits.length = width && digits.all isHex && Text.digitsValue 16 digits < 0x110000
  | none =>
    if c = 'N' && !bytes then
      let name := (rest.drop 1).takeWhile (· != '\x7d')
      rest.head? == some '\x7b' && (rest.drop (name.length + 1)).head? == some '\x7d' &&
        Text.isCharacterName (String.ofList name)
    else true

/-- Are all escapes complete? -/
def escapesComplete (bytes : Bool) : List Char → Bool
  | '\\' :: c :: rest => isEscape bytes c rest && escapesComplete bytes rest
  | _ :: rest => escapesComplete bytes rest
  | [] => true

/-! ## Holes -/

/--
The characters of a formatted text up to a single brace, and what follows from it on. Two braces
are one brace of the text unless the text is itself the format of a hole, and braces around the name
of a character are none.
-/
def splitLiteral (raw nested : Bool) : Nat → List Char → List Char × List Char
  | 0, chars => ([], chars)
  | fuel + 1, chars =>
    let keep (front rest : List Char) : List Char × List Char :=
      let (literal, after) := splitLiteral raw nested fuel rest
      (front ++ literal, after)
    let brace (front : List Char) (c : Char) (rest : List Char) : List Char × List Char :=
      if !nested && rest.head? == some c then keep (front ++ [c]) (rest.drop 1)
      else (front, c :: rest)
    match chars with
    | [] => ([], [])
    | c :: rest =>
      if c = '\\' && !raw then
        match rest with
        | 'N' :: '\x7b' :: more =>
          let name := more.takeWhile (· != '\x7d')
          keep ('\\' :: 'N' :: '\x7b' :: name ++ (more.drop name.length).take 1)
            (more.drop (name.length + 1))
        | d :: more =>
          if d = '\x7b' || d = '\x7d' then brace ['\\'] d more else keep ['\\', d] more
        | [] => (['\\'], [])
      else if c = '\x7b' || c = '\x7d' then brace [] c rest
      else keep [c] rest

/-- The bracket that closes another one. -/
def closing? (c : Char) : Option Char :=
  if c = '(' then some ')'
  else if c = '[' then some ']'
  else if c = '\x7b' then some '\x7d'
  else none

/-- Is it a closing bracket? -/
def isCloser (c : Char) : Bool := c = ')' || c = ']' || c = '\x7d'

/-- The rest of a text in triple marks, with the marks at its end, and what follows. -/
def spanTriple (mark : Char) : List Char → Option (List Char × List Char)
  | [] => none
  | c :: rest =>
    if c = mark && [mark, mark].isPrefixOf rest then some ([mark, mark, mark], rest.drop 2)
    else (spanTriple mark rest).map fun (text, after) => (c :: text, after)

/-- A text in a hole, behind its first mark: the text with its marks, and what follows. -/
def spanText (mark : Char) (chars : List Char) : Option (List Char × List Char) :=
  if [mark, mark].isPrefixOf chars then
    (spanTriple mark (chars.drop 2)).map fun (text, after) => (mark :: mark :: mark :: text, after)
  else
    let inside := chars.takeWhile (· != mark)
    if inside.length < chars.length then
      some (mark :: inside ++ [mark], chars.drop (inside.length + 1))
    else none

/-- Does the expression in a hole end at a character outside of brackets, before what follows? -/
def endsHole (c : Char) (rest : List Char) : Bool :=
  c = ':' || c = '\x7d' || ((c = '!' || c = '=') && rest.head? != some '=')

/--
The expression in a hole and what follows from its end on. The expression has no backslash and no
comment; `closers` are the brackets that must close before it ends.
-/
def splitHole : Nat → List Char → List Char → Option (List Char × List Char)
  | 0, _, _ => none
  | fuel + 1, closers, chars =>
    let keep (front closers rest : List Char) : Option (List Char × List Char) :=
      (splitHole fuel closers rest).map fun (expression, after) => (front ++ expression, after)
    match chars with
    | [] => none
    | c :: rest =>
      if c = '\\' || c = '#' then none
      else if c = '"' || c = '\'' then do
        let (text, after) ← spanText c rest
        if text.contains '\\' then none else keep text closers after
      else match closing? c, closers with
        | some closer, _ => keep [c] (closer :: closers) rest
        | none, closer :: outer =>
          if c = closer then keep [c] outer rest
          else if isCloser c then none
          else keep [c] closers rest
        | none, [] =>
          if endsHole c rest then some ([], c :: rest)
          else if isCloser c then none
          else if (c = '!' || c = '=' || c = '<' || c = '>') && rest.head? == some '=' then
            keep [c, '='] [] (rest.drop 1)
          else keep [c] [] rest

/-- The blanks of an expression. -/
def isHoleBlank (c : Char) : Bool := c == ' ' || c == '\t' || c == '\n' || c == '\x0c'

/-- What follows the sign that an expression shows its own text, and the blanks after it. -/
def afterShown : List Char → List Char
  | '=' :: rest => rest.dropWhile fun c => isHoleBlank c || c == '\r' || c == '\x0b'
  | chars => chars

/-- What follows the conversion of a value, if there is one. -/
def afterConversion? : List Char → Option (List Char)
  | '!' :: c :: rest => if c = 's' || c = 'r' || c = 'a' then some rest else none
  | ['!'] => none
  | chars => some chars

/--
The expressions in the holes of a formatted text, up to its end or to the brace that ends the format
of a hole. A hole may stand in the format of a hole, but no deeper.
-/
def splitHoles (raw : Bool) : Nat → Nat → List Char → Option (List (List Char) × List Char)
  | 0, _, _ => none
  | fuel + 1, depth, chars =>
    let (literal, rest) := splitLiteral raw (0 < depth) (chars.length + 1) chars
    if !raw && !escapesComplete false literal then none
    else match rest with
      | '\x7b' :: rest =>
        if 2 ≤ depth then none
        else do
          let (expression, rest) ← splitHole (rest.length + 1) [] rest
          if expression.all isHoleBlank then none
          else
            let rest ← afterConversion? (afterShown rest)
            let (inner, rest) ← match rest with
              | ':' :: format => splitHoles raw fuel (depth + 1) format
              | rest => some ([], rest)
            match rest with
            | '\x7d' :: rest =>
              let (more, rest) ← splitHoles raw fuel depth rest
              return (expression :: inner ++ more, rest)
            | _ => none
      | rest => some ([], rest)

/-- The expressions in the holes of a text, or none if the text breaks a rule. -/
def Quoted.holes? (q : Quoted) : Option (List (List Char)) :=
  if q.isFormatted then
    match splitHoles q.isRaw (q.content.length + 1) 0 q.content with
    | some (holes, []) => some holes
    | _ => none
  else if q.isBytes && q.content.any (128 ≤ ·.toNat) then none
  else if q.isRaw || escapesComplete q.isBytes q.content then some []
  else none

end InteropGen.Bound

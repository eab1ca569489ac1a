import InteropGen.Decl.Basic
import InteropGen.Identifier

/-!
# Tidying declarations

Two changes to a finished tree: comments lose the marker of line comments, and the elements of enums
lose the stem of their enum's name, in their names and in the texts of their values.
-/

namespace InteropGen.Decl

/-! ## Comments -/

/-- The head with comments without markers. -/
def Head.uncomment (head : Head) : Head :=
  { head with
    attached := head.attached.map Identifier.uncomment
    preceding := head.preceding.map Identifier.uncomment }

/-- The field with comments without markers. -/
def Field.uncomment : Field → Field
  | single head type => single head.uncomment type
  | buffer head type size => buffer head.uncomment type size

mutual

/-- The declaration and all it holds with comments without markers. -/
def uncomment : Decl → Decl
  | group form head members => group form head.uncomment (uncommentAll members)
  | enum e => enum { e with
      head := e.head.uncomment
      elements := e.elements.map fun element => { element with head := element.head.uncomment } }
  | field f => field f.uncomment
  | constant c => constant { c with head := c.head.uncomment }
  | method m => method { m with head := m.head.uncomment }
  | delegate d => delegate { d with head := d.head.uncomment }
  | accessor a => accessor { a with head := a.head.uncomment }
  | wrapper w => wrapper { w with head := w.head.uncomment }
  | unplanned w => unplanned { w with head := w.head.uncomment }
  | element e => element { e with head := e.head.uncomment }
  | parameter p => parameter p

/-- Declarations with comments without markers. -/
def uncommentAll : List Decl → List Decl
  | [] => []
  | decl :: rest => uncomment decl :: uncommentAll rest

end

/-! ## Names of elements -/

/-- Does the stem and an underscore begin a word here, with what is asked for after it? -/
def stemAt (stem : List Char) (next : List Char → Bool) (before : Option Char)
    (chars : List Char) : Bool :=
  Text.isBoundary before chars.head? && stem.isPrefixOf chars && next (chars.drop stem.length)

/-- Is the first character a decimal digit? -/
def beginsWithDigit (chars : List Char) : Bool := chars.head?.any Text.isDecimal

/-- Replaces the stem where it begins a word before what is asked for. -/
def replaceStem (stem : List Char) (next : List Char → Bool) (value text : List Char) : List Char :=
  Text.replaceHits (stemAt stem next) stem.length value none 0 text

/--
A text without the stem and the underscore at the beginning of its words. A word that would begin
with a digit keeps an underscore.
-/
def dropStem (stem text : String) : String :=
  let stem := stem.toList ++ ['_']
  String.ofList <|
    replaceStem stem (fun _ => true) [] (replaceStem stem beginsWithDigit ['_'] text.toList)

/-- The enum with elements without its stem. -/
def Enum.dropStems (e : Enum) : Enum :=
  let stem := Text.stripEnd e.nativeName '_'
  { e with elements := e.elements.map fun element =>
      { element with
        head := { element.head with name := dropStem stem element.head.name }
        value := dropStem stem element.value } }

mutual

/-- The declaration with all enums in it without stems. -/
def dropStems : Decl → Decl
  | group form head members => group form head (dropStemsAll members)
  | enum e => enum e.dropStems
  | other => other

/-- Declarations with enums without stems. -/
def dropStemsAll : List Decl → List Decl
  | [] => []
  | decl :: rest => dropStems decl :: dropStemsAll rest

end

end InteropGen.Decl

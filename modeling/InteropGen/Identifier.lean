import InteropGen.Table
import InteropGen.Text.Basic

/-!
# Identifiers

How the names of a C library become C# names: reserved words are escaped, the prefix of a name is
what stands before its last underscore, and some name patterns carry a meaning of their own.
-/

namespace InteropGen.Identifier

/-- Reserved words of C# that occur as names in C. -/
def reserved : List String :=
  ["base", "checked", "event", "fixed", "in", "lock", "object", "operator", "out", "params", "ref",
    "string", "var"]

/-- Marks a reserved word as a name. -/
def escape (name : String) : String := if reserved.contains name then "@" ++ name else name

/-- The name without the marks of an escaped word. -/
def bare (name : String) : String := Text.stripStart name '@'

/-- The name of the native local for an argument. -/
def nativeLocal (name : String) : String := "native_" ++ bare name

/-- The part of a name after its last underscore. -/
def lastSegment (name : String) : String := ((Text.split name '_').getLast?).getD ""

/-- The name of an enum: without the underscore that C puts at its end. -/
def ofEnum (name : String) : String :=
  if Text.endsWith name "_" then Text.dropLast name 1 else name

/-- Does the name of a field say that it holds text that ends in a zero? -/
def namesText (name : String) : Bool := Text.includes name "Filename" || Text.endsWith name "Name"

/--
Is the function a method of the struct? The part before the last underscore, up to an underscore
before that, is the struct's name.
-/
def pairsWith (function struct : String) : Bool :=
  match (Text.split function '_').reverse with
  | _ :: owner :: _ => owner = struct
  | _ => false

/-- A comment without the marker of a line comment and one blank. -/
def uncomment (text : String) : String :=
  if Text.startsWith text "// " then Text.dropFirst text 3 else text

end InteropGen.Identifier

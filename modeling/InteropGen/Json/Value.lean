import InteropGen.Decimal.Shortest
import InteropGen.Table
import InteropGen.Text.Basic

/-!
# JSON values

A document keeps the order of the members of its objects and tells integers from other numbers.
-/

namespace InteropGen.Json

/-- A number: an integer of any size, or a double. -/
inductive Number
  | int (value : Int)
  | float (value : Decimal.Binary64)
  deriving DecidableEq, Repr

namespace Number

/-- The integer that the number is, if it is one. -/
def toInt? : Number → Option Int
  | .int value => some value
  | .float value => value.toInt?

/-- Decimal text of the number. -/
def toText : Number → String
  | .int value => Text.ofInt value
  | .float value => value.toText

end Number

/-- A JSON value. -/
inductive Value
  | null
  | bool (value : Bool)
  | number (value : Number)
  | text (value : String)
  | array (items : List Value)
  | object (members : List (String × Value))
  deriving Repr

namespace Value

instance : Inhabited Value := ⟨.null⟩

/-- The value of a member of an object. -/
def member? : Value → String → Option Value
  | .object members, name => Table.lookupIn name members
  | _, _ => none

end Value

end InteropGen.Json

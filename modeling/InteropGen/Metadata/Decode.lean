import InteropGen.Metadata.Basic
import InteropGen.Metadata.Shape

/-!
# Reading metadata from JSON

`Metadata.ofValue` checks the shape of a document and then reads it. The readers of the parts are
partial only where a name or the form of a type is absent, which the shape excludes.
-/

namespace InteropGen

open Json

namespace Json.Value

/-- The text that a value is. -/
def asText? : Value → Option String
  | .text chars => some chars
  | _ => none

/-- The items of a list, none for other values. -/
def items : Value → List Value
  | .array values => values
  | _ => []

/-- Is the value an object with members? -/
def hasMembers : Value → Bool
  | .object (_ :: _) => true
  | _ => false

/-- A member that is a text. -/
def textAt? (value : Value) (name : String) : Option String := (value.member? name).bind asText?

/-- The items of a member that is a list. -/
def itemsAt (value : Value) (name : String) : List Value :=
  ((value.member? name).map items).getD []

/-- The texts in a member that is a list. -/
def textsAt (value : Value) (name : String) : List String :=
  (value.itemsAt name).filterMap asText?

/-- Is a member the word for true? -/
def flagAt (value : Value) (name : String) : Bool := value.member? name matches some (.bool true)

end Json.Value

/-! ## Types -/

mutual

/-- Reads the structure of a type; a type at any depth without a form is no type. -/
def NativeType.ofValue? : Value → Option NativeType
  | .object members => do
    let kind ← (Table.lookupIn "kind" members).bind Value.asText?
    NativeType.withMembers? { kind := .ofWord kind } members
  | _ => none

/--
Sets the parts of a type that the members give; an inner type or a result without members is none.
-/
def NativeType.withMembers? (t : NativeType) : List (String × Value) → Option NativeType
  | [] => some t
  | (name, value) :: members =>
    if name = "builtin_type" then { t with builtin := value.asText? }.withMembers? members
    else if name = "name" then { t with name := value.asText? }.withMembers? members
    else if name = "bounds" then { t with bounds := value.asText? }.withMembers? members
    else if name = "storage_classes" then
      { t with storage := value.items.filterMap Value.asText? }.withMembers? members
    else if name = "inner_type" && value.hasMembers then do
      let inner ← NativeType.ofValue? value
      { t with inner := some inner }.withMembers? members
    else if name = "return_type" && value.hasMembers then do
      let result ← NativeType.ofValue? value
      { t with result := some result }.withMembers? members
    else if name = "parameters" then
      match value with
      | .array values => do
        let parameters ← NativeType.listOf? values
        { t with parameters := parameters }.withMembers? members
      | _ => t.withMembers? members
    else t.withMembers? members

/-- Reads a list of types. -/
def NativeType.listOf? : List Value → Option (List NativeType)
  | [] => some []
  | value :: values => do
    let first ← NativeType.ofValue? value
    let rest ← NativeType.listOf? values
    return first :: rest

end

/-! ## Items -/

/-- Reads the comments of an item. -/
def Comments.of? (item : Value) : Option Comments :=
  match item.member? "comments" with
  | none | some .null => none
  | some comments => some ⟨comments.textAt? "attached", comments.textsAt "preceding"⟩

/-- Reads one guard. -/
def Guard.ofValue? (value : Value) : Option Guard := do
  let condition ← value.textAt? "condition"
  let expression ← value.textAt? "expression"
  return ⟨.ofWord condition, expression⟩

/-- Reads the guards of an item. -/
def Guard.listOf? (item : Value) : Option (List Guard) :=
  (item.itemsAt "conditionals").mapM Guard.ofValue?

namespace Metadata

/-- Reads a declared type. -/
def TypeInfo.ofValue? (value : Value) : Option TypeInfo := do
  let type ← (value.member? "description").bind NativeType.ofValue?
  return ⟨(value.textAt? "declaration").getD "", type⟩

/-- Reads a define. -/
def Define.ofValue? (value : Value) : Option Define := do
  let name ← value.textAt? "name"
  let guards ← Guard.listOf? value
  return ⟨name, value.textAt? "content", guards, Comments.of? value⟩

/-- Reads an element of an enum; without a value it is zero. -/
def EnumElement.ofValue? (value : Value) : Option EnumElement := do
  let name ← value.textAt? "name"
  let guards ← Guard.listOf? value
  let number := match value.member? "value" with
    | some (.number n) => n
    | _ => .int 0
  return ⟨name, number, value.textAt? "value_expression", guards, Comments.of? value⟩

/-- Reads an enum. -/
def Enum.ofValue? (value : Value) : Option Enum := do
  let name ← value.textAt? "name"
  let elements ← (value.itemsAt "elements").mapM EnumElement.ofValue?
  let guards ← Guard.listOf? value
  return ⟨name, elements, value.flagAt "is_flags_enum", guards, Comments.of? value⟩

/-- Reads a typedef. -/
def Typedef.ofValue? (value : Value) : Option Typedef := do
  let name ← value.textAt? "name"
  let info ← (value.member? "type").bind TypeInfo.ofValue?
  let guards ← Guard.listOf? value
  return ⟨name, info, guards, Comments.of? value⟩

/-- Reads a field of a struct. -/
def Field.ofValue? (value : Value) : Option Field := do
  let name ← value.textAt? "name"
  let info ← (value.member? "type").bind TypeInfo.ofValue?
  let guards ← Guard.listOf? value
  return ⟨name, info, value.flagAt "is_array", value.textAt? "array_bounds", guards,
    Comments.of? value⟩

/-- Reads a struct. -/
def Struct.ofValue? (value : Value) : Option Struct := do
  let name ← value.textAt? "name"
  let fields ← (value.itemsAt "fields").mapM Field.ofValue?
  let guards ← Guard.listOf? value
  return ⟨name, fields, guards, Comments.of? value⟩

/-- Reads an argument of a function. -/
def Argument.ofValue? (value : Value) : Option Argument := do
  let info ← match value.member? "type" with
    | none | some .null => some none
    | some info => (TypeInfo.ofValue? info).map some
  return ⟨(value.textAt? "name").getD "", info, value.textAt? "default_value",
    value.flagAt "is_varargs"⟩

/-- Reads a function. -/
def Function.ofValue? (value : Value) : Option Function := do
  let name ← value.textAt? "name"
  let result ← (value.member? "return_type").bind TypeInfo.ofValue?
  let arguments ← (value.itemsAt "arguments").mapM Argument.ofValue?
  let guards ← Guard.listOf? value
  return ⟨name, result, arguments, guards, Comments.of? value⟩

/-- Reads a document whose shape is right. -/
def decode? (value : Value) : Option Metadata := do
  let defines ← (value.itemsAt "defines").mapM Define.ofValue?
  let enums ← (value.itemsAt "enums").mapM Enum.ofValue?
  let typedefs ← (value.itemsAt "typedefs").mapM Typedef.ofValue?
  let structs ← (value.itemsAt "structs").mapM Struct.ofValue?
  let functions ← (value.itemsAt "functions").mapM Function.ofValue?
  return ⟨defines, enums, typedefs, structs, functions⟩

/-- Why a document is no metadata: a violation of its shape, or a type without a form. -/
inductive Rejection
  | shape (violation : Violation)
  | formless
  deriving Repr

/-- Checks the shape of a document and reads it. -/
def ofValue (value : Value) : Except Rejection Metadata :=
  match firstViolation? value with
  | some violation => .error (.shape violation)
  | none =>
    match decode? value with
    | some metadata => .ok metadata
    | none => .error .formless

end Metadata

end InteropGen

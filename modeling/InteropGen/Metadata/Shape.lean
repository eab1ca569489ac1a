import InteropGen.Json.Display

/-!
# The shape of a metadata document

Which JSON values are metadata documents, and what is wrong with the others. A `Shape` describes a
value; `Shape.problems` are the faults of a value's own node, `violations` those of the whole
value with the path to each node, and `firstViolation?` the one that a message reports: of least
path, and of several at one node the first.
-/

namespace InteropGen.Metadata

open Json

/-- The shapes of a metadata document and its parts. -/
inductive Shape
  | text
  | flag
  | integer
  | word (choices : List String)
  | list (item : Shape)
  | record (required : List String) (fields : List (String × Shape))
  | type

namespace Shape

/-- The words for the forms of a type. -/
def kindWords : List String := ["Builtin", "User", "Pointer", "Array", "Function", "Type"]

/-- The fields of a type. -/
def typeFields : List (String × Shape) :=
  [("kind", word kindWords), ("builtin_type", text), ("name", text), ("bounds", text),
    ("inner_type", type), ("return_type", type), ("parameters", list type),
    ("storage_classes", list text)]

/-- The fields that an object of the shape may have. -/
def fields : Shape → List (String × Shape)
  | record _ fields => fields
  | type => typeFields
  | _ => []

/-- The shape of the items of a list. -/
def item? : Shape → Option Shape
  | list item => some item
  | _ => none

/-- The word for the values of a shape. -/
def typeWord : Shape → String
  | text => "string"
  | flag => "boolean"
  | integer => "integer"
  | list _ => "array"
  | _ => "object"

/-- Comments around an item. -/
def comments : Shape := record [] [("attached", text), ("preceding", list text)]

/-- The guards around an item. -/
def guards : Shape :=
  list <| record ["condition", "expression"]
    [("condition", word ["ifdef", "ifndef", "if", "ifnot"]), ("expression", text)]

/-- A declared type. -/
def typeInfo : Shape := record ["description"] [("declaration", text), ("description", type)]

/-- An item with guards and comments: what it requires and its own fields. -/
def guarded (required : List String) (own : List (String × Shape)) : Shape :=
  record required (own ++ [("conditionals", guards), ("comments", comments)])

/-- A define. -/
def define : Shape := guarded ["name"] [("name", text), ("content", text)]

/-- An element of an enum. -/
def element : Shape :=
  guarded ["name"] [("name", text), ("value", integer), ("value_expression", text)]

/-- An enum. -/
def enumeration : Shape :=
  guarded ["name", "elements"]
    [("name", text), ("is_flags_enum", flag), ("elements", list element)]

/-- A typedef. -/
def typedef : Shape := guarded ["name", "type"] [("name", text), ("type", typeInfo)]

/-- A field of a struct. -/
def field : Shape :=
  guarded ["name", "type"]
    [("name", text), ("type", typeInfo), ("is_array", flag), ("array_bounds", text)]

/-- A struct. -/
def struct : Shape := guarded ["name", "fields"] [("name", text), ("fields", list field)]

/-- An argument of a function. -/
def argument : Shape :=
  record [] [("name", text), ("type", typeInfo), ("default_value", text), ("is_varargs", flag)]

/-- A function. -/
def function : Shape :=
  guarded ["name", "return_type", "arguments"]
    [("name", text), ("return_type", typeInfo), ("arguments", list argument)]

/-- A document. -/
def document : Shape :=
  record []
    [("defines", list define), ("enums", list enumeration), ("typedefs", list typedef),
      ("structs", list struct), ("functions", list function)]

end Shape

/-! ## Problems of one node -/

/-- What can be wrong with a node. -/
inductive Problem
  | notOfType (value : Value) (word : String)
  | notAmong (value : Value) (choices : List String)
  | missing (name : String)
  deriving Repr

namespace Problem

/-- The text of a problem. -/
def message : Problem → String
  | notOfType value word => value.display ++ " is not of type '" ++ word ++ "'"
  | notAmong value choices =>
    value.display ++ " is not one of " ++ (Value.array (choices.map .text)).display
  | missing name => (Value.text name).display ++ " is a required property"

end Problem

/-- The names among some that an object lacks. -/
def missingNames (members : List (String × Value)) (names : List String) : List String :=
  names.filter fun name => (Table.lookupIn name members).isNone

/--
What a type needs beside its form: an inner type for pointers and arrays, a result and parameters
for functions; a type without a form needs all three.
-/
def neededByKind (members : List (String × Value)) : List String :=
  let isKind (words : List String) : Bool :=
    match Table.lookupIn "kind" members with
    | none => true
    | some (.text word) => words.contains word
    | some _ => false
  (if isKind ["Pointer", "Array"] then ["inner_type"] else []) ++
    (if isKind ["Function"] then ["return_type", "parameters"] else [])

namespace Shape

/-- The problems of a value's own node, whatever stands below it. -/
def problems (shape : Shape) (value : Value) : List Problem :=
  let require (ok : Bool) : List Problem :=
    if ok then [] else [.notOfType value shape.typeWord]
  match shape with
  | text => require (value matches .text _)
  | flag => require (value matches .bool _)
  | integer => require <| match value with
    | .number n => n.toInt?.isSome
    | _ => false
  | list _ => require (value matches .array _)
  | word choices => match value with
    | .text given => if choices.contains given then [] else [.notAmong value choices]
    | _ => [.notAmong value choices]
  | record required _ => match value with
    | .object members => (missingNames members required).map .missing
    | _ => require false
  | type => match value with
    | .object members =>
      (missingNames members ("kind" :: neededByKind members)).map .missing
    | _ => require false

end Shape

/-! ## Violations of a whole value -/

/-- A problem and the path to its node: names of members and positions of items, as texts. -/
structure Violation where
  path : List String
  problem : Problem
  deriving Repr

namespace Violation

/-- The violation seen from the node above. -/
def under (step : String) (v : Violation) : Violation := { v with path := step :: v.path }

/-- Where the node stands. -/
def location (v : Violation) : String :=
  if v.path.isEmpty then "<root>" else String.intercalate "/" v.path

/-- The text that reports a violation. -/
def message (v : Violation) : String :=
  "metadata failed JSON schema validation at " ++ v.location ++ ": " ++ v.problem.message

end Violation

mutual

/-- All violations of a value: those of its node, then those below it. -/
def violations : Value → Shape → List Violation
  | .array items, shape =>
    (shape.problems (.array items)).map (⟨[], ·⟩) ++
      match shape.item? with
      | some item => itemViolations 0 items item
      | none => []
  | .object members, shape =>
    (shape.problems (.object members)).map (⟨[], ·⟩) ++ memberViolations members shape.fields
  | .null, shape => (shape.problems .null).map (⟨[], ·⟩)
  | .bool b, shape => (shape.problems (.bool b)).map (⟨[], ·⟩)
  | .number n, shape => (shape.problems (.number n)).map (⟨[], ·⟩)
  | .text t, shape => (shape.problems (.text t)).map (⟨[], ·⟩)

/-- The violations of the items of a list, the first of which stands at the given position. -/
def itemViolations (position : Nat) : List Value → Shape → List Violation
  | [], _ => []
  | item :: items, shape =>
    (violations item shape).map (.under (toString position)) ++
      itemViolations (position + 1) items shape

/-- The violations of the members of an object; members without a shape may hold anything. -/
def memberViolations : List (String × Value) → List (String × Shape) → List Violation
  | [], _ => []
  | (name, value) :: members, fields =>
    (match Table.lookupIn name fields with
      | some shape => (violations value shape).map (.under name)
      | none => []) ++
      memberViolations members fields

end

/-- Does the first path come before the second, step by step in code point order? -/
def pathBefore : List String → List String → Bool
  | [], [] => false
  | [], _ :: _ => true
  | _ :: _, [] => false
  | a :: as, b :: bs => if a = b then pathBefore as bs else a < b

/-- The first violation of least path. -/
def leastViolation : Violation → List Violation → Violation
  | best, [] => best
  | best, v :: rest => leastViolation (if pathBefore v.path best.path then v else best) rest

/-- The violation of a document that is reported, if it has one. -/
def firstViolation? (value : Value) : Option Violation :=
  match violations value .document with
  | [] => none
  | v :: rest => some (leastViolation v rest)

end InteropGen.Metadata

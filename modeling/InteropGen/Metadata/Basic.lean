import InteropGen.Json.Value

/-!
# The metadata of a C library

What a metadata document says about a library: its defines, enums, typedefs, structs and functions,
each under preprocessor guards and with comments, and the structure of every type it mentions.
-/

namespace InteropGen

/-- The forms of a native type. -/
inductive TypeKind
  | builtin
  | user
  | pointer
  | array
  | function
  | synonym
  | other (word : String)
  deriving DecidableEq, Repr

namespace TypeKind

/-- The word of a form in a document. -/
def word : TypeKind → String
  | builtin => "Builtin"
  | user => "User"
  | pointer => "Pointer"
  | array => "Array"
  | function => "Function"
  | synonym => "Type"
  | other word => word

/-- The form of a word. -/
def ofWord (word : String) : TypeKind :=
  if word = "Builtin" then builtin
  else if word = "User" then user
  else if word = "Pointer" then pointer
  else if word = "Array" then array
  else if word = "Function" then function
  else if word = "Type" then synonym
  else other word

theorem word_ofWord (text : String) : (ofWord text).word = text := by
  unfold ofWord
  repeat' split
  all_goals simp_all [word]

end TypeKind

/--
The structure of a native type. Which parts matter hangs on the form: a builtin type has a builtin
name, a user type a name, pointers, arrays and synonyms an inner type, an array bounds, and a
function a result and parameters. The storage classes hold qualifiers such as `const`.
-/
structure NativeType where
  kind : TypeKind
  builtin : Option String := none
  name : Option String := none
  inner : Option NativeType := none
  bounds : Option String := none
  result : Option NativeType := none
  parameters : List NativeType := []
  storage : List String := []
  deriving Repr

namespace NativeType

instance : Inhabited NativeType := ⟨{ kind := .builtin }⟩

/-- Is the type qualified as constant? -/
def isConst (t : NativeType) : Bool := t.storage.contains "const"

/-- The function type that a synonym points to, if the type is a synonym of a function pointer. -/
def callback? (t : NativeType) : Option NativeType :=
  match t.kind, t.inner with
  | .synonym, some ⟨.pointer, _, _, some target, _, _, _, _⟩ =>
    if target.kind = .function then some target else none
  | _, _ => none

/-- Is the type a synonym of a pointer to a function? -/
def isCallback (t : NativeType) : Bool := t.callback?.isSome

end NativeType

/-- The conditions of preprocessor guards. -/
inductive Condition
  | defined
  | undefined
  | expression
  | other (word : String)
  deriving DecidableEq, Repr

namespace Condition

/-- The word of a condition in a document. -/
def word : Condition → String
  | defined => "ifdef"
  | undefined => "ifndef"
  | expression => "if"
  | other word => word

/-- The condition of a word. -/
def ofWord (word : String) : Condition :=
  if word = "ifdef" then defined
  else if word = "ifndef" then undefined
  else if word = "if" then expression
  else other word

end Condition

/-- A preprocessor guard around an item. -/
structure Guard where
  condition : Condition
  expression : String
  deriving DecidableEq, Repr

/-- The comments of an item: one on its line and those on the lines before. -/
structure Comments where
  attached : Option String := none
  preceding : List String := []
  deriving DecidableEq, Repr

namespace Metadata

/-- A type as it was declared, with its structure. -/
structure TypeInfo where
  declaration : String := ""
  type : NativeType
  deriving Repr

/-- A preprocessor define. -/
structure Define where
  name : String
  content : Option String := none
  guards : List Guard := []
  comments : Option Comments := none
  deriving Repr

/-- An element of an enum, with the expression that its value was written as. -/
structure EnumElement where
  name : String
  value : Json.Number := .int 0
  expression : Option String := none
  guards : List Guard := []
  comments : Option Comments := none
  deriving Repr

/-- An enum. -/
structure Enum where
  name : String
  elements : List EnumElement
  isFlags : Bool := false
  guards : List Guard := []
  comments : Option Comments := none
  deriving Repr

/-- A typedef. -/
structure Typedef where
  name : String
  info : TypeInfo
  guards : List Guard := []
  comments : Option Comments := none
  deriving Repr

/-- A field of a struct; the bounds of an array field may stand with the field or with its type. -/
structure Field where
  name : String
  info : TypeInfo
  isArray : Bool := false
  bounds : Option String := none
  guards : List Guard := []
  comments : Option Comments := none
  deriving Repr

/-- A struct. -/
structure Struct where
  name : String
  fields : List Field
  guards : List Guard := []
  comments : Option Comments := none
  deriving Repr

/-- An argument of a function; one without a type stands for no argument that is passed. -/
structure Argument where
  name : String := ""
  info : Option TypeInfo := none
  default : Option String := none
  isVariadicMark : Bool := false
  deriving Repr

/-- Does the argument mark a variable argument list? -/
def Argument.isVariadic (a : Argument) : Bool :=
  a.isVariadicMark || a.info.any fun info =>
    info.declaration = "va_list" || info.declaration = "..."

/-- A function. -/
structure Function where
  name : String
  result : TypeInfo
  arguments : List Argument
  guards : List Guard := []
  comments : Option Comments := none
  deriving Repr

/-- Does the function take a variable argument list, as its last argument says? -/
def Function.isVariadic (f : Function) : Bool := f.arguments.getLast?.any Argument.isVariadic

end Metadata

/-- A whole metadata document. -/
structure Metadata where
  defines : List Metadata.Define := []
  enums : List Metadata.Enum := []
  typedefs : List Metadata.Typedef := []
  structs : List Metadata.Struct := []
  functions : List Metadata.Function := []
  deriving Repr

end InteropGen

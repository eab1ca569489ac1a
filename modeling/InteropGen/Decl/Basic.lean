import InteropGen.Decl.Marshal
import InteropGen.Metadata.Basic

/-!
# C# declarations

The tree of declarations that the metadata of a library gives and that is written to files. Types
are referred to by `TypeText`, so a declaration may be built before its types are final.
-/

namespace InteropGen

namespace Decl

/-- What every declaration has: a name, modifiers, attributes and comments. -/
structure Head where
  name : String
  modifiers : List String := []
  attributes : List String := []
  attached : Option String := none
  preceding : List String := []
  deriving Repr

instance : Inhabited Head := ⟨{ name := "" }⟩

/-- The head with the comments of an item, or as it is if the item has none. -/
def Head.withComments (head : Head) : Option Comments → Head
  | none => head
  | some comments => { head with attached := comments.attached, preceding := comments.preceding }

theorem Head.name_withComments (head : Head) (comments : Option Comments) :
    (head.withComments comments).name = head.name := by
  cases comments <;> rfl

/-- An element of an enum with the text of its value. -/
structure Element where
  head : Head
  value : String := "0"
  deriving Repr

/-- An enum; `nativeName` is the name whose stem its elements begin with. -/
structure Enum where
  head : Head
  elements : List Element := []
  nativeName : String := ""
  deriving Repr

/-- A field of a layout, or a buffer of a fixed number of elements in place. -/
inductive Field
  | single (head : Head) (type : TypeText)
  | buffer (head : Head) (type : TypeText) (size : Int)
  deriving Repr

/-- The head of a field. -/
def Field.head : Field → Head
  | single head _ => head
  | buffer head _ _ => head

/-- A constant with the text of its value. -/
structure Constant where
  head : Head
  type : TypeText := .plain "bool"
  value : String := "true"
  deriving Repr

/-- A parameter of a method or a delegate. -/
structure Parameter where
  name : String
  type : TypeText := .plain "int"
  deriving Repr

/-- A method or a delegate: its result and its parameters. -/
structure Method where
  head : Head
  result : TypeText := .plain "void"
  parameters : List Parameter := []
  deriving Repr

instance : Inhabited Method := ⟨{ head := default }⟩

/-- What an accessor of a view reaches: a list of elements, a vector, or one field. -/
inductive Reach
  | list (element : TypeText) (size : Int) (inPlace : Bool)
  | vector (elementName : String)
  | field (type : TypeText)
  deriving Repr

/-- A property of a view over one field of its layout. -/
structure Accessor where
  head : Head
  reach : Reach := .field (.plain "None")
  deriving Repr

/-- A wrapper around one native function. -/
structure Wrapper where
  head : Head
  entryPoint : String := ""
  nativeClass : String := ""
  result : TypeText := .plain "void"
  resultCode : String := "ret"
  marshaling : Marshaling := {}
  deriving Repr

/-- What holds other declarations: a class, the layout of a native struct, or a view over one. -/
inductive GroupForm
  | plainClass
  | layout (nativeName : String)
  | view (target : String)
  deriving DecidableEq, Repr

end Decl

/-- A C# declaration. Elements and parameters are written only by the declaration that owns them. -/
inductive Decl
  | group (form : Decl.GroupForm) (head : Decl.Head) (members : List Decl)
  | enum (enum : Decl.Enum)
  | field (field : Decl.Field)
  | constant (constant : Decl.Constant)
  | method (method : Decl.Method)
  | delegate (delegate : Decl.Method)
  | accessor (accessor : Decl.Accessor)
  | wrapper (wrapper : Decl.Wrapper)
  /-- A wrapper without a plan of its marshaling; it has a result, but no text. -/
  | unplanned (wrapper : Decl.Method)
  | element (element : Decl.Element)
  | parameter (parameter : Decl.Parameter)
  deriving Repr

namespace Decl

instance : Inhabited Decl := ⟨.parameter { name := "" }⟩

/-- The name of a declaration. -/
def name : Decl → String
  | group _ head _ => head.name
  | enum e => e.head.name
  | field f => f.head.name
  | constant c => c.head.name
  | method m => m.head.name
  | delegate d => d.head.name
  | accessor a => a.head.name
  | wrapper w => w.head.name
  | unplanned w => w.head.name
  | element e => e.head.name
  | parameter p => p.name

/-- The result and the parameters of a method or a delegate. -/
def method? : Decl → Option Method
  | method m | delegate m => some m
  | _ => none

/-- Declarations of this kind stand side by side without a blank line between them. -/
def isCompact : Decl → Bool
  | field _ | constant _ | accessor _ => true
  | _ => false

/-! ## The two halves of a struct -/

/-- The layout of a native struct in memory. -/
structure Layout where
  head : Head
  nativeName : String
  fields : List Field := []
  deriving Repr

/-- The view over a layout: accessors for its fields and wrappers of its methods. -/
structure View where
  head : Head
  target : String
  accessors : List Accessor := []
  wrappers : List Wrapper := []
  deriving Repr

/-- The layout as a declaration. -/
def Layout.toDecl (layout : Layout) : Decl :=
  .group (.layout layout.nativeName) layout.head (layout.fields.map .field)

/-- The view as a declaration. -/
def View.toDecl (view : View) : Decl :=
  .group (.view view.target) view.head
    (view.accessors.map .accessor ++ view.wrappers.map .wrapper)

end Decl

end InteropGen

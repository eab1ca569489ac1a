import InteropGen.Identifier
import InteropGen.Types.Resolve

/-!
# Callbacks

A pointer to a function becomes a delegate. Delegates are registered by name, and the first one of
a name stays.
-/

namespace InteropGen.Generate

/-- The attribute of every delegate. -/
def delegateAttribute : String := "[UnmanagedFunctionPointer(CallingConvention.Cdecl)]"

/-- A parameter of a delegate at a position; one without a name is named for its position. -/
def delegateParameter (position : Nat) (t : NativeType) : Build Symbols Decl.Parameter := do
  let name := (nonEmpty? t.name).getD ("arg" ++ toString position)
  let type := match t.kind, t.inner with
    | .synonym, some inner => inner
    | _, _ => t
  let id ← Symbols.resolve none type
  return ⟨Identifier.escape name, .ref id⟩

/-- The parameters of a delegate from a position on. -/
def delegateParameters : Nat → List NativeType → Build Symbols (List Decl.Parameter)
  | _, [] => return []
  | position, t :: rest => do
    let parameter ← delegateParameter position t
    let parameters ← delegateParameters (position + 1) rest
    return parameter :: parameters

/-- The type of a result; without one a function returns nothing. -/
def resultType : Option NativeType → Build Symbols TypeText
  | some t => do return .ref (← Symbols.resolve none t)
  | none => return .plain "void"

/-- The delegate of a function type. -/
def delegate (function : NativeType) (name : String) (comments : Option Comments) :
    Build Symbols Decl.Method := do
  let parameters ← delegateParameters 0 function.parameters
  let result ← resultType function.result
  let head : Decl.Head :=
    { name := name
      modifiers := ["public", "unsafe", "delegate"]
      attributes := [delegateAttribute] }
  return ⟨head.withComments comments, result, parameters⟩

/-- Registers a delegate and the type of its name, unless the name is taken: did it? -/
def addDelegate (method : Decl.Method) : StateM Symbols Bool := fun s =>
  let name := method.head.name
  if s.delegates.contains name then (false, s)
  else
    let s := { s with delegates := s.delegates.insert name method }
    let (id, s) := Symbols.namedType name s
    (true, s.registerType name id)

/-- Makes and registers the delegate of a function type, unless the name is taken: did it? -/
def registerDelegate (function : NativeType) (name : String)
    (comments : Option Comments := none) : Build Symbols Bool := do
  if (← get).delegates.contains name then return false
  else addDelegate (← delegate function name comments)

end InteropGen.Generate

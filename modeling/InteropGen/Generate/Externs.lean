import InteropGen.Generate.Callbacks
import InteropGen.Guards

/-!
# Externs

The imported functions of the native class: one method for every function that is not left out, with
one parameter for every argument that has a type.
-/

namespace InteropGen.Generate

open Metadata

/-- Why a function gets no binding, if there is a reason. -/
def skipReason? (s : Symbols) (function : Function) : Option SkipReason :=
  if !s.admits function.guards then some .guards
  else if s.settings.skippedParts.any (Text.includes function.name ·) then some .skipList
  else if function.isVariadic then some .variadic
  else none

/-- The name of the delegate for an argument of a function. -/
def argumentDelegate (function : Function) (argument : Argument) : String :=
  function.name ++ argument.name ++ "Delegate"

/-- The type of a parameter that is no callback: pointers to vectors share one type. -/
def parameterType (t : NativeType) : Build Symbols TypeText := do
  let s ← get
  match t.kind, t.inner with
  | .pointer, none => throw .missingType
  | .pointer, some inner =>
    if s.isVector inner then return .plain (s.settings.vectorName ++ "*")
    else return .ref (← Symbols.resolve none t)
  | _, _ => return .ref (← Symbols.resolve none t)

/-- The parameter for an argument of the given type. -/
def externParameter (function : Function) (argument : Argument) (t : NativeType) :
    Build Symbols Decl.Parameter := do
  let name := Identifier.escape argument.name
  match t.callback? with
  | some target =>
    let delegateName := argumentDelegate function argument
    let _ ← registerDelegate target delegateName
    return ⟨name, .ref (← Symbols.resolve (some delegateName) t)⟩
  | none => return ⟨name, ← parameterType t⟩

/-- The parameters for the arguments that have a type. -/
def externParameters (function : Function) : List Argument →
    Build Symbols (List Decl.Parameter)
  | [] => return []
  | argument :: rest =>
    match argument.info with
    | none => externParameters function rest
    | some info => do
      let parameter ← externParameter function argument info.type
      let parameters ← externParameters function rest
      return parameter :: parameters

/-- The attribute that imports a function. -/
def importAttribute (library entryPoint : String) : String :=
  "[DllImport(\"" ++ library ++ "\", CallingConvention = CallingConvention.Cdecl, " ++
    "EntryPoint = \"" ++ entryPoint ++ "\")]"

/-- The method that imports a function, unless the function is left out. -/
def externMethod (function : Function) : Build Symbols (Option Decl.Method) := do
  match skipReason? (← get) function with
  | some reason =>
    modify fun s => s.skip .function function.name reason
    return none
  | none =>
    let parameters ← externParameters function function.arguments
    let library := (← get).settings.library
    let result ← Symbols.resolve none function.result.type
    let head : Decl.Head :=
      { name := function.name
        modifiers := ["public", "static", "extern"]
        attributes := [importAttribute library function.name] }
    return some ⟨head.withComments function.comments, .ref result, parameters⟩

/-- The imported functions. -/
def externMethods (functions : List Function) : Build Symbols (List Decl.Method) := do
  let methods ← functions.mapM externMethod
  return methods.filterMap id

end InteropGen.Generate

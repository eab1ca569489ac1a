import InteropGen.Generate.Externs

/-!
# Wrappers

The methods around an imported function that take C# types and marshal them. Every argument falls
into one strategy (`classify`); for every argument with a default there is a shorter wrapper that
leaves out the arguments from it on and passes their defaults (`withDefaults`). Of wrappers with one
name and one list of parameter types, as the types are spelled at that moment, the first stays.
-/

namespace InteropGen.Generate

open Metadata Decl

/-- The class that wrappers are made for: the native class they call, and if they are static. -/
structure WrapperClass where
  nativeClass : String
  isStatic : Bool := false

/-- What the wrappers of one class have so far: their signatures, and the comments by name. -/
structure Scope where
  signatures : List String := []
  comments : Table (Option Comments) := {}

/-- The symbols together with the scope of a class. -/
structure Scoped where
  scope : Scope := {}
  symbols : Symbols

instance : Inhabited Scoped := ⟨{ symbols := default }⟩

/-- Steps on the symbols alone. -/
def onSymbols {α : Type} (build : Build Symbols α) : Build Scoped α :=
  build.focus Scoped.symbols fun state symbols => { state with symbols := symbols }

/-- Starts a new class. -/
def beginClass : Build Scoped Unit := modify fun state => { state with scope := {} }

/-! ## Strategies for arguments -/

/-- Adds a parameter and the expression that is passed for it. -/
def pass (m : Marshaling) (parameter : Managed) (native : String) : Marshaling :=
  { m with managed := m.managed ++ [parameter], native := m.native ++ [native] }

/-- Adds a step before the call. -/
def stepBefore (m : Marshaling) (step : Step) : Marshaling :=
  { m with before := m.before ++ [step] }

/-- Adds a header of a `fixed` block. -/
def stepFixed (m : Marshaling) (step : Step) : Marshaling :=
  { m with fixed := m.fixed ++ [step] }

/-- Adds a step after the call. -/
def stepAfter (m : Marshaling) (step : Step) : Marshaling :=
  { m with after := m.after ++ [step] }

/-- An argument that is passed as it is. -/
def passThrough (type : TypeText) (name : String) (m : Marshaling) : Marshaling :=
  pass m ⟨type, name, "", ""⟩ name

/-- An argument whose referenced value is pinned. -/
def passPinned (type : TypeText) (name : String) (m : Marshaling) : Marshaling :=
  stepFixed (pass m ⟨type, name, "ref", ""⟩ (Identifier.nativeLocal name)) (.pinned name type)

/-- Is the text made of digits? -/
def isDigitText (text : String) : Bool := !text.toList.isEmpty && text.toList.all Text.isDigit

/-- The number of decimal digits of any script, if there are not too many. -/
def decimalText? (text : String) : Option Nat :=
  if Text.maxDigits < text.length then none
  else text.toList.foldlM (fun n c => (Text.decimalValue? c).map (10 * n + ·)) 0

/-- Do the bounds of an array of floats make it a vector of two to four of them? -/
def isVectorBound (bounds : String) : Build Symbols Bool :=
  if isDigitText bounds then do
    let size ← Build.ofOption (.unreadableBound bounds) (decimalText? bounds)
    return 2 ≤ size && size ≤ 4
  else return false

/-- Is the type a pointer to characters? -/
def isCharPointer (t : NativeType) : Bool :=
  t.kind = .pointer && t.inner.any (·.builtin = some "char")

/-- The strategy for an array argument. -/
def classifyArray (t : NativeType) (name : String) (m : Marshaling) :
    Build Symbols Marshaling := do
  let inner ← Build.ofOption .missingType t.inner
  let bounds := Text.strip (t.bounds.getD "")
  let localName := Identifier.nativeLocal name
  if isCharPointer inner then
    return stepBefore (pass m ⟨.plain "string", name, "", "[]"⟩ localName) (.stringArray name)
  else if ← isFloatVector inner bounds then
    let vector := TypeText.plain ("Vector" ++ bounds)
    return stepFixed (pass m ⟨vector, name, "ref", ""⟩ ("(float*)" ++ localName))
      (.pinned name vector)
  else
    let element := TypeText.ref (← Symbols.resolve none inner)
    return stepBefore (pass m ⟨element, name, "", "[]"⟩ localName) (.array name element)
where
  /-- Is the array one of floats whose bounds make it a vector? -/
  isFloatVector (inner : NativeType) (bounds : String) : Build Symbols Bool :=
    if inner.kind = .builtin && inner.builtin = some "float" then isVectorBound bounds
    else return false

/-- The strategy for a pointer to a builtin type. -/
def classifyBuiltinPointer (inner : NativeType) (name : String) (m : Marshaling) :
    Build Symbols Marshaling := do
  let localName := Identifier.nativeLocal name
  match inner.builtin with
  | some "void" =>
    let handle := (← get).settings.handle
    return stepBefore (pass m ⟨.plain handle, name, "", ""⟩ localName) (.voidPointer name)
  | some "bool" =>
    return stepAfter
      (stepBefore (pass m ⟨.plain "bool", name, "ref", ""⟩ localName) (.boolRef name))
      (.boolWriteback name)
  | some "char" =>
    if inner.isConst then
      return stepAfter
        (stepBefore (pass m ⟨.plain "ReadOnlySpan<char>", name, "", ""⟩ localName) (.string name))
        (.stringFree name)
    else
      return stepFixed (pass m ⟨.plain "byte[]", name, "", ""⟩ localName) (.stringBuffer name)
  | _ => return passPinned (.ref (← Symbols.resolve none inner)) name m

/-- The strategy for a pointer argument. -/
def classifyPointer (function : Function) (argument : Argument) (t : NativeType) (name : String)
    (m : Marshaling) : Build Symbols Marshaling := do
  let inner ← Build.ofOption .missingType t.inner
  match inner.kind with
  | .builtin => classifyBuiltinPointer inner name m
  | .pointer => return passPinned (.ref (← Symbols.resolve none inner)) name m
  | .user =>
    let s ← get
    if s.isVector inner then
      return passThrough (.plain (s.settings.vectorName ++ "*")) name m
    else return passThrough (.view (← Symbols.resolve none t)) name m
  | _ =>
    modify fun s => s.warn ("unrecognized pointer argument " ++ argument.name ++ " of " ++
      function.name ++ ", passing through")
    return passThrough (.ref (← Symbols.resolve none t)) name m

/-- The strategy for an argument of a value type. -/
def classifyValue (function : Function) (argument : Argument) (t : NativeType) (name : String)
    (m : Marshaling) : Build Symbols Marshaling := do
  if t.kind = .builtin && t.builtin = some "bool" then
    let localName := Identifier.nativeLocal name
    return stepBefore (pass m ⟨.plain "bool", name, "", ""⟩ localName) (.boolValue name)
  else
    if t.kind ≠ .builtin ∧ t.kind ≠ .user then
      modify fun s => s.warn ("unrecognized argument " ++ argument.name ++ " (" ++ t.kind.word ++
        ") of " ++ function.name ++ ", passing through")
    return passThrough (.view (← Symbols.resolve none t)) name m

/-- Adds an argument of the given type by the strategy for it. -/
def classify (function : Function) (argument : Argument) (t : NativeType) (m : Marshaling) :
    Build Symbols Marshaling := do
  let name := Identifier.escape argument.name
  match t.kind with
  | .array => classifyArray t name m
  | .synonym =>
    if t.isCallback then
      return passThrough (.plain (argumentDelegate function argument)) name m
    else return passThrough (.ref (← Symbols.resolve none t)) name m
  | .pointer => classifyPointer function argument t name m
  | _ => classifyValue function argument t name m

/-! ## Defaults -/

/-- The C# text of a default; truth values are bytes. -/
def defaultText (settings : Settings) (text : String) : String :=
  let value := (settings.defaultValues.find? text).getD text
  if value = "false" then "0" else if value = "true" then "1" else value

/-- Passes the default of an argument of the given type. -/
def passDefault (function : Function) (argument : Argument) (t : NativeType) (m : Marshaling) :
    Build Symbols Marshaling := do
  let name := Identifier.escape argument.name
  let type := TypeText.ref (← Symbols.resolve none t)
  let value ← match argument.default with
    | some text => pure (defaultText (← get).settings text)
    | none => do
      modify fun s => s.warn ("argument " ++ argument.name ++ " of " ++ function.name ++
        " follows a default but has none")
      pure "default"
  let m := { m with native := m.native ++ [name] }
  if isCharPointer t && value ≠ "null" then
    return stepAfter (stepBefore m (.defaultString name type (.plain value)))
      (.defaultStringFree name)
  else return stepBefore m (.defaultValue name type (.default type value))

/-- Passes the defaults of all arguments that have a type. -/
def withDefaults (function : Function) : List Argument → Marshaling → Build Symbols Marshaling
  | [], m => return m
  | argument :: rest, m =>
    match argument.info with
    | none => withDefaults function rest m
    | some info => do
      let m ← passDefault function argument info.type m
      withDefaults function rest m

/-! ## Wrappers of a function -/

/-- The parameter types of a wrapper as they are spelled now. -/
def managedTypes (s : Symbols) (managed : List Managed) : Except Fault (List String) :=
  managed.mapM fun parameter => do
    let text := (← s.spell parameter.type) ++ parameter.suffix
    return if parameter.modifier.isEmpty then text else parameter.modifier ++ " " ++ text

/-- What the wrappers of one function share. -/
structure WrapperPlan where
  name : String
  entryPoint : String
  comments : Option Comments
  result : TypeText
  resultCode : String

/-- The wrapper with some marshaling. -/
def WrapperPlan.wrapper (plan : WrapperPlan) (target : WrapperClass) (m : Marshaling) : Wrapper :=
  let head : Head :=
    { name := plan.name
      modifiers := if target.isStatic then ["public", "static"] else ["public"] }
  { head := head.withComments plan.comments
    entryPoint := plan.entryPoint
    nativeClass := target.nativeClass
    result := plan.result
    resultCode := plan.resultCode
    marshaling := m }

/-- Makes a wrapper unless the class has one with its signature. -/
def addWrapper (target : WrapperClass) (plan : WrapperPlan) (m : Marshaling) :
    Build Scoped (List Wrapper) := do
  let state ← get
  let types ← Build.ofExcept (managedTypes state.symbols m.managed)
  let signature := plan.name ++ "(" ++ String.intercalate ", " types ++ ")"
  if state.scope.signatures.contains signature then return []
  else
    modify fun state => { state with
      scope := { state.scope with signatures := state.scope.signatures ++ [signature] } }
    return [plan.wrapper target m]

/-- The wrappers for the arguments from here on, after those that are already marshaled. -/
def wrapArguments (target : WrapperClass) (function : Function) (plan : WrapperPlan) :
    List Argument → Marshaling → Build Scoped (List Wrapper)
  | [], m => addWrapper target plan m
  | argument :: rest, m =>
    match argument.info with
    | none => wrapArguments target function plan rest m
    | some info =>
      if argument.name = "self" then
        wrapArguments target function plan rest { m with native := m.native ++ ["NativePtr"] }
      else do
        let shorter ←
          if argument.default.isSome then do
            let short ← onSymbols (withDefaults function (argument :: rest) m)
            addWrapper target plan short
          else pure []
        let m ← onSymbols (classify function argument info.type m)
        let longer ← wrapArguments target function plan rest m
        return shorter ++ longer

/-- The result type of a function's wrappers, and the expression that they return. -/
def wrapperResult (function : Function) : Build Symbols (TypeText × String) := do
  let t := function.result.type
  if t.kind = .builtin && t.builtin = some "bool" then return (.plain "bool", "ret != 0")
  else return (.view (← Symbols.resolve none t), "ret")

/--
The name of a function's wrappers and their comments. A longer form of a function, whose name ends
in `Ex`, takes the name and the comments of the shorter one; other functions lend theirs.
-/
def wrapperName (function : Function) : StateM Scoped (String × Option Comments) := fun state =>
  let name := Identifier.lastSegment function.name
  if Text.endsWith name "Ex" && 2 < name.length then
    let short := Text.dropLast name 2
    ((short, (state.scope.comments.find? short).getD function.comments), state)
  else
    ((name, function.comments), { state with
      scope := { state.scope with
        comments := state.scope.comments.insert name function.comments } })

/-- The wrappers of a function: one for each default from shorter to longer, then the full one. -/
def wrappers (target : WrapperClass) (function : Function) : Build Scoped (List Wrapper) := do
  let (name, comments) ← wrapperName function
  let (result, resultCode) ← onSymbols (wrapperResult function)
  let plan : WrapperPlan := ⟨name, function.name, comments, result, resultCode⟩
  wrapArguments target function plan function.arguments {}

end InteropGen.Generate

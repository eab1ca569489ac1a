import InteropGen.Generate.Bindings
import InteropGen.Proofs.Growth.Symbols
import Mathlib.Data.List.Forall2

/-!
# Declarations and what they are made from

`Declares R s nativeClass metadata bindings delegates` says item by item which declarations a document
gives. What a type in a declaration is made from is its `Origin`, and the relation `R` between
origins and types of the arena is left open: generation shows it for `MadeFor`, which says that the
type is the outcome of resolving its origin at some moment, and whatever follows from that about each
single type carries over to all declarations by `Declares.mono`.

Settings and defines decide what is left out and how an argument is passed; they are read from `s`.
-/

namespace InteropGen.Generate

open Metadata Decl

/-- What a type of the arena is made from: a native type, or a C# name. -/
inductive Origin
  | native (delegateName : Option String) (t : NativeType)
  | plain (name : String)

/-- The steps that make a type from its origin. -/
def Origin.resolve : Origin → Build Symbols TypeId
  | native delegateName t => Symbols.resolve delegateName t
  | plain name => liftM (Symbols.namedType name)

/-- The type was made from the origin at some moment between the two. -/
def MadeFor (s s' : Symbols) (origin : Origin) (id : TypeId) : Prop :=
  ∃ before after, s.Grows before ∧ origin.resolve.runOn before = (.ok id, after) ∧ after.Grows s'

/-- Lists in step have related elements at every position. -/
theorem forall₂_getElem? {α β : Type} {Q : α → β → Prop} {l : List α} {l' : List β} {i : Nat}
    {a : α} (h : List.Forall₂ Q l l') (hi : l[i]? = some a) : ∃ b, l'[i]? = some b ∧ Q a b := by
  induction h generalizing i with
  | nil => simp at hi
  | cons first _ ih =>
    cases i with
    | zero =>
      obtain rfl := Option.some.inj hi
      exact ⟨_, rfl, first⟩
    | succ i => exact ih hi

/-- What is in one of two lists in step is related to something in the other. -/
theorem forall₂_mem {α β : Type} {Q : α → β → Prop} {l : List α} {l' : List β} {a : α}
    (h : List.Forall₂ Q l l') (ha : a ∈ l) : ∃ b ∈ l', Q a b := by
  obtain ⟨i, hi⟩ := List.mem_iff_getElem?.mp ha
  obtain ⟨b, hb, hab⟩ := forall₂_getElem? h hi
  exact ⟨b, List.mem_of_getElem? hb, hab⟩

/-- Lists in step agree in what their elements agree in. -/
theorem forall₂_map_eq {α β γ : Type} {Q : α → β → Prop} {l : List α} {l' : List β} {f : α → γ}
    {g : β → γ} (h : List.Forall₂ Q l l') (hQ : ∀ a b, Q a b → g b = f a) : l'.map g = l.map f := by
  induction h with
  | nil => rfl
  | cons first _ ih => rw [List.map_cons, List.map_cons, hQ _ _ first, ih]

variable (R : Origin → TypeId → Prop) (s : Symbols)

/-! ### Callback types -/

/-- The type of a parameter of a delegate; names of parameters come as synonyms. -/
def delegateParameterType (t : NativeType) : NativeType :=
  match t.kind, t.inner with
  | .synonym, some inner => inner
  | _, _ => t

/-- The parameter of a delegate at a position. -/
structure DelegateParameterOf (position : Nat) (t : NativeType) (parameter : Parameter) : Prop where
  name : parameter.name = Identifier.escape ((nonEmpty? t.name).getD ("arg" ++ toString position))
  type : ∃ id, parameter.type = .ref id ∧ R (.native none (delegateParameterType t)) id

/-- The delegate of a function type. -/
structure DelegateOf (target : NativeType) (name : String) (delegate : Method) : Prop where
  name : delegate.head.name = name
  parameters : List.Forall₂ (fun (t, position) => DelegateParameterOf R position t)
    target.parameters.zipIdx delegate.parameters
  result : match target.result with
    | some t => ∃ id, delegate.result = .ref id ∧ R (.native none t) id
    | none => delegate.result = .plain "void"

/-- The name of the delegate for the typedef of a function pointer. -/
def typedefDelegate (item : Typedef) : String := (nonEmpty? item.info.type.name).getD item.name

/-- The name of the delegate for a field that is a function pointer. -/
def fieldDelegate (field : Metadata.Field) : String :=
  (nonEmpty? field.info.type.name).getD field.name ++ "Delegate"

/-- The callback types of a document, by the names that their delegates have. -/
inductive CallbackOf (metadata : Metadata) : String → NativeType → Prop
  | typedef {item target} (hitem : item ∈ metadata.typedefs)
      (h : item.info.type.callback? = some target) : CallbackOf metadata (typedefDelegate item) target
  | field {item field target} (hitem : item ∈ metadata.structs) (hfield : field ∈ item.fields)
      (h : field.info.type.callback? = some target) : CallbackOf metadata (fieldDelegate field) target
  | argument {function argument info target} (hfunction : function ∈ metadata.functions)
      (hargument : argument ∈ function.arguments) (hinfo : argument.info = some info)
      (h : info.type.callback? = some target) :
      CallbackOf metadata (argumentDelegate function argument) target

/-! ### Externs -/

/-- The arguments that have a type, with it. -/
def typedArguments (arguments : List Argument) : List (Argument × NativeType) :=
  arguments.filterMap fun argument => argument.info.map fun info => (argument, info.type)

/-- Is the type a pointer to a vector? -/
def pointsToVector (t : NativeType) : Bool := t.kind = .pointer && t.inner.any s.isVector

/-- The parameter for an argument of a type. -/
inductive ParameterOf (function : Function) (argument : Argument) (t : NativeType) :
    Parameter → Prop
  | callback {id} (h : t.isCallback = true)
      (made : R (.native (some (argumentDelegate function argument)) t) id) :
      ParameterOf function argument t ⟨Identifier.escape argument.name, .ref id⟩
  | vector (h : pointsToVector s t = true) :
      ParameterOf function argument t
        ⟨Identifier.escape argument.name, .plain (s.settings.vectorName ++ "*")⟩
  | other {id} (hcallback : t.isCallback = false) (hvector : pointsToVector s t = false)
      (made : R (.native none t) id) :
      ParameterOf function argument t ⟨Identifier.escape argument.name, .ref id⟩

/-- The imported function. -/
structure ExternOf (function : Function) (method : Method) : Prop where
  name : method.head.name = function.name
  parameters : List.Forall₂ (fun argument => ParameterOf R s function argument.1 argument.2)
    (typedArguments function.arguments) method.parameters
  result : ∃ id, method.result = .ref id ∧ R (.native none function.result.type) id

/-! ### Wrappers -/

/-- The ways in which a wrapper passes an argument on. -/
inductive Passing
  | self
  | byName (type : TypeText)
  | pinned (type : TypeText)
  | vector (bounds : String)
  | array (type : TypeText)
  | texts
  | text
  | buffer
  | truth
  | truthRef
  | untyped (handle : String)
  | defaultValue (type : TypeText) (value : ValueText)
  | defaultText (type : TypeText) (value : ValueText)

/-- What a way of passing adds to the marshaling for an argument of a C# name. -/
def Passing.part (name : String) : Passing → Marshaling
  | self => { native := ["NativePtr"] }
  | byName type => { managed := [⟨type, name, "", ""⟩], native := [name] }
  | pinned type =>
    { managed := [⟨type, name, "ref", ""⟩]
      native := [Identifier.nativeLocal name]
      fixed := [.pinned name type] }
  | vector bounds =>
    { managed := [⟨.plain ("Vector" ++ bounds), name, "ref", ""⟩]
      native := ["(float*)" ++ Identifier.nativeLocal name]
      fixed := [.pinned name (.plain ("Vector" ++ bounds))] }
  | array type =>
    { managed := [⟨type, name, "", "[]"⟩]
      native := [Identifier.nativeLocal name]
      before := [.array name type] }
  | texts =>
    { managed := [⟨.plain "string", name, "", "[]"⟩]
      native := [Identifier.nativeLocal name]
      before := [.stringArray name] }
  | text =>
    { managed := [⟨.plain "ReadOnlySpan<char>", name, "", ""⟩]
      native := [Identifier.nativeLocal name]
      before := [.string name]
      after := [.stringFree name] }
  | buffer =>
    { managed := [⟨.plain "byte[]", name, "", ""⟩]
      native := [Identifier.nativeLocal name]
      fixed := [.stringBuffer name] }
  | truth =>
    { managed := [⟨.plain "bool", name, "", ""⟩]
      native := [Identifier.nativeLocal name]
      before := [.boolValue name] }
  | truthRef =>
    { managed := [⟨.plain "bool", name, "ref", ""⟩]
      native := [Identifier.nativeLocal name]
      before := [.boolRef name]
      after := [.boolWriteback name] }
  | untyped handle =>
    { managed := [⟨.plain handle, name, "", ""⟩]
      native := [Identifier.nativeLocal name]
      before := [.voidPointer name] }
  | defaultValue type value =>
    { native := [name], before := [.defaultValue name type value] }
  | defaultText type value =>
    { native := [name]
      before := [.defaultString name type value]
      after := [.defaultStringFree name] }

/-- One marshaling after another. -/
def join (m m' : Marshaling) : Marshaling where
  managed := m.managed ++ m'.managed
  native := m.native ++ m'.native
  before := m.before ++ m'.before
  fixed := m.fixed ++ m'.fixed
  after := m.after ++ m'.after

/-- The marshaling of arguments that are passed in the given ways. -/
def marshal : List (Argument × NativeType) → List Passing → Marshaling
  | (argument, _) :: arguments, passing :: passings =>
    join (passing.part (Identifier.escape argument.name)) (marshal arguments passings)
  | _, _ => {}

/-- The ways in which `classify` passes an argument of a type. -/
inductive Given (function : Function) (argument : Argument) (t : NativeType) : Passing → Prop
  | texts {inner} (hkind : t.kind = .array) (hinner : t.inner = some inner)
      (h : isCharPointer inner = true) : Given function argument t .texts
  | vector {inner} (hkind : t.kind = .array) (hinner : t.inner = some inner)
      (hbuiltin : inner.kind = .builtin) (h : inner.builtin = some "float") :
      Given function argument t (.vector (Text.strip (t.bounds.getD "")))
  | array {inner id} (hkind : t.kind = .array) (hinner : t.inner = some inner)
      (made : R (.native none inner) id) : Given function argument t (.array (.ref id))
  | callback (h : t.isCallback = true) :
      Given function argument t (.byName (.plain (argumentDelegate function argument)))
  | untyped {inner} (hkind : t.kind = .pointer) (hinner : t.inner = some inner)
      (hbuiltin : inner.kind = .builtin) (h : inner.builtin = some "void") :
      Given function argument t (.untyped s.settings.handle)
  | truthRef {inner} (hkind : t.kind = .pointer) (hinner : t.inner = some inner)
      (hbuiltin : inner.kind = .builtin) (h : inner.builtin = some "bool") :
      Given function argument t .truthRef
  | text {inner} (hkind : t.kind = .pointer) (hinner : t.inner = some inner)
      (hbuiltin : inner.kind = .builtin) (h : inner.builtin = some "char")
      (hconst : inner.isConst = true) : Given function argument t .text
  | buffer {inner} (hkind : t.kind = .pointer) (hinner : t.inner = some inner)
      (hbuiltin : inner.kind = .builtin) (h : inner.builtin = some "char")
      (hconst : inner.isConst = false) : Given function argument t .buffer
  | pinned {inner id} (hkind : t.kind = .pointer) (hinner : t.inner = some inner)
      (h : inner.kind = .builtin ∨ inner.kind = .pointer) (made : R (.native none inner) id) :
      Given function argument t (.pinned (.ref id))
  | vectorPointer (h : pointsToVector s t = true) :
      Given function argument t (.byName (.plain (s.settings.vectorName ++ "*")))
  | truth (hkind : t.kind = .builtin) (h : t.builtin = some "bool") :
      Given function argument t .truth
  | byRef {id} (hcallback : t.isCallback = false) (hvector : pointsToVector s t = false)
      (made : R (.native none t) id) : Given function argument t (.byName (.ref id))
  | byView {id} (hcallback : t.isCallback = false) (hvector : pointsToVector s t = false)
      (made : R (.native none t) id) : Given function argument t (.byName (.view id))

/-- The text that stands for an argument that a wrapper leaves out. -/
def omittedText (settings : Settings) (argument : Argument) : String :=
  match argument.default with
  | some text => defaultText settings text
  | none => "default"

/-- The way in which `passDefault` passes an argument of a type. -/
inductive Omitted (argument : Argument) (t : NativeType) : Passing → Prop
  | text {id} (hchar : isCharPointer t = true)
      (hvalue : omittedText s.settings argument ≠ "null") (made : R (.native none t) id) :
      Omitted argument t (.defaultText (.ref id) (.plain (omittedText s.settings argument)))
  | value {id} (h : isCharPointer t = false ∨ omittedText s.settings argument = "null")
      (made : R (.native none t) id) :
      Omitted argument t
        (.defaultValue (.ref id) (.default (.ref id) (omittedText s.settings argument)))

/--
The ways of passing all arguments: each is given until, at an argument with a default, the wrapper
leaves out all the others.
-/
inductive Planned (function : Function) : List (Argument × NativeType) → List Passing → Prop
  | none : Planned function [] []
  | self {argument t arguments passings} (h : argument.name = "self")
      (rest : Planned function arguments passings) :
      Planned function ((argument, t) :: arguments) (.self :: passings)
  | given {argument t arguments passing passings} (h : argument.name ≠ "self")
      (first : Given R s function argument t passing) (rest : Planned function arguments passings) :
      Planned function ((argument, t) :: arguments) (passing :: passings)
  | omitted {argument t arguments passings} (h : argument.name ≠ "self")
      (hdefault : argument.default.isSome = true)
      (all : List.Forall₂ (fun argument => Omitted R s argument.1 argument.2)
        ((argument, t) :: arguments) passings) :
      Planned function ((argument, t) :: arguments) passings

/-- The ways in which one argument is passed, wherever it stands. -/
inductive Passed (function : Function) (argument : Argument) (t : NativeType) : Passing → Prop
  | self (h : argument.name = "self") : Passed function argument t .self
  | given {passing} (h : Given R s function argument t passing) :
      Passed function argument t passing
  | omitted {passing} (h : Omitted R s argument t passing) : Passed function argument t passing

theorem Planned.passed {R : Origin → TypeId → Prop} {s : Symbols} {function : Function}
    {arguments : List (Argument × NativeType)} {passings : List Passing}
    (h : Planned R s function arguments passings) :
    List.Forall₂ (fun argument => Passed R s function argument.1 argument.2) arguments
      passings := by
  induction h with
  | none => exact .nil
  | self hself _ ih => exact .cons (.self hself) ih
  | given _ first _ ih => exact .cons (.given first) ih
  | omitted _ _ all => exact all.imp fun _ _ h => .omitted h

/-- The name of the wrappers of a function. -/
def wrapperNameOf (function : Function) : String :=
  let name := Identifier.lastSegment function.name
  if Text.endsWith name "Ex" && 2 < name.length then Text.dropLast name 2 else name

/-- The result of the wrappers of a function, and the expression that they return. -/
inductive ResultOf (function : Function) : TypeText → String → Prop
  | truth (hkind : function.result.type.kind = .builtin)
      (h : function.result.type.builtin = some "bool") :
      ResultOf function (.plain "bool") "ret != 0"
  | view {id} (made : R (.native none function.result.type) id) :
      ResultOf function (.view id) "ret"

/-- A wrapper of the function. -/
structure WrapperOf (nativeClass : String) (function : Function) (wrapper : Wrapper) : Prop where
  name : wrapper.head.name = wrapperNameOf function
  entryPoint : wrapper.entryPoint = function.name
  nativeClass : wrapper.nativeClass = nativeClass
  result : ResultOf R function wrapper.result wrapper.resultCode
  marshaling : ∃ passings, Planned R s function (typedArguments function.arguments) passings ∧
    wrapper.marshaling = marshal (typedArguments function.arguments) passings

/-! ### Structs -/

/-- What the elements of an array field are made from. -/
def elementOrigin (t : NativeType) : Origin :=
  if s.isVector t then .plain s.settings.vectorName else .native none t

/-- The fields and the accessor of a field. -/
inductive FieldOf (field : Metadata.Field) : List Decl.Field × Accessor → Prop
  | array {id size inPlace} (h : field.isArray = true)
      (made : R (elementOrigin s (arrayParts field).1) id) :
      FieldOf field (arrayFields field (.ref id) size inPlace,
        accessorOf field (.list (.ref id) size inPlace))
  | callback {id} (h : field.isArray = false) (hcallback : field.info.type.isCallback = true)
      (made : R (.native (some (fieldDelegate field)) field.info.type) id) :
      FieldOf field ([.single (fieldHead field.name false field.comments) (.ref id)],
        accessorOf field (.field (.ref id)))
  | other {id reach} (h : field.isArray = false) (hcallback : field.info.type.isCallback = false)
      (hreach : reach = .field (.ref id) ∨
        ∃ element, vectorInstance? s field.info.type = some element ∧ reach = .vector element)
      (made : R (.native none field.info.type) id) :
      FieldOf field ([.single (fieldHead field.name false field.comments) (.ref id)],
        accessorOf field reach)

/-- The fields of a struct that are not left out. -/
def keptFields (item : Struct) : List Metadata.Field :=
  item.fields.filter fun field => (fieldSkip? s field).isNone

/-- The layout and the view of a struct. -/
structure PairOf (nativeClass : String) (functions : List Function) (item : Struct)
    (pair : Layout × View) : Prop where
  nativeName : pair.1.nativeName = item.name
  name : pair.1.head.name = Identifier.lastSegment item.name
  fields : ∃ parts, List.Forall₂ (FieldOf R s) (keptFields s item) parts ∧
    pair.1.fields = parts.flatMap (·.1) ∧ pair.2.accessors = parts.map (·.2)
  wrappers : ∀ wrapper ∈ pair.2.wrappers, ∃ function ∈ functions,
    Identifier.pairsWith function.name (Identifier.lastSegment item.name) = true ∧
    skipReason? s function = none ∧ WrapperOf R s nativeClass function wrapper

/-! ### Documents -/

/-- The structs of a document that have a layout. -/
def laidOut (structs : List Struct) : List Struct :=
  structs.filter fun item => (structSkip? s item).isNone && !item.fields.isEmpty

/-- The functions of a document that are not left out. -/
def imported (functions : List Function) : List Function :=
  functions.filter fun function => (skipReason? s function).isNone

/-- The declarations of a document, and the callback types that are registered for it. -/
structure Declares (nativeClass : String) (metadata : Metadata) (bindings : Bindings)
    (delegates : Table Method) : Prop where
  structs : List.Forall₂ (PairOf R s nativeClass metadata.functions) (laidOut s metadata.structs)
    bindings.structs
  externs : List.Forall₂ (ExternOf R s) (imported s metadata.functions) bindings.externs
  mainWrappers : ∀ wrapper ∈ bindings.mainWrappers, ∃ function ∈ metadata.functions,
    isMain s function = true ∧ WrapperOf R s nativeClass function wrapper
  delegates : ∀ name delegate, delegates.find? name = some delegate →
    ∃ target, CallbackOf metadata name target ∧ DelegateOf R target name delegate

/-! ### Other relations between origins and types -/

section mono

variable {R s} {R' : Origin → TypeId → Prop} (h : ∀ origin id, R origin id → R' origin id)
include h

theorem DelegateParameterOf.mono {position : Nat} {t : NativeType} {parameter : Parameter}
    (hp : DelegateParameterOf R position t parameter) :
    DelegateParameterOf R' position t parameter :=
  ⟨hp.name, hp.type.imp fun id hid => ⟨hid.1, h _ id hid.2⟩⟩

theorem DelegateOf.mono {target : NativeType} {name : String} {delegate : Method}
    (hd : DelegateOf R target name delegate) : DelegateOf R' target name delegate := by
  refine ⟨hd.name, hd.parameters.imp fun _ _ hp => hp.mono h, ?_⟩
  have hresult := hd.result
  revert hresult
  split
  · exact fun hresult => hresult.imp fun id hid => ⟨hid.1, h _ id hid.2⟩
  · exact id

theorem ParameterOf.mono {function : Function} {argument : Argument} {t : NativeType}
    {parameter : Parameter} (hp : ParameterOf R s function argument t parameter) :
    ParameterOf R' s function argument t parameter := by
  cases hp with
  | callback hcallback made => exact .callback hcallback (h _ _ made)
  | vector hvector => exact .vector hvector
  | other hcallback hvector made => exact .other hcallback hvector (h _ _ made)

theorem ExternOf.mono {function : Function} {method : Method} (he : ExternOf R s function method) :
    ExternOf R' s function method :=
  ⟨he.name, he.parameters.imp fun _ _ hp => hp.mono h,
    he.result.imp fun id hid => ⟨hid.1, h _ id hid.2⟩⟩

theorem Given.mono {function : Function} {argument : Argument} {t : NativeType} {passing : Passing}
    (hg : Given R s function argument t passing) : Given R' s function argument t passing := by
  cases hg with
  | texts hkind hinner hchar => exact .texts hkind hinner hchar
  | vector hkind hinner hbuiltin hfloat => exact .vector hkind hinner hbuiltin hfloat
  | array hkind hinner made => exact .array hkind hinner (h _ _ made)
  | callback hcallback => exact .callback hcallback
  | untyped hkind hinner hbuiltin hvoid => exact .untyped hkind hinner hbuiltin hvoid
  | truthRef hkind hinner hbuiltin hbool => exact .truthRef hkind hinner hbuiltin hbool
  | text hkind hinner hbuiltin hchar hconst => exact .text hkind hinner hbuiltin hchar hconst
  | buffer hkind hinner hbuiltin hchar hconst => exact .buffer hkind hinner hbuiltin hchar hconst
  | pinned hkind hinner hform made => exact .pinned hkind hinner hform (h _ _ made)
  | vectorPointer hvector => exact .vectorPointer hvector
  | truth hkind hbool => exact .truth hkind hbool
  | byRef hcallback hvector made => exact .byRef hcallback hvector (h _ _ made)
  | byView hcallback hvector made => exact .byView hcallback hvector (h _ _ made)

theorem Omitted.mono {argument : Argument} {t : NativeType} {passing : Passing}
    (ho : Omitted R s argument t passing) : Omitted R' s argument t passing := by
  cases ho with
  | text hchar hvalue made => exact .text hchar hvalue (h _ _ made)
  | value hform made => exact .value hform (h _ _ made)

theorem Planned.mono {function : Function} {arguments : List (Argument × NativeType)}
    {passings : List Passing} (hp : Planned R s function arguments passings) :
    Planned R' s function arguments passings := by
  induction hp with
  | none => exact .none
  | self hself _ ih => exact .self hself ih
  | given hself first _ ih => exact .given hself (first.mono h) ih
  | omitted hself hdefault all =>
    exact .omitted hself hdefault (all.imp fun _ _ ho => ho.mono h)

theorem ResultOf.mono {function : Function} {type : TypeText} {code : String}
    (hr : ResultOf R function type code) : ResultOf R' function type code := by
  cases hr with
  | truth hkind hbool => exact .truth hkind hbool
  | view made => exact .view (h _ _ made)

theorem WrapperOf.mono {nativeClass : String} {function : Function} {wrapper : Wrapper}
    (hw : WrapperOf R s nativeClass function wrapper) :
    WrapperOf R' s nativeClass function wrapper :=
  ⟨hw.name, hw.entryPoint, hw.nativeClass, hw.result.mono h,
    hw.marshaling.imp fun _ hp => ⟨hp.1.mono h, hp.2⟩⟩

theorem FieldOf.mono {field : Metadata.Field} {part : List Decl.Field × Accessor}
    (hf : FieldOf R s field part) : FieldOf R' s field part := by
  cases hf with
  | array harray made => exact .array harray (h _ _ made)
  | callback harray hcallback made => exact .callback harray hcallback (h _ _ made)
  | other harray hcallback hreach made => exact .other harray hcallback hreach (h _ _ made)

theorem PairOf.mono {nativeClass : String} {functions : List Function} {item : Struct}
    {pair : Layout × View} (hp : PairOf R s nativeClass functions item pair) :
    PairOf R' s nativeClass functions item pair := by
  refine ⟨hp.nativeName, hp.name, ?_, fun wrapper hmem => ?_⟩
  · exact hp.fields.imp fun _ hparts => ⟨hparts.1.imp fun _ _ hf => hf.mono h, hparts.2⟩
  · obtain ⟨function, hfunction, hpairs, hkept, hw⟩ := hp.wrappers wrapper hmem
    exact ⟨function, hfunction, hpairs, hkept, hw.mono h⟩

theorem Declares.mono {nativeClass : String} {metadata : Metadata} {bindings : Bindings}
    {delegates : Table Method} (hd : Declares R s nativeClass metadata bindings delegates) :
    Declares R' s nativeClass metadata bindings delegates := by
  refine ⟨hd.structs.imp fun _ _ hp => hp.mono h, hd.externs.imp fun _ _ he => he.mono h,
    fun wrapper hmem => ?_, fun name delegate hfind => ?_⟩
  · obtain ⟨function, hfunction, hmain, hw⟩ := hd.mainWrappers wrapper hmem
    exact ⟨function, hfunction, hmain, hw.mono h⟩
  · obtain ⟨target, hcallback, hdelegate⟩ := hd.delegates name delegate hfind
    exact ⟨target, hcallback, hdelegate.mono h⟩

end mono

end InteropGen.Generate

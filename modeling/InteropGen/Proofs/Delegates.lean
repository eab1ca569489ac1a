import InteropGen.Proofs.Correspondence.Enrolled
import InteropGen.Proofs.PassedTypes
import InteropGen.Proofs.Signatures

/-!
# Callback types and the delegates that are declared for them

A callback type becomes the type of a name, and it is declared by a walk of its own, which may give
the name to another function type or come to no declaration at all. Two theorems say how far the two
agree.

* `first_delegate_declared`: a field or a parameter is typed with the name that its callback type is
  listed under, and what is declared there is the delegate of the first function type with the name.
* `delegate_declared_iff`: wherever a type comes down to a callback type, the name that it is given
  is declared exactly if the document lists it.

Names that callback types have without being listed are those of results, of elements of arrays, of
callback types behind a pointer or an array, and of arguments left out for their defaults.
-/

namespace InteropGen

open Build

namespace NativeType

mutual

/-- The name given to the callback type that a type comes down to, through pointers and arrays. -/
def delegateName? (given : Option String) : NativeType → Option String
  | t@⟨kind, _, _, inner, _, _, _, _⟩ =>
    match kind with
    | .pointer | .array => innerDelegateName? inner
    | .synonym =>
      if t.isCallback then some (Symbols.callbackName t given) else innerDelegateName? inner
    | .builtin | .user | .function | .other _ => none

/-- The name given to the callback type that an inner type comes down to. -/
def innerDelegateName? : Option NativeType → Option String
  | some t => delegateName? none t
  | none => none

end

theorem isCallback_of_callback? {t target : NativeType} (h : t.callback? = some target) :
    t.isCallback = true := by
  rw [isCallback, h]
  rfl

end NativeType

namespace Symbols

open Generate

variable {s lo hi last : Symbols} {t : NativeType} {id : TypeId} {given : Option String}
  {name : String}

/-! ### The names of callback types -/

theorem callbackName_given (t : NativeType) (h : name.isEmpty = false) :
    callbackName t (some name) = name := by
  simp [callbackName, nonEmpty?, Option.filter, h]

theorem callbackName_fieldDelegate (t : NativeType) (field : Metadata.Field) :
    callbackName t (some (fieldDelegate field)) = fieldDelegate field := by
  have hfull : (fieldDelegate field).isEmpty = false := by simp [fieldDelegate]
  exact callbackName_given t hfull

/-- The type made for a callback type is the entry of its name. -/
theorem find?_madeFor_callback (hcallback : t.isCallback = true)
    (h : MadeFor lo hi (.native given t) id) :
    hi.arena.names.find? (callbackName t given) = some id := by
  have hkind := kind_of_isCallback hcallback
  obtain ⟨before, after, -, hrun, hafter⟩ := h
  obtain ⟨kind, builtin, typeName, inner, bounds, result, parameters, storage⟩ := t
  cases hkind
  unfold Origin.resolve resolve at hrun
  dsimp only at hrun
  rw [if_pos hcallback] at hrun
  obtain ⟨rfl, rfl⟩ := ok_lift.mp hrun
  exact hafter.arena.names _ _ (Arena.find?_named _ _)

/-- The type leads to the entry of the name. -/
def LeadsToName (s : Symbols) (id : TypeId) (name : String) : Prop :=
  ∃ root, s.arena.LeadsTo id root ∧ s.arena.names.find? name = some root

mutual

/-- A type that comes down to a callback type leads to the entry of the name that this is given. -/
theorem leadsTo_delegateName? (hlo : lo.Sound) (hlast : hi.Evolves last) :
    (t : NativeType) → {given : Option String} → {id : TypeId} →
    MadeFor lo hi (.native given t) id → t.delegateName? given = some name →
    last.LeadsToName id name
  | ⟨kind, builtin, typeName, inner, bounds, result, parameters, storage⟩, given, id, hmade,
    hname => by
    unfold NativeType.delegateName? at hname
    cases kind with
    | builtin | user | function | other => simp at hname
    | pointer | array =>
      obtain ⟨t, target, ht, htarget, hget⟩ := get?_madeFor_pointer (by simp) hlo hmade
      obtain ⟨root, hroot, hfind⟩ := leadsTo_innerDelegateName? hlo hlast inner ht htarget hname
      exact ⟨root, .pointer (hlast.arena.pointer hget) hroot, hfind⟩
    | synonym =>
      dsimp only at hname
      split at hname
      · next hcallback =>
        obtain rfl := Option.some.inj hname
        have hfind := find?_madeFor_callback hcallback hmade
        exact ⟨id, .here id, hlast.arena.names _ _ hfind⟩
      · next hcallback =>
        obtain ⟨before, after, hbefore, hrun, hafter⟩ := hmade
        unfold Origin.resolve resolve at hrun
        dsimp only at hrun
        rw [if_neg hcallback] at hrun
        cases inner with
        | none => simp [NativeType.innerDelegateName?] at hname
        | some t =>
          have hmade : MadeFor lo hi (.native none t) id := ⟨before, after, hbefore, hrun, hafter⟩
          exact leadsTo_innerDelegateName? hlo hlast (some t) rfl hmade hname

theorem leadsTo_innerDelegateName? (hlo : lo.Sound) (hlast : hi.Evolves last) :
    (inner : Option NativeType) → {t : NativeType} → {id : TypeId} → inner = some t →
    MadeFor lo hi (.native none t) id → NativeType.innerDelegateName? inner = some name →
    last.LeadsToName id name
  | some t, _, _, rfl, hmade, hname => leadsTo_delegateName? hlo hlast t hmade hname

end

end Symbols

namespace Generate

open Metadata Decl Symbols

variable {s s' lo built erased : Symbols} {nativeClass : String} {metadata : Metadata}
  {b all : Bindings} {name : String} {target t : NativeType} {type : TypeText}
  {field : Metadata.Field} {function : Function} {argument : Argument}

/-! ### Listed callback types -/

theorem mem_callbackAs (h : t.callback? = some target) : (name, target) ∈ callbackAs name t := by
  rw [callbackAs_some h]
  exact List.mem_singleton_self _

theorem mem_callbacks_field {item : Struct} (hitem : item ∈ laidOut lo metadata.structs)
    (hfield : field ∈ keptFields lo item) (harray : field.isArray = false)
    (hcallback : field.info.type.callback? = some target) :
    (fieldDelegate field, target) ∈ callbacks lo metadata := by
  refine List.mem_append_left _ (List.mem_append_right _ ?_)
  refine List.mem_flatMap.mpr ⟨item, hitem, List.mem_flatMap.mpr ⟨field, hfield, ?_⟩⟩
  rw [fieldCallback, if_neg (by simp [harray])]
  exact mem_callbackAs hcallback

theorem mem_callbacks_argument (hfunction : function ∈ imported lo metadata.functions)
    (hargument : (argument, t) ∈ typedArguments function.arguments)
    (hcallback : t.callback? = some target) :
    (argumentDelegate function argument, target) ∈ callbacks lo metadata := by
  refine List.mem_append_right _ ?_
  refine List.mem_flatMap.mpr ⟨function, hfunction, List.mem_flatMap.mpr ⟨_, hargument, ?_⟩⟩
  exact mem_callbackAs hcallback

/-- The first function type that is listed under a name that is listed. -/
theorem exists_first_callback {listed : List (String × NativeType)} (h : (name, target) ∈ listed) :
    ∃ first, listed.lookup name = some first ∧ (first = target ∨ ∃ before after,
      listed = before ++ (name, target) :: after ∧ name ∈ before.map (·.1)) := by
  obtain ⟨before, after, hsplit⟩ := List.append_of_mem h
  have hhere : List.lookup name ((name, target) :: after) = some target := by simp
  cases hbefore : before.lookup name with
  | none =>
    refine ⟨target, ?_, .inl rfl⟩
    rw [hsplit, List.lookup_append, hbefore, Option.none_or, hhere]
  | some first =>
    refine ⟨first, ?_, .inr ⟨before, after, hsplit, ?_⟩⟩
    · rw [hsplit, List.lookup_append, hbefore, Option.some_or]
    · obtain ⟨earlier, later, hfound, -⟩ := List.lookup_eq_some_iff.mp hbefore
      rw [hfound]
      simp

/-! ### The delegates of fields and parameters -/

/--
A type in a declaration is the one of the name, and under the name the delegate of the first
function type is declared that is listed under it: the type's own unless an earlier one has the
name.
-/
structure DeclaredFirst (lo built s' : Symbols) (metadata : Metadata) (name : String)
    (target : NativeType) (type : TypeText) : Prop where
  typed : ∃ id, type = .ref id ∧ s'.arena.names.find? name = some id
  spelled : s'.spell type = .ok (s'.nameText name)
  declared : ∃ first method, (callbacks lo metadata).lookup name = some first ∧
    (first = target ∨ ∃ before after, callbacks lo metadata = before ++ (name, target) :: after ∧
      name ∈ before.map (·.1)) ∧
    s'.delegates.find? name = some method ∧ Synthesized lo built first name method

/-- The declarations of a field that is a function pointer. -/
def FieldDelegate (lo built s' : Symbols) (metadata : Metadata) (field : Metadata.Field)
    (part : List Decl.Field × Accessor) : Prop :=
  field.isArray = false → ∀ target, field.info.type.callback? = some target →
    ∃ type, part.1 = [.single (fieldHead field.name false field.comments) type] ∧
      DeclaredFirst lo built s' metadata (fieldDelegate field) target type

/-- The parameter for an argument that is a function pointer. -/
def ParameterDelegate (lo built s' : Symbols) (metadata : Metadata) (function : Function)
    (argument : Argument × NativeType) (parameter : Parameter) : Prop :=
  ∀ target, argument.2.callback? = some target →
    parameter.name = Identifier.escape argument.1.name ∧
    DeclaredFirst lo built s' metadata (argumentDelegate function argument.1) target parameter.type

/-- What is declared for the function pointers among the fields and the parameters. -/
structure DeclaresFirst (lo built s' : Symbols) (metadata : Metadata) (b : Bindings) : Prop where
  fields : ∀ pair ∈ b.structs, ∃ item ∈ laidOut lo metadata.structs,
    pair.1.nativeName = item.name ∧ ∃ parts, pair.1.fields = parts.flatMap (·.1) ∧
      List.Forall₂ (FieldDelegate lo built s' metadata) (keptFields lo item) parts
  parameters : List.Forall₂ (fun function method => method.head.name = function.name ∧
      List.Forall₂ (ParameterDelegate lo built s' metadata function)
        (typedArguments function.arguments) method.parameters)
    (imported lo metadata.functions) b.externs
  delegates : ∀ name method, s'.delegates.find? name = some method →
    ∃ first, (callbacks lo metadata).lookup name = some first ∧
      Synthesized lo built first name method

section enrolled

variable (henrolls : Enrolls (callbacks lo metadata) lo built) (hnone : lo.delegates = {})
  (hsettles : Settles all.structs built erased s')

include henrolls hnone hsettles

theorem declaredFirst (hlo : lo.Sound) (hlisted : (name, target) ∈ callbacks lo metadata)
    {id : TypeId} (hfind : built.arena.names.find? name = some id) :
    DeclaredFirst lo built s' metadata name target (.ref id) := by
  have hlast : s'.Sound := hsettles.keeps.sound (henrolls.grows.sound hlo)
  have hentry : s'.arena.names.find? name = some id := hsettles.keeps.arena.names _ _ hfind
  have hfree : lo.delegates.find? name = none := by
    rw [hnone]
    rfl
  refine ⟨⟨id, rfl, hentry⟩, spellId_of_find? hlast hentry, ?_⟩
  obtain ⟨first, hlookup, hown⟩ := exists_first_callback hlisted
  obtain ⟨method, hmethod, hmade⟩ := henrolls.first name first hfree hlookup
  rw [← hsettles.keeps.delegates] at hmethod
  exact ⟨first, method, hlookup, hown, hmethod, hmade⟩

theorem synthesized_of_find? {method : Method} (h : s'.delegates.find? name = some method) :
    ∃ first, (callbacks lo metadata).lookup name = some first ∧
      Synthesized lo built first name method := by
  have hfree : lo.delegates.find? name = none := by
    rw [hnone]
    rfl
  rw [hsettles.keeps.delegates] at h
  cases hlookup : (callbacks lo metadata).lookup name with
  | none =>
    rw [henrolls.others name hfree hlookup] at h
    simp at h
  | some first =>
    obtain ⟨declared, hfind, hmade⟩ := henrolls.first name first hfree hlookup
    rw [h] at hfind
    obtain rfl := Option.some.inj hfind
    exact ⟨first, rfl, hmade⟩

theorem fieldDelegate_of (hlo : lo.Sound) {item : Struct}
    (hitem : item ∈ laidOut lo metadata.structs) (hfield : field ∈ keptFields lo item)
    {part : List Decl.Field × Accessor} (h : FieldOf (MadeFor lo built) lo field part) :
    FieldDelegate lo built s' metadata field part := by
  intro harray target htarget
  have hcallback := NativeType.isCallback_of_callback? htarget
  cases h with
  | array hisArray _ =>
    rw [hisArray] at harray
    simp at harray
  | callback _ _ made =>
    have hfind := find?_madeFor_callback hcallback made
    rw [callbackName_fieldDelegate] at hfind
    have hlisted := mem_callbacks_field hitem hfield harray htarget
    exact ⟨_, rfl, declaredFirst henrolls hnone hsettles hlo hlisted hfind⟩
  | other _ hother _ _ =>
    rw [hcallback] at hother
    simp at hother

theorem parameterDelegate_of (hlo : lo.Sound)
    (hfunction : function ∈ imported lo metadata.functions)
    (hargument : (argument, t) ∈ typedArguments function.arguments) {parameter : Parameter}
    (h : ParameterOf (MadeFor lo built) lo function argument t parameter) :
    ParameterDelegate lo built s' metadata function (argument, t) parameter := by
  intro target htarget
  have hcallback := NativeType.isCallback_of_callback? htarget
  cases h with
  | callback _ made =>
    have hfind := find?_madeFor_callback hcallback made
    rw [callbackName_argumentDelegate] at hfind
    have hlisted := mem_callbacks_argument hfunction hargument htarget
    exact ⟨rfl, declaredFirst henrolls hnone hsettles hlo hlisted hfind⟩
  | vector hvector =>
    rw [not_pointsToVector_of_isCallback lo hcallback] at hvector
    simp at hvector
  | other hother _ _ =>
    rw [hcallback] at hother
    simp at hother

end enrolled

/-- The listed callback types of a run are enrolled, and none is before. -/
theorem Built.enrolls (h : Built nativeClass metadata s b all built erased s') :
    Enrolls (callbacks (opened metadata s.beginConfiguration) metadata)
      (opened metadata s.beginConfiguration) built ∧
    (opened metadata s.beginConfiguration).delegates = {} :=
  ⟨enrolls_declared h.declared, h.opens.delegates⟩

/--
Every field of a kept layout that is a function pointer and no array, and every parameter of an
imported method that is a function pointer, is typed with the name that its callback type is listed
under. The delegate declared under the name is the one made from the first function type that is
listed under it: the field's or the parameter's own, unless an earlier callback type of the document
has the name.
-/
theorem first_delegate_declared {settings : Settings} (hs : Reached settings s)
    (hrun : (bindings nativeClass metadata).runOn s.beginConfiguration = (.ok b, s')) :
    ∃ all built, (declared nativeClass metadata).runOn s.beginConfiguration = (.ok all, built) ∧
      (settle all).runOn built = (.ok b, s') ∧
      DeclaresFirst (opened metadata s.beginConfiguration) built s' metadata b := by
  obtain ⟨all, built, erased, hbuilt⟩ := hs.built hrun
  obtain ⟨henrolls, hnone⟩ := hbuilt.enrolls
  have hsettles := hbuilt.settles
  have hlo := hbuilt.sound
  refine ⟨all, built, hbuilt.declared, hbuilt.settle hrun, ?_, ?_, ?_⟩
  · intro pair hpair
    obtain ⟨item, hlaidOut, hof⟩ := hbuilt.layout hpair
    obtain ⟨parts, hparts, hfields, -⟩ := hof.fields
    refine ⟨item, hlaidOut, hof.nativeName, parts, hfields, ?_⟩
    have hboth := (List.forall₂_and_left _ _).mpr ⟨fun _ hfield => hfield, hparts⟩
    exact hboth.imp fun field part ⟨hfield, hpart⟩ =>
      fieldDelegate_of henrolls hnone hsettles hlo hlaidOut hfield hpart
  · rw [hbuilt.kept]
    have hboth := (List.forall₂_and_left _ _).mpr
      ⟨fun _ hfunction => hfunction, hbuilt.declares.externs⟩
    refine hboth.imp fun function method ⟨hfunction, hof⟩ => ⟨hof.name, ?_⟩
    have hpairs := (List.forall₂_and_left _ _).mpr ⟨fun _ hargument => hargument, hof.parameters⟩
    exact hpairs.imp fun argument parameter ⟨hargument, hparameter⟩ =>
      parameterDelegate_of henrolls hnone hsettles hlo hfunction hargument hparameter
  · intro name method hfind
    exact synthesized_of_find? henrolls hnone hsettles hfind

/-- A function type with one parameter of a builtin type. -/
def functionOf (builtin : String) : NativeType where
  kind := .function
  result := some { kind := .builtin, builtin := some "void" }
  parameters := [{ kind := .builtin, builtin := some builtin }]

/-- A callback type, with a name or without. -/
def callbackOf (target : NativeType) (name : Option String := none) : NativeType :=
  { kind := .synonym, name := name, inner := some { kind := .pointer, inner := some target } }

/-- A typedef and a field that give one name to two callback types. -/
def sharedName : Metadata where
  typedefs := [{ name := "onDrawDelegate", info := { type := callbackOf (functionOf "int") } }]
  structs :=
    [{ name := "ImPanel"
       fields := [{ name := "onDraw", info := { type := callbackOf (functionOf "float") } }] }]

/-- A function with an argument that is a function pointer. -/
def drawFunction : Function where
  name := "ImGui_Draw"
  result := { type := { kind := .builtin, builtin := some "void" } }
  arguments :=
    [{ name := "callback", info := some { type := callbackOf (functionOf "float") } }]

theorem first_delegate_declared_sharedName :
    ∃ b s' all built,
      (bindings "Native" { sharedName with functions := [drawFunction] }).runOn
        (ofSettings {}).beginConfiguration = (.ok b, s') ∧
      (declared "Native" { sharedName with functions := [drawFunction] }).runOn
        (ofSettings {}).beginConfiguration = (.ok all, built) ∧
      s'.delegates.keys = ["onDrawDelegate", "ImGui_DrawcallbackDelegate"] ∧
      DeclaresFirst (opened { sharedName with functions := [drawFunction] }
        (ofSettings {}).beginConfiguration) built s' { sharedName with functions := [drawFunction] }
        b := by
  obtain ⟨b, s', hrun, hkeys⟩ := exists_ok
    (bindings "Native" { sharedName with functions := [drawFunction] })
    (ofSettings {}).beginConfiguration (fun _ s' => s'.delegates.keys)
    (b := ["onDrawDelegate", "ImGui_DrawcallbackDelegate"]) (by decide +kernel)
  obtain ⟨all, built, hdeclared, -, hfirst⟩ := first_delegate_declared .start hrun
  exact ⟨b, s', all, built, hrun, hdeclared, hkeys, hfirst⟩

/-- The spellings of the parameters of a method. -/
def parameterTypes (s : Symbols) (method : Method) : List (Except Fault String) :=
  method.parameters.map fun parameter => s.spell parameter.type

/-- The type of a field of a layout, or of its elements. -/
def fieldType : Decl.Field → TypeText
  | .single _ type | .buffer _ type _ => type

/--
The delegate under the name of a field is not the field's own where a typedef has the name: it has the
parameter of the typedef's function type, and the one made from the field's has another.
-/
theorem field_delegate_not_own :
    ∃ b s' method own after,
      (bindings "Native" sharedName).runOn (ofSettings {}).beginConfiguration = (.ok b, s') ∧
      b.structs.flatMap (·.1.fields.map fun field => s'.spell (fieldType field)) =
        [.ok "onDrawDelegate"] ∧
      s'.delegates.find? "onDrawDelegate" = some method ∧
      parameterTypes s' method = [.ok "int"] ∧
      (delegate (functionOf "float") "onDrawDelegate" none).runOn s' = (.ok own, after) ∧
      parameterTypes after own = [.ok "float"] := by
  obtain ⟨b, s', hrun, hread⟩ := exists_ok (bindings "Native" sharedName)
    (ofSettings {}).beginConfiguration (fun b s' =>
      (b.structs.flatMap (·.1.fields.map fun field => s'.spell (fieldType field)),
        (s'.delegates.find? "onDrawDelegate").map (parameterTypes s'),
        ((delegate (functionOf "float") "onDrawDelegate" none).runOn s').1.toOption.map
          (parameterTypes ((delegate (functionOf "float") "onDrawDelegate" none).runOn s').2)))
    (b := ([.ok "onDrawDelegate"], some [.ok "int"], some [.ok "float"])) (by decide +kernel)
  obtain ⟨hfields, hread⟩ := Prod.mk.inj hread
  obtain ⟨hdeclared, hown⟩ := Prod.mk.inj hread
  obtain ⟨method, hmethod, htypes⟩ := Option.map_eq_some_iff.mp hdeclared
  obtain ⟨own, after, howned, hothers⟩ := exists_ok
    (delegate (functionOf "float") "onDrawDelegate" none) s' (fun own after =>
      parameterTypes after own) hown
  exact ⟨b, s', method, own, after, hrun, hfields, hmethod, htypes, howned, hothers⟩

/-! ### All types that name a callback type -/

/-- The name given to the callback type that what a type is made from comes down to. -/
def Origin.delegateName? : Origin → Option String
  | native given t => t.delegateName? given
  | plain _ => none

/--
The type was made from the origin. If that comes down to a callback type, the type leads to the
entry of the name that this is given, and the name is declared exactly if it is listed.
-/
structure MadeNaming (lo built s' : Symbols) (metadata : Metadata) (origin : Origin) (id : TypeId) :
    Prop where
  made : MadeFor lo built origin id
  leads : ∀ name, origin.delegateName? = some name → s'.LeadsToName id name
  declared : ∀ name, origin.delegateName? = some name →
    (s'.delegates.contains name = true ↔ name ∈ (callbacks lo metadata).map (·.1))

/--
Wherever a type of a declaration comes down to a callback type, the type leads to the name that this
is given, and the name is declared exactly if the document lists it. Listed are the names of the
callback types of fields that are no arrays and of arguments; other names need not be.
-/
theorem delegate_declared_iff {settings : Settings} (hs : Reached settings s)
    (hrun : (bindings nativeClass metadata).runOn s.beginConfiguration = (.ok b, s')) :
    ∃ all built, (declared nativeClass metadata).runOn s.beginConfiguration = (.ok all, built) ∧
      (settle all).runOn built = (.ok b, s') ∧
      b = { all with structs := all.structs.filter hasMembers } ∧
      Declares (MadeNaming (opened metadata s.beginConfiguration) built s' metadata)
        (opened metadata s.beginConfiguration) nativeClass metadata all s'.delegates ∧
      (∀ item ∈ laidOut (opened metadata s.beginConfiguration) metadata.structs,
        ∀ field ∈ keptFields (opened metadata s.beginConfiguration) item,
        field.isArray = false → field.info.type.isCallback = true →
        s'.delegates.contains (fieldDelegate field) = true) ∧
      (∀ function ∈ imported (opened metadata s.beginConfiguration) metadata.functions,
        ∀ argument t, (argument, t) ∈ typedArguments function.arguments → t.isCallback = true →
        s'.delegates.contains (argumentDelegate function argument) = true) := by
  obtain ⟨all, built, erased, hbuilt⟩ := hs.built hrun
  obtain ⟨henrolls, hnone⟩ := hbuilt.enrolls
  have hlo := hbuilt.sound
  have hevolves := hbuilt.settles.keeps.evolves
  have hdelegates : s'.delegates = built.delegates := hbuilt.settles.keeps.delegates
  have hcontains : ∀ name, s'.delegates.contains name = true ↔
      name ∈ (callbacks (opened metadata s.beginConfiguration) metadata).map (·.1) := by
    intro name
    rw [hdelegates]
    exact henrolls.contains_iff hnone
  refine ⟨all, built, hbuilt.declared, hbuilt.settle hrun, hbuilt.kept, ?_, ?_, ?_⟩
  · rw [hdelegates]
    refine hbuilt.declares.mono fun origin id hmade => ⟨hmade, ?_, fun name _ => hcontains name⟩
    intro name hname
    cases origin with
    | plain text => simp [Origin.delegateName?] at hname
    | native given t => exact leadsTo_delegateName? hlo hevolves t hmade hname
  · intro item hitem field hfield harray hcallback
    obtain ⟨target, htarget⟩ := Option.isSome_iff_exists.mp hcallback
    rw [hcontains]
    exact List.mem_map_of_mem (mem_callbacks_field hitem hfield harray htarget)
  · intro function hfunction argument t hargument hcallback
    obtain ⟨target, htarget⟩ := Option.isSome_iff_exists.mp hcallback
    rw [hcontains]
    exact List.mem_map_of_mem (mem_callbacks_argument hfunction hargument htarget)

/-- A function whose result is a callback type. -/
def getCallback : Function where
  name := "ImGui_GetCallback"
  result := { type := callbackOf (functionOf "int") (some "GetFn") }
  arguments := []

/-- The name that the result of a method is given is not declared. -/
theorem delegate_declared_iff_getCallback :
    ∃ b s' all built, (bindings "Native" { functions := [getCallback] }).runOn
        (ofSettings {}).beginConfiguration = (.ok b, s') ∧
      b.externs.map (s'.spell ·.result) = [.ok "GetFnDelegate"] ∧
      s'.delegates.contains "GetFnDelegate" = false ∧
      Declares (MadeNaming
          (opened { functions := [getCallback] } (ofSettings {}).beginConfiguration) built s'
          { functions := [getCallback] })
        (opened { functions := [getCallback] } (ofSettings {}).beginConfiguration) "Native"
        { functions := [getCallback] } all s'.delegates := by
  obtain ⟨b, s', hrun, hread⟩ := exists_ok (bindings "Native" { functions := [getCallback] })
    (ofSettings {}).beginConfiguration
    (fun b s' => (b.externs.map (s'.spell ·.result), s'.delegates.contains "GetFnDelegate"))
    (b := ([.ok "GetFnDelegate"], false)) (by decide +kernel)
  obtain ⟨hspelled, habsent⟩ := Prod.mk.inj hread
  obtain ⟨all, built, -, -, -, hdeclares, -⟩ := delegate_declared_iff .start hrun
  exact ⟨b, s', all, built, hrun, hspelled, habsent, hdeclares⟩

end Generate

end InteropGen

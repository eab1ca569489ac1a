import InteropGen.Proofs.Correspondence.Document

/-!
# Wrappers call what is imported

A wrapper and the method that it calls are made by separate walks over the arguments of one function.
`calls_fit` says that they agree: the method is imported from the same function, and each argument
that has a type gives one parameter of it and one expression of the wrapper, at the same position. The
argument behind it is that every way of passing adds exactly one expression (`native_part`), so the
expressions stay in step with the arguments through any mix of strategies (`native_marshal`).
-/

namespace InteropGen.Generate

open Metadata Decl Build Symbols

/-- The expression that a way of passing hands on for an argument of a C# name. -/
def Passing.expression (name : String) : Passing → String
  | self => "NativePtr"
  | byName _ | defaultValue _ _ | defaultText _ _ => name
  | vector _ => "(float*)" ++ Identifier.nativeLocal name
  | pinned _ | array _ | texts | text | buffer | truth | truthRef | untyped _ =>
    Identifier.nativeLocal name

theorem native_part (name : String) (passing : Passing) :
    (passing.part name).native = [passing.expression name] := by
  cases passing <;> rfl

/-- A marshaling has one expression for each argument, in their order. -/
theorem native_marshal {Q : Argument × NativeType → Passing → Prop}
    {arguments : List (Argument × NativeType)} {passings : List Passing}
    (h : List.Forall₂ Q arguments passings) :
    List.Forall₂ (fun argument expression => ∃ passing, Q argument passing ∧
        expression = passing.expression (Identifier.escape argument.1.name))
      arguments (marshal arguments passings).native := by
  induction h with
  | nil => exact .nil
  | @cons argument passing arguments passings first _ ih =>
    show List.Forall₂ _ _ ((passing.part (Identifier.escape argument.1.name)).native ++ _)
    rw [native_part]
    exact .cons ⟨passing, first, rfl⟩ ih

/-- The expression belongs to the parameter, and both to the argument. -/
structure Fits (argument : Argument) (parameter : Parameter) (expression : String) : Prop where
  name : parameter.name = Identifier.escape argument.name
  expression : expression = parameter.name ∨
    expression = Identifier.nativeLocal parameter.name ∨
    expression = "(float*)" ++ Identifier.nativeLocal parameter.name ∨
    (argument.name = "self" ∧ expression = "NativePtr")

variable {R : Origin → TypeId → Prop} {s s' : Symbols} {function : Function} {method : Method}
  {wrapper : Wrapper} {nativeClass : String} {metadata : Metadata} {b : Bindings}

theorem ParameterOf.name {argument : Argument} {t : NativeType} {parameter : Parameter}
    (h : ParameterOf R s function argument t parameter) :
    parameter.name = Identifier.escape argument.name := by
  cases h <;> rfl

theorem Passed.fits {argument : Argument} {t : NativeType} {passing : Passing}
    {parameter : Parameter} (h : Passed R s function argument t passing)
    (hparameter : parameter.name = Identifier.escape argument.name) :
    Fits argument parameter (passing.expression (Identifier.escape argument.name)) := by
  refine ⟨hparameter, ?_⟩
  rw [hparameter]
  have hnamed : passing.expression (Identifier.escape argument.name) =
        Identifier.escape argument.name ∨
      passing.expression (Identifier.escape argument.name) =
        Identifier.nativeLocal (Identifier.escape argument.name) ∨
      passing.expression (Identifier.escape argument.name) =
        "(float*)" ++ Identifier.nativeLocal (Identifier.escape argument.name) ∨
      passing = .self := by
    cases passing <;> simp [Passing.expression]
  rcases hnamed with hname | hlocal | hcast | rfl
  · exact .inl hname
  · exact .inr (.inl hlocal)
  · exact .inr (.inr (.inl hcast))
  · refine .inr (.inr (.inr ⟨?_, rfl⟩))
    cases h with
    | self hself => exact hself
    | given hgiven => cases hgiven
    | omitted homitted => cases homitted

/-- The call of a wrapper fits the parameters of a method that is imported from its function. -/
theorem call_fits (hmethod : ExternOf R s function method)
    (hwrapper : WrapperOf R s nativeClass function wrapper) :
    wrapper.marshaling.native.length = method.parameters.length ∧
      ∀ (i : Nat) parameter expression, method.parameters[i]? = some parameter →
        wrapper.marshaling.native[i]? = some expression →
        ∃ argument t, (typedArguments function.arguments)[i]? = some (argument, t) ∧
          Fits argument parameter expression := by
  obtain ⟨passings, hplanned, hmarshal⟩ := hwrapper.marshaling
  have hnative := native_marshal hplanned.passed
  rw [← hmarshal] at hnative
  refine ⟨hnative.length_eq.symm.trans hmethod.parameters.length_eq,
    fun i parameter expression hparameter hexpression => ?_⟩
  obtain ⟨⟨argument, t⟩, hargument, hof⟩ := forall₂_getElem? hmethod.parameters.flip hparameter
  obtain ⟨expression', hexpression', passing, hpassed, rfl⟩ := forall₂_getElem? hnative hargument
  obtain rfl := Option.some.inj (hexpression'.symm.trans hexpression)
  exact ⟨argument, t, hargument, hpassed.fits hof.name⟩

/-- The wrappers of the main class and of all views. -/
def Bindings.wrappers (b : Bindings) : List Wrapper :=
  b.mainWrappers ++ b.structs.flatMap (·.2.wrappers)

/-- Every wrapper is one of an imported function. -/
theorem Declares.wrapperOf {delegates : Table Method}
    (h : Declares R s nativeClass metadata b delegates) (hwrapper : wrapper ∈ b.wrappers) :
    ∃ function ∈ imported s metadata.functions, WrapperOf R s nativeClass function wrapper := by
  rcases List.mem_append.mp hwrapper with hmem | hmem
  · obtain ⟨function, hfunction, hmain, hof⟩ := h.mainWrappers wrapper hmem
    have hboth : Text.startsWith function.name s.settings.mainMark = true ∧
        (skipReason? s function).isNone = true := by simpa [isMain] using hmain
    exact ⟨function, List.mem_filter.mpr ⟨hfunction, hboth.2⟩, hof⟩
  · obtain ⟨pair, hpair, hmem⟩ := List.mem_flatMap.mp hmem
    obtain ⟨item, -, hof⟩ := forall₂_mem h.structs.flip hpair
    obtain ⟨function, hfunction, -, hkept, hw⟩ := hof.wrappers wrapper hmem
    exact ⟨function, List.mem_filter.mpr ⟨hfunction, by rw [hkept]; rfl⟩, hw⟩

/-- The bindings of a run, with the symbols before and after they are settled. -/
structure Built (nativeClass : String) (metadata : Metadata) (s : Symbols) (b : Bindings)
    (all : Bindings) (built erased s' : Symbols) : Prop where
  declared : (declared nativeClass metadata).runOn s.beginConfiguration = (.ok all, built)
  opens : Opens s.beginConfiguration (opened metadata s.beginConfiguration)
  sound : (opened metadata s.beginConfiguration).Sound
  grows : (opened metadata s.beginConfiguration).Grows built
  declares : Declares (MadeFor (opened metadata s.beginConfiguration) built)
    (opened metadata s.beginConfiguration) nativeClass metadata all built.delegates
  kept : b = { all with structs := all.structs.filter hasMembers }
  settles : Settles all.structs built erased s'

theorem Reached.built {settings : Settings} (hs : Reached settings s)
    (hrun : (bindings nativeClass metadata).runOn s.beginConfiguration = (.ok b, s')) :
    ∃ all built erased, Built nativeClass metadata s b all built erased s' := by
  have hopens := opens_opened metadata s.beginConfiguration
  have hsound := hopens.sound (sound_beginConfiguration hs.sound)
  obtain ⟨all, built, erased, hdeclared, -, hkept, hsettles⟩ := ok_bindings hsound hrun rfl
  obtain ⟨hgrows, hdeclares⟩ := declares rfl hdeclared
  exact ⟨all, built, erased, hdeclared, hopens, hsound, hgrows, hdeclares, hkept, hsettles⟩

theorem Built.settle {all : Bindings} {built erased : Symbols}
    (h : Built nativeClass metadata s b all built erased s')
    (hrun : (bindings nativeClass metadata).runOn s.beginConfiguration = (.ok b, s')) :
    (Generate.settle all).runOn built = (.ok b, s') := by
  rwa [bindings_eq, runOn_bind_ok h.declared] at hrun

/-- A layout that is kept is the one of a struct that has a layout. -/
theorem Built.layout {all : Bindings} {built erased : Symbols} {pair : Layout × View}
    (h : Built nativeClass metadata s b all built erased s') (hpair : pair ∈ b.structs) :
    ∃ item ∈ laidOut (opened metadata s.beginConfiguration) metadata.structs,
      PairOf (MadeFor (opened metadata s.beginConfiguration) built)
        (opened metadata s.beginConfiguration) nativeClass metadata.functions item pair := by
  rw [h.kept] at hpair
  obtain ⟨hall, -⟩ := List.mem_filter.mp hpair
  exact forall₂_mem h.declares.structs.flip hall

/-- A wrapper that is kept meets the method that is imported from its function. -/
theorem Built.meets {all : Bindings} {built erased : Symbols}
    (h : Built nativeClass metadata s b all built erased s') (hwrapper : wrapper ∈ b.wrappers) :
    ∃ (i : Nat) (function : Function) (method : Method),
      (imported (opened metadata s.beginConfiguration) metadata.functions)[i]? = some function ∧
      b.externs[i]? = some method ∧
      ExternOf (MadeFor (opened metadata s.beginConfiguration) built)
        (opened metadata s.beginConfiguration) function method ∧
      WrapperOf (MadeFor (opened metadata s.beginConfiguration) built)
        (opened metadata s.beginConfiguration) nativeClass function wrapper := by
  have hall : wrapper ∈ all.wrappers := by
    rw [h.kept] at hwrapper
    rcases List.mem_append.mp hwrapper with hmem | hmem
    · exact List.mem_append_left _ hmem
    · obtain ⟨pair, hpair, hmem⟩ := List.mem_flatMap.mp hmem
      exact List.mem_append_right _
        (List.mem_flatMap.mpr ⟨pair, (List.mem_filter.mp hpair).1, hmem⟩)
  obtain ⟨function, hfunction, hof⟩ := h.declares.wrapperOf hall
  obtain ⟨i, hi⟩ := List.mem_iff_getElem?.mp hfunction
  obtain ⟨method, hmethod, hextern⟩ := forall₂_getElem? h.declares.externs hi
  exact ⟨i, function, method, hi, by rw [h.kept]; exact hmethod, hextern, hof⟩

/-- The wrapper calls a method that is imported from its function, with one expression a parameter. -/
structure Calls (s : Symbols) (nativeClass : String) (metadata : Metadata) (b : Bindings)
    (wrapper : Wrapper) (function : Function) (method : Method) : Prop where
  imports : ∃ i : Nat, (imported s metadata.functions)[i]? = some function ∧
    b.externs[i]? = some method
  externOf : ExternOf (fun _ _ => True) s function method
  wrapperOf : WrapperOf (fun _ _ => True) s nativeClass function wrapper
  nativeClass : wrapper.nativeClass = nativeClass
  entryPoint : wrapper.entryPoint = method.head.name
  arity : wrapper.marshaling.native.length = method.parameters.length
  position : ∀ (i : Nat) parameter expression, method.parameters[i]? = some parameter →
    wrapper.marshaling.native[i]? = some expression →
    ∃ argument t, (typedArguments function.arguments)[i]? = some (argument, t) ∧
      Fits argument parameter expression

/--
Every wrapper of the main class or of a kept view calls a method of the native class that is imported
from the wrapper's own function, with one expression for each of its parameters at its position.
-/
theorem calls_fit {settings : Settings} (hs : Reached settings s)
    (hrun : (bindings nativeClass metadata).runOn s.beginConfiguration = (.ok b, s'))
    (hwrapper : wrapper ∈ b.wrappers) :
    ∃ function method, Calls (opened metadata s.beginConfiguration) nativeClass metadata b wrapper
      function method := by
  obtain ⟨all, built, erased, hbuilt⟩ := hs.built hrun
  obtain ⟨i, function, method, hfunction, hmethod, hextern, hof⟩ := hbuilt.meets hwrapper
  obtain ⟨hlength, hfits⟩ := call_fits hextern hof
  exact ⟨function, method, ⟨i, hfunction, hmethod⟩, hextern.mono fun _ _ _ => trivial,
    hof.mono fun _ _ _ => trivial, hof.nativeClass, hof.entryPoint.trans hextern.name.symm, hlength,
    hfits⟩

/-- A function with an array of floats and a number that may be left out. -/
def plotLines : Function where
  name := "ImGui_PlotLines"
  result := { type := { kind := .builtin, builtin := some "void" } }
  arguments :=
    [{ name := "values"
       info := some { type :=
        { kind := .array, inner := some { kind := .builtin, builtin := some "float" }
          bounds := some "3" } } },
     { name := "count"
       info := some { type := { kind := .builtin, builtin := some "int" } }
       default := some "1" }]

theorem calls_fit_plotLines :
    ∃ b s' wrapper, (bindings "Native" { functions := [plotLines] }).runOn
        (ofSettings {}).beginConfiguration = (.ok b, s') ∧
      wrapper ∈ b.wrappers ∧ wrapper.marshaling.native = ["(float*)native_values", "count"] ∧
      ∃ function method, Calls (opened { functions := [plotLines] } (ofSettings {}).beginConfiguration)
        "Native" { functions := [plotLines] } b wrapper function method := by
  obtain ⟨b, s', hrun, hnative⟩ := exists_ok (bindings "Native" { functions := [plotLines] })
    (ofSettings {}).beginConfiguration (fun b _ => b.wrappers.map (·.marshaling.native))
    (b := [["(float*)native_values", "count"], ["(float*)native_values", "count"]])
    (by decide +kernel)
  obtain ⟨wrapper, rest, hwrappers, hfirst, -⟩ := List.map_eq_cons_iff.mp hnative
  have hwrapper : wrapper ∈ b.wrappers := by simp [hwrappers]
  exact ⟨b, s', wrapper, hrun, hwrapper, hfirst, calls_fit .start hrun hwrapper⟩

end InteropGen.Generate

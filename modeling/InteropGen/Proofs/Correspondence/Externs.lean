import InteropGen.Proofs.Correspondence.Callbacks

/-!
# Externs and their functions

Every function that is not left out is imported by one method, with one parameter for each argument
that has a type. `s₀` stands for any earlier symbols: what is left out hangs on settings and defines,
which do not change on the way.
-/

namespace InteropGen.Generate

open Metadata Decl Build Symbols

variable {s₀ lo s s' : Symbols} {P : String → NativeType → Prop} {function : Function}
  {R : Symbols → Symbols → Prop} {Q : NativeType → Prop} [Std.Refl R] [IsTrans Symbols R]

theorem skipReason?_rules (h : SameRules s s') (function : Function) :
    skipReason? s' function = skipReason? s function := by
  rw [skipReason?, skipReason?, h.admits, h.settings]

theorem skipReason?_grows (h : s.Grows s') (function : Function) :
    skipReason? s' function = skipReason? s function :=
  skipReason?_rules h.rules function

/-! ### Parameters -/

theorem walk_parameterType (h : Walk R Q) {t : NativeType} (ht : Q t) :
    Preserves R (parameterType t) := by
  refine .bind .get fun s => ?_
  split
  · exact .throw _
  · split
    · exact .pure _
    · exact .bind (h.resolve ht) fun _ => .pure _
  · exact .bind (h.resolve ht) fun _ => .pure _

theorem quiet_parameterType (t : NativeType) : Preserves Quiet (parameterType t) :=
  walk_parameterType quietWalk trivial

theorem parameterOf_parameterType {argument : Argument} {t : NativeType} {type : TypeText}
    (h₀ : s₀.Grows s) (hlo : lo.Grows s) (hcallback : t.isCallback = false)
    (hrun : (parameterType t).runOn s = (.ok type, s')) :
    ParameterOf (MadeFor lo s') s₀ function argument t
      ⟨Identifier.escape argument.name, type⟩ := by
  obtain ⟨state, middle, hget, hrun⟩ := ok_bind.mp hrun
  obtain ⟨rfl, rfl⟩ := ok_get.mp hget
  have hother : pointsToVector s₀ t = false →
      (do return TypeText.ref (← Symbols.resolve none t) : Build Symbols TypeText).runOn s =
        (.ok type, s') →
      ParameterOf (MadeFor lo s') s₀ function argument t
        ⟨Identifier.escape argument.name, type⟩ := by
    intro hvector hrun
    obtain ⟨id, after, hid, hrun⟩ := ok_bind.mp hrun
    obtain ⟨rfl, rfl⟩ := ok_pure.mp hrun
    exact .other hcallback hvector (.now hlo hid)
  split at hrun
  · simp at hrun
  · next inner hkind hinner =>
    split at hrun
    · next hvector =>
      obtain ⟨rfl, rfl⟩ := ok_pure.mp hrun
      rw [h₀.settings]
      exact .vector (by simpa [pointsToVector, hkind, hinner, h₀.isVector] using hvector)
    · next hvector =>
      refine hother ?_ hrun
      simpa [pointsToVector, hkind, hinner, h₀.isVector] using hvector
  · next hpointer =>
    refine hother ?_ hrun
    cases hkind : t.kind <;> cases hinner : t.inner <;> simp_all [pointsToVector]

theorem walk_externParameter (h : DeclaringWalk R Q P) {argument : Argument} {t : NativeType}
    (ht : Q t)
    (hP : ∀ target, t.callback? = some target → P (argumentDelegate function argument) target) :
    Preserves R (externParameter function argument t) := by
  unfold externParameter
  dsimp only
  split
  · next target htarget =>
    exact .bind (h.register none (hP target htarget)) fun _ =>
      .bind (h.callback ht htarget (hP target htarget)) fun _ => .pure _
  · exact .bind (walk_parameterType h.toWalk ht) fun _ => .pure _

theorem registers_externParameter {argument : Argument} {t : NativeType}
    (h : ∀ target, t.callback? = some target → P (argumentDelegate function argument) target) :
    Preserves (Registers P) (externParameter function argument t) :=
  walk_externParameter (registersWalk P).toDeclaringWalk trivial h

theorem parameterOf {argument : Argument} {t : NativeType} {parameter : Parameter}
    (h₀ : s₀.Grows s) (hlo : lo.Grows s)
    (hrun : (externParameter function argument t).runOn s = (.ok parameter, s')) :
    ParameterOf (MadeFor lo s') s₀ function argument t parameter := by
  unfold externParameter at hrun
  dsimp only at hrun
  split at hrun
  · next target htarget =>
    obtain ⟨_, middle, hregister, hrun⟩ := ok_bind.mp hrun
    obtain ⟨id, after, hid, hrun⟩ := ok_bind.mp hrun
    obtain ⟨rfl, rfl⟩ := ok_pure.mp hrun
    have hgrow := ((registers_registerDelegate (P := fun _ _ => True) none trivial).of_ok
      hregister).1
    exact .callback (by rw [NativeType.isCallback, htarget]; rfl) (.now (hlo.trans hgrow) hid)
  · next hnone =>
    obtain ⟨type, after, htype, hrun⟩ := ok_bind.mp hrun
    obtain ⟨rfl, rfl⟩ := ok_pure.mp hrun
    exact parameterOf_parameterType h₀ hlo (by rw [NativeType.isCallback, hnone]; rfl) htype

theorem typedArguments_untyped {rest : List Argument} (hinfo : argument.info = none) :
    typedArguments (argument :: rest) = typedArguments rest := by
  simp [typedArguments, hinfo]

theorem typedArguments_typed {rest : List Argument} {info : TypeInfo}
    (hinfo : argument.info = some info) :
    typedArguments (argument :: rest) = (argument, info.type) :: typedArguments rest := by
  simp [typedArguments, hinfo]

theorem walk_externParameters (h : DeclaringWalk R Q P) {arguments : List Argument}
    (hQ : ArgumentTypes Q arguments) (hP : ArgumentCallbacks P function arguments) :
    Preserves R (externParameters function arguments) := by
  induction arguments with
  | nil => exact .pure _
  | cons argument rest ih =>
    have hrest := ih hQ.tail hP.tail
    unfold externParameters
    split
    · exact hrest
    · next info hinfo =>
      exact .bind (walk_externParameter h (hQ argument List.mem_cons_self info hinfo)
        (hP argument List.mem_cons_self info hinfo)) fun _ => .bind hrest fun _ => .pure _

theorem registers_externParameters {arguments : List Argument}
    (h : ∀ argument ∈ arguments, ∀ info, argument.info = some info → ∀ target,
      info.type.callback? = some target → P (argumentDelegate function argument) target) :
    Preserves (Registers P) (externParameters function arguments) :=
  walk_externParameters (registersWalk P).toDeclaringWalk (fun _ _ _ _ => trivial) h

theorem parametersOf {arguments : List Argument} {parameters : List Parameter}
    (h₀ : s₀.Grows s) (hlo : lo.Grows s)
    (hrun : (externParameters function arguments).runOn s = (.ok parameters, s')) :
    List.Forall₂ (fun argument => ParameterOf (MadeFor lo s') s₀ function argument.1 argument.2)
      (typedArguments arguments) parameters := by
  induction arguments generalizing parameters s with
  | nil =>
    obtain ⟨rfl, rfl⟩ := ok_pure.mp hrun
    exact .nil
  | cons argument rest ih =>
    unfold externParameters at hrun
    split at hrun
    · next hinfo =>
      rw [typedArguments_untyped hinfo]
      exact ih h₀ hlo hrun
    · next info hinfo =>
      rw [typedArguments_typed hinfo]
      obtain ⟨first, middle, hfirst, hrun⟩ := ok_bind.mp hrun
      obtain ⟨others, after, hothers, hrun⟩ := ok_bind.mp hrun
      obtain ⟨rfl, rfl⟩ := ok_pure.mp hrun
      have hgrow := ((registers_externParameter (P := fun _ _ => True) fun _ _ => trivial).of_ok
        hfirst).1
      have hafter := ((registers_externParameters (P := fun _ _ => True)
        fun _ _ _ _ _ _ => trivial).of_ok hothers).1
      refine .cons ?_ (ih (h₀.trans hgrow) (hlo.trans hgrow) hothers)
      exact (parameterOf h₀ hlo hfirst).mono fun _ _ => MadeFor.widen (.refl _) hafter

/-! ### Methods -/

theorem walk_externMethod (h : DocumentWalk R Q P) (hQ : FunctionTypes Q function)
    (hP : ArgumentCallbacks P function function.arguments) :
    Preserves R (externMethod function) := by
  refine .bind .get fun s => ?_
  split
  · exact .bind (.modify fun s => h.skip s _ _ _) fun _ => .pure _
  · exact .bind (walk_externParameters h.toDeclaringWalk hQ.arguments hP) fun _ => .bind .get fun _ =>
      .bind (h.resolve hQ.result) fun _ => .pure _

theorem registers_externMethod
    (h : ∀ argument ∈ function.arguments, ∀ info, argument.info = some info → ∀ target,
      info.type.callback? = some target → P (argumentDelegate function argument) target) :
    Preserves (Registers P) (externMethod function) :=
  walk_externMethod (registersWalk P) ⟨trivial, fun _ _ _ _ => trivial⟩ h

/-- A method is made exactly for a function that is not left out. -/
theorem externOf {method : Option Method} (h₀ : s₀.Grows s) (hlo : lo.Grows s)
    (hrun : (externMethod function).runOn s = (.ok method, s')) :
    (skipReason? s₀ function ≠ none ∧ method = none) ∨
    (skipReason? s₀ function = none ∧
      ∃ made, method = some made ∧ ExternOf (MadeFor lo s') s₀ function made) := by
  obtain ⟨state, middle, hget, hrun⟩ := ok_bind.mp hrun
  obtain ⟨rfl, rfl⟩ := ok_get.mp hget
  split at hrun
  · next reason hreason =>
    obtain ⟨_, after, -, hrun⟩ := ok_bind.mp hrun
    obtain ⟨rfl, rfl⟩ := ok_pure.mp hrun
    rw [skipReason?_grows h₀] at hreason
    exact .inl ⟨by rw [hreason]; simp, rfl⟩
  · next hreason =>
    rw [skipReason?_grows h₀] at hreason
    obtain ⟨parameters, middle, hparameters, hrun⟩ := ok_bind.mp hrun
    obtain ⟨state, before, hget, hrun⟩ := ok_bind.mp hrun
    obtain ⟨rfl, rfl⟩ := ok_get.mp hget
    obtain ⟨id, after, hid, hrun⟩ := ok_bind.mp hrun
    obtain ⟨rfl, rfl⟩ := ok_pure.mp hrun
    have hgrow := ((registers_externParameters (P := fun _ _ => True)
      fun _ _ _ _ _ _ => trivial).of_ok hparameters).1
    have hafter := ((quiet_resolve _ _).of_ok hid).toGrows
    refine .inr ⟨hreason, _, rfl, Head.name_withComments _ _, ?_, id, rfl,
      .now (hlo.trans hgrow) hid⟩
    exact (parametersOf h₀ hlo hparameters).imp fun _ _ hp =>
      hp.mono fun _ _ => MadeFor.widen (.refl _) hafter

theorem walk_externMethods (h : DocumentWalk R Q P) {functions : List Function}
    (hQ : ∀ function ∈ functions, FunctionTypes Q function)
    (hP : ∀ function ∈ functions, ArgumentCallbacks P function function.arguments) :
    Preserves R (externMethods functions) :=
  .bind (.mapM fun function hfunction => walk_externMethod h (hQ function hfunction)
    (hP function hfunction)) fun _ => .pure _

theorem registers_externMethods {functions : List Function}
    (h : ∀ function ∈ functions, ∀ argument ∈ function.arguments, ∀ info,
      argument.info = some info → ∀ target, info.type.callback? = some target →
        P (argumentDelegate function argument) target) :
    Preserves (Registers P) (externMethods functions) :=
  walk_externMethods (registersWalk P) (fun _ _ => ⟨trivial, fun _ _ _ _ => trivial⟩) h

theorem externsOf_mapM {functions : List Function} {made : List (Option Method)}
    (h₀ : s₀.Grows s) (hlo : lo.Grows s)
    (hrun : (functions.mapM externMethod).runOn s = (.ok made, s')) :
    List.Forall₂ (ExternOf (MadeFor lo s') s₀) (imported s₀ functions) (made.filterMap id) := by
  induction functions generalizing made s with
  | nil =>
    rw [List.mapM_nil] at hrun
    obtain ⟨rfl, rfl⟩ := ok_pure.mp hrun
    exact .nil
  | cons function rest ih =>
    rw [List.mapM_cons] at hrun
    obtain ⟨first, middle, hfirst, hrun⟩ := ok_bind.mp hrun
    obtain ⟨others, after, hothers, hrun⟩ := ok_bind.mp hrun
    obtain ⟨rfl, rfl⟩ := ok_pure.mp hrun
    have hgrow := ((registers_externMethod (P := fun _ _ => True)
      fun _ _ _ _ _ _ => trivial).of_ok hfirst).1
    have hafter := (Preserves.mapM (R := Registers fun _ _ => True) (fun function _ =>
      registers_externMethod fun _ _ _ _ _ _ => trivial) |>.of_ok hothers).1
    have hrest := ih (h₀.trans hgrow) (hlo.trans hgrow) hothers
    rcases externOf h₀ hlo hfirst with ⟨hskip, rfl⟩ | ⟨hkept, method, rfl, hmethod⟩
    · have hout : (skipReason? s₀ function).isNone = false := by
        simpa [Option.isNone_eq_false_iff] using Option.ne_none_iff_isSome.mp hskip
      rw [imported, List.filter_cons_of_neg (by simp [hout])]
      exact hrest
    · rw [imported, List.filter_cons_of_pos (by simp [hkept])]
      exact .cons (hmethod.mono fun _ _ => MadeFor.widen (.refl _) hafter) hrest

theorem externsOf {functions : List Function} {methods : List Method}
    (h₀ : s₀.Grows s) (hlo : lo.Grows s)
    (hrun : (externMethods functions).runOn s = (.ok methods, s')) :
    List.Forall₂ (ExternOf (MadeFor lo s') s₀) (imported s₀ functions) methods := by
  obtain ⟨made, after, hmade, hrest⟩ := ok_bind.mp hrun
  obtain ⟨rfl, rfl⟩ := ok_pure.mp hrest
  exact externsOf_mapM h₀ hlo hmade

end InteropGen.Generate

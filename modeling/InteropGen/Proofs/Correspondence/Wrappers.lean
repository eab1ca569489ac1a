import InteropGen.Proofs.Correspondence.Externs

/-!
# Wrappers and their functions

Each step of a wrapper's marshaling adds the part of one way of passing: `classify` one that is `Given`
for the argument, `passDefault` one for an `Omitted` argument. A wrapper is therefore the join of the
parts for the arguments that have a type, in their order.
-/

namespace InteropGen.Generate

open Metadata Decl Build Symbols

variable {s₀ lo s s' : Symbols} {function : Function} {argument : Argument} {t : NativeType}
  {name : String} {m m' : Marshaling} {st st' : Scoped} {R : Symbols → Symbols → Prop}
  {Q : NativeType → Prop} [Std.Refl R] [IsTrans Symbols R]

/-! ### Joining -/

theorem join_empty (m : Marshaling) : join m {} = m := by
  simp [join]

theorem join_assoc (m₁ m₂ m₃ : Marshaling) : join (join m₁ m₂) m₃ = join m₁ (join m₂ m₃) := by
  simp [join]

theorem empty_join (m : Marshaling) : join {} m = m := by
  simp [join]

/-! ### Given arguments -/

theorem preserves_isVectorBound (bounds : String) : Preserves R (isVectorBound bounds) := by
  unfold isVectorBound
  split
  · exact .bind (.ofOption _ _) fun _ => .pure _
  · exact .pure _

theorem preserves_isFloatVector (inner : NativeType) (bounds : String) :
    Preserves R (classifyArray.isFloatVector inner bounds) := by
  unfold classifyArray.isFloatVector
  split
  · exact preserves_isVectorBound _
  · exact .pure _

theorem quiet_isFloatVector (inner : NativeType) (bounds : String) :
    Preserves Quiet (classifyArray.isFloatVector inner bounds) :=
  preserves_isFloatVector inner bounds

theorem float_of_isFloatVector {inner : NativeType} {bounds : String}
    (h : (classifyArray.isFloatVector inner bounds).runOn s = (.ok true, s')) :
    inner.kind = .builtin ∧ inner.builtin = some "float" := by
  unfold classifyArray.isFloatVector at h
  split at h
  · next hfloat => simpa using hfloat
  · obtain ⟨hfalse, -⟩ := ok_pure.mp h
    simp at hfalse

omit [IsTrans Symbols R] in
/-- What comes after the inner type was taken needs to be walked only where there is one. -/
theorem preserves_inner {α : Type} {next : NativeType → Build Symbols α}
    (h : ∀ inner, t.inner = some inner → Preserves R (next inner)) :
    Preserves R (Build.ofOption .missingType t.inner >>= next) := by
  cases hinner : t.inner with
  | none => exact .throw _
  | some inner => exact h inner hinner

theorem walk_classifyArray (h : Walk R Q) (ht : Q t) (name : String) (m : Marshaling) :
    Preserves R (classifyArray t name m) := by
  refine preserves_inner fun inner hinner => ?_
  dsimp only
  split
  · exact .pure _
  · refine .bind (preserves_isFloatVector _ _) fun isVector => ?_
    split
    · exact .pure _
    · exact .bind (h.resolve (h.inner ht hinner)) fun _ => .pure _

theorem given_classifyArray (hlo : lo.Grows s) (hkind : t.kind = .array)
    (hrun : (classifyArray t name m).runOn s = (.ok m', s')) :
    ∃ passing, Given (MadeFor lo s') s₀ function argument t passing ∧
      m' = join m (passing.part name) := by
  obtain ⟨inner, middle, hfound, hrun⟩ := ok_bind.mp hrun
  obtain ⟨hinner, rfl⟩ := ok_ofOption.mp hfound
  split at hrun
  · next hchar =>
    obtain ⟨rfl, rfl⟩ := ok_pure.mp hrun
    exact ⟨.texts, .texts hkind hinner hchar, by simp [join, pass, stepBefore, Passing.part]⟩
  · obtain ⟨isVector, middle, hvector, hrun⟩ := ok_bind.mp hrun
    split at hrun
    · next htrue =>
      obtain ⟨rfl, rfl⟩ := ok_pure.mp hrun
      rw [htrue] at hvector
      obtain ⟨hbuiltin, hfloat⟩ := float_of_isFloatVector hvector
      exact ⟨_, .vector hkind hinner hbuiltin hfloat,
        by simp [join, pass, stepFixed, Passing.part]⟩
    · have hgrow := ((quiet_isFloatVector _ _).of_ok hvector).toGrows
      obtain ⟨id, after, hid, hrun⟩ := ok_bind.mp hrun
      obtain ⟨rfl, rfl⟩ := ok_pure.mp hrun
      exact ⟨_, .array hkind hinner (.now (hlo.trans hgrow) hid),
        by simp [join, pass, stepBefore, Passing.part]⟩

theorem walk_classifyBuiltinPointer (h : Walk R Q) {inner : NativeType} (hinner : Q inner)
    (name : String) (m : Marshaling) : Preserves R (classifyBuiltinPointer inner name m) := by
  unfold classifyBuiltinPointer
  dsimp only
  split
  · exact .bind .get fun _ => .pure _
  · exact .pure _
  · split <;> exact .pure _
  · exact .bind (h.resolve hinner) fun _ => .pure _

theorem given_classifyBuiltinPointer {inner : NativeType} (h₀ : s₀.Grows s) (hlo : lo.Grows s)
    (hkind : t.kind = .pointer) (hinner : t.inner = some inner) (hbuiltin : inner.kind = .builtin)
    (hrun : (classifyBuiltinPointer inner name m).runOn s = (.ok m', s')) :
    ∃ passing, Given (MadeFor lo s') s₀ function argument t passing ∧
      m' = join m (passing.part name) := by
  unfold classifyBuiltinPointer at hrun
  dsimp only at hrun
  split at hrun
  · next hvoid =>
    obtain ⟨state, middle, hget, hrun⟩ := ok_bind.mp hrun
    obtain ⟨rfl, rfl⟩ := ok_get.mp hget
    obtain ⟨rfl, rfl⟩ := ok_pure.mp hrun
    rw [h₀.settings]
    exact ⟨_, .untyped hkind hinner hbuiltin hvoid,
      by simp [join, pass, stepBefore, Passing.part]⟩
  · next hbool =>
    obtain ⟨rfl, rfl⟩ := ok_pure.mp hrun
    exact ⟨_, .truthRef hkind hinner hbuiltin hbool,
      by simp [join, pass, stepBefore, stepAfter, Passing.part]⟩
  · next hchar =>
    split at hrun
    · next hconst =>
      obtain ⟨rfl, rfl⟩ := ok_pure.mp hrun
      exact ⟨_, .text hkind hinner hbuiltin hchar hconst,
        by simp [join, pass, stepBefore, stepAfter, Passing.part]⟩
    · next hconst =>
      obtain ⟨rfl, rfl⟩ := ok_pure.mp hrun
      exact ⟨_, .buffer hkind hinner hbuiltin hchar (by simpa using hconst),
        by simp [join, pass, stepFixed, Passing.part]⟩
  · obtain ⟨id, after, hid, hrun⟩ := ok_bind.mp hrun
    obtain ⟨rfl, rfl⟩ := ok_pure.mp hrun
    exact ⟨_, .pinned hkind hinner (.inl hbuiltin) (.now hlo hid),
      by simp [join, passPinned, pass, stepFixed, Passing.part]⟩

theorem walk_classifyPointer (h : Walk R Q) (ht : Q t) (function : Function)
    (argument : Argument) (name : String) (m : Marshaling) :
    Preserves R (classifyPointer function argument t name m) := by
  refine preserves_inner fun inner hinner => ?_
  have hresolve := h.resolve (h.inner ht hinner)
  split
  · exact walk_classifyBuiltinPointer h (h.inner ht hinner) name m
  · exact .bind hresolve fun _ => .pure _
  · refine .bind .get fun s => ?_
    split
    · exact .pure _
    · exact .bind (h.resolve ht) fun _ => .pure _
  · exact .bind (.modify fun s => h.warn s _) fun _ =>
      .bind (h.resolve ht) fun _ => .pure _

theorem given_classifyPointer (h₀ : s₀.Grows s) (hlo : lo.Grows s) (hkind : t.kind = .pointer)
    (hrun : (classifyPointer function argument t name m).runOn s = (.ok m', s')) :
    ∃ passing, Given (MadeFor lo s') s₀ function argument t passing ∧
      m' = join m (passing.part name) := by
  have hcallback : t.isCallback = false := by
    simp [NativeType.isCallback, NativeType.callback?, hkind]
  obtain ⟨inner, middle, hfound, hrun⟩ := ok_bind.mp hrun
  obtain ⟨hinner, rfl⟩ := ok_ofOption.mp hfound
  have hvector : inner.kind ≠ .user → pointsToVector s₀ t = false := fun huser => by
    simp [pointsToVector, hkind, hinner, Symbols.isVector, huser]
  split at hrun
  · next hbuiltin => exact given_classifyBuiltinPointer h₀ hlo hkind hinner hbuiltin hrun
  · next hpointer =>
    obtain ⟨id, after, hid, hrun⟩ := ok_bind.mp hrun
    obtain ⟨rfl, rfl⟩ := ok_pure.mp hrun
    exact ⟨_, .pinned hkind hinner (.inr hpointer) (.now hlo hid),
      by simp [join, passPinned, pass, stepFixed, Passing.part]⟩
  · obtain ⟨state, middle, hget, hrun⟩ := ok_bind.mp hrun
    obtain ⟨rfl, rfl⟩ := ok_get.mp hget
    split at hrun
    · next hvector =>
      obtain ⟨rfl, rfl⟩ := ok_pure.mp hrun
      rw [h₀.isVector] at hvector
      rw [h₀.settings]
      exact ⟨_, .vectorPointer (by simp [pointsToVector, hkind, hinner, hvector]),
        by simp [join, passThrough, pass, Passing.part]⟩
    · next hvector =>
      rw [h₀.isVector] at hvector
      obtain ⟨id, after, hid, hrun⟩ := ok_bind.mp hrun
      obtain ⟨rfl, rfl⟩ := ok_pure.mp hrun
      exact ⟨_, .byView hcallback (by simpa [pointsToVector, hkind, hinner] using hvector)
        (.now hlo hid), by simp [join, passThrough, pass, Passing.part]⟩
  · next hother _ huser =>
    obtain ⟨_, middle, hwarn, hrun⟩ := ok_bind.mp hrun
    have hgrow := ((Preserves.modify fun s => quiet_warn s _).of_ok hwarn).toGrows
    obtain ⟨id, after, hid, hrun⟩ := ok_bind.mp hrun
    obtain ⟨rfl, rfl⟩ := ok_pure.mp hrun
    exact ⟨_, .byRef hcallback (hvector huser) (.now (hlo.trans hgrow) hid),
      by simp [join, passThrough, pass, Passing.part]⟩

theorem walk_classifyValue (h : Walk R Q) (ht : Q t) (function : Function) (argument : Argument)
    (name : String) (m : Marshaling) :
    Preserves R (classifyValue function argument t name m) := by
  unfold classifyValue
  split
  · exact .pure _
  · split
    · exact .bind (.modify fun s => h.warn s _) fun _ =>
        .bind (h.resolve ht) fun _ => .pure _
    · exact .bind (h.resolve ht) fun _ => .pure _

theorem given_classifyValue (hlo : lo.Grows s) (hsynonym : t.kind ≠ .synonym)
    (hpointer : t.kind ≠ .pointer)
    (hrun : (classifyValue function argument t name m).runOn s = (.ok m', s')) :
    ∃ passing, Given (MadeFor lo s') s₀ function argument t passing ∧
      m' = join m (passing.part name) := by
  have hcallback : t.isCallback = false := by
    cases hkind : t.kind <;> simp_all [NativeType.isCallback, NativeType.callback?]
  have hvector : pointsToVector s₀ t = false := by simp [pointsToVector, hpointer]
  unfold classifyValue at hrun
  split at hrun
  · next hbool =>
    obtain ⟨rfl, rfl⟩ := ok_pure.mp hrun
    have hboth : t.kind = .builtin ∧ t.builtin = some "bool" := by simpa using hbool
    exact ⟨_, .truth hboth.1 hboth.2, by simp [join, pass, stepBefore, Passing.part]⟩
  · split at hrun
    · obtain ⟨_, middle, hwarn, hrun⟩ := ok_bind.mp hrun
      have hgrow := ((Preserves.modify fun s => quiet_warn s _).of_ok hwarn).toGrows
      obtain ⟨id, after, hid, hrun⟩ := ok_bind.mp hrun
      obtain ⟨rfl, rfl⟩ := ok_pure.mp hrun
      exact ⟨_, .byView hcallback hvector (.now (hlo.trans hgrow) hid),
        by simp [join, passThrough, pass, Passing.part]⟩
    · obtain ⟨id, after, hid, hrun⟩ := ok_bind.mp hrun
      obtain ⟨rfl, rfl⟩ := ok_pure.mp hrun
      exact ⟨_, .byView hcallback hvector (.now hlo hid),
        by simp [join, passThrough, pass, Passing.part]⟩

theorem walk_classify (h : Walk R Q) (ht : Q t) (function : Function) (argument : Argument)
    (m : Marshaling) : Preserves R (classify function argument t m) := by
  unfold classify
  dsimp only
  split
  · exact walk_classifyArray h ht _ m
  · split
    · exact .pure _
    · exact .bind (h.resolve ht) fun _ => .pure _
  · exact walk_classifyPointer h ht function argument _ m
  · exact walk_classifyValue h ht function argument _ m

theorem quiet_classify (function : Function) (argument : Argument) (t : NativeType)
    (m : Marshaling) : Preserves Quiet (classify function argument t m) :=
  walk_classify quietWalk trivial function argument m

/-- An argument adds the part of one way of passing that fits its type. -/
theorem given_classify (h₀ : s₀.Grows s) (hlo : lo.Grows s)
    (hrun : (classify function argument t m).runOn s = (.ok m', s')) :
    ∃ passing, Given (MadeFor lo s') s₀ function argument t passing ∧
      m' = join m (passing.part (Identifier.escape argument.name)) := by
  unfold classify at hrun
  dsimp only at hrun
  split at hrun
  · next hkind => exact given_classifyArray hlo hkind hrun
  · next hkind =>
    split at hrun
    · next hcallback =>
      obtain ⟨rfl, rfl⟩ := ok_pure.mp hrun
      exact ⟨_, .callback hcallback, by simp [join, passThrough, pass, Passing.part]⟩
    · next hcallback =>
      obtain ⟨id, after, hid, hrun⟩ := ok_bind.mp hrun
      obtain ⟨rfl, rfl⟩ := ok_pure.mp hrun
      exact ⟨_, .byRef (by simpa using hcallback) (by simp [pointsToVector, hkind])
        (.now hlo hid), by simp [join, passThrough, pass, Passing.part]⟩
  · next hkind => exact given_classifyPointer h₀ hlo hkind hrun
  · next hsynonym hpointer => exact given_classifyValue hlo hsynonym hpointer hrun

/-! ### Omitted arguments -/

/-- The text that an omitted argument is passed as; without a default it leaves a warning. -/
def omittedValue (function : Function) (argument : Argument) : Build Symbols String :=
  match argument.default with
  | some text => do return defaultText (← get).settings text
  | none => do
    modify fun s => s.warn ("argument " ++ argument.name ++ " of " ++ function.name ++
      " follows a default but has none")
    return "default"

/-- Adds an omitted argument that is passed as a text. -/
def passOmitted (argument : Argument) (t : NativeType) (m : Marshaling) (id : TypeId)
    (value : String) : Marshaling :=
  let name := Identifier.escape argument.name
  let m := { m with native := m.native ++ [name] }
  if isCharPointer t && value ≠ "null" then
    stepAfter (stepBefore m (.defaultString name (.ref id) (.plain value)))
      (.defaultStringFree name)
  else stepBefore m (.defaultValue name (.ref id) (.default (.ref id) value))

theorem passDefault_eq (function : Function) (argument : Argument) (t : NativeType)
    (m : Marshaling) :
    passDefault function argument t m = (do
      let id ← Symbols.resolve none t
      let value ← omittedValue function argument
      return passOmitted argument t m id value) := by
  unfold passDefault omittedValue passOmitted
  refine bind_congr fun id => ?_
  cases argument.default with
  | none =>
    simp only [bind_assoc, pure_bind]
    refine bind_congr fun _ => ?_
    split <;> rfl
  | some text =>
    simp only [bind_assoc, pure_bind]
    refine bind_congr fun _ => ?_
    split <;> rfl

theorem walk_omittedValue (h : Walk R Q) (function : Function) (argument : Argument) :
    Preserves R (omittedValue function argument) := by
  unfold omittedValue
  split
  · exact .bind .get fun _ => .pure _
  · exact .bind (.modify fun s => h.warn s _) fun _ => .pure _

theorem quiet_omittedValue (function : Function) (argument : Argument) :
    Preserves Quiet (omittedValue function argument) :=
  walk_omittedValue quietWalk function argument

theorem eq_omittedText {value : String} (h₀ : s₀.Grows s)
    (hrun : (omittedValue function argument).runOn s = (.ok value, s')) :
    value = omittedText s₀.settings argument := by
  unfold omittedValue at hrun
  split at hrun
  · next text htext =>
    obtain ⟨state, middle, hget, hrun⟩ := ok_bind.mp hrun
    obtain ⟨rfl, rfl⟩ := ok_get.mp hget
    obtain ⟨rfl, -⟩ := ok_pure.mp hrun
    rw [omittedText, htext, h₀.settings]
  · next htext =>
    obtain ⟨_, middle, -, hrun⟩ := ok_bind.mp hrun
    obtain ⟨rfl, -⟩ := ok_pure.mp hrun
    rw [omittedText, htext]

theorem omitted_passOmitted {R : Origin → TypeId → Prop} {id : TypeId}
    (made : R (.native none t) id) :
    ∃ passing, Omitted R s₀ argument t passing ∧
      passOmitted argument t m id (omittedText s₀.settings argument) =
        join m (passing.part (Identifier.escape argument.name)) := by
  unfold passOmitted
  dsimp only
  split
  · next htext =>
    have hboth : isCharPointer t = true ∧ omittedText s₀.settings argument ≠ "null" := by
      simpa using htext
    exact ⟨_, .text hboth.1 hboth.2 made, by simp [join, stepBefore, stepAfter, Passing.part]⟩
  · next hvalue =>
    have heither : isCharPointer t = false ∨ omittedText s₀.settings argument = "null" := by
      by_cases hchar : isCharPointer t
      · exact .inr (by simpa [hchar] using hvalue)
      · exact .inl (by simpa using hchar)
    exact ⟨_, .value heither made, by simp [join, stepBefore, Passing.part]⟩

theorem walk_passDefault (h : Walk R Q) (ht : Q t) (function : Function) (argument : Argument)
    (m : Marshaling) : Preserves R (passDefault function argument t m) := by
  rw [passDefault_eq]
  exact .bind (h.resolve ht) fun _ => .bind (walk_omittedValue h _ _) fun _ => .pure _

theorem quiet_passDefault (function : Function) (argument : Argument) (t : NativeType)
    (m : Marshaling) : Preserves Quiet (passDefault function argument t m) :=
  walk_passDefault quietWalk trivial function argument m

theorem omitted_passDefault (h₀ : s₀.Grows s) (hlo : lo.Grows s)
    (hrun : (passDefault function argument t m).runOn s = (.ok m', s')) :
    ∃ passing, Omitted (MadeFor lo s') s₀ argument t passing ∧
      m' = join m (passing.part (Identifier.escape argument.name)) := by
  rw [passDefault_eq] at hrun
  obtain ⟨id, middle, hid, hrun⟩ := ok_bind.mp hrun
  obtain ⟨value, after, hvalue, hrun⟩ := ok_bind.mp hrun
  obtain ⟨rfl, rfl⟩ := ok_pure.mp hrun
  have hgrow := ((quiet_resolve _ _).of_ok hid).toGrows
  have hafter := ((quiet_omittedValue _ _).of_ok hvalue).toGrows
  obtain rfl := eq_omittedText (h₀.trans hgrow) hvalue
  have hmade : MadeFor lo middle (.native none t) id := .now hlo hid
  exact omitted_passOmitted (hmade.widen (.refl _) hafter)

theorem walk_withDefaults (h : Walk R Q) (function : Function) {arguments : List Argument}
    (hQ : ArgumentTypes Q arguments) (m : Marshaling) :
    Preserves R (withDefaults function arguments m) := by
  induction arguments generalizing m with
  | nil => exact .pure _
  | cons argument rest ih =>
    unfold withDefaults
    split
    · exact ih hQ.tail m
    · next info hinfo =>
      exact .bind (walk_passDefault h (hQ argument List.mem_cons_self info hinfo) _ _ _)
        (ih hQ.tail)

theorem quiet_withDefaults (function : Function) (arguments : List Argument) (m : Marshaling) :
    Preserves Quiet (withDefaults function arguments m) :=
  walk_withDefaults quietWalk function (fun _ _ _ _ => trivial) m

/-- All the arguments from one on are omitted. -/
theorem omitted_withDefaults {arguments : List Argument} (h₀ : s₀.Grows s) (hlo : lo.Grows s)
    (hrun : (withDefaults function arguments m).runOn s = (.ok m', s')) :
    ∃ passings, List.Forall₂
        (fun argument => Omitted (MadeFor lo s') s₀ argument.1 argument.2)
        (typedArguments arguments) passings ∧
      m' = join m (marshal (typedArguments arguments) passings) := by
  induction arguments generalizing m s with
  | nil =>
    obtain ⟨rfl, rfl⟩ := ok_pure.mp hrun
    exact ⟨[], .nil, (join_empty m).symm⟩
  | cons argument rest ih =>
    unfold withDefaults at hrun
    split at hrun
    · next hinfo =>
      rw [typedArguments_untyped hinfo]
      exact ih h₀ hlo hrun
    · next info hinfo =>
      rw [typedArguments_typed hinfo]
      obtain ⟨first, middle, hfirst, hrun⟩ := ok_bind.mp hrun
      have hgrow := ((quiet_passDefault _ _ _ _).of_ok hfirst).toGrows
      have hafter := ((quiet_withDefaults _ _ _).of_ok hrun).toGrows
      obtain ⟨passing, homitted, rfl⟩ := omitted_passDefault h₀ hlo hfirst
      obtain ⟨passings, hall, rfl⟩ := ih (h₀.trans hgrow) (hlo.trans hgrow) hrun
      refine ⟨passing :: passings, .cons ?_ hall, by rw [join_assoc]; rfl⟩
      exact homitted.mono fun _ _ => MadeFor.widen (.refl _) hafter

/-! ### Steps in a scope -/

/-- The symbols of two scoped states are related. -/
def OnSymbols (R : Symbols → Symbols → Prop) (st st' : Scoped) : Prop := R st.symbols st'.symbols

section OnSymbols

variable {R : Symbols → Symbols → Prop} {α : Type}

instance [Std.Refl R] : Std.Refl (OnSymbols R) := ⟨fun st => Std.Refl.refl (r := R) st.symbols⟩

instance [IsTrans Symbols R] : IsTrans Scoped (OnSymbols R) :=
  ⟨fun st st' st'' => IsTrans.trans (r := R) st.symbols st'.symbols st''.symbols⟩

theorem preserves_onSymbols {build : Build Symbols α} (h : Preserves R build) :
    Preserves (OnSymbols R) (onSymbols build) :=
  .focus h fun _ _ hR => hR

theorem preserves_beginClass [Std.Refl R] : Preserves (OnSymbols R) beginClass :=
  .modify fun st => Std.Refl.refl (r := R) st.symbols

end OnSymbols

theorem ok_onSymbols {α : Type} {build : Build Symbols α} {a : α} :
    (onSymbols build).runOn st = (.ok a, st') ↔
      ∃ symbols, build.runOn st.symbols = (.ok a, symbols) ∧ st' = { st with symbols := symbols } :=
  ok_focus

theorem preserves_addWrapper (target : WrapperClass) (plan : WrapperPlan) (m : Marshaling) :
    Preserves (OnSymbols R) (addWrapper target plan m) := by
  refine .bind .get fun state => .bind (.ofExcept _) fun types => ?_
  dsimp only
  split
  · exact .pure _
  · exact .bind (.modify fun st => Std.Refl.refl (r := R) st.symbols) fun _ => .pure _

theorem quiet_addWrapper (target : WrapperClass) (plan : WrapperPlan) (m : Marshaling) :
    Preserves (OnSymbols Quiet) (addWrapper target plan m) :=
  preserves_addWrapper target plan m

theorem of_addWrapper {target : WrapperClass} {plan : WrapperPlan} {made : List Wrapper}
    (hrun : (addWrapper target plan m).runOn st = (.ok made, st')) :
    ∀ wrapper ∈ made, wrapper = plan.wrapper target m := by
  obtain ⟨state, middle, hget, hrun⟩ := ok_bind.mp hrun
  obtain ⟨types, after, -, hrun⟩ := ok_bind.mp hrun
  dsimp only at hrun
  split at hrun
  · obtain ⟨rfl, -⟩ := ok_pure.mp hrun
    simp
  · obtain ⟨_, last, -, hrun⟩ := ok_bind.mp hrun
    obtain ⟨rfl, -⟩ := ok_pure.mp hrun
    simp

/-- The wrapper that omits the arguments from one on, if that one has a default. -/
def shorterWrappers (target : WrapperClass) (function : Function) (plan : WrapperPlan)
    (argument : Argument) (rest : List Argument) (m : Marshaling) : Build Scoped (List Wrapper) :=
  if argument.default.isSome then do
    let short ← onSymbols (withDefaults function (argument :: rest) m)
    addWrapper target plan short
  else pure []

theorem wrapArguments_untyped {target : WrapperClass} {plan : WrapperPlan} {rest : List Argument}
    (hinfo : argument.info = none) :
    wrapArguments target function plan (argument :: rest) m =
      wrapArguments target function plan rest m := by
  rw [wrapArguments, hinfo]

theorem wrapArguments_self {target : WrapperClass} {plan : WrapperPlan} {rest : List Argument}
    {info : TypeInfo} (hinfo : argument.info = some info) (hself : argument.name = "self") :
    wrapArguments target function plan (argument :: rest) m =
      wrapArguments target function plan rest { m with native := m.native ++ ["NativePtr"] } := by
  rw [wrapArguments, hinfo]
  exact if_pos hself

theorem wrapArguments_given {target : WrapperClass} {plan : WrapperPlan} {rest : List Argument}
    {info : TypeInfo} (hinfo : argument.info = some info) (hself : argument.name ≠ "self") :
    wrapArguments target function plan (argument :: rest) m = (do
      let shorter ← shorterWrappers target function plan argument rest m
      let m ← onSymbols (classify function argument info.type m)
      let longer ← wrapArguments target function plan rest m
      return shorter ++ longer) := by
  rw [wrapArguments, hinfo, shorterWrappers]
  refine (if_neg hself).trans ?_
  by_cases hdefault : argument.default.isSome
  · simp only [hdefault, if_true, bind_assoc]
  · simp only [hdefault, if_false, Bool.false_eq_true]

theorem walk_shorterWrappers (h : Walk R Q) (target : WrapperClass) (function : Function)
    (plan : WrapperPlan) {rest : List Argument} (hQ : ArgumentTypes Q (argument :: rest))
    (m : Marshaling) :
    Preserves (OnSymbols R) (shorterWrappers target function plan argument rest m) := by
  unfold shorterWrappers
  split
  · exact .bind (preserves_onSymbols (walk_withDefaults h function hQ m)) fun _ =>
      preserves_addWrapper _ _ _
  · exact .pure _

theorem quiet_shorterWrappers (target : WrapperClass) (function : Function) (plan : WrapperPlan)
    (argument : Argument) (rest : List Argument) (m : Marshaling) :
    Preserves (OnSymbols Quiet) (shorterWrappers target function plan argument rest m) :=
  walk_shorterWrappers quietWalk target function plan (fun _ _ _ _ => trivial) m

/-- A shorter wrapper passes the default of every argument from one on. -/
theorem omitted_shorterWrappers {target : WrapperClass} {plan : WrapperPlan} {rest : List Argument}
    {made : List Wrapper} (h₀ : s₀.Grows st.symbols) (hlo : lo.Grows st.symbols)
    (hrun : (shorterWrappers target function plan argument rest m).runOn st = (.ok made, st')) :
    ∀ wrapper ∈ made, argument.default.isSome = true ∧ ∃ passings, List.Forall₂
        (fun argument => Omitted (MadeFor lo st'.symbols) s₀ argument.1 argument.2)
        (typedArguments (argument :: rest)) passings ∧
      wrapper = plan.wrapper target
        (join m (marshal (typedArguments (argument :: rest)) passings)) := by
  unfold shorterWrappers at hrun
  split at hrun
  · next hdefault =>
    obtain ⟨short, middle, hscoped, hadd⟩ := ok_bind.mp hrun
    obtain ⟨symbols, hshort, rfl⟩ := ok_onSymbols.mp hscoped
    have hafter := ((quiet_addWrapper _ _ _).of_ok hadd).toGrows
    intro wrapper hwrapper
    obtain ⟨passings, homitted, rfl⟩ := omitted_withDefaults h₀ hlo hshort
    refine ⟨hdefault, passings, ?_, of_addWrapper hadd wrapper hwrapper⟩
    exact homitted.imp fun _ _ ho => ho.mono fun _ _ => MadeFor.widen (.refl _) hafter
  · obtain ⟨rfl, rfl⟩ := ok_pure.mp hrun
    simp

theorem walk_wrapArguments (h : Walk R Q) (target : WrapperClass) (function : Function)
    (plan : WrapperPlan) {arguments : List Argument} (hQ : ArgumentTypes Q arguments)
    (m : Marshaling) :
    Preserves (OnSymbols R) (wrapArguments target function plan arguments m) := by
  induction arguments generalizing m with
  | nil => exact preserves_addWrapper _ _ _
  | cons argument rest ih =>
    cases hinfo : argument.info with
    | none =>
      rw [wrapArguments_untyped hinfo]
      exact ih hQ.tail m
    | some info =>
      by_cases hself : argument.name = "self"
      · rw [wrapArguments_self hinfo hself]
        exact ih hQ.tail _
      · rw [wrapArguments_given hinfo hself]
        have hclassify := walk_classify h (hQ argument List.mem_cons_self info hinfo)
        exact .bind (walk_shorterWrappers h _ _ _ hQ _) fun _ =>
          .bind (preserves_onSymbols (hclassify _ _ _)) fun m =>
            .bind (ih hQ.tail m) fun _ => .pure _

theorem quiet_wrapArguments (target : WrapperClass) (function : Function) (plan : WrapperPlan)
    (arguments : List Argument) (m : Marshaling) :
    Preserves (OnSymbols Quiet) (wrapArguments target function plan arguments m) :=
  walk_wrapArguments quietWalk target function plan (fun _ _ _ _ => trivial) m

/-- Every wrapper of a function joins the parts of ways of passing that fit its arguments. -/
theorem planned_wrapArguments {target : WrapperClass} {plan : WrapperPlan}
    {arguments : List Argument} {made : List Wrapper} (h₀ : s₀.Grows st.symbols)
    (hlo : lo.Grows st.symbols)
    (hrun : (wrapArguments target function plan arguments m).runOn st = (.ok made, st')) :
    ∀ wrapper ∈ made, ∃ passings,
      Planned (MadeFor lo st'.symbols) s₀ function (typedArguments arguments) passings ∧
        wrapper = plan.wrapper target (join m (marshal (typedArguments arguments) passings)) := by
  induction arguments generalizing m st made with
  | nil =>
    intro wrapper hwrapper
    exact ⟨[], .none, by rw [of_addWrapper hrun wrapper hwrapper]; exact congrArg _ (join_empty m).symm⟩
  | cons argument rest ih =>
    cases hinfo : argument.info with
    | none =>
      rw [wrapArguments_untyped hinfo] at hrun
      rw [typedArguments_untyped hinfo]
      exact ih h₀ hlo hrun
    | some info =>
      have hcons : typedArguments (argument :: rest) = (argument, info.type) :: typedArguments rest :=
        typedArguments_typed hinfo
      by_cases hself : argument.name = "self"
      · rw [wrapArguments_self hinfo hself] at hrun
        intro wrapper hwrapper
        obtain ⟨passings, hplanned, rfl⟩ := ih h₀ hlo hrun wrapper hwrapper
        rw [hcons]
        refine ⟨.self :: passings, .self hself hplanned, congrArg _ ?_⟩
        simp [marshal, Passing.part, join]
      · rw [wrapArguments_given hinfo hself] at hrun
        obtain ⟨shorter, before, hshorter, hrun⟩ := ok_bind.mp hrun
        obtain ⟨longest, middle, hscoped, hrun⟩ := ok_bind.mp hrun
        obtain ⟨symbols, hclassify, rfl⟩ := ok_onSymbols.mp hscoped
        obtain ⟨longer, after, hrest, hrun⟩ := ok_bind.mp hrun
        obtain ⟨rfl, rfl⟩ := ok_pure.mp hrun
        have hbefore := ((quiet_shorterWrappers _ _ _ _ _ _).of_ok hshorter).toGrows
        have hmiddle := ((quiet_classify _ _ _ _).of_ok hclassify).toGrows
        have hafter := ((quiet_wrapArguments _ _ _ _ _).of_ok hrest).toGrows
        intro wrapper hwrapper
        rcases List.mem_append.mp hwrapper with hmem | hmem
        · obtain ⟨hdefault, passings, homitted, hjoin⟩ :=
            omitted_shorterWrappers h₀ hlo hshorter wrapper hmem
          rw [hcons] at homitted hjoin ⊢
          refine ⟨passings, .omitted hself hdefault ?_, hjoin⟩
          exact homitted.imp fun _ _ ho =>
            ho.mono fun _ _ => MadeFor.widen (.refl _) (hmiddle.trans hafter)
        · obtain ⟨passing, hgiven, rfl⟩ :=
            given_classify (h₀.trans hbefore) (hlo.trans hbefore) hclassify
          obtain ⟨passings, hplanned, rfl⟩ := ih ((h₀.trans hbefore).trans hmiddle)
            ((hlo.trans hbefore).trans hmiddle) hrest wrapper hmem
          rw [hcons]
          refine ⟨passing :: passings, .given hself ?_ hplanned, by rw [join_assoc]; rfl⟩
          exact hgiven.mono fun _ _ => MadeFor.widen (.refl _) hafter

/-! ### The wrappers of a function -/

theorem walk_wrapperResult (h : Walk R Q) (hresult : Q function.result.type) :
    Preserves R (wrapperResult function) := by
  unfold wrapperResult
  dsimp only
  split
  · exact .pure _
  · exact .bind (h.resolve hresult) fun _ => .pure _

theorem quiet_wrapperResult (function : Function) : Preserves Quiet (wrapperResult function) :=
  walk_wrapperResult quietWalk trivial

theorem resultOf_wrapperResult {type : TypeText} {code : String} (hlo : lo.Grows s)
    (hrun : (wrapperResult function).runOn s = (.ok (type, code), s')) :
    ResultOf (MadeFor lo s') function type code := by
  unfold wrapperResult at hrun
  dsimp only at hrun
  split at hrun
  · next hbool =>
    obtain ⟨heq, rfl⟩ := ok_pure.mp hrun
    obtain ⟨rfl, rfl⟩ := Prod.mk.inj heq
    have hboth : function.result.type.kind = .builtin ∧
        function.result.type.builtin = some "bool" := by simpa using hbool
    exact .truth hboth.1 hboth.2
  · obtain ⟨id, after, hid, hrun⟩ := ok_bind.mp hrun
    obtain ⟨heq, rfl⟩ := ok_pure.mp hrun
    obtain ⟨rfl, rfl⟩ := Prod.mk.inj heq
    exact .view (.now hlo hid)

theorem wrapperName_symbols (function : Function) (st : Scoped) :
    (wrapperName function st).2.symbols = st.symbols := by
  unfold wrapperName
  dsimp only
  split <;> rfl

theorem wrapperName_fst (function : Function) (st : Scoped) :
    (wrapperName function st).1.1 = wrapperNameOf function := by
  unfold wrapperName wrapperNameOf
  dsimp only
  split <;> rfl

theorem walk_wrappers (h : Walk R Q) (target : WrapperClass) (hQ : FunctionTypes Q function) :
    Preserves (OnSymbols R) (wrappers target function) := by
  refine .bind (.lift fun st => ?_) fun named => .bind
    (preserves_onSymbols (walk_wrapperResult h hQ.result)) fun result =>
      walk_wrapArguments h _ _ _ hQ.arguments _
  show R st.symbols _
  rw [wrapperName_symbols]
  exact Std.Refl.refl _

theorem quiet_wrappers (target : WrapperClass) (function : Function) :
    Preserves (OnSymbols Quiet) (wrappers target function) :=
  walk_wrappers quietWalk target ⟨trivial, fun _ _ _ _ => trivial⟩

theorem wrappersOf {target : WrapperClass} {made : List Wrapper} (h₀ : s₀.Grows st.symbols)
    (hlo : lo.Grows st.symbols) (hrun : (wrappers target function).runOn st = (.ok made, st')) :
    ∀ wrapper ∈ made,
      WrapperOf (MadeFor lo st'.symbols) s₀ target.nativeClass function wrapper := by
  obtain ⟨⟨name, comments⟩, before, hlift, hrun⟩ := ok_bind.mp hrun
  obtain ⟨⟨type, code⟩, middle, hscoped, hrun⟩ := ok_bind.mp hrun
  obtain ⟨symbols, hresult, rfl⟩ := ok_onSymbols.mp hscoped
  have hname : wrapperName function st = ((name, comments), before) := by
    obtain ⟨hfst, hsnd⟩ := ok_lift.mp hlift
    exact Prod.ext hfst hsnd
  have hbefore : before.symbols = st.symbols := by
    rw [← wrapperName_symbols function st, hname]
  have hnamed : name = wrapperNameOf function := by
    rw [← wrapperName_fst function st, hname]
  rw [hbefore] at hresult
  have hgrow := ((quiet_wrapperResult _).of_ok hresult).toGrows
  have hafter := ((quiet_wrapArguments _ _ _ _ _).of_ok hrun).toGrows
  intro wrapper hwrapper
  obtain ⟨passings, hplanned, rfl⟩ :=
    planned_wrapArguments (h₀.trans hgrow) (hlo.trans hgrow) hrun wrapper hwrapper
  refine ⟨?_, rfl, rfl, ?_, passings, hplanned, empty_join _⟩
  · rw [← hnamed]
    exact Head.name_withComments _ _
  · exact (resultOf_wrapperResult hlo hresult).mono fun _ _ => MadeFor.widen (.refl _) hafter

end InteropGen.Generate

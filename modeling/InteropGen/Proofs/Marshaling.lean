import InteropGen.Proofs.Correspondence.Wrappers

/-!
# How a marshaling adds up

A marshaling is the join of the parts for single arguments, so what holds of each part holds of the whole: it has
one parameter for every argument that is given, and after the call it does exactly what closes the steps before
the call (`after_marshal`).
-/

namespace InteropGen

/-- What must be done after the call because a step was done before it. -/
def Decl.Step.closing? : Decl.Step → Option Decl.Step
  | .boolRef name => some (.boolWriteback name)
  | .string name => some (.stringFree name)
  | .defaultString name _ _ => some (.defaultStringFree name)
  | _ => none

namespace Generate

open Metadata Decl

variable {R : Origin → TypeId → Prop} {s : Symbols} {function : Function} {argument : Argument}
  {t : NativeType} {name : String} {m m' : Marshaling} {passing : Passing} {passings : List Passing}
  {arguments : List (Argument × NativeType)}

/-! ### Parts -/

theorem Given.managed_length (h : Given R s function argument t passing) (name : String) :
    (passing.part name).managed.length = 1 := by
  cases h <;> rfl

theorem Omitted.managed_part (h : Omitted R s argument t passing) (name : String) :
    (passing.part name).managed = [] := by
  cases h <;> rfl

theorem Omitted.fixed_part (h : Omitted R s argument t passing) (name : String) :
    (passing.part name).fixed = [] := by
  cases h <;> rfl

/-- A step that gives an argument that a wrapper leaves out its default. -/
inductive DefaultStep (R : Origin → TypeId → Prop) (s : Symbols) (argument : Argument) (t : NativeType) :
    Step → Prop
  | text {id} (hchar : isCharPointer t = true) (hvalue : omittedText s.settings argument ≠ "null")
      (made : R (.native none t) id) :
      DefaultStep R s argument t (.defaultString (Identifier.escape argument.name) (.ref id)
        (.plain (omittedText s.settings argument)))
  | value {id} (h : isCharPointer t = false ∨ omittedText s.settings argument = "null")
      (made : R (.native none t) id) :
      DefaultStep R s argument t (.defaultValue (Identifier.escape argument.name) (.ref id)
        (.default (.ref id) (omittedText s.settings argument)))

theorem Omitted.before_part (h : Omitted R s argument t passing) :
    ∃ step, (passing.part (Identifier.escape argument.name)).before = [step] ∧
      DefaultStep R s argument t step := by
  cases h with
  | text hchar hvalue made => exact ⟨_, rfl, .text hchar hvalue made⟩
  | value h made => exact ⟨_, rfl, .value h made⟩

theorem Omitted.native_part (h : Omitted R s argument t passing) (name : String) :
    (passing.part name).native = [name] := by
  cases h <;> rfl

theorem after_part (passing : Passing) (name : String) :
    (passing.part name).after = (passing.part name).before.filterMap Step.closing? := by
  cases passing <;> rfl

/-! ### Joins of parts -/

theorem marshal_nil (passings : List Passing) : marshal [] passings = {} := by
  cases passings <;> rfl

theorem marshal_cons (argument : Argument) (t : NativeType) (arguments : List (Argument × NativeType))
    (passing : Passing) (passings : List Passing) :
    marshal ((argument, t) :: arguments) (passing :: passings) =
      join (passing.part (Identifier.escape argument.name)) (marshal arguments passings) := rfl

/-- After the call comes what closes the steps before it, in their order, and nothing else. -/
theorem after_marshal (arguments : List (Argument × NativeType)) (passings : List Passing) :
    (marshal arguments passings).after =
      (marshal arguments passings).before.filterMap Step.closing? := by
  induction passings generalizing arguments with
  | nil => cases arguments <;> rfl
  | cons passing passings ih =>
    cases arguments with
    | nil => rfl
    | cons first arguments =>
      rw [marshal_cons]
      show _ ++ (marshal arguments passings).after = _
      rw [ih, after_part, ← List.filterMap_append]
      rfl

/-- What the defaults of arguments add: no parameters, and a step for each of the arguments. -/
structure Defaults (R : Origin → TypeId → Prop) (s : Symbols) (arguments : List (Argument × NativeType))
    (m : Marshaling) : Prop where
  managed : m.managed = []
  native : m.native = arguments.map fun argument => Identifier.escape argument.1.name
  before : List.Forall₂ (fun argument => DefaultStep R s argument.1 argument.2) arguments m.before
  fixed : m.fixed = []
  after : m.after = m.before.filterMap Step.closing?

theorem defaults_marshal
    (h : List.Forall₂ (fun argument => Omitted R s argument.1 argument.2) arguments passings) :
    Defaults R s arguments (marshal arguments passings) := by
  induction h with
  | nil => exact ⟨rfl, rfl, .nil, rfl, rfl⟩
  | @cons first passing arguments passings hfirst _ ih =>
    obtain ⟨step, hstep, hdefault⟩ := hfirst.before_part
    refine ⟨?_, ?_, ?_, ?_, after_marshal _ _⟩
    · show _ ++ _ = _
      rw [hfirst.managed_part, ih.managed, List.append_nil]
    · show _ ++ _ = _
      rw [hfirst.native_part, ih.native]
      rfl
    · show List.Forall₂ _ _ (_ ++ _)
      rw [hstep]
      exact .cons hdefault ih.before
    · show _ ++ _ = _
      rw [hfirst.fixed_part, ih.fixed, List.append_nil]

end Generate

end InteropGen

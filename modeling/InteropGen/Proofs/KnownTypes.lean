import InteropGen.Proofs.Correspondence.Document

/-!
# Types that are there

`Knows s type` says that the type which a text in a declaration refers to has an entry. It lasts while the
symbols grow, and it holds of whatever resolving made (`MadeFor.has`), so that all types in the marshaling of
a wrapper are there (`knows_passed`).
-/

namespace InteropGen.Generate

open Metadata Decl Build Symbols

variable {s s' : Symbols} {t : NativeType} {id : TypeId} {function : Function} {argument : Argument}
  {m m' : Marshaling}

/-! ### Types and steps -/

/-- A type that was made is there. -/
theorem MadeFor.has {origin : Origin} (hs : s.Sound) (h : MadeFor s s' origin id) :
    s'.arena.Has id := by
  obtain ⟨before, after, hbefore, hrun, hafter⟩ := h
  have hmakes : Makes origin.resolve := by
    cases origin with
    | native delegateName t => exact makes_resolve delegateName t
    | plain name => exact .name name
  have hpreserves : Preserves Quiet origin.resolve := fun s => (hmakes s).1
  have hquiet : Quiet before after := hpreserves.of_ok hrun
  have hhas := hmakes.has hrun (hquiet.sound (hbefore.sound hs))
  exact hafter.arena.evolves.has hhas

/-- The type that the text refers to is there. -/
def Knows (s : Symbols) : TypeText → Prop
  | .plain _ => True
  | .ref id | .view id => s.arena.Has id

theorem Knows.evolves {type : TypeText} (h : Knows s type) (hevolves : s.arena.Evolves s'.arena) :
    Knows s' type := by
  cases type with
  | plain => trivial
  | ref id => exact hevolves.has h
  | view id => exact hevolves.has h

/-- The origin does not matter: the type is there. -/
abbrev Present (s : Symbols) : Origin → TypeId → Prop := fun _ id => s.arena.Has id

/-! ### Marshaling -/

/-- The type that the value depends on is there. -/
def KnowsValue (s : Symbols) : ValueText → Prop
  | .plain _ => True
  | .default type _ => Knows s type

/-- The types that the step needs are there. -/
def KnowsStep (s : Symbols) : Decl.Step → Prop
  | .pinned _ type | .array _ type => Knows s type
  | .defaultValue _ type value | .defaultString _ type value => Knows s type ∧ KnowsValue s value
  | _ => True

/-- The types that the parameters and the steps need are there. -/
structure KnowsMarshaling (s : Symbols) (m : Marshaling) : Prop where
  managed : ∀ parameter ∈ m.managed, Knows s parameter.type
  before : ∀ step ∈ m.before, KnowsStep s step
  fixed : ∀ step ∈ m.fixed, KnowsStep s step
  after : ∀ step ∈ m.after, KnowsStep s step

theorem KnowsStep.evolves {step : Decl.Step} (h : KnowsStep s step)
    (hevolves : s.arena.Evolves s'.arena) : KnowsStep s' step := by
  have hvalue : ∀ {value}, KnowsValue s value → KnowsValue s' value := by
    intro value hvalue
    cases value with
    | plain => trivial
    | default => exact Knows.evolves hvalue hevolves
  cases step with
  | pinned => exact Knows.evolves h hevolves
  | array => exact Knows.evolves h hevolves
  | defaultValue => exact ⟨h.1.evolves hevolves, hvalue h.2⟩
  | defaultString => exact ⟨h.1.evolves hevolves, hvalue h.2⟩
  | _ => trivial

theorem KnowsMarshaling.grows (h : KnowsMarshaling s m) (hgrows : s.Grows s') :
    KnowsMarshaling s' m :=
  ⟨fun parameter hmem => (h.managed parameter hmem).evolves hgrows.arena.evolves,
    fun step hmem => (h.before step hmem).evolves hgrows.arena.evolves,
    fun step hmem => (h.fixed step hmem).evolves hgrows.arena.evolves,
    fun step hmem => (h.after step hmem).evolves hgrows.arena.evolves⟩

theorem KnowsMarshaling.empty (s : Symbols) : KnowsMarshaling s {} :=
  ⟨by simp, by simp, by simp, by simp⟩

theorem KnowsMarshaling.join (h : KnowsMarshaling s m) (h' : KnowsMarshaling s m') :
    KnowsMarshaling s (join m m') :=
  ⟨List.forall_mem_append.mpr ⟨h.managed, h'.managed⟩,
    List.forall_mem_append.mpr ⟨h.before, h'.before⟩,
    List.forall_mem_append.mpr ⟨h.fixed, h'.fixed⟩,
    List.forall_mem_append.mpr ⟨h.after, h'.after⟩⟩

/-- The types that the way of passing needs are there. -/
def KnowsPassing (s : Symbols) : Passing → Prop
  | .byName type | .pinned type | .array type => Knows s type
  | .defaultValue type value | .defaultText type value => Knows s type ∧ KnowsValue s value
  | _ => True

theorem KnowsPassing.part {passing : Passing} (h : KnowsPassing s passing) (name : String) :
    KnowsMarshaling s (passing.part name) := by
  cases passing <;> constructor <;>
    simp_all [Passing.part, KnowsPassing, KnowsStep, Knows]

theorem knows_marshal {passings : List Passing} (h : ∀ passing ∈ passings, KnowsPassing s passing)
    (arguments : List (Argument × NativeType)) : KnowsMarshaling s (marshal arguments passings) := by
  induction passings generalizing arguments with
  | nil => cases arguments <;> exact .empty s
  | cons passing passings ih =>
    obtain ⟨hpassing, hrest⟩ := List.forall_mem_cons.mp h
    cases arguments with
    | nil => exact .empty s
    | cons first arguments => exact (hpassing.part _).join (ih hrest arguments)

/-- An argument that is passed has a type that is there, or one with a fixed text. -/
theorem Passed.knows {passing : Passing} (h : Passed (Present s') s function argument t passing) :
    KnowsPassing s' passing := by
  cases h with
  | self => trivial
  | given h =>
    cases h with
    | array _ _ made => exact made
    | pinned _ _ _ made => exact made
    | byRef _ _ made => exact made
    | byView _ _ made => exact made
    | _ => trivial
  | omitted h =>
    cases h with
    | text _ _ made => exact ⟨made, trivial⟩
    | value _ made => exact ⟨made, made⟩

theorem knows_passed {arguments : List (Argument × NativeType)} {passings : List Passing}
    (h : List.Forall₂ (fun argument => Passed (Present s') s function argument.1 argument.2)
      arguments passings) :
    KnowsMarshaling s' (marshal arguments passings) := by
  refine knows_marshal (fun passing hmem => ?_) arguments
  obtain ⟨_, -, hpassed⟩ := forall₂_mem h.flip hmem
  exact hpassed.knows

end InteropGen.Generate

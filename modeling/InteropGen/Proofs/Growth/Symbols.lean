import InteropGen.Guards
import InteropGen.Proofs.Growth.Arena
import InteropGen.Proofs.Steps
import InteropGen.Types.Resolve

/-!
# How the symbols grow

While declarations are built the tables only gain rows: `Grows s s'`. The settings, the defines and
the enums stay what they are, so that every decision which hangs on them alone is made once for a
whole configuration. `Quiet` is the same without new callback types.

`Sound` is the invariant of the symbols: the arena tells the truth, the pending forward references are
distinct and not yet bound, and the types of the table are there. Growth carries it along.
-/

namespace InteropGen.Symbols

open Build

/-- The arena tells the truth, what is pending is not yet bound, and no name has a type that is not there. -/
structure Sound (s : Symbols) : Prop where
  arena : s.arena.WellFormed
  handle : s.arena.handle = s.settings.handle
  pending : ∀ id ∈ s.pending, ∃ name, s.arena.get? id = some (.forward name none)
  nodup : s.pending.Nodup
  types : ∀ name id, s.types.find? name = some id → s.arena.Has id

/-- The tables that types are made from gain rows and lose none. -/
structure Grows (s s' : Symbols) : Prop where
  sound : s.Sound → s'.Sound
  settings : s'.settings = s.settings
  defines : s'.defines = s.defines
  enums : s'.enums = s.enums
  arena : s.arena.Extends s'.arena
  types : ∀ name id, s.types.find? name = some id → s'.types.find? name = some id
  opaqueStructs : s.opaqueStructs ⊆ s'.opaqueStructs
  pending : s.pending ⊆ s'.pending

/-- Growth without new callback types. -/
structure Quiet (s s' : Symbols) : Prop extends Grows s s' where
  delegates : s'.delegates = s.delegates

variable {s s' s'' : Symbols} {α : Type}

theorem Grows.refl (s : Symbols) : Grows s s :=
  ⟨id, rfl, rfl, rfl, .refl _, fun _ _ h => h, fun _ h => h, fun _ h => h⟩

theorem Grows.trans (h : Grows s s') (h' : Grows s' s'') : Grows s s'' :=
  ⟨fun hs => h'.sound (h.sound hs), h'.settings.trans h.settings, h'.defines.trans h.defines,
    h'.enums.trans h.enums, h.arena.trans h'.arena,
    fun name id hfind => h'.types name id (h.types name id hfind),
    fun _ hmem => h'.opaqueStructs (h.opaqueStructs hmem),
    fun _ hmem => h'.pending (h.pending hmem)⟩

theorem Quiet.refl (s : Symbols) : Quiet s s := ⟨.refl s, rfl⟩

theorem Quiet.trans (h : Quiet s s') (h' : Quiet s' s'') : Quiet s s'' :=
  ⟨h.toGrows.trans h'.toGrows, h'.delegates.trans h.delegates⟩

instance : Std.Refl Grows := ⟨Grows.refl⟩
instance : Std.Refl Quiet := ⟨Quiet.refl⟩
instance : IsTrans Symbols Quiet := ⟨fun _ _ _ => Quiet.trans⟩

/-! ### Decisions that growth does not change -/

/-- The settings and the defines decide what is left out. -/
structure SameRules (s s' : Symbols) : Prop where
  settings : s'.settings = s.settings
  defines : s'.defines = s.defines

theorem SameRules.refl (s : Symbols) : SameRules s s := ⟨rfl, rfl⟩

theorem SameRules.symm (h : SameRules s s') : SameRules s' s := ⟨h.settings.symm, h.defines.symm⟩

theorem SameRules.trans (h : SameRules s s') (h' : SameRules s' s'') : SameRules s s'' :=
  ⟨h'.settings.trans h.settings, h'.defines.trans h.defines⟩

instance : Std.Refl SameRules := ⟨SameRules.refl⟩
instance : IsTrans Symbols SameRules := ⟨fun _ _ _ => SameRules.trans⟩

theorem SameRules.isVectorName (h : SameRules s s') (name : String) :
    s'.isVectorName name = s.isVectorName name := by
  rw [Symbols.isVectorName, Symbols.isVectorName, h.settings]

theorem SameRules.admits (h : SameRules s s') (guards : List Guard) :
    s'.admits guards = s.admits guards := by
  have hdefined : s'.isDefined = s.isDefined := by
    funext name
    rw [isDefined, isDefined, h.defines]
  have hholds : s'.holds = s.holds := by
    funext guard
    rw [holds, holds, hdefined]
  match guards with
  | [] => rfl
  | [guard] => rw [Symbols.admits, Symbols.admits, hdefined, hholds]
  | _ :: guard :: _ => rw [Symbols.admits, Symbols.admits, hholds]

theorem Grows.rules (h : s.Grows s') : SameRules s s' := ⟨h.settings, h.defines⟩

theorem Grows.isVectorName (h : s.Grows s') (name : String) :
    s'.isVectorName name = s.isVectorName name :=
  h.rules.isVectorName name

theorem Grows.isVector (h : s.Grows s') (t : NativeType) : s'.isVector t = s.isVector t := by
  rw [Symbols.isVector, Symbols.isVector, funext h.isVectorName]

theorem Grows.admits (h : s.Grows s') (guards : List Guard) :
    s'.admits guards = s.admits guards :=
  h.rules.admits guards

/-! ### Steps on the tables -/

/-- A larger arena is growth as long as it tells the truth. -/
theorem quiet_arena {arena : Arena} (h : s.arena.Extends arena)
    (hwf : s.Sound → arena.WellFormed) : Quiet s { s with arena := arena } where
  sound hs :=
    ⟨hwf hs, h.handle.trans hs.handle,
      fun id hid => (hs.pending id hid).imp fun _ hget => h.entries id _ hget, hs.nodup,
      fun name id hfind => h.evolves.has (hs.types name id hfind)⟩
  settings := rfl
  defines := rfl
  enums := rfl
  arena := h
  types _ _ hfind := hfind
  opaqueStructs _ hmem := hmem
  pending _ hmem := hmem
  delegates := rfl

theorem quiet_namedType (name : String) (s : Symbols) : Quiet s (namedType name s).2 :=
  quiet_arena (Arena.extends_named _ _) fun hs => hs.arena.named name

theorem has_namedType {name : String} (h : (namedType name s).2.Sound) :
    (namedType name s).2.arena.Has (namedType name s).1 :=
  h.arena.has_name (s.arena.find?_named name)

theorem quiet_pointerTo {target : TypeId} (h : s.Sound → s.arena.Has target) :
    Quiet s (pointerTo target s).2 :=
  quiet_arena (Arena.extends_pointer _ _) fun hs => hs.arena.pointer (h hs)

/-- The pointer to a type is an entry that points there. -/
theorem get?_pointerTo {target : TypeId} (h : (pointerTo target s).2.Sound) :
    (pointerTo target s).2.arena.get? (pointerTo target s).1 = some (.pointer target) :=
  h.arena.pointers target _ (s.arena.lookup_pointer target)

theorem lookUp_of_mem {name : String} (h : name ∈ s.opaqueStructs) :
    lookUp name s = (some (namedType s.settings.handle s).1, (namedType s.settings.handle s).2) := by
  rw [lookUp, if_pos (by simpa using h)]
  rfl

theorem lookUp_of_not_mem {name : String} (h : name ∉ s.opaqueStructs) :
    lookUp name s = (s.types.find? name, s) := by
  simp [lookUp, h]

/-- A new forward reference is pending. -/
theorem quiet_defer (name : String) (s : Symbols) : Quiet s (defer name s).2 where
  sound hs := by
    refine ⟨hs.arena.forward name, hs.handle, fun id hid => ?_, ?_, fun other id hfind =>
      (s.arena.extends_forward name).evolves.has (hs.types other id hfind)⟩
    · rcases List.mem_append.mp hid with hid | hid
      · obtain ⟨other, hget⟩ := hs.pending id hid
        exact ⟨other, s.arena.get?_forward name hget⟩
      · rw [List.mem_singleton.mp hid]
        exact ⟨name, s.arena.get?_forward_self name⟩
    · refine List.nodup_append.mpr ⟨hs.nodup, List.pairwise_singleton _ _, fun id hid new hnew => ?_⟩
      rintro rfl
      obtain ⟨other, hget⟩ := hs.pending id hid
      rw [List.mem_singleton.mp hnew] at hget
      exact absurd (hget.symm.trans s.arena.get?_nextId) (by simp)
  settings := rfl
  defines := rfl
  enums := rfl
  arena := s.arena.extends_forward name
  types _ _ hfind := hfind
  opaqueStructs _ hmem := hmem
  pending _ hmem := List.mem_append_left _ hmem
  delegates := rfl

theorem find?_registerType {other : String} {old : TypeId} (name : String) (id : TypeId)
    (h : s.types.find? other = some old) :
    (s.registerType name id).types.find? other = some old := by
  by_cases hother : other = name
  · subst hother
    simp [registerType, Table.find?_insertNew_self, h]
  · exact (s.types.find?_insertNew_of_ne hother id).trans h

theorem quiet_registerType {id : TypeId} (name : String) (h : s.Sound → s.arena.Has id) :
    Quiet s (s.registerType name id) where
  sound hs := by
    refine ⟨hs.arena, hs.handle, hs.pending, hs.nodup, fun other known hfind => ?_⟩
    by_cases hother : other = name
    · subst hother
      rw [registerType, Table.find?_insertNew_self] at hfind
      cases hold : s.types.find? other with
      | none =>
        rw [hold] at hfind
        obtain rfl := Option.some.inj hfind
        exact h hs
      | some old =>
        rw [hold] at hfind
        obtain rfl := Option.some.inj hfind
        exact hs.types other old hold
    · exact hs.types other known ((s.types.find?_insertNew_of_ne hother id).symm.trans hfind)
  settings := rfl
  defines := rfl
  enums := rfl
  arena := .refl _
  types _ _ hfind := find?_registerType name id hfind
  opaqueStructs _ hmem := hmem
  pending _ hmem := hmem
  delegates := rfl

/-- The type of a name of the arena is there. -/
theorem quiet_registerName {id : TypeId} {text : String} (name : String)
    (h : s.arena.names.find? text = some id) : Quiet s (s.registerType name id) :=
  quiet_registerType name fun hs => hs.arena.has_name h

theorem mem_addOpaque {name other : String} :
    other ∈ (s.addOpaque name).opaqueStructs ↔ other = name ∨ other ∈ s.opaqueStructs := by
  unfold addOpaque
  split
  · next h =>
    have hmem : name ∈ s.opaqueStructs := by simpa using h
    constructor
    · exact .inr
    · rintro (rfl | hother)
      · exact hmem
      · exact hother
  · simp [or_comm]

theorem quiet_addOpaque (s : Symbols) (name : String) : Quiet s (s.addOpaque name) := by
  have hsub : s.opaqueStructs ⊆ (s.addOpaque name).opaqueStructs := fun _ h =>
    mem_addOpaque.mpr (.inr h)
  revert hsub
  unfold addOpaque
  split
  · exact fun _ => .refl s
  · exact fun hsub => ⟨⟨fun hs => ⟨hs.arena, hs.handle, hs.pending, hs.nodup, hs.types⟩, rfl, rfl, rfl,
      .refl _, fun _ _ h => h, hsub, fun _ h => h⟩, rfl⟩

theorem quiet_warn (s : Symbols) (text : String) : Quiet s (s.warn text) :=
  ⟨⟨fun hs => ⟨hs.arena, hs.handle, hs.pending, hs.nodup, hs.types⟩, rfl, rfl, rfl, .refl _,
    fun _ _ h => h, fun _ h => h, fun _ h => h⟩, rfl⟩

theorem quiet_skip (s : Symbols) (kind : ItemKind) (name : String) (reason : SkipReason) :
    Quiet s (s.skip kind name reason) :=
  ⟨⟨fun hs => ⟨hs.arena, hs.handle, hs.pending, hs.nodup, hs.types⟩, rfl, rfl, rfl, .refl _,
    fun _ _ h => h, fun _ h => h, fun _ h => h⟩, rfl⟩

/-! ### Resolving -/

/-- What a native name is resolved to, in the order in which it is looked for. -/
theorem resolveName_cases (name : String) (s : Symbols) :
    (∃ converted, s.settings.conversions.find? name = some converted ∧
      resolveName name s = namedType converted s) ∨
    (s.settings.conversions.find? name = none ∧
      ((name ∈ s.opaqueStructs ∧ resolveName name s = namedType s.settings.handle s) ∨
      (name ∉ s.opaqueStructs ∧
        ((∃ id, s.types.find? name = some id ∧ resolveName name s = (id, s)) ∨
        (s.types.find? name = none ∧
          ((s.isVectorName name = true ∧
            resolveName name s = namedType s.settings.vectorName s) ∨
          (s.isVectorName name = false ∧ resolveName name s = defer name s))))))) := by
  unfold resolveName
  rw [state_bind, state_get]
  cases hconv : s.settings.conversions.find? name with
  | some converted => exact .inl ⟨converted, rfl, rfl⟩
  | none =>
    refine .inr ⟨rfl, ?_⟩
    simp only [state_bind]
    by_cases hmem : name ∈ s.opaqueStructs
    · rw [lookUp_of_mem hmem]
      exact .inl ⟨hmem, rfl⟩
    · rw [lookUp_of_not_mem hmem]
      refine .inr ⟨hmem, ?_⟩
      cases htype : s.types.find? name with
      | some id => exact .inl ⟨id, rfl, rfl⟩
      | none =>
        refine .inr ⟨rfl, ?_⟩
        simp only [state_bind, state_get]
        by_cases hvector : s.isVectorName name
        · exact .inl ⟨hvector, congrFun (if_pos hvector) s⟩
        · exact .inr ⟨by simpa using hvector, congrFun (if_neg hvector) s⟩

theorem quiet_resolveName (name : String) (s : Symbols) : Quiet s (resolveName name s).2 := by
  rcases resolveName_cases name s with
    ⟨_, -, h⟩ | ⟨-, ⟨-, h⟩ | ⟨-, ⟨id, -, h⟩ | ⟨-, ⟨-, h⟩ | ⟨-, h⟩⟩⟩⟩ <;> rw [h]
  · exact quiet_namedType _ _
  · exact quiet_namedType _ _
  · exact .refl s
  · exact quiet_namedType _ _
  · exact quiet_defer _ _

theorem has_resolveName {name : String} (h : (resolveName name s).2.Sound) :
    (resolveName name s).2.arena.Has (resolveName name s).1 := by
  revert h
  rcases resolveName_cases name s with
    ⟨_, -, h⟩ | ⟨-, ⟨-, h⟩ | ⟨-, ⟨id, hfind, h⟩ | ⟨-, ⟨-, h⟩ | ⟨-, h⟩⟩⟩⟩ <;> rw [h]
  · exact has_namedType
  · exact has_namedType
  · exact fun hs => hs.types name id hfind
  · exact has_namedType
  · exact fun _ => ⟨_, s.arena.get?_forward_self name⟩

/-- The steps grow the symbols quietly, and the type that they give is there. -/
def Makes (build : Build Symbols TypeId) : Prop :=
  ∀ s, Quiet s (build.runOn s).2 ∧ ∀ id, (build.runOn s).1 = .ok id →
    (build.runOn s).2.Sound → (build.runOn s).2.arena.Has id

namespace Makes

theorem throw (fault : Fault) : Makes (throw fault) :=
  fun s => ⟨.refl s, fun _ hid => by simp at hid⟩

theorem has {build : Build Symbols TypeId} {id : TypeId} (h : Makes build)
    (hrun : build.runOn s = (.ok id, s')) : s'.Sound → s'.arena.Has id := by
  have hhas := (h s).2 id
  rw [hrun] at hhas
  exact hhas rfl

theorem lift {steps : StateM Symbols TypeId} (h : ∀ s, Quiet s (steps s).2)
    (hhas : ∀ s, (steps s).2.Sound → (steps s).2.arena.Has (steps s).1) : Makes (liftM steps) := by
  refine fun s => ⟨h s, fun id hid => ?_⟩
  obtain rfl := Except.ok.inj hid
  exact hhas s

theorem name (name : String) : Makes (liftM (namedType name)) :=
  lift (quiet_namedType name) fun _ => has_namedType

theorem bind {first : Build Symbols α} {next : α → Build Symbols TypeId}
    (h : Preserves Quiet first) (hnext : ∀ a, Makes (next a)) : Makes (first >>= next) := by
  intro s
  have hfirst := h s
  rw [runOn_bind]
  revert hfirst
  rcases first.runOn s with ⟨_ | a, middle⟩ <;> intro hfirst
  · exact ⟨hfirst, fun _ hid => by simp at hid⟩
  · exact ⟨hfirst.trans (hnext a middle).1, (hnext a middle).2⟩

/-- A pointer to what was made. -/
theorem pointer {build : Build Symbols TypeId} (h : Makes build) :
    Makes (build >>= fun target => liftM (pointerTo target)) := by
  intro s
  have hbuild := h s
  rw [runOn_bind]
  revert hbuild
  rcases build.runOn s with ⟨_ | target, middle⟩ <;> intro hbuild
  · exact ⟨hbuild.1, fun _ hid => by simp at hid⟩
  · refine ⟨hbuild.1.trans (quiet_pointerTo (hbuild.2 target rfl)), fun id hid hs => ?_⟩
    obtain rfl := Except.ok.inj hid
    exact ⟨_, get?_pointerTo hs⟩

/-- A name that is given the type that was made. -/
theorem registers {build : Build Symbols TypeId} (h : Makes build) (name : String) :
    Preserves Quiet (build >>= fun id => modify fun s => s.registerType name id) := by
  intro s
  have hbuild := h s
  rw [runOn_bind]
  revert hbuild
  rcases build.runOn s with ⟨_ | id, middle⟩ <;> intro hbuild
  · exact hbuild.1
  · exact hbuild.1.trans (quiet_registerType name (hbuild.2 id rfl))

end Makes

mutual

theorem makes_resolve (delegateName : Option String) :
    (t : NativeType) → Makes (resolve delegateName t)
  | t@⟨kind, builtin, name, inner, bounds, result, parameters, storage⟩ => by
    have hinner := makes_resolveInner inner
    unfold resolve
    cases kind with
    | builtin => exact .bind .get fun s => .name _
    | user => exact .lift (quiet_resolveName _) fun _ => has_resolveName
    | pointer => exact hinner.pointer
    | array => exact hinner.pointer
    | synonym =>
      show Makes (if _ then _ else _)
      split
      · exact .name _
      · exact hinner
    | function => exact .bind (.modify fun s => quiet_warn s _) fun _ => .name _
    | other word => exact .bind (.modify fun s => quiet_warn s _) fun _ => .name _

theorem makes_resolveInner : (t : Option NativeType) → Makes (resolveInner t)
  | some t => makes_resolve none t
  | none => .throw _

end

theorem quiet_resolve (delegateName : Option String) (t : NativeType) :
    Preserves Quiet (resolve delegateName t) :=
  fun s => (makes_resolve delegateName t s).1

theorem quiet_resolveInner (t : Option NativeType) : Preserves Quiet (resolveInner t) :=
  fun s => (makes_resolveInner t s).1

/-! ### Walks over resolving -/

/-- The relation allows the steps that resolving is made of. -/
structure ResolvingWalk (R : Symbols → Symbols → Prop) : Prop where
  enter (name : String) (s : Symbols) : R s (namedType name s).2
  point (target : TypeId) (s : Symbols) : R s (pointerTo target s).2
  defer (name : String) (s : Symbols) : R s (Symbols.defer name s).2
  warn (s : Symbols) (text : String) : R s (s.warn text)

variable {R : Symbols → Symbols → Prop}

theorem walk_resolveName [Std.Refl R] (h : ResolvingWalk R) (name : String) (s : Symbols) :
    R s (resolveName name s).2 := by
  rcases resolveName_cases name s with
    ⟨converted, -, heq⟩ | ⟨-, ⟨-, heq⟩ | ⟨-, ⟨known, -, heq⟩ | ⟨-, ⟨-, heq⟩ | ⟨-, heq⟩⟩⟩⟩ <;> rw [heq]
  · exact h.enter converted s
  · exact h.enter s.settings.handle s
  · exact Std.Refl.refl s
  · exact h.enter s.settings.vectorName s
  · exact h.defer name s

mutual

theorem walk_resolve [Std.Refl R] [IsTrans Symbols R] (h : ResolvingWalk R)
    (delegateName : Option String) : (t : NativeType) → Preserves R (resolve delegateName t)
  | t@⟨kind, builtin, name, inner, bounds, result, parameters, storage⟩ => by
    have hinner := walk_resolveInner h inner
    have hname : ∀ text, Preserves R (liftM (namedType text) : Build Symbols TypeId) :=
      fun text => .lift (h.enter text)
    have hwarn : ∀ text, Preserves R (modify fun s => s.warn text : Build Symbols Unit) :=
      fun text => .modify fun s => h.warn s text
    unfold resolve
    cases kind with
    | builtin => exact .bind .get fun s => hname _
    | user => exact .lift (walk_resolveName h _)
    | pointer => exact .bind hinner fun target => .lift (h.point target)
    | array => exact .bind hinner fun target => .lift (h.point target)
    | synonym =>
      show Preserves R (if _ then _ else _)
      split
      · exact hname _
      · exact hinner
    | function => exact .bind (hwarn _) fun _ => hname _
    | other word => exact .bind (hwarn _) fun _ => hname _

theorem walk_resolveInner [Std.Refl R] [IsTrans Symbols R] (h : ResolvingWalk R) :
    (t : Option NativeType) → Preserves R (resolveInner t)
  | some t => walk_resolve h none t
  | none => .throw _

end

end InteropGen.Symbols

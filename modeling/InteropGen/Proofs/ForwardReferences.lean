import InteropGen.Proofs.Acyclic
import InteropGen.Proofs.Reading

/-!
# Forward references are transparent

A native name that is resolved before it is known becomes a forward reference, and one that is known
already becomes the type that it has. `forward_references_transparent` says that the difference cannot
be seen once the forward references are bound: whatever is resolved, entered, registered or made opaque
in between and in whatever order, all references made for one native type are spelled alike. Only
a name that is both opaque and registered, or that is a vector's, hangs on the moment. The binding warns
once for each forward reference whose name is not known even then.
-/

namespace InteropGen

namespace Arena

variable {a : Arena} {other : TypeId}

/-- Binding keeps the name that an entry stands for. -/
theorem fallbackName_bind (a : Arena) (id target other : TypeId) :
    (a.bind id target).fallbackName other = a.fallbackName other := by
  by_cases hother : other = id
  · subst hother
    unfold fallbackName bind
    rw [get?_update_self]
    rcases a.get? other with _ | ⟨name, erased⟩ | target | ⟨name, bound⟩ <;> rfl
  · unfold fallbackName bind
    rw [get?_update_of_ne a hother]

theorem fallbackName_named (h : a.Has other) (name : String) :
    (a.named name).2.fallbackName other = a.fallbackName other := by
  obtain ⟨entry, hget⟩ := h
  rw [fallbackName, fallbackName, hget, a.get?_named name hget]

theorem has_bind (h : a.Has other) (id target : TypeId) : (a.bind id target).Has other := by
  obtain ⟨entry, hget⟩ := h
  by_cases hother : other = id
  · subst hother
    exact ⟨_, by rw [bind, get?_update_self, hget]; rfl⟩
  · exact ⟨entry, by rw [get?_bind_of_ne hother, hget]⟩

end Arena

namespace Symbols

open Build Generate

/-! ### Steps between two bindings -/

/--
A step between two bindings: a native type is resolved, a C# name is entered, a native name is given a
type that is there, or a struct becomes opaque.
-/
inductive Touches : Symbols → Symbols → Prop
  | resolve (delegateName : Option String) (t : NativeType) (s : Symbols) :
      Touches s ((resolve delegateName t).runOn s).2
  | enter (name : String) (s : Symbols) : Touches s (namedType name s).2
  | register {s : Symbols} {id : TypeId} (name : String) (h : s.arena.Has id) :
      Touches s (s.registerType name id)
  | hide (name : String) (s : Symbols) : Touches s (s.addOpaque name)

/-- Steps in any order and number. -/
abbrev Interleaved : Symbols → Symbols → Prop := Relation.ReflTransGen Touches

/-- The reference was made for the native type at some point between the two. -/
def ResolvedAs (s s' : Symbols) (t : NativeType) (id : TypeId) : Prop :=
  ∃ before after, Interleaved s before ∧ (resolve none t).runOn before = (.ok id, after) ∧
    Interleaved after s'

/-- The reference is a forward reference that was entered between the two and is not yet bound. -/
def Deferred (s s' : Symbols) (id : TypeId) : Prop :=
  s.arena.get? id = none ∧ ∃ name, s'.arena.get? id = some (.forward name none)

/-- Does nothing of a native name hang on the moment at which it is looked up? -/
def Steadfast (s : Symbols) (name : String) : Prop :=
  s.isVectorName name = false ∧ ¬ (name ∈ s.opaqueStructs ∧ s.types.contains name = true)

/-- The names of the pending forward references that are neither opaque nor have a type. -/
def unknownNames (s : Symbols) (ids : List TypeId) : List String :=
  (ids.map s.arena.fallbackName).filter fun name =>
    !s.opaqueStructs.contains name && !s.types.contains name

variable {s s' s'' built : Symbols} {t : NativeType} {id : TypeId} {name : String}

theorem Touches.quiet (h : Touches s s') : Quiet s s' := by
  cases h with
  | resolve delegateName t => exact quiet_resolve delegateName t s
  | enter name => exact quiet_namedType name s
  | register name h => exact quiet_registerType name fun _ => h
  | hide name => exact quiet_addOpaque s name

theorem Interleaved.quiet (h : Interleaved s s') : Quiet s s' := by
  induction h with
  | refl => exact .refl s
  | tail _ hstep ih => exact ih.trans hstep.quiet

theorem ResolvedAs.madeFor (h : ResolvedAs s s' t id) : MadeFor s s' (.native none t) id := by
  obtain ⟨before, after, hbefore, hrun, hafter⟩ := h
  exact ⟨before, after, hbefore.quiet.toGrows, hrun, hafter.quiet.toGrows⟩

/-! ### What is deferred -/

/-- Entries stay, and what becomes pending are the forward references among the new ones. -/
structure Defers (s s' : Symbols) : Prop where
  entries : ∀ id entry, s.arena.get? id = some entry → s'.arena.get? id = some entry
  pending : ∀ id, id ∈ s'.pending ↔ id ∈ s.pending ∨ Deferred s s' id

theorem Deferred.irrefl (s : Symbols) (id : TypeId) : ¬ Deferred s s id := by
  rintro ⟨hnone, name, hget⟩
  rw [hnone] at hget
  simp at hget

theorem Defers.refl (s : Symbols) : Defers s s :=
  ⟨fun _ _ h => h, fun id => by simp [Deferred.irrefl]⟩

theorem Defers.trans (h : Defers s s') (h' : Defers s' s'') : Defers s s'' := by
  refine ⟨fun id entry hget => h'.entries id entry (h.entries id entry hget), fun id => ?_⟩
  rw [h'.pending, h.pending, or_assoc]
  refine or_congr_right ⟨?_, ?_⟩
  · rintro (⟨hnone, name, hget⟩ | ⟨hnone, name, hget⟩)
    · exact ⟨hnone, name, h'.entries id _ hget⟩
    · refine ⟨Option.eq_none_iff_forall_ne_some.mpr fun entry hentry => ?_, name, hget⟩
      rw [h.entries id entry hentry] at hnone
      simp at hnone
  · rintro ⟨hnone, name, hget⟩
    cases hmiddle : s'.arena.get? id with
    | none => exact .inr ⟨hmiddle, name, hget⟩
    | some entry =>
      have hsame : entry = .forward name none :=
        Option.some.inj ((h'.entries id entry hmiddle).symm.trans hget)
      exact .inl ⟨hnone, name, hsame ▸ hmiddle⟩

instance : Std.Refl Defers := ⟨Defers.refl⟩
instance : IsTrans Symbols Defers := ⟨fun _ _ _ => Defers.trans⟩

/-- A step that enters no forward reference defers nothing. -/
theorem defers_of_pending (hentries : ∀ id entry, s.arena.get? id = some entry →
      s'.arena.get? id = some entry) (hpending : s'.pending = s.pending)
    (hnew : ∀ id, ¬ Deferred s s' id) : Defers s s' :=
  ⟨hentries, fun id => by simp [hpending, hnew]⟩

theorem defers_of_arena (harena : s'.arena = s.arena) (hpending : s'.pending = s.pending) :
    Defers s s' := by
  refine defers_of_pending (fun id entry hget => by rw [harena, hget]) hpending ?_
  rintro id ⟨hnone, name, hget⟩
  rw [harena, hnone] at hget
  simp at hget

/-- An arena with one entry more, if it is not a forward reference, holds no new one. -/
theorem not_deferred_push {new : TypeEntry} (hentries : s'.arena.entries = s.arena.entries.push new)
    (hnew : ∀ name, new ≠ .forward name none) (id : TypeId) : ¬ Deferred s s' id := by
  rintro ⟨hnone, name, hget⟩
  rcases Arena.get?_push hentries hget with ⟨-, heq⟩ | hold
  · exact hnew name heq.symm
  · rw [hnone] at hold
    simp at hold

theorem defers_namedType (name : String) (s : Symbols) : Defers s (namedType name s).2 := by
  refine defers_of_pending (fun id entry => s.arena.get?_named name) rfl ?_
  rcases Arena.named_cases s.arena name with ⟨known, -, heq⟩ | ⟨-, heq⟩
  · have harena : (namedType name s).2.arena = s.arena := congrArg Prod.snd heq
    rintro id ⟨hnone, other, hget⟩
    rw [harena, hnone] at hget
    simp at hget
  · have hentries : (namedType name s).2.arena.entries = s.arena.entries.push (.named name false) :=
      congrArg (fun made => made.2.entries) heq
    exact not_deferred_push hentries (by simp)

theorem defers_pointerTo (target : TypeId) (s : Symbols) : Defers s (pointerTo target s).2 := by
  refine defers_of_pending (fun id entry => s.arena.get?_pointer target) rfl ?_
  rcases Arena.pointer_cases s.arena target with ⟨known, -, heq⟩ | ⟨-, heq⟩
  · have harena : (pointerTo target s).2.arena = s.arena := congrArg Prod.snd heq
    rintro id ⟨hnone, other, hget⟩
    rw [harena, hnone] at hget
    simp at hget
  · have hentries : (pointerTo target s).2.arena.entries = s.arena.entries.push (.pointer target) :=
      congrArg (fun made => made.2.entries) heq
    exact not_deferred_push hentries (by simp)

theorem defers_defer (name : String) (s : Symbols) : Defers s (defer name s).2 := by
  refine ⟨fun id entry => s.arena.get?_forward name, fun id => ?_⟩
  have hpending : (defer name s).2.pending = s.pending ++ [s.arena.nextId] := rfl
  rw [hpending, List.mem_append, List.mem_singleton]
  refine or_congr_right ⟨?_, ?_⟩
  · rintro rfl
    exact ⟨s.arena.get?_nextId, name, s.arena.get?_forward_self name⟩
  · rintro ⟨hnone, other, hget⟩
    have hentries : (defer name s).2.arena.entries =
        s.arena.entries.push (.forward name none) := rfl
    rcases Arena.get?_push hentries hget with ⟨hid, -⟩ | hold
    · exact hid
    · rw [hnone] at hold
      simp at hold

theorem defersWalk : ResolvingWalk Defers :=
  ⟨defers_namedType, defers_pointerTo, defers_defer, fun _ _ => defers_of_arena rfl rfl⟩

theorem Touches.defers (h : Touches s s') : Defers s s' := by
  cases h with
  | resolve delegateName t => exact walk_resolve defersWalk delegateName t s
  | enter name => exact defers_namedType name s
  | register name h => exact defers_of_arena rfl rfl
  | hide name =>
    refine defers_of_arena ?_ (addOpaque_pending s name)
    unfold addOpaque
    split <;> rfl

theorem Interleaved.defers (h : Interleaved s s') : Defers s s' := by
  induction h with
  | refl => exact .refl s
  | tail _ hstep ih => exact ih.trans hstep.defers

/-! ### What binding warns of -/

/-- The tables that decide what is known, and the names of what is pending, stay as they are. -/
structure SameNames (ids : List TypeId) (s s' : Symbols) : Prop where
  opaqueStructs : s'.opaqueStructs = s.opaqueStructs
  types : s'.types = s.types
  names : ∀ id ∈ ids, s'.arena.fallbackName id = s.arena.fallbackName id
  has : ∀ id ∈ ids, s'.arena.Has id

theorem unknownNames_congr {ids : List TypeId} (h : SameNames ids s s') :
    unknownNames s' ids = unknownNames s ids := by
  rw [unknownNames, unknownNames, h.opaqueStructs, h.types,
    List.map_congr_left fun id hid => h.names id hid]

/-- Binding one forward reference warns of it exactly if its name is not known. -/
theorem warns_resolveOne (ids : List TypeId) (hids : ∀ other ∈ ids, s.arena.Has other) :
    SameNames ids s (resolveOne id s).2 ∧
      (resolveOne id s).2.warnings =
        s.warnings ++ (unknownNames s [id]).map ("unresolved type " ++ ·) := by
  rw [resolveOne_eq]
  have hlist : unknownNames s [id] = if s.opaqueStructs.contains (s.arena.fallbackName id) ||
      s.types.contains (s.arena.fallbackName id) then [] else [s.arena.fallbackName id] := by
    rw [unknownNames, List.map_singleton, List.filter_singleton]
    cases s.opaqueStructs.contains (s.arena.fallbackName id) <;>
      cases s.types.contains (s.arena.fallbackName id) <;> rfl
  by_cases hmem : s.arena.fallbackName id ∈ s.opaqueStructs
  · rw [lookUp_of_mem hmem, hlist, if_pos (by simp [hmem])]
    have hnamed := fun other hother => Arena.fallbackName_named (hids other hother) s.settings.handle
    have hhas : ∀ other ∈ ids, (namedType s.settings.handle s).2.arena.Has other :=
      fun other hother => (Arena.extends_named _ _).evolves.has (hids other hother)
    exact ⟨⟨rfl, rfl, fun other hother => (Arena.fallbackName_bind _ _ _ _).trans (hnamed other hother),
      fun other hother => Arena.has_bind (hhas other hother) _ _⟩, by simp; rfl⟩
  · rw [lookUp_of_not_mem hmem, hlist]
    cases hfind : s.types.find? (s.arena.fallbackName id) with
    | none =>
      rw [if_neg (by simp [hmem, Table.contains, hfind])]
      exact ⟨⟨rfl, rfl, fun _ _ => rfl, hids⟩, rfl⟩
    | some target =>
      rw [if_pos (by simp [Table.contains, hfind])]
      exact ⟨⟨rfl, rfl, fun other _ => Arena.fallbackName_bind _ _ _ other,
        fun other hother => Arena.has_bind (hids other hother) _ _⟩, by simp⟩

theorem warnings_forM {ids : List TypeId} (hids : ∀ id ∈ ids, s.arena.Has id) :
    (ids.forM resolveOne s).2.warnings =
      s.warnings ++ (unknownNames s ids).map ("unresolved type " ++ ·) := by
  induction ids generalizing s with
  | nil => exact (List.append_nil _).symm
  | cons id ids ih =>
    have hrest := fun other hother => hids other (List.mem_cons_of_mem id hother)
    obtain ⟨hsame, hwarn⟩ := @warns_resolveOne s id ids hrest
    have hcons : unknownNames s (id :: ids) = unknownNames s [id] ++ unknownNames s ids := by
      rw [unknownNames, List.map_cons, ← List.singleton_append, List.filter_append]
      rfl
    calc ((id :: ids).forM resolveOne s).2.warnings
      _ = (ids.forM resolveOne (resolveOne id s).2).2.warnings := rfl
      _ = (resolveOne id s).2.warnings ++
            (unknownNames (resolveOne id s).2 ids).map ("unresolved type " ++ ·) := ih hsame.has
      _ = s.warnings ++ (unknownNames s (id :: ids)).map ("unresolved type " ++ ·) := by
        rw [unknownNames_congr hsame, hwarn, hcons, List.map_append, List.append_assoc]

/-- Binding warns once for each pending forward reference whose name is not known, and of nothing else. -/
theorem warnings_resolvePending (hs : s.Sound) :
    (resolvePending s).2.warnings =
      s.warnings ++ (unknownNames s s.pending).map ("unresolved type " ++ ·) := by
  refine warnings_forM (s := { s with pending := [] }) fun id hid => ?_
  obtain ⟨name, hget⟩ := hs.pending id hid
  exact ⟨_, hget⟩

/-! ### Transparency -/

theorem settles_resolvePending (hs : s.Sound) : Settles [] s s (resolvePending s).2 :=
  ⟨.nil s, bindsPending_resolvePending hs⟩

theorem Steadfast.settled (hs : s.Sound) (h : s.Steadfast name) :
    (resolvePending s).2.Settled name := by
  have hbinds := bindsPending_resolvePending hs
  obtain ⟨hvector, hboth⟩ := h
  refine fun _ => ⟨fun known hfind hmem => ?_, fun hname => ?_⟩
  · rw [hbinds.types] at hfind
    rw [hbinds.known] at hmem
    exact absurd ⟨hmem, Table.contains_iff.mpr ⟨known, hfind⟩⟩ hboth
  · rw [isVectorName, hbinds.settings] at hname
    exact absurd (hname.symm.trans hvector) (by simp)

/--
All references made for a native type, without a name for a delegate, at any two points of any
interleaving are spelled alike once the forward references are bound, whether they were deferred or
not, and have a spelling if no type reaches itself. What is pending are the forward references made
since the start, each once, and binding adds one warning for each of them whose name is then neither
opaque nor has a type, in order, and no other.
-/
theorem forward_references_transparent (hs : s.Sound) (hpending : s.pending = [])
    (hsteps : Interleaved s built) :
    (∀ t id id', ResolvedAs s built t id → ResolvedAs s built t id' →
      (∀ name, t.rootName? = some name → built.Steadfast name) →
      (resolvePending built).2.spellId id = (resolvePending built).2.spellId id' ∧
      ((resolvePending built).2.arena.Acyclic →
        ∃ text, (resolvePending built).2.spellId id = .ok text)) ∧
    (resolvePending built).2.warnings =
      built.warnings ++ (unknownNames built built.pending).map ("unresolved type " ++ ·) ∧
    built.pending.Nodup ∧ ∀ id, id ∈ built.pending ↔ Deferred s built id := by
  have hgrows := hsteps.quiet.toGrows
  have hbuilt : built.Sound := hgrows.sound hs
  have hsettles := settles_resolvePending hbuilt
  have hlast : (resolvePending built).2.Sound := hsettles.keeps.sound hbuilt
  have hevolves : built.Evolves (resolvePending built).2 := hsettles.keeps.evolves
  refine ⟨fun t id id' hid hid' hsteady => ⟨?_, fun hacyclic => ?_⟩,
    warnings_resolvePending hbuilt, hbuilt.nodup, fun id => ?_⟩
  · obtain ⟨spelled, hnames, hspell⟩ := exists_reading hs hevolves t hid.madeFor
    obtain ⟨spelled', hnames', hspell'⟩ := exists_reading hs hevolves t hid'.madeFor
    rw [hspell, hspell']
    cases hroot : t.rootName? with
    | none => exact reading_of_rootless t hroot
    | some name =>
      have hsettled := (hsteady name hroot).settled hbuilt
      rw [NameSpelling.unique hs (.refl built) hsettles hroot hsettled hnames hnames']
  · obtain ⟨before, after, hbefore, hrun, hafter⟩ := hid.madeFor
    have hhas : after.arena.Has id := (makes_resolve none t).has hrun
      ((quiet_resolve none t).of_ok hrun |>.sound (hbefore.sound hs))
    obtain ⟨text, htext⟩ := hacyclic.exists_spells hlast.arena
      (hevolves.arena.has (hafter.arena.evolves.has hhas))
    exact ⟨text, spellId_eq_ok_iff.mpr htext⟩
  · rw [hsteps.defers.pending id, hpending]
    simp

/-- A pointer to a name that is registered late. -/
def latePointer : NativeType :=
  { kind := .pointer, inner := some { kind := .user, name := some "ImLate" } }

/-- The symbols when the late name is deferred, and so is another one that never comes. -/
def lateDeferred : Symbols :=
  ((resolve none { kind := .user, name := some "ImMissing" }).runOn
    ((resolve none latePointer).runOn (ofSettings {})).2).2

/-- The symbols when the late name is registered. -/
def lateRegistered : Symbols :=
  (namedType "uint" lateDeferred).2.registerType "ImLate" (namedType "uint" lateDeferred).1

theorem forward_references_transparent_late :
    Interleaved (ofSettings {}) ((resolve none latePointer).runOn lateRegistered).2 ∧
      (resolvePending ((resolve none latePointer).runOn lateRegistered).2).2.spellId ⟨1⟩ =
        (resolvePending ((resolve none latePointer).runOn lateRegistered).2).2.spellId ⟨4⟩ ∧
      (resolvePending ((resolve none latePointer).runOn lateRegistered).2).2.warnings =
        ["unresolved type ImMissing"] := by
  have hdeferred : Interleaved ((resolve none latePointer).runOn (ofSettings {})).2 lateDeferred :=
    .single (.resolve none _ _)
  have hregistered : Interleaved lateDeferred lateRegistered :=
    .tail (.single (.enter "uint" _)) (.register "ImLate" ⟨_, rfl⟩)
  have hlast : Interleaved lateRegistered ((resolve none latePointer).runOn lateRegistered).2 :=
    .single (.resolve none latePointer _)
  have hfirst : Interleaved (ofSettings {}) ((resolve none latePointer).runOn (ofSettings {})).2 :=
    .single (.resolve none latePointer _)
  have hsteps := ((hfirst.trans hdeferred).trans hregistered).trans hlast
  obtain ⟨hspell, hwarnings, -⟩ :=
    forward_references_transparent (sound_ofSettings {}) rfl hsteps
  have hearly : ResolvedAs (ofSettings {}) ((resolve none latePointer).runOn lateRegistered).2
      latePointer ⟨1⟩ := ⟨_, _, .refl, Prod.ext rfl rfl, (hdeferred.trans hregistered).trans hlast⟩
  have hlate : ResolvedAs (ofSettings {}) ((resolve none latePointer).runOn lateRegistered).2
      latePointer ⟨4⟩ :=
    ⟨_, _, (hfirst.trans hdeferred).trans hregistered, Prod.ext rfl rfl, .refl⟩
  have hsteady : ∀ name, latePointer.rootName? = some name →
      ((resolve none latePointer).runOn lateRegistered).2.Steadfast name := by
    intro name hroot
    obtain rfl : "ImLate" = name := Option.some.inj hroot
    exact ⟨by decide +kernel, by decide +kernel⟩
  exact ⟨hsteps, (hspell latePointer ⟨1⟩ ⟨4⟩ hearly hlate hsteady).1,
    hwarnings.trans (by decide +kernel)⟩

end Symbols

end InteropGen

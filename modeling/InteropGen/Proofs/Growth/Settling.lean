import InteropGen.Generate.Bindings
import InteropGen.Proofs.Growth.Symbols

/-!
# What happens to types after the declarations are built

Two steps change types that declarations already refer to. The structs without members are erased, and
then the pending forward references are bound. `Erases` and `Binds` say what each does to the symbols and
what it leaves alone; `Settles` is one after the other. Neither can fail.
-/

namespace InteropGen

open Build

namespace Symbols

/-- The tables other than the arena, the opaque structs and the record of what was left out stay. -/
structure Keeps (s s' : Symbols) : Prop where
  sound : s.Sound → s'.Sound
  settings : s'.settings = s.settings
  defines : s'.defines = s.defines
  enums : s'.enums = s.enums
  types : s'.types = s.types
  delegates : s'.delegates = s.delegates
  opaqueStructs : s.opaqueStructs ⊆ s'.opaqueStructs
  arena : s.arena.Evolves s'.arena

variable {s s' s'' : Symbols} {id : TypeId} {name : String}

theorem Keeps.refl (s : Symbols) : Keeps s s :=
  ⟨fun h => h, rfl, rfl, rfl, rfl, rfl, fun _ h => h, .refl _⟩

theorem Keeps.trans (h : Keeps s s') (h' : Keeps s' s'') : Keeps s s'' :=
  ⟨fun hs => h'.sound (h.sound hs), h'.settings.trans h.settings, h'.defines.trans h.defines,
    h'.enums.trans h.enums, h'.types.trans h.types, h'.delegates.trans h.delegates,
    fun _ hmem => h'.opaqueStructs (h.opaqueStructs hmem), h.arena.trans h'.arena⟩

/-! ### Binding -/

/-- What a forward reference to a name is bound to: the handle, the type of the name, or nothing. -/
def BindsTo (s : Symbols) (name : String) (target : Option TypeId) : Prop :=
  if name ∈ s.opaqueStructs then
    ∃ id, target = some id ∧ s.arena.names.find? s.settings.handle = some id
  else target = s.types.find? name

/-- The forward references are bound, and no other entry changes. -/
structure Binds (ids : List TypeId) (s s' : Symbols) : Prop extends Keeps s s' where
  known : s'.opaqueStructs = s.opaqueStructs
  pending : s'.pending = s.pending
  bound : ∀ id ∈ ids, ∀ name, s.arena.get? id = some (.forward name none) →
    ∃ target, s'.arena.get? id = some (.forward name target) ∧ s'.BindsTo name target
  kept : ∀ id ∉ ids, ∀ entry, s.arena.get? id = some entry → s'.arena.get? id = some entry

theorem BindsTo.keeps {target : Option TypeId} (h : Keeps s s')
    (hknown : s'.opaqueStructs = s.opaqueStructs) (hbinds : s.BindsTo name target) :
    s'.BindsTo name target := by
  unfold BindsTo at hbinds ⊢
  rw [hknown, h.types, h.settings]
  by_cases hmem : name ∈ s.opaqueStructs
  · rw [if_pos hmem] at hbinds ⊢
    obtain ⟨id, rfl, hid⟩ := hbinds
    exact ⟨id, rfl, h.arena.names _ _ hid⟩
  · rw [if_neg hmem] at hbinds ⊢
    exact hbinds

theorem BindsTo.has {target : TypeId} (h : s.BindsTo name (some target)) (hs : s.Sound) :
    s.arena.Has target := by
  unfold BindsTo at h
  split at h
  · obtain ⟨id, hid, hfind⟩ := h
    obtain rfl := Option.some.inj hid
    exact hs.arena.has_name hfind
  · exact hs.types name target h.symm

theorem Binds.nil (s : Symbols) : Binds [] s s :=
  ⟨.refl s, rfl, rfl, by simp, fun _ _ _ h => h⟩

theorem Binds.cons {ids : List TypeId} (hid : id ∉ ids) (h : Binds [id] s s')
    (h' : Binds ids s' s'') : Binds (id :: ids) s s'' := by
  refine ⟨h.toKeeps.trans h'.toKeeps, h'.known.trans h.known, h'.pending.trans h.pending, ?_, ?_⟩
  · intro other hother name hget
    rcases List.mem_cons.mp hother with rfl | hmem
    · obtain ⟨target, hbound, hbinds⟩ := h.bound other (List.mem_singleton_self _) name hget
      exact ⟨target, h'.kept other hid _ hbound, hbinds.keeps h'.toKeeps h'.known⟩
    · have hne : other ∉ [id] := by
        rw [List.mem_singleton]
        rintro rfl
        exact hid hmem
      exact h'.bound other hmem name (h.kept other hne _ hget)
  · intro other hother entry hget
    rw [List.mem_cons, not_or] at hother
    exact h'.kept other hother.2 entry (h.kept other (by simpa using hother.1) entry hget)

/-- A change of the arena alone, when nothing is pending. -/
theorem keeps_arena {arena : Arena} (hempty : s.pending = []) (h : s.arena.Evolves arena)
    (hwf : s.Sound → arena.WellFormed) : Keeps s { s with arena := arena } where
  sound hs :=
    ⟨hwf hs, h.handle.trans hs.handle, by rw [hempty]; simp, by rw [hempty]; simp,
      fun name id hfind => h.has (hs.types name id hfind)⟩
  settings := rfl
  defines := rfl
  enums := rfl
  types := rfl
  delegates := rfl
  opaqueStructs _ hmem := hmem
  arena := h

theorem keeps_warn (s : Symbols) (text : String) : Keeps s (s.warn text) :=
  ⟨fun hs => ⟨hs.arena, hs.handle, hs.pending, hs.nodup, hs.types⟩, rfl, rfl, rfl, rfl, rfl, fun _ h => h,
    .refl _⟩

theorem resolveOne_eq (id : TypeId) (s : Symbols) :
    (resolveOne id s).2 =
      match lookUp (s.arena.fallbackName id) s with
      | (none, after) => after.warn ("unresolved type " ++ s.arena.fallbackName id)
      | (some target, after) => { after with arena := after.arena.bind id target } := by
  unfold resolveOne
  simp only [state_bind, state_get]
  rcases lookUp (s.arena.fallbackName id) s with ⟨_ | target, after⟩ <;> rfl

theorem binds_bind {target : TypeId} (hempty : s.pending = [])
    (hget : s.arena.get? id = some (.forward name none)) (hbinds : s.BindsTo name (some target)) :
    Binds [id] s { s with arena := s.arena.bind id target } := by
  have hkeeps : Keeps s { s with arena := s.arena.bind id target } :=
    keeps_arena hempty (Arena.evolves_bind hget target) fun hs => hs.arena.bind hget (hbinds.has hs)
  refine ⟨hkeeps, rfl, rfl, fun other hother other' hget' => ?_, fun other hother entry hget' => ?_⟩
  · obtain rfl := List.mem_singleton.mp hother
    rw [hget] at hget'
    obtain rfl : name = other' := by simpa using hget'
    exact ⟨some target, Arena.get?_bind_self hget target, hbinds.keeps hkeeps rfl⟩
  · rw [List.mem_singleton] at hother
    exact (Arena.get?_bind_of_ne hother target).trans hget'

theorem binds_resolveOne (hempty : s.pending = [])
    (hget : s.arena.get? id = some (.forward name none)) : Binds [id] s (resolveOne id s).2 := by
  have hname : s.arena.fallbackName id = name := by rw [Arena.fallbackName, hget]
  rw [resolveOne_eq, hname]
  by_cases hmem : name ∈ s.opaqueStructs
  · rw [lookUp_of_mem hmem]
    have hext := Arena.extends_named s.arena s.settings.handle
    have hkeeps : Keeps s (namedType s.settings.handle s).2 :=
      keeps_arena hempty hext.evolves fun hs => hs.arena.named _
    have hbinds : (namedType s.settings.handle s).2.BindsTo name
        (some (namedType s.settings.handle s).1) := by
      rw [BindsTo, if_pos (show name ∈ (namedType s.settings.handle s).2.opaqueStructs from hmem)]
      exact ⟨_, rfl, Arena.find?_named _ _⟩
    have hbind := binds_bind (s := (namedType s.settings.handle s).2) hempty
      (hext.entries id _ hget) hbinds
    refine ⟨hkeeps.trans hbind.toKeeps, hbind.known, hbind.pending, fun other hother other' hget' => ?_,
      fun other hother entry hget' => ?_⟩
    · exact hbind.bound other hother other' (hext.entries other _ hget')
    · exact hbind.kept other hother entry (hext.entries other _ hget')
  · rw [lookUp_of_not_mem hmem]
    cases htype : s.types.find? name with
    | none =>
      refine ⟨keeps_warn s _, rfl, rfl, fun other hother other' hget' => ?_,
        fun _ _ _ hget' => hget'⟩
      obtain rfl := List.mem_singleton.mp hother
      rw [hget] at hget'
      obtain rfl : name = other' := by simpa using hget'
      refine ⟨none, hget, ?_⟩
      rw [BindsTo, if_neg (by exact hmem)]
      exact htype.symm
    | some target =>
      refine binds_bind hempty hget ?_
      rw [BindsTo, if_neg hmem, htype]

theorem binds_forM {ids : List TypeId} (hempty : s.pending = []) (hnodup : ids.Nodup)
    (hids : ∀ id ∈ ids, ∃ name, s.arena.get? id = some (.forward name none)) :
    Binds ids s (ids.forM resolveOne s).2 := by
  induction ids generalizing s with
  | nil => exact .nil s
  | cons id ids ih =>
    obtain ⟨name, hget⟩ := hids id List.mem_cons_self
    obtain ⟨hid, hnodup⟩ := List.nodup_cons.mp hnodup
    have hfirst := binds_resolveOne hempty hget
    refine .cons hid hfirst (ih (hfirst.pending.trans hempty) hnodup fun other hother => ?_)
    obtain ⟨name, hget⟩ := hids other (List.mem_cons_of_mem _ hother)
    refine ⟨name, hfirst.kept other ?_ _ hget⟩
    rw [List.mem_singleton]
    rintro rfl
    exact hid hother

theorem keeps_clearPending (s : Symbols) : Keeps s { s with pending := [] } :=
  ⟨fun hs => ⟨hs.arena, hs.handle, by simp, by simp, hs.types⟩, rfl, rfl, rfl, rfl, rfl,
    fun _ h => h, .refl _⟩

/-- The relation allows what binding does to the symbols. -/
structure BindingWalk (R : Symbols → Symbols → Prop) : Prop where
  clear (s : Symbols) : R s { s with pending := [] }
  handle (s : Symbols) : R s (namedType s.settings.handle s).2
  bind (s : Symbols) (id target : TypeId) : R s { s with arena := s.arena.bind id target }
  warn (s : Symbols) (text : String) : R s (s.warn text)

theorem walk_resolveOne {R : Symbols → Symbols → Prop} [IsTrans Symbols R] (h : BindingWalk R)
    (id : TypeId) (s : Symbols) : R s (resolveOne id s).2 := by
  rw [resolveOne_eq]
  by_cases hmem : s.arena.fallbackName id ∈ s.opaqueStructs
  · rw [lookUp_of_mem hmem]
    exact IsTrans.trans _ _ _ (h.handle s) (h.bind _ id _)
  · rw [lookUp_of_not_mem hmem]
    cases s.types.find? (s.arena.fallbackName id) with
    | none => exact h.warn s _
    | some target => exact h.bind s id target

theorem walk_resolvePending {R : Symbols → Symbols → Prop} [Std.Refl R] [IsTrans Symbols R]
    (h : BindingWalk R) (s : Symbols) : R s (resolvePending s).2 := by
  have hall : ∀ (ids : List TypeId) (s : Symbols), R s (ids.forM resolveOne s).2 := by
    intro ids
    induction ids with
    | nil => exact fun s => Std.Refl.refl s
    | cons id ids ih => exact fun s => IsTrans.trans _ _ _ (walk_resolveOne h id s) (ih _)
  exact IsTrans.trans _ _ _ (h.clear s) (hall s.pending _)

/-- Binding all that is pending, and nothing is pending after it. -/
structure BindsPending (s s' : Symbols) : Prop extends Keeps s s' where
  known : s'.opaqueStructs = s.opaqueStructs
  pending : s'.pending = []
  bound : ∀ id ∈ s.pending, ∀ name, s.arena.get? id = some (.forward name none) →
    ∃ target, s'.arena.get? id = some (.forward name target) ∧ s'.BindsTo name target
  kept : ∀ id ∉ s.pending, ∀ entry, s.arena.get? id = some entry → s'.arena.get? id = some entry

theorem bindsPending_resolvePending (hs : s.Sound) : BindsPending s (resolvePending s).2 := by
  have hforM : Binds s.pending { s with pending := [] } (resolvePending s).2 :=
    binds_forM rfl hs.nodup hs.pending
  exact ⟨(keeps_clearPending s).trans hforM.toKeeps, hforM.known, hforM.pending, hforM.bound,
    hforM.kept⟩

end Symbols

namespace Generate

open Symbols Decl

variable {s s' s'' : Symbols}

/-! ### Erasing -/

/-- The structs are opaque, and the names they had are erased; no other entry changes. -/
structure Erases (names : List String) (s s' : Symbols) : Prop extends Keeps s s' where
  pending : s'.pending = s.pending
  known : ∀ name, name ∈ s'.opaqueStructs ↔ name ∈ names ∨ name ∈ s.opaqueStructs
  erased : ∀ name ∈ names, ∀ id, s.types.find? name = some id → ∀ text mark,
    s.arena.get? id = some (.named text mark) → s'.arena.get? id = some (.named text true)
  others : ∀ id entry, s.arena.get? id = some entry → s'.arena.get? id ≠ some entry →
    ∃ name ∈ names, s.types.find? name = some id
  forward : ∀ id name target, s.arena.get? id = some (.forward name target) →
    s'.arena.get? id = some (.forward name target)

theorem Erases.nil (s : Symbols) : Erases [] s s :=
  ⟨.refl s, rfl, by simp, by simp, fun _ _ hget hne => absurd hget hne, fun _ _ _ h => h⟩

theorem Erases.cons {name : String} {names : List String} (h : Erases [name] s s')
    (h' : Erases names s' s'') : Erases (name :: names) s s'' := by
  refine ⟨h.toKeeps.trans h'.toKeeps, h'.pending.trans h.pending, fun other => ?_, ?_, ?_,
    fun id other target hget => h'.forward id other target (h.forward id other target hget)⟩
  · rw [h'.known, h.known, List.mem_singleton, List.mem_cons, or_assoc]
    exact or_left_comm
  · intro other hother id hfind text mark hget
    rcases List.mem_cons.mp hother with rfl | hother
    · have herased := h.erased other (List.mem_singleton_self _) id hfind text mark hget
      exact h'.arena.erased herased
    · obtain ⟨mark', hget'⟩ := h.arena.named hget
      rw [← h.types] at hfind
      exact h'.erased other hother id hfind text mark' hget'
  · intro id entry hget hne
    by_cases hmiddle : s'.arena.get? id = some entry
    · obtain ⟨other, hother, hfind⟩ := h'.others id entry hmiddle hne
      rw [h.types] at hfind
      exact ⟨other, List.mem_cons_of_mem _ hother, hfind⟩
    · obtain ⟨other, hother, hfind⟩ := h.others id entry hget hmiddle
      obtain rfl := List.mem_singleton.mp hother
      exact ⟨other, List.mem_cons_self, hfind⟩

theorem keeps_addOpaque (s : Symbols) (name : String) : Keeps s (s.addOpaque name) := by
  have hsub : s.opaqueStructs ⊆ (s.addOpaque name).opaqueStructs := fun _ h =>
    mem_addOpaque.mpr (.inr h)
  revert hsub
  unfold addOpaque
  split
  · exact fun _ => .refl s
  · exact fun hsub => ⟨fun hs => ⟨hs.arena, hs.handle, hs.pending, hs.nodup, hs.types⟩, rfl, rfl, rfl, rfl,
      rfl, hsub, .refl _⟩

theorem addOpaque_pending (s : Symbols) (name : String) :
    (s.addOpaque name).pending = s.pending := by
  unfold addOpaque
  split <;> rfl

theorem keeps_skip (s : Symbols) (kind : ItemKind) (name : String) (reason : SkipReason) :
    Keeps s (s.skip kind name reason) :=
  ⟨fun hs => ⟨hs.arena, hs.handle, hs.pending, hs.nodup, hs.types⟩, rfl, rfl, rfl, rfl, rfl, fun _ h => h,
    .refl _⟩

theorem keeps_eraseEntry (s : Symbols) (id : TypeId) :
    Keeps s { s with arena := s.arena.erase id } where
  sound hs :=
    ⟨hs.arena.erase id, (s.arena.evolves_erase id).handle.trans hs.handle,
      fun other hother => (hs.pending other hother).imp fun _ => Arena.get?_erase_of_forward,
      hs.nodup, fun name known hfind => (s.arena.evolves_erase id).has (hs.types name known hfind)⟩
  settings := rfl
  defines := rfl
  enums := rfl
  types := rfl
  delegates := rfl
  opaqueStructs _ h := h
  arena := s.arena.evolves_erase id

theorem erases_erase (s : Symbols) (name : String) : Erases [name] s (s.erase name) := by
  have hadded := keeps_addOpaque s name
  have hmem : ∀ other, other ∈ (s.addOpaque name).opaqueStructs ↔
      other ∈ [name] ∨ other ∈ s.opaqueStructs := fun other => by
    rw [mem_addOpaque, List.mem_singleton]
  have harena : (s.addOpaque name).arena = s.arena := by
    unfold addOpaque
    split <;> rfl
  unfold Symbols.erase
  dsimp only
  split
  · next id hfind =>
    rw [hadded.types] at hfind
    refine ⟨hadded.trans (keeps_eraseEntry _ id), addOpaque_pending s name, hmem, ?_, ?_, ?_⟩
    · intro other hother id' hfind' text mark hget
      obtain rfl := List.mem_singleton.mp hother
      rw [hfind] at hfind'
      obtain rfl := Option.some.inj hfind'
      rw [← harena] at hget
      exact Arena.get?_erase_self hget
    · intro other entry hget hne
      by_cases hother : other = id
      · exact ⟨name, List.mem_singleton_self _, by rw [hother, hfind]⟩
      · refine absurd ?_ hne
        rw [← harena] at hget
        exact (Arena.get?_update_of_ne _ hother _).trans hget
    · intro other text target hget
      rw [← harena] at hget
      exact Arena.get?_erase_of_forward hget
  · next hnone =>
    rw [hadded.types] at hnone
    refine ⟨hadded, addOpaque_pending s name, hmem, ?_, fun other entry hget hne => ?_,
      fun other text target hget => ?_⟩
    · intro other hother id hfind
      rw [List.mem_singleton.mp hother, hnone] at hfind
      simp at hfind
    · exact absurd (harena ▸ hget) hne
    · rw [harena]
      exact hget

theorem Erases.skip {names : List String} (h : Erases names s s') (kind : ItemKind)
    (name : String) (reason : SkipReason) : Erases names s (s'.skip kind name reason) :=
  ⟨h.toKeeps.trans (keeps_skip s' _ _ _), h.pending, h.known, h.erased, h.others, h.forward⟩

/-- Has the layout of a pair members? -/
def hasMembers (pair : Layout × View) : Bool := !pair.1.fields.isEmpty

/-- The native names of the pairs whose layout has none. -/
def memberless (pairs : List (Layout × View)) : List String :=
  (pairs.filter fun pair => !hasMembers pair).map (·.1.nativeName)

/-- The pairs with members are kept, and the structs of the others are erased. -/
theorem keepLaidOut_spec (pairs : List (Layout × View)) (s : Symbols) :
    ∃ s', (keepLaidOut (fun pair => .ok (emptyLayout? pair)) pairs).runOn s =
        (.ok (pairs.filter hasMembers), s') ∧ Erases (memberless pairs) s s' := by
  induction pairs generalizing s with
  | nil => exact ⟨s, rfl, .nil s⟩
  | cons pair rest ih =>
    unfold keepLaidOut
    rw [runOn_bind_ok (ok_ofExcept.mpr ⟨rfl, rfl⟩)]
    cases hfields : pair.1.fields with
    | nil =>
      have hempty : emptyLayout? pair = some pair.1.nativeName := by simp [emptyLayout?, hfields]
      have hout : hasMembers pair = false := by simp [hasMembers, hfields]
      obtain ⟨s', hrun, herases⟩ := ih ((s.erase pair.1.nativeName).skip .struct
        pair.1.nativeName .noFields)
      refine ⟨s', ?_, ?_⟩
      · rw [hempty, List.filter_cons_of_neg (by simp [hout])]
        exact (runOn_bind_ok rfl).trans hrun
      · rw [memberless, List.filter_cons_of_pos (by simp [hout]), List.map_cons]
        exact ((erases_erase s _).skip _ _ _).cons herases
    | cons field fields =>
      have hfull : emptyLayout? pair = none := by simp [emptyLayout?, hfields]
      have hin : hasMembers pair = true := by simp [hasMembers, hfields]
      obtain ⟨s', hrun, herases⟩ := ih s
      refine ⟨s', ?_, ?_⟩
      · rw [hfull, List.filter_cons_of_pos hin]
        exact (runOn_bind_ok hrun).trans rfl
      · rw [memberless, List.filter_cons_of_neg (by simp [hin])]
        exact herases

end Generate

end InteropGen

import InteropGen.Proofs.Correspondence.Document
import InteropGen.Proofs.Spelling

/-!
# How native types are spelled in the end

`Symbols.reading s spelled t` spells a native type by recursion on its form, given how the native name
in it is spelled; the arena does not occur in it. `exists_reading` says that every type of the arena
that was made for `t` is spelled so, whenever it was made, by the spelling of some type made for the
name. What is left to say is how the types made for one name are spelled, and there the moment matters:
`nameFor_cases` lists what such a type is in the end.
-/

namespace InteropGen

namespace NativeType

mutual

/-- The native name that a type comes down to, through pointers, arrays and synonyms. -/
def rootName? : NativeType → Option String
  | t@⟨kind, _, name, inner, _, _, _, _⟩ =>
    match kind with
    | .user => some (name.getD "")
    | .pointer | .array => innerRootName? inner
    | .synonym => if t.isCallback then none else innerRootName? inner
    | .builtin | .function | .other _ => none

/-- The native name that an inner type comes down to. -/
def innerRootName? : Option NativeType → Option String
  | some t => rootName? t
  | none => none

end

end NativeType

namespace Symbols

open Build Generate

/-- The spelling of the type of a C# name; an erased one is the handle. -/
def nameText (s : Symbols) (name : String) : String :=
  match (s.arena.names.find? name).bind s.arena.get? with
  | some (.named _ true) => s.settings.handle
  | _ => name

mutual

/-- The spelling of a native type, if the native name that it comes down to is spelled as given. -/
def reading (s : Symbols) (spelled : Except Fault String) (delegateName : Option String) :
    NativeType → Except Fault String
  | t@⟨kind, builtin, _, inner, _, _, _, _⟩ =>
    match kind with
    | .builtin => .ok (s.nameText (s.builtinName ((nonEmpty? builtin).getD "void")))
    | .user => spelled
    | .pointer | .array => (s.innerReading spelled inner).map s.arena.star
    | .synonym =>
      if t.isCallback then .ok (s.nameText (callbackName t delegateName))
      else s.innerReading spelled inner
    | .function | .other _ => .ok (s.nameText "unknown")

/-- The spelling of an inner type. -/
def innerReading (s : Symbols) (spelled : Except Fault String) :
    Option NativeType → Except Fault String
  | some t => s.reading spelled none t
  | none => .error .missingType

end

/-- The arena and the settings of later symbols, however they came about. -/
structure Evolves (s s' : Symbols) : Prop where
  sound : s.Sound → s'.Sound
  settings : s'.settings = s.settings
  arena : s.arena.Evolves s'.arena

variable {s s' lo hi last : Symbols} {id : TypeId} {name : String}

theorem Grows.evolves (h : s.Grows s') : s.Evolves s' := ⟨h.sound, h.settings, h.arena.evolves⟩

theorem Keeps.evolves (h : s.Keeps s') : s.Evolves s' := ⟨h.sound, h.settings, h.arena⟩

theorem Evolves.trans {s'' : Symbols} (h : s.Evolves s') (h' : s'.Evolves s'') : s.Evolves s'' :=
  ⟨fun hs => h'.sound (h.sound hs), h'.settings.trans h.settings, h.arena.trans h'.arena⟩

/-! ### Spellings of entries -/

theorem spellId_named {erased : Bool} (hs : s.Sound)
    (h : s.arena.get? id = some (.named name erased)) :
    s.spellId id = .ok (if erased then s.settings.handle else name) := by
  rw [spellId_eq_ok_iff, Arena.spells_named h, hs.handle]

theorem spellId_pointer {target : TypeId} (h : s.arena.get? id = some (.pointer target)) :
    s.spellId id = (s.spellId target).map s.arena.star := by
  cases htarget : s.spellId target with
  | ok text =>
    show s.spellId id = .ok (s.arena.star text)
    rw [spellId_eq_ok_iff, Arena.spells_pointer h]
    exact ⟨text, spellId_eq_ok_iff.mp htarget, rfl⟩
  | error fault =>
    have hnone : s.arena.spelling? id = none := by
      rw [Option.eq_none_iff_forall_ne_some]
      intro text htext
      obtain ⟨inner, hinner, -⟩ := (Arena.spells_pointer h).mp (Arena.spelling?_eq_some_iff.mp htext)
      rw [spellId_eq_ok_iff.mpr hinner] at htarget
      simp at htarget
    unfold spellId at htarget ⊢
    rw [hnone]
    split at htarget
    · simp at htarget
    · rw [← htarget]
      rfl

theorem spellId_bound {target : TypeId} (h : s.arena.get? id = some (.forward name (some target))) :
    s.spellId id = s.spellId target :=
  spellId_congr fun _ => Arena.spells_bound h

theorem spellId_unbound (h : s.arena.get? id = some (.forward name none)) :
    s.spellId id = .ok name := by
  rw [spellId_eq_ok_iff, Arena.spells_unbound h]

/-- An entered name is spelled as its text. -/
theorem spellId_of_find? (hs : s.Sound) (h : s.arena.names.find? name = some id) :
    s.spellId id = .ok (s.nameText name) := by
  obtain ⟨erased, hget⟩ := hs.arena.names name id h
  rw [spellId_named hs hget, nameText, h, Option.bind_some, hget]
  cases erased <;> rfl

theorem nameText_handle (s : Symbols) : s.nameText s.settings.handle = s.settings.handle := by
  unfold nameText
  split <;> rfl

theorem spellId_namedType (hlast : last.Sound) (h : (namedType name s).2.Evolves last) :
    last.spellId (namedType name s).1 = .ok (last.nameText name) :=
  spellId_of_find? hlast (h.arena.names _ _ (Arena.find?_named _ _))

/-! ### Types made for native types -/

/-- The type was made for the native name at some moment between the two. -/
def NameFor (s s' : Symbols) (name : String) (id : TypeId) : Prop :=
  ∃ before after, s.Grows before ∧ resolveName name before = (id, after) ∧ after.Grows s'

theorem get?_madeFor_pointer {delegateName builtin typeName bounds : Option String}
    {inner result : Option NativeType} {parameters : List NativeType} {storage : List String}
    {kind : TypeKind} (hkind : kind = .pointer ∨ kind = .array) (hlo : lo.Sound)
    (h : MadeFor lo hi (.native delegateName
      ⟨kind, builtin, typeName, inner, bounds, result, parameters, storage⟩) id) :
    ∃ t target, inner = some t ∧ MadeFor lo hi (.native none t) target ∧
      hi.arena.get? id = some (.pointer target) := by
  obtain ⟨before, after, hbefore, hrun, hafter⟩ := h
  have hpointer : (resolveInner inner >>= fun target => liftM (pointerTo target) :
      Build Symbols TypeId).runOn before = (.ok id, after) := by
    rw [← hrun]
    unfold Origin.resolve resolve
    rcases hkind with rfl | rfl <;> rfl
  obtain ⟨target, middle, htarget, hrun⟩ := ok_bind.mp hpointer
  obtain ⟨rfl, rfl⟩ := ok_lift.mp hrun
  have hmiddle := ((quiet_resolveInner inner).of_ok htarget).toGrows
  have hpoint := (quiet_pointerTo ((makes_resolveInner inner).has htarget)).toGrows
  have hsound := hpoint.sound (hmiddle.sound (hbefore.sound hlo))
  cases inner with
  | none => simp [resolveInner] at htarget
  | some t =>
    exact ⟨t, target, rfl, ⟨before, middle, hbefore, htarget, hpoint.trans hafter⟩,
      hafter.arena.entries _ _ (get?_pointerTo hsound)⟩

/-- The spelling is one of a type that was made, between the two, for the name in the native type. -/
def NameSpelling (lo hi last : Symbols) (t : NativeType) (spelled : Except Fault String) : Prop :=
  ∀ name, t.rootName? = some name → ∃ id, NameFor lo hi name id ∧ last.spellId id = spelled

mutual

/-- A type made for a native type is spelled as the native type reads, by a spelling of its name. -/
theorem exists_reading (hlo : lo.Sound) (hlast : hi.Evolves last) :
    (t : NativeType) → {delegateName : Option String} → {id : TypeId} →
    MadeFor lo hi (.native delegateName t) id →
    ∃ spelled, NameSpelling lo hi last t spelled ∧
      last.spellId id = last.reading spelled delegateName t
  | ⟨kind, builtin, name, inner, bounds, result, parameters, storage⟩, delegateName, id, hmade => by
    have hmade' := hmade
    obtain ⟨before, after, hbefore, hrun, hafter⟩ := hmade
    have hsound : last.Sound := hlast.sound ((hbefore.trans
      (((quiet_resolve delegateName _).of_ok hrun).toGrows.trans hafter)).sound hlo)
    have hevolves := hafter.evolves.trans hlast
    unfold Origin.resolve resolve at hrun
    unfold reading NameSpelling NativeType.rootName?
    cases kind with
    | builtin =>
      obtain ⟨state, middle, hget, hrun⟩ := ok_bind.mp hrun
      obtain ⟨rfl, rfl⟩ := ok_get.mp hget
      obtain ⟨rfl, rfl⟩ := ok_lift.mp hrun
      have hbuiltin : last.builtinName = before.builtinName := by
        funext text
        rw [builtinName, builtinName, hevolves.settings]
        rfl
      rw [hbuiltin]
      exact ⟨.ok "", by simp, spellId_namedType hsound hevolves⟩
    | user =>
      obtain ⟨rfl, rfl⟩ := ok_lift.mp hrun
      refine ⟨_, fun other hother => ?_, rfl⟩
      obtain rfl := Option.some.inj hother
      exact ⟨_, ⟨before, _, hbefore, rfl, hafter⟩, rfl⟩
    | pointer | array =>
      obtain ⟨t, target, ht, htarget, hget⟩ := get?_madeFor_pointer (by simp) hlo hmade'
      obtain ⟨spelled, hnames, hspell⟩ := exists_innerReading hlo hlast inner ht htarget
      exact ⟨spelled, hnames,
        (spellId_pointer (hlast.arena.pointer hget)).trans (congrArg _ hspell)⟩
    | synonym =>
      dsimp only at hrun ⊢
      split at hrun
      · next hcallback =>
        simp only [if_pos hcallback]
        obtain ⟨rfl, rfl⟩ := ok_lift.mp hrun
        exact ⟨.ok "", by simp, spellId_namedType hsound hevolves⟩
      · next hcallback =>
        simp only [if_neg hcallback]
        obtain ⟨t, ht, hmade⟩ : ∃ t, inner = some t ∧ MadeFor lo hi (.native none t) id := by
          cases hinner : inner with
          | none =>
            rw [hinner] at hrun
            simp [resolveInner] at hrun
          | some t =>
            rw [hinner] at hrun
            exact ⟨t, rfl, before, after, hbefore, hrun, hafter⟩
        exact exists_innerReading hlo hlast inner ht hmade
    | function =>
      obtain ⟨_, middle, -, hrun⟩ := ok_bind.mp hrun
      obtain ⟨rfl, rfl⟩ := ok_lift.mp hrun
      exact ⟨.ok "", by simp, spellId_namedType hsound hevolves⟩
    | other word =>
      obtain ⟨_, middle, -, hrun⟩ := ok_bind.mp hrun
      obtain ⟨rfl, rfl⟩ := ok_lift.mp hrun
      exact ⟨.ok "", by simp, spellId_namedType hsound hevolves⟩

theorem exists_innerReading (hlo : lo.Sound) (hlast : hi.Evolves last) :
    (inner : Option NativeType) → {t : NativeType} → {id : TypeId} →
    inner = some t → MadeFor lo hi (.native none t) id →
    ∃ spelled, (∀ name, NativeType.innerRootName? inner = some name →
        ∃ id, NameFor lo hi name id ∧ last.spellId id = spelled) ∧
      last.spellId id = last.innerReading spelled inner
  | some t, _, _, rfl, hmade => exists_reading hlo hlast t hmade

end

mutual

/-- A type that comes down to no native name reads the same however names are spelled. -/
theorem reading_of_rootless {spelled spelled' : Except Fault String} :
    (t : NativeType) → {delegateName : Option String} → t.rootName? = none →
    s.reading spelled delegateName t = s.reading spelled' delegateName t
  | ⟨kind, _, _, inner, _, _, _, _⟩, _, hroot => by
    unfold NativeType.rootName? at hroot
    unfold reading
    cases kind with
    | builtin => rfl
    | user => simp at hroot
    | pointer =>
      exact congrArg (Except.map s.arena.star) (innerReading_of_rootless inner hroot)
    | array =>
      exact congrArg (Except.map s.arena.star) (innerReading_of_rootless inner hroot)
    | synonym =>
      dsimp only at hroot ⊢
      split at hroot
      · next hcallback => rw [if_pos hcallback, if_pos hcallback]
      · next hcallback =>
        rw [if_neg hcallback, if_neg hcallback]
        exact innerReading_of_rootless inner hroot
    | function => rfl
    | other => rfl

theorem innerReading_of_rootless {spelled spelled' : Except Fault String} :
    (inner : Option NativeType) → NativeType.innerRootName? inner = none →
    s.innerReading spelled inner = s.innerReading spelled' inner
  | some t, hroot => reading_of_rootless t hroot
  | none, _ => rfl

end

/-! ### Types made for native names -/

theorem Grows.resolveName (name : String) (s : Symbols) :
    s.Grows (Symbols.resolveName name s).2 :=
  (quiet_resolveName name s).toGrows

variable {built erased : Symbols} {pairs : List (Decl.Layout × Decl.View)}

/-- The native name had the type at some moment between the two, and was not opaque. -/
def KnownAs (s s' : Symbols) (name : String) (id : TypeId) : Prop :=
  ∃ moment, s.Grows moment ∧ moment.Grows s' ∧ name ∉ moment.opaqueStructs ∧
    moment.types.find? name = some id

theorem KnownAs.find? (h : KnownAs s s' name id) : s'.types.find? name = some id := by
  obtain ⟨moment, -, hafter, -, hfind⟩ := h
  exact hafter.types name id hfind

theorem KnownAs.not_mem (h : KnownAs s s' name id) : name ∉ s.opaqueStructs := by
  obtain ⟨moment, hbefore, -, hmem, -⟩ := h
  exact fun hhidden => hmem (hbefore.opaqueStructs hhidden)

/-- A pending forward reference is spelled as what its name is in the end. -/
theorem spellId_pending (hbuilt : built.Sound) (hsettles : Settles pairs built erased last)
    (hid : id ∈ built.pending) (hget : built.arena.get? id = some (.forward name none)) :
    last.spellId id = if name ∈ last.opaqueStructs then .ok last.settings.handle
      else match last.types.find? name with
        | some known => last.spellId known
        | none => .ok name := by
  obtain ⟨target, hbound, hbinds⟩ := hsettles.bound hid hget
  unfold BindsTo at hbinds
  split
  · next hmem =>
    rw [if_pos hmem] at hbinds
    obtain ⟨handle, rfl, hhandle⟩ := hbinds
    rw [spellId_bound hbound, spellId_of_find? (hsettles.keeps.sound hbuilt) hhandle,
      nameText_handle]
  · next hmem =>
    rw [if_neg hmem] at hbinds
    subst hbinds
    cases hfind : last.types.find? name with
    | none =>
      rw [hfind] at hbound
      exact spellId_unbound hbound
    | some known =>
      rw [hfind] at hbound
      exact spellId_bound hbound

/--
What a type made for a native name is in the end: converted, opaque, the type that the name had when
it was looked up, a vector, or a forward reference to what the name is in the end.
-/
theorem nameFor_cases (hlo : lo.Sound) (hhi : hi.Grows built)
    (hsettles : Settles pairs built erased last) (h : NameFor lo hi name id) :
    (∃ converted, last.settings.conversions.find? name = some converted ∧
      last.spellId id = .ok (last.nameText converted)) ∨
    (last.settings.conversions.find? name = none ∧
      ((name ∈ last.opaqueStructs ∧ last.spellId id = .ok last.settings.handle) ∨
      KnownAs lo hi name id ∨
      (name ∉ lo.opaqueStructs ∧ last.isVectorName name = true ∧
        last.spellId id = .ok (last.nameText last.settings.vectorName)) ∨
      (name ∉ last.opaqueStructs ∧ last.isVectorName name = false ∧
        last.spellId id = match last.types.find? name with
          | some known => last.spellId known
          | none => .ok name))) := by
  obtain ⟨before, after, hbefore, hresolve, hafter⟩ := h
  have hgrow : before.Grows after := by
    have hstep := Grows.resolveName name before
    rwa [hresolve] at hstep
  have hbuilt : built.Sound :=
    hhi.sound (hafter.sound (hgrow.sound (hbefore.sound hlo)))
  have hlast : last.Sound := hsettles.keeps.sound hbuilt
  have hevolves : after.Evolves last := (hafter.trans hhi).evolves.trans hsettles.keeps.evolves
  have hsettings : last.settings = before.settings :=
    hevolves.settings.trans hgrow.settings
  have hnamed : ∀ text, resolveName name before = namedType text before →
      last.spellId id = .ok (last.nameText text) := fun text heq => by
    rw [hresolve] at heq
    have hid : id = (namedType text before).1 := congrArg Prod.fst heq
    have hstate : after = (namedType text before).2 := congrArg Prod.snd heq
    rw [hid]
    exact spellId_namedType hlast (hstate ▸ hevolves)
  have hvectorName : ∀ text, last.isVectorName text = before.isVectorName text := fun text => by
    rw [isVectorName, isVectorName, hsettings]
  rw [hsettings, hvectorName]
  rcases resolveName_cases name before with
    ⟨converted, hconv, heq⟩ | ⟨hconv, ⟨hmem, heq⟩ | ⟨hmem, ⟨known, hknown, heq⟩ | ⟨htype, hrest⟩⟩⟩
  · exact .inl ⟨converted, hconv, hnamed _ heq⟩
  · have hhidden := hsettles.keeps.opaqueStructs
      (hhi.opaqueStructs (hafter.opaqueStructs (hgrow.opaqueStructs hmem)))
    refine .inr ⟨hconv, .inl ⟨hhidden, ?_⟩⟩
    rw [hnamed _ heq, ← hsettings, nameText_handle]
  · rw [hresolve] at heq
    obtain ⟨rfl, rfl⟩ := Prod.mk.inj heq
    exact .inr ⟨hconv, .inr (.inl ⟨_, hbefore, hafter, hmem, hknown⟩)⟩
  · rcases hrest with ⟨hvector, heq⟩ | ⟨hvector, heq⟩
    · exact .inr ⟨hconv, .inr (.inr (.inl ⟨fun h => hmem (hbefore.opaqueStructs h), hvector,
        hnamed _ heq⟩))⟩
    · rw [hresolve] at heq
      obtain ⟨rfl, rfl⟩ := Prod.mk.inj heq
      have hpending : before.arena.nextId ∈ built.pending :=
        hhi.pending (hafter.pending (List.mem_append_right _ (List.mem_singleton_self _)))
      have hget : built.arena.get? before.arena.nextId = some (.forward name none) :=
        (hafter.trans hhi).arena.entries _ _ (before.arena.get?_forward_self name)
      have hspell := spellId_pending hbuilt hsettles hpending hget
      refine .inr ⟨hconv, ?_⟩
      by_cases hhidden : name ∈ last.opaqueStructs
      · rw [if_pos hhidden, hsettings] at hspell
        exact .inl ⟨hhidden, hspell⟩
      · rw [if_neg hhidden] at hspell
        exact .inr (.inr (.inr ⟨hhidden, hvector, hspell⟩))

/-! ### Names with one reading -/

/-- The spelling of a native name as the tables stand. -/
def nameReading (s : Symbols) (name : String) : Except Fault String :=
  match s.settings.conversions.find? name with
  | some converted => .ok (s.nameText converted)
  | none =>
    if name ∈ s.opaqueStructs then .ok s.settings.handle
    else match s.types.find? name with
      | some known => s.spellId known
      | none => .ok (if s.isVectorName name then s.nameText s.settings.vectorName else name)

/--
The tables agree on a native name, so that the moment at which it is looked up does not matter: it is
not both opaque and spelled otherwise, nor is a vector.
-/
def Settled (s : Symbols) (name : String) : Prop :=
  s.settings.conversions.find? name = none →
    (∀ known, s.types.find? name = some known → name ∈ s.opaqueStructs →
      s.spellId known = .ok s.settings.handle) ∧
    (s.isVectorName name = true → name ∉ s.opaqueStructs ∧
      ∀ known, s.types.find? name = some known →
        s.spellId known = .ok (s.nameText s.settings.vectorName))

theorem spellId_nameReading (hlo : lo.Sound) (hhi : hi.Grows built)
    (hsettles : Settles pairs built erased last) (hsettled : last.Settled name)
    (h : NameFor lo hi name id) : last.spellId id = last.nameReading name := by
  unfold nameReading
  rcases nameFor_cases hlo hhi hsettles h with ⟨converted, hconv, hspell⟩ | ⟨hconv, hrest⟩
  · rw [hconv]
    exact hspell
  · rw [hconv]
    obtain ⟨hhidden, hvector⟩ := hsettled hconv
    rcases hrest with ⟨hmem, hspell⟩ | hknown | ⟨-, hname, hspell⟩ | ⟨hmem, hname, hspell⟩
    · exact hspell.trans (if_pos hmem).symm
    · have hfind : last.types.find? name = some id := by
        rw [hsettles.keeps.types]
        exact hhi.types _ _ hknown.find?
      dsimp only
      rw [hfind]
      split
      · next hmem => exact hhidden id hfind hmem
      · rfl
    · obtain ⟨hmem, hall⟩ := hvector hname
      dsimp only
      rw [if_neg hmem]
      cases hfind : last.types.find? name with
      | some known => exact hspell.trans (hall known hfind).symm
      | none =>
        rw [hname]
        exact hspell
    · dsimp only
      rw [if_neg hmem]
      cases hfind : last.types.find? name with
      | some known =>
        rw [hfind] at hspell
        exact hspell
      | none =>
        rw [hfind] at hspell
        rw [hname]
        exact hspell

/-- All types made for a name with one reading are spelled alike. -/
theorem NameSpelling.unique {t : NativeType} {spelled spelled' : Except Fault String}
    (hlo : lo.Sound) (hhi : hi.Grows built) (hsettles : Settles pairs built erased last)
    (hroot : t.rootName? = some name) (hsettled : last.Settled name)
    (h : NameSpelling lo hi last t spelled) (h' : NameSpelling lo hi last t spelled') :
    spelled = spelled' := by
  obtain ⟨id, hfor, rfl⟩ := h name hroot
  obtain ⟨id', hfor', rfl⟩ := h' name hroot
  rw [spellId_nameReading hlo hhi hsettles hsettled hfor,
    spellId_nameReading hlo hhi hsettles hsettled hfor']

end Symbols

end InteropGen

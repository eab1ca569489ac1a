import InteropGen.Proofs.Settled

/-!
# References to opaque structs

A struct without fields is opaque from the moment it is reached, and one whose fields are all left out
is erased when all is built. A reference to its native name becomes the handle in four ways: it is
looked up among the opaque structs, it is a forward reference that is bound in the end, the name that it
leads to is erased, or it is a pointer to one of these. `opaque_references_iff` says that every reference
of the configuration is the handle exactly if every type settles to it that the name already had when the
struct was reached. Such a type comes from an earlier configuration, from a typedef or from an earlier struct of the
name; a struct without fields leaves it as it is, and an erasure changes it only if it is a name.
-/

namespace InteropGen

namespace Symbols

variable {s : Symbols} {name : String}

mutual

/-- A native type that comes down to the handle reads as the handle: no star stands after it. -/
theorem reading_handle (hs : s.Sound) : (t : NativeType) → (delegateName : Option String) →
    t.rootName? = some name →
    s.reading (.ok s.settings.handle) delegateName t = .ok s.settings.handle
  | ⟨kind, builtin, typeName, inner, bounds, result, parameters, storage⟩, delegateName, hroot => by
    have hstar : (.ok s.settings.handle : Except Fault String).map s.arena.star =
        .ok s.settings.handle := by
      rw [← hs.handle]
      exact congrArg Except.ok s.arena.star_handle
    unfold NativeType.rootName? at hroot
    unfold reading
    cases kind with
    | builtin | function | other => simp at hroot
    | user => rfl
    | pointer | array =>
      dsimp only
      rw [innerReading_handle hs inner hroot]
      exact hstar
    | synonym =>
      dsimp only at hroot ⊢
      split at hroot
      · simp at hroot
      · next hcallback =>
        rw [if_neg hcallback]
        exact innerReading_handle hs inner hroot

theorem innerReading_handle (hs : s.Sound) : (inner : Option NativeType) →
    NativeType.innerRootName? inner = some name →
    s.innerReading (.ok s.settings.handle) inner = .ok s.settings.handle
  | some t, hroot => reading_handle hs t none hroot
  | none, hroot => by simp [NativeType.innerRootName?] at hroot

end

/-- The type is spelled as the handle, also where its view is asked for unless the handle has one. -/
structure IsHandle (s : Symbols) (id : TypeId) : Prop where
  ref : s.spell (.ref id) = .ok s.settings.handle
  view : s.viewName? s.settings.handle = none → s.spell (.view id) = .ok s.settings.handle

theorem isHandle_iff {id : TypeId} : s.IsHandle id ↔ s.spellId id = .ok s.settings.handle := by
  constructor
  · exact IsHandle.ref
  · intro h
    refine ⟨h, fun hview => ?_⟩
    rw [spell, h]
    show Except.ok ((s.viewName? s.settings.handle).getD s.settings.handle) = _
    rw [hview]
    rfl

end Symbols

namespace Generate

open Metadata Decl Build Symbols

/-- The native name that what a type is made from comes down to. -/
def Origin.rootName? : Origin → Option String
  | native _ t => t.rootName?
  | plain _ => none

variable {s s' lo hi cut built erased last : Symbols} {pairs : List (Layout × View)} {name : String}
  {origin : Origin} {id : TypeId} {item : Struct}

/-! ### References to one name -/

/-- If a name is the handle whenever it is resolved, so is all that comes down to it. -/
theorem spellId_of_rootName? (hlo : lo.Sound) (hlast : hi.Evolves last)
    (hroot : origin.rootName? = some name)
    (hnames : ∀ id, NameFor lo hi name id → last.spellId id = .ok last.settings.handle)
    (hmade : MadeFor lo hi origin id) : last.spellId id = .ok last.settings.handle := by
  cases origin with
  | plain text => simp [Origin.rootName?] at hroot
  | native delegateName t =>
    have hsound : last.Sound := by
      obtain ⟨before, after, hbefore, hrun, hafter⟩ := hmade
      have hstep : before.Grows after := ((quiet_resolve delegateName t).of_ok hrun).toGrows
      exact hlast.sound (hafter.sound (hstep.sound (hbefore.sound hlo)))
    obtain ⟨spelled, hspelling, hread⟩ := exists_reading hlo hlast t hmade
    obtain ⟨other, hfor, rfl⟩ := hspelling name hroot
    rw [hread, hnames other hfor]
    exact reading_handle hsound t delegateName hroot

/-- A name that is opaque in the end is the handle, unless it had a type when it was resolved. -/
theorem nameFor_opaque (hlo : lo.Sound) (hhi : hi.Grows built)
    (hsettles : Settles pairs built erased last)
    (hconv : last.settings.conversions.find? name = none)
    (hvector : last.isVectorName name = false) (hhidden : name ∈ last.opaqueStructs)
    (h : NameFor lo hi name id) :
    last.spellId id = .ok last.settings.handle ∨ KnownAs lo hi name id := by
  rcases nameFor_cases hlo hhi hsettles h with ⟨converted, hfind, -⟩ | ⟨-, hrest⟩
  · rw [hconv] at hfind
    simp at hfind
  · rcases hrest with ⟨-, hspell⟩ | hknown | ⟨-, hname, -⟩ | ⟨hmem, -⟩
    · exact .inl hspell
    · exact .inr hknown
    · rw [hvector] at hname
      simp at hname
    · exact absurd hhidden hmem

/-- A type that a name has at some moment is made for the name. -/
theorem madeFor_of_knownAs (hconv : hi.settings.conversions.find? name = none)
    (h : KnownAs lo hi name id) :
    MadeFor lo hi (.native none { kind := .user, name := some name }) id := by
  obtain ⟨moment, hbefore, hafter, hmem, hfind⟩ := h
  refine ⟨moment, moment, hbefore, ?_, hafter⟩
  have hresolve : resolveName name moment = (id, moment) := by
    rw [hafter.settings] at hconv
    unfold resolveName
    rw [state_bind, state_get, hconv]
    simp only [state_bind]
    rw [lookUp_of_not_mem hmem, hfind]
    rfl
  unfold Origin.resolve resolve
  exact ok_lift.mpr ⟨congrArg Prod.fst hresolve, congrArg Prod.snd hresolve⟩

/-! ### Announced structs -/

theorem opaqueStructs_announced (hfields : item.fields.isEmpty = true) (s : Symbols) :
    item.name ∈ (announced item s).opaqueStructs := by
  rw [announced, if_pos hfields]
  exact mem_addOpaque.mpr (.inl rfl)

/-- A struct with fields has a type once it is announced: the one that it had, or its C# name. -/
theorem find?_announced (hfields : item.fields.isEmpty = false) (s : Symbols) :
    ∃ id, (announced item s).types.find? item.name = some id ∧
      (s.types.find? item.name = some id ∨
        (announced item s).arena.names.find? (Identifier.lastSegment item.name) = some id) := by
  rw [announced, if_neg (by simp [hfields])]
  have hname := s.arena.find?_named (Identifier.lastSegment item.name)
  have hfirst := s.types.find?_insertNew_self item.name
    (s.arena.named (Identifier.lastSegment item.name)).1
  refine ⟨(s.types.find? item.name).getD (s.arena.named (Identifier.lastSegment item.name)).1, ?_, ?_⟩
  · exact find?_registerType _ _ hfirst
  · cases s.types.find? item.name with
    | some known => exact .inl rfl
    | none => exact .inr hname

theorem isVectorName_of_kept (hkept : structSkip? s item = none) :
    s.isVectorName item.name = false := by
  unfold structSkip? at hkept
  split at hkept
  · simp at hkept
  · split at hkept
    · simp at hkept
    · next hname => simpa using hname

/-- A struct that is not left out, but whose fields all are, has a layout without members. -/
theorem memberless_of_skipped {R : Origin → TypeId → Prop} {nativeClass : String}
    {functions : List Function} {items : List Struct}
    (hpairs : List.Forall₂ (PairOf R s nativeClass functions) (laidOut s items) pairs)
    (hitem : item ∈ items) (hkept : structSkip? s item = none) (hfields : item.fields.isEmpty = false)
    (hskipped : ∀ field ∈ item.fields, (fieldSkip? s field).isSome = true) :
    item.name ∈ memberless pairs := by
  have hlaidOut : item ∈ laidOut s items := by
    rw [laidOut, List.mem_filter]
    exact ⟨hitem, by simp [hkept, hfields]⟩
  obtain ⟨pair, hpair, hof⟩ := forall₂_mem hpairs hlaidOut
  obtain ⟨parts, hparts, hmembers, -⟩ := hof.fields
  have hnone : keptFields s item = [] := by
    rw [keptFields, List.filter_eq_nil_iff]
    intro field hfield
    simpa [Option.isSome_iff_ne_none] using hskipped field hfield
  rw [hnone] at hparts
  cases hparts
  refine List.mem_map.mpr ⟨pair, List.mem_filter.mpr ⟨hpair, ?_⟩, hof.nativeName⟩
  simp [hasMembers, hmembers]

/-- The entry that a struct got when it was announced is the handle once the struct is erased. -/
theorem spellId_erased (hbuilt : built.Sound) (hsettles : Settles pairs built erased last)
    (hmemberless : name ∈ memberless pairs) (hfind : built.types.find? name = some id)
    {text : String} (hname : built.arena.names.find? text = some id) :
    last.spellId id = .ok last.settings.handle := by
  obtain ⟨mark, hget⟩ := hbuilt.arena.names text id hname
  have herased := hsettles.erases.erased name hmemberless id hfind text mark hget
  exact spellId_named (hsettles.keeps.sound hbuilt) (hsettles.binds.arena.erased herased)

/-! ### All references -/

/-- The type was made before the struct was reached or after it was announced. -/
def MadeAround (opening cut : Symbols) (item : Struct) (built : Symbols) (origin : Origin)
    (id : TypeId) : Prop :=
  MadeFor opening cut origin id ∨ MadeFor (announced item cut) built origin id

/-- A type that the name has after the announcement is the handle if all that it had before are. -/
theorem spellId_knownAs_announced (hlo : lo.Sound) (hcut : lo.Grows cut)
    (hbuilt : (announced item cut).Grows built) (hsettles : Settles pairs built erased last)
    (hmemberless : item.fields.isEmpty = false → item.name ∈ memberless pairs)
    (hknown : ∀ known, KnownAs lo cut item.name known →
      last.spellId known = .ok last.settings.handle)
    (h : KnownAs (announced item cut) built item.name id) :
    last.spellId id = .ok last.settings.handle := by
  have hquiet := (quiet_announced item cut).toGrows
  cases hfields : item.fields.isEmpty with
  | true => exact absurd (opaqueStructs_announced hfields cut) h.not_mem
  | false =>
    obtain ⟨id', hfind, hold⟩ := find?_announced hfields cut
    have hfind' := hbuilt.types _ _ hfind
    obtain rfl : id' = id := Option.some.inj (hfind'.symm.trans h.find?)
    rcases hold with hold | hname
    · refine hknown id' ⟨cut, hcut, .refl cut, fun hmem => ?_, hold⟩
      exact h.not_mem (hquiet.opaqueStructs hmem)
    · have hsound := hbuilt.sound (hquiet.sound (hcut.sound hlo))
      exact spellId_erased hsound hsettles (hmemberless hfields) hfind'
        (hbuilt.arena.names _ _ hname)

/-- All that comes down to the struct is the handle exactly if the types are that it had before. -/
theorem madeAround_iff (hlo : lo.Sound) (hcut : lo.Grows cut)
    (hbuilt : (announced item cut).Grows built) (hsettles : Settles pairs built erased last)
    (hmemberless : item.fields.isEmpty = false → item.name ∈ memberless pairs)
    (hconv : last.settings.conversions.find? item.name = none)
    (hvector : last.isVectorName item.name = false) :
    (∀ origin id, MadeAround lo cut item built origin id → origin.rootName? = some item.name →
      last.IsHandle id) ↔
    ∀ known, KnownAs lo cut item.name known → last.spellId known = .ok last.settings.handle := by
  have hquiet := (quiet_announced item cut).toGrows
  have hhidden : item.name ∈ last.opaqueStructs := by
    cases hfields : item.fields.isEmpty with
    | true =>
      exact hsettles.keeps.opaqueStructs
        (hbuilt.opaqueStructs (opaqueStructs_announced hfields cut))
    | false =>
      rw [hsettles.binds.known, hsettles.erases.known]
      exact .inl (hmemberless hfields)
  constructor
  · intro hall known hknown
    have hsettings : last.settings = cut.settings := by
      rw [hsettles.keeps.settings, hbuilt.settings, hquiet.settings]
    rw [hsettings] at hconv
    exact isHandle_iff.mp (hall _ known (.inl (madeFor_of_knownAs hconv hknown)) rfl)
  · intro hknown origin id hmade hroot
    rw [isHandle_iff]
    rcases hmade with hbefore | hafter
    · refine spellId_of_rootName? hlo ((hquiet.trans hbuilt).evolves.trans hsettles.keeps.evolves)
        hroot (fun other hother => ?_) hbefore
      rcases nameFor_opaque hlo (hquiet.trans hbuilt) hsettles hconv hvector hhidden hother with
        hspell | hold
      · exact hspell
      · exact hknown other hold
    · have hsound := hquiet.sound (hcut.sound hlo)
      refine spellId_of_rootName? hsound hsettles.keeps.evolves hroot (fun other hother => ?_) hafter
      rcases nameFor_opaque hsound (.refl _) hsettles hconv hvector hhidden hother with hspell | hold
      · exact hspell
      · exact spellId_knownAs_announced hlo hcut hbuilt hsettles hmemberless hknown hold

/--
Every type in the declarations of a configuration is made before a struct of it is reached or after the
struct is announced. If no field of the struct is kept, the types that come down to its name are all
spelled as the handle in the end exactly if those settle to it that the name had before it was reached.
-/
theorem opaque_references_iff {settings : Settings} {nativeClass : String} {metadata : Metadata}
    {b : Bindings} {earlier later : List Struct} (hs : Reached settings s)
    (hrun : (bindings nativeClass metadata).runOn s.beginConfiguration = (.ok b, s'))
    (hitems : metadata.structs = earlier ++ item :: later)
    (hconv : settings.conversions.find? item.name = none)
    (hkept : structSkip? (opened metadata s.beginConfiguration) item = none)
    (hskipped : ∀ field ∈ item.fields,
      (fieldSkip? (opened metadata s.beginConfiguration) field).isSome = true) :
    ∃ all cut built, (declared nativeClass metadata).runOn s.beginConfiguration = (.ok all, built) ∧
      (settle all).runOn built = (.ok b, s') ∧
      (reaching nativeClass metadata earlier).runOn s.beginConfiguration = (.ok (), cut) ∧
      Declares (MadeAround (opened metadata s.beginConfiguration) cut item built)
        (opened metadata s.beginConfiguration) nativeClass metadata all built.delegates ∧
      ((∀ origin id, MadeAround (opened metadata s.beginConfiguration) cut item built origin id →
          origin.rootName? = some item.name → s'.IsHandle id) ↔
        ∀ known, KnownAs (opened metadata s.beginConfiguration) cut item.name known →
          SettlesTo all.structs built known settings.handle) := by
  have hopens := opens_opened metadata s.beginConfiguration
  have hsound := hopens.sound (sound_beginConfiguration hs.sound)
  obtain ⟨all, built, erased, hdeclared, hsettle, rfl, hsettles⟩ := ok_bindings hsound hrun rfl
  obtain ⟨cut, hreach, hcut, hbuilt, hdeclares⟩ := declares_around rfl hitems hkept hdeclared
  have hopened : s'.settings = (opened metadata s.beginConfiguration).settings := by
    rw [hsettles.keeps.settings, hbuilt.settings, (quiet_announced item cut).settings, hcut.settings]
  have hsettings : s'.settings = settings := by
    rw [hopened, hopens.settings]
    exact hs.settings
  have hvector : s'.isVectorName item.name = false := by
    rw [isVectorName, hopened]
    exact isVectorName_of_kept hkept
  refine ⟨all, cut, built, hdeclared, hsettle, hreach, hdeclares, ?_⟩
  have hmemberless : item.fields.isEmpty = false → item.name ∈ memberless all.structs := fun hfields =>
    memberless_of_skipped hdeclares.structs (by simp [hitems]) hkept hfields hskipped
  rw [madeAround_iff hsound hcut hbuilt hsettles hmemberless (by rwa [hsettings]) hvector]
  have hgrows := (quiet_announced item cut).toGrows.trans hbuilt
  have hbuiltSound := hgrows.sound (hcut.sound hsound)
  refine forall_congr' fun known => imp_congr_right fun hknown => ?_
  rw [spellId_eq_ok_iff, hsettings]
  exact hsettles.spells_iff hbuiltSound
    (hbuiltSound.types item.name known (hgrows.types _ _ hknown.find?))

/-- A struct with a pointer to another. -/
def thingUser : Struct where
  name := "ImUser"
  fields :=
    [{ name := "thing"
       info := { type :=
        { kind := .pointer, inner := some { kind := .user, name := some "ImThing" } } } }]

/-- A struct without fields. -/
def thing : Struct := { name := "ImThing", fields := [] }

theorem opaque_references_iff_thing :
    ∃ b s' all cut built, (bindings "Native" { structs := [thingUser, thing] }).runOn
        (ofSettings {}).beginConfiguration = (.ok b, s') ∧
      (declared "Native" { structs := [thingUser, thing] }).runOn
        (ofSettings {}).beginConfiguration = (.ok all, built) ∧
      (reaching "Native" { structs := [thingUser, thing] } [thingUser]).runOn
        (ofSettings {}).beginConfiguration = (.ok (), cut) ∧
      ∀ origin id, MadeAround (opened { structs := [thingUser, thing] }
          (ofSettings {}).beginConfiguration) cut thing built origin id →
        origin.rootName? = some thing.name → s'.IsHandle id := by
  obtain ⟨b, s', hrun, -⟩ := exists_ok (bindings "Native" { structs := [thingUser, thing] })
    (ofSettings {}).beginConfiguration (fun b _ => b.structs.length) (b := 1) (by decide +kernel)
  have hkept : structSkip? (opened { structs := [thingUser, thing] }
      (ofSettings {}).beginConfiguration) thing = none := by decide +kernel
  have hitems : [thingUser, thing] = [thingUser] ++ thing :: [] := rfl
  obtain ⟨all, cut, built, hdeclared, -, hreach, -, hiff⟩ :=
    opaque_references_iff .start hrun hitems rfl hkept (by simp [thing])
  refine ⟨b, s', all, cut, built, hrun, hdeclared, hreach, hiff.mpr fun known hknown => ?_⟩
  have hnone : ((reaching "Native" { structs := [thingUser, thing] } [thingUser]).runOn
      (ofSettings {}).beginConfiguration).2.types.find? thing.name = none := by decide +kernel
  rw [hreach, hknown.find?] at hnone
  simp at hnone

end Generate

end InteropGen

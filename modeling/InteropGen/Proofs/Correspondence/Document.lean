import InteropGen.Proofs.Correspondence.Opening
import InteropGen.Proofs.Correspondence.Structs
import InteropGen.Proofs.Growth.Settling

/-!
# Documents and their declarations

The bindings of a document are made in two parts: `declared` makes all declarations, and `settle` drops
the structs without members and binds what is pending (`bindings_eq`). The first part opens with the
constants and the enums; from then on, at the symbols `opened`, only rows are added, and `declares`
says what every declaration is made from. `declares_around` says the same with two windows, up to the
moment a struct is reached and from its announcement on.

`Reached` are the symbols that runs of configurations lead to, in any order and whether they end well
or not; they are sound.
-/

namespace InteropGen.Generate

open Metadata Decl Build Symbols

variable {s₀ lo s s' : Symbols} {st st' : Scoped} {P : String → NativeType → Prop}
  {nativeClass : String} {metadata : Metadata} {b b' : Bindings} {R : Symbols → Symbols → Prop}
  {Q : NativeType → Prop} [Std.Refl R] [IsTrans Symbols R]

/-! ### Typedefs -/

/-- What a walk must allow at a typedef: naming the type that it stands for, or its callback type. -/
structure TypedefTypes (R : Symbols → Symbols → Prop) (P : String → NativeType → Prop)
    (item : Typedef) : Prop where
  names : Preserves R (Symbols.resolve none item.info.type >>= fun id =>
    modify fun s => s.registerType item.name id)
  callback : ∀ target, item.info.type.callback? = some target → P (typedefDelegate item) target

theorem walk_typedef (h : DocumentWalk R Q P) {item : Typedef} (hitem : TypedefTypes R P item) :
    Preserves R (typedef item) := by
  refine .bind .get fun s => ?_
  split
  · exact .modify fun s => h.skip s _ _ _
  · split
    · next target htarget =>
      exact .bind (h.register _ (hitem.callback target htarget)) fun _ => .pure _
    · split
      · exact .modify fun s => h.skip s _ _ _
      · exact hitem.names

theorem walk_typedefs (h : DocumentWalk R Q P) {items : List Typedef}
    (hitems : ∀ item ∈ items, TypedefTypes R P item) : Preserves R (typedefs items) :=
  .forM fun item hitem => walk_typedef h (hitems item hitem)

theorem registers_typedefs {items : List Typedef}
    (h : ∀ item ∈ items, ∀ target, item.info.type.callback? = some target →
      P (typedefDelegate item) target) :
    Preserves (Registers P) (typedefs items) :=
  walk_typedefs (registersWalk P) fun item hitem =>
    ⟨registers_of_quiet ((makes_resolve none item.info.type).registers item.name), h item hitem⟩

/-! ### Scopes -/

theorem ok_inNewScope {α : Type} {build : Build Scoped α} {a : α} :
    (inNewScope build).runOn s = (.ok a, s') ↔
      ∃ st, build.runOn { symbols := s } = (.ok a, st) ∧ s' = st.symbols := by
  show ((build.runOn { symbols := s }).1, (build.runOn { symbols := s }).2.symbols) = _ ↔ _
  rcases build.runOn { symbols := s } with ⟨outcome, st⟩
  simp only [Prod.mk.injEq]
  constructor
  · rintro ⟨rfl, rfl⟩
    exact ⟨st, ⟨rfl, rfl⟩, rfl⟩
  · rintro ⟨st', ⟨rfl, rfl⟩, rfl⟩
    exact ⟨rfl, rfl⟩

theorem preserves_inNewScope {R : Symbols → Symbols → Prop} {α : Type} {build : Build Scoped α}
    (h : Preserves (OnSymbols R) build) : Preserves R (inNewScope build) :=
  fun s => h { symbols := s }

/-! ### Constants and enums -/

/-- What constants and enums leave alone. -/
structure Opens (s s' : Symbols) : Prop where
  sound : s.Sound → s'.Sound
  settings : s'.settings = s.settings
  delegates : s'.delegates = s.delegates

theorem Opens.refl (s : Symbols) : Opens s s := ⟨fun h => h, rfl, rfl⟩

theorem Opens.trans {s'' : Symbols} (h : Opens s s') (h' : Opens s' s'') : Opens s s'' :=
  ⟨fun hs => h'.sound (h.sound hs), h'.settings.trans h.settings,
    h'.delegates.trans h.delegates⟩

theorem Opens.of_quiet (h : Quiet s s') : Opens s s' := ⟨h.sound, h.settings, h.delegates⟩

instance : Std.Refl Opens := ⟨Opens.refl⟩
instance : IsTrans Symbols Opens := ⟨fun _ _ _ => Opens.trans⟩

theorem opens_tables (s : Symbols) (defines : Table (Option String × String)) (sizes : Table Int)
    (enums : Table (List (String × String))) :
    Opens s { s with defines := defines, arraySizes := sizes, enums := enums } :=
  ⟨fun hs => ⟨hs.arena, hs.handle, hs.pending, hs.nodup, hs.types⟩, rfl, rfl⟩

theorem opensWalk : OpeningWalk Opens where
  note h := .of_quiet (quiet_notes h)
  defines s defines := opens_tables s defines s.arraySizes s.enums
  start item s := by
    have hregistered : Opens s (enumRegistered item s) := .of_quiet (quiet_enumRegistered item s)
    rcases enumStarted_cases item s with ⟨heq, -⟩ | heq <;> rw [heq]
    · exact hregistered
    · exact hregistered.trans (opens_tables _ _ _ _)
  element s sizes name elements := opens_tables s s.defines sizes _

/-- The symbols when the constants and the enums of a document are known. -/
def opened (metadata : Metadata) (s : Symbols) : Symbols :=
  (enums metadata.enums (constants metadata.defines s).2).2

theorem walk_opened (h : OpeningWalk R) (metadata : Metadata) (s : Symbols) :
    R s (opened metadata s) :=
  IsTrans.trans _ _ _ (walk_constants h _ s) (walk_enums h _ _)

theorem opens_opened (metadata : Metadata) (s : Symbols) : Opens s (opened metadata s) :=
  walk_opened opensWalk metadata s

/-! ### Stages -/

/-- All declarations of a document, before any of their types is erased or bound. -/
def declared (nativeClass : String) (metadata : Metadata) : Build Symbols Bindings := do
  let constants ← constants metadata.defines
  let enums ← enums metadata.enums
  typedefs metadata.typedefs
  let pairs ← inNewScope (structs ⟨nativeClass, false⟩ metadata.functions metadata.structs)
  let externs ← externMethods metadata.functions
  let wrappers ← inNewScope (mainWrappers ⟨nativeClass, true⟩ metadata.functions)
  return ⟨constants, enums, pairs, externs, wrappers⟩

/-- Erases the structs without members and binds what is pending. -/
def settle (b : Bindings) : Build Symbols Bindings := do
  let kept ← keepLaidOut (fun pair => .ok (emptyLayout? pair)) b.structs
  Symbols.resolvePending
  return { b with structs := kept }

theorem bindings_eq (nativeClass : String) (metadata : Metadata) :
    bindings nativeClass metadata = declared nativeClass metadata >>= settle := by
  simp only [bindings, declared, settle, bind_assoc, pure_bind]

/-- Everything up to the struct that comes after the earlier ones. -/
def reaching (nativeClass : String) (metadata : Metadata) (earlier : List Struct) :
    Build Symbols Unit := do
  let _ ← constants metadata.defines
  let _ ← enums metadata.enums
  typedefs metadata.typedefs
  let _ ← inNewScope (structs ⟨nativeClass, false⟩ metadata.functions earlier)

/-- The runs that make the declarations from the opened symbols on. -/
structure Stages (nativeClass : String) (metadata : Metadata) (s : Symbols) (b : Bindings)
    (typed : Symbols) (paired : Scoped) (imported : Symbols) (wrapped : Scoped) : Prop where
  typedefs : (typedefs metadata.typedefs).runOn (opened metadata s) = (.ok (), typed)
  structs : (structs ⟨nativeClass, false⟩ metadata.functions metadata.structs).runOn
    { symbols := typed } = (.ok b.structs, paired)
  externs : (externMethods metadata.functions).runOn paired.symbols = (.ok b.externs, imported)
  mainWrappers : (mainWrappers ⟨nativeClass, true⟩ metadata.functions).runOn
    { symbols := imported } = (.ok b.mainWrappers, wrapped)

theorem stages_of_declared (hrun : (declared nativeClass metadata).runOn s = (.ok b, s')) :
    ∃ typed paired imported wrapped,
      Stages nativeClass metadata s b typed paired imported wrapped ∧ s' = wrapped.symbols := by
  obtain ⟨constants, _, hconstants, hrun⟩ := ok_bind.mp hrun
  obtain ⟨rfl, rfl⟩ := ok_lift.mp hconstants
  obtain ⟨enums, _, henums, hrun⟩ := ok_bind.mp hrun
  obtain ⟨rfl, rfl⟩ := ok_lift.mp henums
  obtain ⟨⟨⟩, typed, htypedefs, hrun⟩ := ok_bind.mp hrun
  obtain ⟨pairs, _, hscope, hrun⟩ := ok_bind.mp hrun
  obtain ⟨paired, hstructs, rfl⟩ := ok_inNewScope.mp hscope
  obtain ⟨externs, imported, hexterns, hrun⟩ := ok_bind.mp hrun
  obtain ⟨wrappers, _, hscope, hrun⟩ := ok_bind.mp hrun
  obtain ⟨wrapped, hwrappers, rfl⟩ := ok_inNewScope.mp hscope
  obtain ⟨rfl, rfl⟩ := ok_pure.mp hrun
  exact ⟨typed, paired, imported, wrapped, ⟨htypedefs, hstructs, hexterns, hwrappers⟩, rfl⟩

theorem enums_declared (hrun : (declared nativeClass metadata).runOn s = (.ok b, s')) :
    b.enums = (enums metadata.enums (constants metadata.defines s).2).1 := by
  obtain ⟨constants, _, hconstants, hrun⟩ := ok_bind.mp hrun
  obtain ⟨rfl, rfl⟩ := ok_lift.mp hconstants
  obtain ⟨enums, _, henums, hrun⟩ := ok_bind.mp hrun
  obtain ⟨rfl, rfl⟩ := ok_lift.mp henums
  obtain ⟨⟨⟩, _, -, hrun⟩ := ok_bind.mp hrun
  obtain ⟨pairs, _, -, hrun⟩ := ok_bind.mp hrun
  obtain ⟨externs, _, -, hrun⟩ := ok_bind.mp hrun
  obtain ⟨wrappers, _, -, hrun⟩ := ok_bind.mp hrun
  obtain ⟨rfl, -⟩ := ok_pure.mp hrun
  rfl

theorem structs_append (target : WrapperClass) (functions : List Function)
    (earlier later : List Struct) :
    structs target functions (earlier ++ later) = (do
      let first ← structs target functions earlier
      let others ← structs target functions later
      return first ++ others) := by
  induction earlier with
  | nil => simp only [structs, List.nil_append, pure_bind, bind_pure]
  | cons item rest ih =>
    simp only [structs, List.cons_append, ih, bind_assoc, pure_bind, List.append_assoc]

/-- The structs up to a cut and those after it. -/
theorem Stages.cut {earlier later : List Struct} {typed imported : Symbols}
    {paired wrapped : Scoped} (h : Stages nativeClass metadata s b typed paired imported wrapped)
    (hitems : metadata.structs = earlier ++ later) :
    ∃ before pairs others,
      (Generate.structs ⟨nativeClass, false⟩ metadata.functions earlier).runOn
        { symbols := typed } = (.ok pairs, before) ∧
      (Generate.structs ⟨nativeClass, false⟩ metadata.functions later).runOn before =
        (.ok others, paired) ∧
      b.structs = pairs ++ others ∧
      (reaching nativeClass metadata earlier).runOn s = (.ok (), before.symbols) := by
  have hstructs := h.structs
  rw [hitems, structs_append] at hstructs
  obtain ⟨pairs, before, hearlier, hrest⟩ := ok_bind.mp hstructs
  obtain ⟨others, after, hlater, hrest⟩ := ok_bind.mp hrest
  obtain ⟨hpairs, rfl⟩ := ok_pure.mp hrest
  refine ⟨before, pairs, others, hearlier, hlater, hpairs.symm, ?_⟩
  unfold reaching
  rw [runOn_bind_ok (ok_lift.mpr ⟨rfl, rfl⟩), runOn_bind_ok (ok_lift.mpr ⟨rfl, rfl⟩)]
  exact (runOn_bind_ok h.typedefs).trans
    ((runOn_bind_ok (ok_inNewScope.mpr ⟨before, hearlier, rfl⟩)).trans rfl)

/-! ### The declarations -/

theorem registers_declared_typedefs (metadata : Metadata) :
    Preserves (Registers (CallbackOf metadata)) (typedefs metadata.typedefs) :=
  registers_typedefs fun _ hitem _ h => .typedef hitem h

theorem registers_declared_structs (target : WrapperClass) {items : List Struct}
    (h : ∀ item ∈ items, item ∈ metadata.structs) :
    Preserves (OnSymbols (Registers (CallbackOf metadata)))
      (structs target metadata.functions items) :=
  registers_structs fun item hitem _ hfield _ hcallback => .field (h item hitem) hfield hcallback

theorem registers_declared_externs (metadata : Metadata) :
    Preserves (Registers (CallbackOf metadata)) (externMethods metadata.functions) :=
  registers_externMethods fun _ hfunction _ hargument _ hinfo _ h =>
    .argument hfunction hargument hinfo h

/-- Every declaration is made in one of two windows, up to a cut among the structs and after it. -/
theorem Stages.declares {cut typed imported : Symbols} {paired wrapped : Scoped}
    (h : Stages nativeClass metadata s b typed paired imported wrapped) (hnone : s.delegates = {})
    (hbefore : Registers (CallbackOf metadata) (opened metadata s) cut) (hcut : Quiet cut lo)
    (hlater : Registers (CallbackOf metadata) lo paired.symbols)
    (hpairs : List.Forall₂ (PairOf (fun origin id => MadeFor (opened metadata s) cut origin id ∨
        MadeFor lo paired.symbols origin id) (opened metadata s) nativeClass metadata.functions)
      (laidOut (opened metadata s) metadata.structs) b.structs) :
    lo.Grows wrapped.symbols ∧
      Declares (fun origin id => MadeFor (opened metadata s) cut origin id ∨
        MadeFor lo wrapped.symbols origin id) (opened metadata s) nativeClass metadata b
        wrapped.symbols.delegates := by
  have hexterns : Registers (CallbackOf metadata) paired.symbols imported :=
    (registers_declared_externs metadata).of_ok h.externs
  have hwrappers : Registers (CallbackOf metadata) imported wrapped.symbols :=
    .of_quiet ((quiet_mainWrappers _ _).of_ok h.mainWrappers)
  have hopened := hbefore.1.trans (hcut.toGrows.trans hlater.1)
  refine ⟨(hlater.1.trans hexterns.1).trans hwrappers.1, ?_, ?_, ?_, ?_⟩
  · refine hpairs.imp fun _ _ hp => hp.mono fun _ _ hmade => hmade.imp_right fun hmade => ?_
    exact hmade.widen (.refl _) (hexterns.1.trans hwrappers.1)
  · exact (externsOf hopened hlater.1 h.externs).imp fun _ _ he => he.mono fun _ _ hmade =>
      .inr (hmade.widen (.refl _) hwrappers.1)
  · intro wrapper hwrapper
    obtain ⟨function, hfunction, hmain, hw⟩ := mainWrappersOf (hopened.trans hexterns.1)
      (hlater.1.trans hexterns.1) h.mainWrappers wrapper hwrapper
    exact ⟨function, hfunction, hmain, hw.mono fun _ _ hmade => .inr hmade⟩
  · intro name delegate hfind
    rcases (hlater.trans (hexterns.trans hwrappers)).2 name delegate hfind with
      hold | ⟨target, hcallback, hdelegate⟩
    · rw [hcut.delegates] at hold
      rcases hbefore.2 name delegate hold with hold | ⟨target, hcallback, hdelegate⟩
      · rw [(opens_opened metadata s).delegates, hnone] at hold
        simp [Table.find?, Table.lookupIn] at hold
      · exact ⟨target, hcallback, hdelegate.mono fun _ _ hmade => .inl hmade⟩
    · exact ⟨target, hcallback, hdelegate.mono fun _ _ hmade => .inr hmade⟩

/-- Every declaration is made from its item after the constants and the enums. -/
theorem declares (hnone : s.delegates = {})
    (hrun : (declared nativeClass metadata).runOn s = (.ok b, s')) :
    (opened metadata s).Grows s' ∧
      Declares (MadeFor (opened metadata s) s') (opened metadata s) nativeClass metadata b
        s'.delegates := by
  obtain ⟨typed, paired, imported, wrapped, hstages, rfl⟩ := stages_of_declared hrun
  have htyped := (registers_declared_typedefs metadata).of_ok hstages.typedefs
  have hstructs : Registers (CallbackOf metadata) typed paired.symbols :=
    (registers_declared_structs _ fun _ hitem => hitem).of_ok hstages.structs
  obtain ⟨hafter, hdeclares⟩ := hstages.declares hnone htyped (.refl typed) hstructs
    ((pairsOf htyped.1 (.refl _) hstages.structs).imp fun _ _ hp => hp.mono fun _ _ => .inr)
  refine ⟨htyped.1.trans hafter, hdeclares.mono fun origin id hmade => ?_⟩
  rcases hmade with hmade | hmade
  · exact hmade.widen (.refl _) hafter
  · exact hmade.widen htyped.1 (.refl _)

/-- Around a struct that is not left out, the windows are up to it and from its announcement on. -/
theorem declares_around {item : Struct} {earlier later : List Struct} (hnone : s.delegates = {})
    (hitems : metadata.structs = earlier ++ item :: later)
    (hkept : structSkip? (opened metadata s) item = none)
    (hrun : (declared nativeClass metadata).runOn s = (.ok b, s')) :
    ∃ cut, (reaching nativeClass metadata earlier).runOn s = (.ok (), cut) ∧
      (opened metadata s).Grows cut ∧ (announced item cut).Grows s' ∧
      Declares (fun origin id => MadeFor (opened metadata s) cut origin id ∨
        MadeFor (announced item cut) s' origin id) (opened metadata s) nativeClass metadata b
        s'.delegates := by
  obtain ⟨typed, paired, imported, wrapped, hstages, rfl⟩ := stages_of_declared hrun
  obtain ⟨before, pairs, others, hearlier, hrest, hpairs, hreach⟩ := hstages.cut hitems
  obtain ⟨first, middle, hfirst, hrest⟩ := ok_bind.mp hrest
  obtain ⟨laterPairs, after, hlater, hrest⟩ := ok_bind.mp hrest
  obtain ⟨rfl, rfl⟩ := ok_pure.mp hrest
  have htyped := (registers_declared_typedefs metadata).of_ok hstages.typedefs
  have hbefore : Registers (CallbackOf metadata) (opened metadata s) before.symbols :=
    htyped.trans ((registers_declared_structs _ fun other hother => by simp [hitems, hother]).of_ok
      hearlier)
  have hquiet := quiet_announced item before.symbols
  have hannounced := hbefore.1.trans hquiet.toGrows
  have hkept' := hkept
  rw [← structSkip?_grows hbefore.1] at hkept'
  rw [runOn_struct_kept hkept'] at hfirst
  have hmiddle : Registers (CallbackOf metadata) (announced item before.symbols) middle.symbols :=
    (registers_announcedPair fun field hfield target hcallback =>
      .field (by simp [hitems]) hfield hcallback).of_ok hfirst
  have hafter : Registers (CallbackOf metadata) middle.symbols after.symbols :=
    (registers_declared_structs _ fun other hother => by simp [hitems, hother]).of_ok hlater
  obtain ⟨hgrows, hdeclares⟩ := hstages.declares hnone hbefore hquiet (hmiddle.trans hafter) <| by
    rw [hpairs, hitems, ← List.singleton_append, laidOut_append, laidOut_append]
    refine List.rel_append ?_ (List.rel_append ?_ ?_)
    · exact (pairsOf htyped.1 htyped.1 hearlier).imp fun _ _ hp => hp.mono fun _ _ => .inl
    · exact (announcedPairOf hkept hannounced (.refl _) hfirst).imp fun _ _ hp =>
        hp.mono fun _ _ hmade => .inr (hmade.widen (.refl _) hafter.1)
    · exact (pairsOf (hannounced.trans hmiddle.1) hmiddle.1 hlater).imp fun _ _ hp =>
        hp.mono fun _ _ => .inr
  exact ⟨before.symbols, hreach, hbefore.1, hgrows, hdeclares⟩

/-! ### Settling -/

/-- What settling does to the symbols: structs without members are erased, then all is bound. -/
structure Settles (pairs : List (Layout × View)) (s erased s' : Symbols) : Prop where
  erases : Erases (memberless pairs) s erased
  binds : BindsPending erased s'

theorem settles_settle (hs : s.Sound) (b : Bindings) :
    ∃ erased s', (settle b).runOn s =
        (.ok { b with structs := b.structs.filter hasMembers }, s') ∧
      Settles b.structs s erased s' := by
  obtain ⟨erased, hrun, herases⟩ := keepLaidOut_spec b.structs s
  exact ⟨erased, _, (runOn_bind_ok hrun).trans rfl, herases,
    bindsPending_resolvePending (herases.sound hs)⟩

theorem Settles.keeps {pairs : List (Layout × View)} {erased : Symbols}
    (h : Settles pairs s erased s') : s.Keeps s' :=
  h.erases.toKeeps.trans h.binds.toKeeps

/-- A pending forward reference is bound to what its name is in the end. -/
theorem Settles.bound {pairs : List (Layout × View)} {erased : Symbols} {id : TypeId}
    {name : String} (h : Settles pairs s erased s') (hid : id ∈ s.pending)
    (hget : s.arena.get? id = some (.forward name none)) :
    ∃ target, s'.arena.get? id = some (.forward name target) ∧ s'.BindsTo name target := by
  rw [← h.erases.pending] at hid
  exact h.binds.bound id hid name (h.erases.forward id name none hget)

/-- The bindings of a document are all its declarations, settled. -/
theorem ok_bindings (hs : (opened metadata s).Sound)
    (hrun : (bindings nativeClass metadata).runOn s = (.ok b, s')) (hnone : s.delegates = {}) :
    ∃ all built erased, (declared nativeClass metadata).runOn s = (.ok all, built) ∧
      (settle all).runOn built = (.ok b, s') ∧
      b = { all with structs := all.structs.filter hasMembers } ∧
      Settles all.structs built erased s' := by
  rw [bindings_eq] at hrun
  obtain ⟨all, built, hdeclared, hsettle⟩ := ok_bind.mp hrun
  have hbuilt := (declares hnone hdeclared).1.sound hs
  obtain ⟨erased, last, hlast, hsettles⟩ := settles_settle hbuilt all
  rw [hlast] at hsettle
  obtain ⟨rfl, rfl⟩ : _ = b ∧ last = s' := by simpa using hsettle
  exact ⟨all, built, erased, hdeclared, hlast, rfl, hsettles⟩

/-! ### Reached symbols -/

/-- The symbols that runs of any number of configurations lead to, also runs that fail. -/
inductive Reached (settings : Settings) : Symbols → Prop
  | start : Reached settings (ofSettings settings)
  | next {before} (h : Reached settings before) (nativeClass : String) (metadata : Metadata) :
      Reached settings ((bindings nativeClass metadata).runOn before.beginConfiguration).2

/-- Soundness and the settings are carried along. -/
structure Carries (s s' : Symbols) : Prop where
  sound : s.Sound → s'.Sound
  settings : s'.settings = s.settings

instance : Std.Refl Carries := ⟨fun _ => ⟨fun h => h, rfl⟩⟩
instance : IsTrans Symbols Carries :=
  ⟨fun _ _ _ h h' => ⟨fun hs => h'.sound (h.sound hs), h'.settings.trans h.settings⟩⟩

theorem sound_ofSettings (settings : Settings) : (ofSettings settings).Sound := by
  refine ⟨⟨fun name id hfind => ?_, fun target id hfind => ?_, fun id entry target hget => ?_⟩, rfl,
    ?_, ?_, fun name id hfind => ?_⟩
  · simp [ofSettings, Table.find?, Table.lookupIn] at hfind
  · simp [ofSettings] at hfind
  · simp [ofSettings, Arena.get?] at hget
  · simp [ofSettings]
  · simp [ofSettings]
  · simp [ofSettings, Table.find?, Table.lookupIn] at hfind

theorem sound_beginConfiguration (h : s.Sound) : s.beginConfiguration.Sound :=
  ⟨h.arena, h.handle, h.pending, h.nodup, h.types⟩

theorem carries_settle (b : Bindings) (hs : s.Sound) : Carries s ((settle b).runOn s).2 := by
  obtain ⟨erased, last, hrun, hsettles⟩ := settles_settle hs b
  rw [hrun]
  exact ⟨hsettles.keeps.sound, hsettles.keeps.settings⟩

theorem carries_declared (nativeClass : String) (metadata : Metadata) :
    Preserves Carries (declared nativeClass metadata) := by
  have hgrows : ∀ s s' : Symbols, Registers (CallbackOf metadata) s s' → Carries s s' :=
    fun _ _ h => ⟨h.1.sound, h.1.settings⟩
  have hopens : ∀ {s s' : Symbols}, Opens s s' → Carries s s' := fun h => ⟨h.sound, h.settings⟩
  exact .bind (.lift fun s => hopens (walk_constants opensWalk _ s)) fun _ => .bind
    (.lift fun s => hopens (walk_enums opensWalk _ s)) fun _ => .bind
    ((registers_declared_typedefs metadata).mono hgrows) fun _ => .bind
    ((preserves_inNewScope (registers_declared_structs _ fun _ h => h)).mono hgrows) fun _ => .bind
    ((registers_declared_externs metadata).mono hgrows) fun _ => .bind
    ((preserves_inNewScope (quiet_mainWrappers _ _)).mono fun _ _ h => ⟨h.sound, h.settings⟩)
    fun _ => .pure _

/-- Sound symbols stay sound, also when the bindings fail on the way. -/
theorem carries_bindings (nativeClass : String) (metadata : Metadata) (hs : s.Sound) :
    Carries s ((bindings nativeClass metadata).runOn s).2 := by
  have hdeclared := carries_declared nativeClass metadata s
  rw [bindings_eq, runOn_bind]
  revert hdeclared
  rcases (declared nativeClass metadata).runOn s with ⟨_ | all, built⟩ <;> intro hdeclared
  · exact hdeclared
  · exact IsTrans.trans _ _ _ hdeclared (carries_settle all (hdeclared.sound hs))

theorem Reached.sound {settings : Settings} (h : Reached settings s) : s.Sound := by
  induction h with
  | start => exact sound_ofSettings settings
  | next _ nativeClass metadata ih =>
    have hbegin := sound_beginConfiguration ih
    exact (carries_bindings nativeClass metadata hbegin).sound hbegin

theorem Reached.settings {settings : Settings} (h : Reached settings s) :
    s.settings = settings := by
  induction h with
  | start => rfl
  | next hbefore nativeClass metadata ih =>
    have hbegin := sound_beginConfiguration hbefore.sound
    exact (carries_bindings nativeClass metadata hbegin).settings.trans ih

end InteropGen.Generate

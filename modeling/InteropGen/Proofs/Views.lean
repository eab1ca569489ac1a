import InteropGen.Proofs.ForwardReferences
import InteropGen.Proofs.ViewNames
import InteropGen.Render.Accessors

/-!
# Views that are used and views that there are

A view is written for a type by the look of the type's spelling alone. `used_views_emitted` says when that is
right: every view that the declarations of a configuration use is emitted by this configuration or an earlier
one of the run, or it is a `Stray`. The strays are all the ways in which a name that is no struct's, or no
emitted struct's, can look like one: it is the name of a callback type, of a builtin type, or of something else
that is entered under a C# name of its own; it has a star of its own; its struct has no layout, and its entry
is not erased because the native name has another type; or it is the element of a vector, which is not looked up
among the views.

The proof follows the open entries. Every name among them has a `Source` in the documents so far, which each
configuration preserves (`Accounted.next`), and a forward reference among them has been warned of (`Watched`).
-/

namespace InteropGen

namespace Generate

open Metadata Decl Build Symbols

/-! ### Runs that end well -/

/-- Configurations that ended well one after the other: their documents and bindings, and the symbols. -/
inductive Completed (settings : Settings) : List (Metadata × Bindings) → Symbols → Prop
  | start : Completed settings [] (ofSettings settings)
  | next {done before metadata b s} (h : Completed settings done before) (nativeClass : String)
      (hrun : (bindings nativeClass metadata).runOn before.beginConfiguration = (.ok b, s)) :
      Completed settings (done ++ [(metadata, b)]) s

/-- The names of the views that the configurations emit. -/
def emittedViews (done : List (Metadata × Bindings)) : List String :=
  done.flatMap fun config => config.2.structs.map (·.2.head.name)

variable {settings : Settings} {done done' : List (Metadata × Bindings)} {metadata : Metadata}
  {b all : Bindings} {s s' before built : Symbols} {id : TypeId} {text view nativeClass : String}
  {st st' : Scoped} {item : Struct} {pair : Layout × View}

theorem Completed.reached (h : Completed settings done s) : Reached settings s := by
  induction h with
  | start => exact .start
  | @next done before metadata b s h nativeClass hrun ih =>
    have hlast : ((bindings nativeClass metadata).runOn before.beginConfiguration).2 = s := by rw [hrun]
    exact hlast ▸ .next ih nativeClass metadata

theorem follows_declared (hrun : (declared nativeClass metadata).runOn s = (.ok b, s')) :
    Follows metadata (opened metadata s) s' := by
  obtain ⟨typed, paired, imported, wrapped, hstages, rfl⟩ := stages_of_declared hrun
  have htyped : Follows metadata (opened metadata s) typed :=
    (follows_typedefs metadata).of_ok hstages.typedefs
  have hpaired : Follows metadata typed paired.symbols :=
    (follows_structs metadata _).of_ok hstages.structs
  have himported : Follows metadata paired.symbols imported :=
    (follows_externs metadata).of_ok hstages.externs
  have hwrapped : Follows metadata imported wrapped.symbols :=
    (follows_mainWrappers metadata _).of_ok hstages.mainWrappers
  exact ((htyped.trans hpaired).trans himported).trans hwrapped

/-- The names that are entered while a configuration is built. -/
def EnteredBy (metadata : Metadata) (s : Symbols) (text : String) : Prop :=
  (opened metadata s).enums.contains text = true ∨
    ∃ middle, (opened metadata s).Grows middle ∧ Enters metadata middle text

theorem gains_declared (hs : (opened metadata s).Sound)
    (hrun : (declared nativeClass metadata).runOn s = (.ok b, s')) :
    Gains (EnteredBy metadata s) s s' := by
  have hopened : Lists s (opened metadata s) := walk_opened listsWalk metadata s
  have hsteps := gains_of_steps (follows_declared hrun hs)
  exact (hopened.gains.mono fun _ => .inl).trans (hsteps.mono fun _ => .inr)

theorem closes_settle (b : Bindings) : Preserves Closes (settle b) :=
  .bind (closes_keepLaidOut b.structs) fun _ => .bind (.lift closes_resolvePending) fun _ => .pure _

/-! ### Forward references that are never bound -/

/-- Every forward reference that is not bound is pending, or has been warned of. -/
def Watched (s : Symbols) : Prop :=
  ∀ id name, s.arena.get? id = some (.forward name none) →
    id ∈ s.pending ∨ "unresolved type " ++ name ∈ s.warnings

theorem Watched.gains {P : String → Prop} (h : Watched s) (hgains : Gains P s s') : Watched s' := by
  intro id name hget
  rcases hgains.forwards id name hget with hold | hnew
  · exact (h id name hold).imp (hgains.pending ·) (hgains.warnings ·)
  · exact .inl hnew

/-- A forward reference that binding leaves alone has a name that is not known. -/
theorem Watched.resolvePending (hs : s.Sound) (h : Watched s) : Watched (resolvePending s).2 := by
  intro id name hget
  have hcloses := closes_resolvePending s
  have hbinds := bindsPending_resolvePending hs
  have hold : s.arena.get? id = some (.forward name none) :=
    (hcloses.entries id _ (.forward name) hget).resolve_right (by simp)
  refine .inr ?_
  rcases h id name hold with hpending | hwarned
  · obtain ⟨target, hbound, hto⟩ := hbinds.bound id hpending name hold
    obtain rfl : target = none := by simpa using hbound.symm.trans hget
    obtain ⟨hvisible, hfind⟩ : name ∉ s.opaqueStructs ∧ s.types.find? name = none := by
      unfold BindsTo at hto
      rw [hbinds.known, hbinds.types] at hto
      split at hto
      · obtain ⟨known, hknown, -⟩ := hto
        simp at hknown
      · next hmem => exact ⟨hmem, hto.symm⟩
    have hname : s.arena.fallbackName id = name := by rw [Arena.fallbackName, hold]
    rw [warnings_resolvePending hs, List.mem_append, List.mem_map]
    refine .inr ⟨name, List.mem_filter.mpr ⟨List.mem_map.mpr ⟨id, hpending, hname⟩, ?_⟩, rfl⟩
    simp [hvisible, Table.contains, hfind]
  · exact hcloses.warnings hwarned

theorem Watched.settle (hs : s.Sound) (h : Watched s) (b : Bindings) :
    Watched ((settle b).runOn s).2 := by
  obtain ⟨erased, hrun, herases⟩ := keepLaidOut_spec b.structs s
  have hcloses : Closes s erased := (closes_keepLaidOut b.structs).of_ok hrun
  have hlast : ((Generate.settle b).runOn s).2 = (Symbols.resolvePending erased).2 :=
    congrArg Prod.snd (runOn_bind_ok hrun)
  rw [hlast]
  refine Watched.resolvePending (herases.sound hs) fun id name hget => ?_
  rw [herases.pending]
  have hold := (hcloses.entries id _ (.forward name) hget).resolve_right (by simp)
  exact (h id name hold).imp_right fun hmem => hcloses.warnings hmem

theorem Completed.watched (h : Completed settings done s) : Watched s := by
  induction h with
  | start =>
    intro id name hget
    simp [ofSettings, Arena.get?] at hget
  | @next done before metadata b s h nativeClass hrun ih =>
    obtain ⟨all, built, erased, hbuilt⟩ := h.reached.built hrun
    have hbegin : Watched before.beginConfiguration := ih
    have hdeclared := hbegin.gains (gains_declared hbuilt.sound hbuilt.declared)
    have hsettled := hdeclared.settle (hbuilt.grows.sound hbuilt.sound) all
    rwa [hbuilt.settle hrun] at hsettled

/-! ### Views of structs -/

theorem view_struct {target : WrapperClass} {functions : List Function}
    (hrun : (struct target item functions).runOn st = (.ok (some pair), st')) :
    pair.2.head.name = pair.1.head.name ++ st.symbols.settings.viewSuffix := by
  cases hskip : structSkip? st.symbols item with
  | some reason =>
    rw [runOn_struct_left hskip] at hrun
    simp at hrun
  | none =>
    rw [runOn_struct_kept hskip] at hrun
    unfold announcedPair at hrun
    split at hrun
    · obtain ⟨hnone, -⟩ := ok_pure.mp hrun
      simp at hnone
    · obtain ⟨state, first, hget, hrun⟩ := ok_bind.mp hrun
      obtain ⟨rfl, rfl⟩ := ok_get.mp hget
      obtain ⟨parts, laid, hparts, hrun⟩ := ok_bind.mp hrun
      obtain ⟨_, begun, hclass, hrun⟩ := ok_bind.mp hrun
      obtain ⟨methods, last, hmethods, hrun⟩ := ok_bind.mp hrun
      obtain ⟨hpair, -⟩ := ok_pure.mp hrun
      obtain rfl := Option.some.inj hpair
      have hsettings : (announced item st.symbols).settings = st.symbols.settings :=
        (quiet_announced item st.symbols).settings
      rw [Head.name_withComments, Head.name_withComments]
      exact congrArg (fun settings => _ ++ Settings.viewSuffix settings) hsettings

/-- The view of a struct is named for its layout. -/
theorem view_structs {target : WrapperClass} {items : List Struct} {functions : List Function}
    {pairs : List (Layout × View)}
    (hrun : (structs target functions items).runOn st = (.ok pairs, st')) :
    ∀ pair ∈ pairs, pair.2.head.name = pair.1.head.name ++ st.symbols.settings.viewSuffix := by
  induction items generalizing st pairs with
  | nil =>
    obtain ⟨rfl, rfl⟩ := ok_pure.mp hrun
    simp
  | cons item rest ih =>
    obtain ⟨made, middle, hmade, hrun⟩ := ok_bind.mp hrun
    obtain ⟨others, after, hothers, hrun⟩ := ok_bind.mp hrun
    obtain ⟨rfl, rfl⟩ := ok_pure.mp hrun
    have hgrow := ((registers_struct (P := fun _ _ => True) fun _ _ _ _ => trivial).of_ok hmade).1
    intro pair hpair
    rcases List.mem_append.mp hpair with hmem | hmem
    · obtain rfl : made = some pair := by simpa using hmem
      exact view_struct hmade
    · rw [← hgrow.settings]
      exact ih hothers pair hmem

theorem view_declared (hrun : (declared nativeClass metadata).runOn s = (.ok b, s')) :
    ∀ pair ∈ b.structs, pair.2.head.name = pair.1.head.name ++ s.settings.viewSuffix := by
  obtain ⟨typed, paired, imported, wrapped, hstages, rfl⟩ := stages_of_declared hrun
  have htyped : (opened metadata s).Grows typed :=
    ((registers_declared_typedefs metadata).of_ok hstages.typedefs).1
  have hsettings : typed.settings = s.settings := by
    rw [htyped.settings, (opens_opened metadata s).settings]
  rw [← hsettings]
  exact view_structs hstages.structs

/-! ### Where the names of open entries come from -/

/-- The C# names that a document enters for what is neither a struct nor an enum. -/
inductive Foreign (settings : Settings) (document : Metadata) : String → Prop
  | handle : Foreign settings document settings.handle
  | vector : Foreign settings document settings.vectorName
  | unknown : Foreign settings document "unknown"
  | converted {name text} (h : settings.conversions.find? name = some text) :
      Foreign settings document text
  | primitive {name text} (h : builtinTypes.find? name = some text) : Foreign settings document text
  | builtin {t text} (h : Mentions document t) (hkind : t.kind = .builtin)
      (htext : nonEmpty? t.builtin = some text) : Foreign settings document text
  | callback {t} (h : Mentions document t) (hcallback : t.isCallback = true) :
      Foreign settings document (callbackName t none)
  | delegate {name target} (h : CallbackOf document name target) : Foreign settings document name

/-- A struct of a document has the C# name and fields, but its native name has another type. -/
def Displaced (done : List (Metadata × Bindings)) (s : Symbols) (id : TypeId) (text : String) : Prop :=
  ∃ config ∈ done, ∃ item ∈ config.1.structs, item.fields ≠ [] ∧
    Identifier.lastSegment item.name = text ∧
    ∃ other, s.types.find? item.name = some other ∧ other ≠ id

/-- Why a name stands in an open entry: it is an enum's, the one of a struct with a view, or another one. -/
inductive Source (settings : Settings) (done : List (Metadata × Bindings)) (s : Symbols) (id : TypeId)
    (text : String) : Prop
  | enum (h : s.enums.contains text = true)
  | emitted (h : text ++ settings.viewSuffix ∈ emittedViews done)
  | foreign {config : Metadata × Bindings} (hconfig : config ∈ done)
      (h : Foreign settings config.1 text)
  | displaced (h : Displaced done s id text)

/-- Every name in an open entry has a source. -/
def Accounted (settings : Settings) (done : List (Metadata × Bindings)) (s : Symbols) : Prop :=
  ∀ id text, s.arena.get? id = some (.named text false) → Source settings done s id text

theorem Source.mono (h : Source settings done s id text) (hdone : done ⊆ done')
    (henums : ∀ name, s.enums.contains name = true → s'.enums.contains name = true)
    (htypes : ∀ name id, s.types.find? name = some id → s'.types.find? name = some id) :
    Source settings done' s' id text := by
  cases h with
  | enum h => exact .enum (henums text h)
  | emitted h =>
    obtain ⟨config, hconfig, hview⟩ := List.mem_flatMap.mp h
    exact .emitted (List.mem_flatMap.mpr ⟨config, hdone hconfig, hview⟩)
  | foreign hconfig h => exact .foreign (hdone hconfig) h
  | displaced h =>
    obtain ⟨config, hconfig, item, hitem, hfields, hname, other, hfind, hne⟩ := h
    exact .displaced
      ⟨config, hdone hconfig, item, hitem, hfields, hname, other, htypes _ _ hfind, hne⟩

/-- What generators enter is the name of a struct that has fields and is not left out, or another one. -/
theorem Enters.cases {document : Metadata} (h : Enters document s text) :
    Foreign s.settings document text ∨ ∃ item ∈ document.structs,
      structSkip? s item = none ∧ item.fields ≠ [] ∧ text = Identifier.lastSegment item.name := by
  cases h with
  | handle => exact .inl .handle
  | vector => exact .inl .vector
  | unknown => exact .inl .unknown
  | converted h => exact .inl (.converted h)
  | callback h hcallback => exact .inl (.callback h hcallback)
  | delegate h => exact .inl (.delegate h)
  | struct hitem hkept hfields => exact .inr ⟨_, hitem, hkept, hfields, rfl⟩
  | @builtin t h hkind =>
    refine .inl ?_
    unfold builtinName
    cases hconv : s.settings.conversions.find? ((nonEmpty? t.builtin).getD "void") with
    | some converted => exact .converted hconv
    | none =>
      cases htable : builtinTypes.find? ((nonEmpty? t.builtin).getD "void") with
      | some primitive => exact .primitive htable
      | none =>
        cases hname : nonEmpty? t.builtin with
        | none =>
          rw [hname] at htable
          exact absurd htable (by decide)
        | some name => exact .builtin h hkind hname

/-- The entry of a struct that is announced has a view in the end, unless its native name has another type. -/
theorem source_struct {erased : Symbols} (hs : Reached settings before)
    (hbuilt : Built nativeClass metadata before b all built erased s) (hitem : item ∈ metadata.structs)
    (hkept : structSkip? (opened metadata before.beginConfiguration) item = none)
    (hfields : item.fields ≠ [])
    (hget : s.arena.get? id = some (.named (Identifier.lastSegment item.name) false))
    (hold : built.arena.get? id = some (.named (Identifier.lastSegment item.name) false)) :
    Source settings (done ++ [(metadata, b)]) s id (Identifier.lastSegment item.name) := by
  have hnonempty : item.fields.isEmpty = false := by simpa using hfields
  have hlast : (metadata, b) ∈ done ++ [(metadata, b)] := by simp
  obtain ⟨earlier, later, hitems⟩ := List.append_of_mem hitem
  obtain ⟨cut, -, -, hafter, -⟩ := declares_around rfl hitems hkept hbuilt.declared
  obtain ⟨other, hfind, -⟩ := find?_announced hnonempty cut
  have hfind := hafter.types _ _ hfind
  have hlaidOut : item ∈ laidOut (opened metadata before.beginConfiguration) metadata.structs :=
    List.mem_filter.mpr ⟨hitem, by simp [hkept, hnonempty]⟩
  obtain ⟨pair, hpair, hof⟩ := forall₂_mem hbuilt.declares.structs hlaidOut
  by_cases hmembers : hasMembers pair = true
  · have hview := view_declared hbuilt.declared pair hpair
    have hsuffix : before.beginConfiguration.settings = settings := hs.settings
    rw [hof.name, hsuffix] at hview
    have hemitted : pair ∈ b.structs := hbuilt.kept ▸ List.mem_filter.mpr ⟨hpair, hmembers⟩
    exact .emitted (List.mem_flatMap.mpr ⟨_, hlast, List.mem_map.mpr ⟨pair, hemitted, hview⟩⟩)
  · by_cases hsame : other = id
    · have hmemberless : item.name ∈ memberless all.structs :=
        List.mem_map.mpr ⟨pair, List.mem_filter.mpr ⟨hpair, by simpa using hmembers⟩, hof.nativeName⟩
      have herased := hbuilt.settles.erases.erased item.name hmemberless id (hsame ▸ hfind) _ _ hold
      have hgone := hbuilt.settles.binds.arena.erased herased
      rw [hgone] at hget
      simp at hget
    · rw [← hbuilt.settles.keeps.types] at hfind
      exact .displaced ⟨_, hlast, item, hitem, hfields, rfl, other, hfind, hsame⟩

theorem Accounted.next (h : Accounted settings done before) (hs : Reached settings before)
    (hrun : (bindings nativeClass metadata).runOn before.beginConfiguration = (.ok b, s)) :
    Accounted settings (done ++ [(metadata, b)]) s := by
  intro id text hget
  obtain ⟨all, built, erased, hbuilt⟩ := hs.built hrun
  have hlast : (metadata, b) ∈ done ++ [(metadata, b)] := by simp
  have hsettings : (opened metadata before.beginConfiguration).settings = settings :=
    hbuilt.opens.settings.trans hs.settings
  have hopened : Lists before.beginConfiguration (opened metadata before.beginConfiguration) :=
    walk_opened listsWalk _ _
  have hretains : Retains before.beginConfiguration (opened metadata before.beginConfiguration) :=
    walk_opened retainsWalk _ _
  have henums : s.enums = (opened metadata before.beginConfiguration).enums := by
    rw [hbuilt.settles.keeps.enums, hbuilt.grows.enums]
  have hcloses : Closes built s := (closes_settle all).of_ok (hbuilt.settle hrun)
  rcases hcloses.entries id _ (.named text) hget with hbefore | hhandle
  · rcases (gains_declared hbuilt.sound hbuilt.declared).names id text hbefore with hold | hnew
    · refine (h id text hold).mono (List.subset_append_left _ _) (fun name hmem => ?_)
        (fun name other hfind => ?_)
      · rw [henums]
        exact hopened.enums name hmem
      · rw [hbuilt.settles.keeps.types]
        exact hbuilt.grows.types _ _ (hretains.types _ _ hfind)
    · rcases hnew with henum | ⟨middle, hgrows, henters⟩
      · exact .enum (henums ▸ henum)
      · rcases henters.cases with hforeign | ⟨item, hitem, hkept, hfields, rfl⟩
        · rw [hgrows.settings, hsettings] at hforeign
          exact .foreign hlast hforeign
        · rw [structSkip?_grows hgrows] at hkept
          exact source_struct hs hbuilt hitem hkept hfields hget hbefore
  · obtain rfl : text = built.settings.handle := (TypeEntry.named.inj hhandle).1
    rw [hbuilt.grows.settings, hsettings]
    exact .foreign hlast .handle

theorem Completed.accounted (h : Completed settings done s) : Accounted settings done s := by
  induction h with
  | start =>
    intro id text hget
    simp [ofSettings, Arena.get?] at hget
  | next h nativeClass hrun ih => exact ih.next h.reached hrun

/-! ### Views that are used -/

/-- The view that a type is written as, if it is. -/
def typeView? (s : Symbols) : TypeText → Option String
  | .view id => (s.spellId id).toOption.bind s.viewName?
  | _ => none

/-- The element type that an accessor over a vector is written with. -/
def elementText? (s : Symbols) (accessor : Accessor) : Option String :=
  match accessor.reach with
  | .vector name => (Render.vectorElement s name).toOption
  | _ => none

/-- The view that an accessor gives, itself or element by element. -/
def accessorView? (s : Symbols) (accessor : Accessor) : Option String :=
  match accessor.reach with
  | .field type => (s.spell type).toOption.bind s.viewName?
  | _ => (elementText? s accessor).bind fun element => s.viewName? (element ++ "*")

/-- The accessors of all views. -/
def Bindings.accessors (b : Bindings) : List Accessor := b.structs.flatMap (·.2.accessors)

/-- The views that the parameters and results of wrappers and the accessors are written with. -/
def usedViews (b : Bindings) (s : Symbols) : List String :=
  (b.wrappers.flatMap fun wrapper => wrapper.result :: wrapper.marshaling.managed.map (·.type)).filterMap
      (typeView? s) ++
    b.accessors.filterMap (accessorView? s)

/-- Nothing is known of the name that a vector gives its elements. -/
def UnknownElement (b : Bindings) (s : Symbols) (element : String) : Prop :=
  (∃ accessor ∈ b.accessors, ∃ name, accessor.reach = .vector name ∧
    element = Identifier.lastSegment name) ∧
  element ∉ s.opaqueStructs ∧ s.types.find? element = none

/-- The names of views of what is no struct that is emitted. -/
inductive Stray (settings : Settings) (done : List (Metadata × Bindings)) (b : Bindings) (s : Symbols) :
    String → Prop
  | foreign {config base} (hconfig : config ∈ done) (h : Foreign settings config.1 base) :
      Stray settings done b s (base ++ settings.viewSuffix)
  | starred {base} (h : s.arena.HasLeaf (base ++ "*") ∨ settings.handle = base ++ "*") :
      Stray settings done b s (base ++ settings.viewSuffix)
  | displaced {id base} (hget : s.arena.get? id = some (.named base false))
      (h : Displaced done s id base) : Stray settings done b s (base ++ settings.viewSuffix)
  | unknown {element} (h : UnknownElement b s element) :
      Stray settings done b s (element ++ settings.viewSuffix)

/-- The leaf of a spelling is a name with a source, if nothing is left unresolved. -/
theorem Completed.source_of_leaf (hrun : Completed settings done s)
    (hresolved : s.pending = [] ∧ ∀ name, "unresolved type " ++ name ∉ s.warnings)
    (h : s.arena.HasLeaf text) :
    ∃ id, s.arena.get? id = some (.named text false) ∧ Source settings done s id text := by
  obtain ⟨id, hget | hget⟩ := h
  · exact ⟨id, hget, hrun.accounted id text hget⟩
  · rcases hrun.watched id text hget with hpending | hwarned
    · rw [hresolved.1] at hpending
      simp at hpending
    · exact absurd hwarned (hresolved.2 text)

/-- A name with a source that no enum has is the one of an emitted view, or its view is a stray. -/
theorem Source.emitted_or_stray (h : Source settings done s id text)
    (hget : s.arena.get? id = some (.named text false)) (henum : s.enums.contains text = false) :
    text ++ settings.viewSuffix ∈ emittedViews done ∨
      Stray settings done b s (text ++ settings.viewSuffix) := by
  cases h with
  | enum h =>
    rw [henum] at h
    simp at h
  | emitted h => exact .inl h
  | foreign hconfig h => exact .inr (.foreign hconfig h)
  | displaced h => exact .inr (.displaced hget h)

theorem vectorElement_cases {name element : String} (document : Metadata) (hs : s.Sound)
    (h : Render.vectorElement s name = .ok element) :
    Foreign s.settings document element ∨
    (∃ id, s.types.find? (Identifier.lastSegment name) = some id ∧ s.spellId id = .ok element) ∨
    (element = Identifier.lastSegment name ∧ element ∉ s.opaqueStructs ∧
      s.types.find? element = none) := by
  unfold Render.vectorElement at h
  split at h
  · next hfind =>
    obtain rfl := Except.ok.inj h
    exact .inl (.primitive hfind)
  · extract_lets suffix base isPointer last at h
    by_cases hpointer : (Text.endsWith name suffix && isPointer) = true
    · rw [if_pos hpointer] at h
      obtain rfl := Except.ok.inj h
      exact .inl .handle
    · rw [if_neg hpointer] at h
      cases hconverted : s.settings.conversions.find? last with
      | some converted =>
        rw [hconverted] at h
        obtain rfl := Except.ok.inj h
        exact .inl (.converted hconverted)
      | none =>
        rw [hconverted] at h
        by_cases hmem : last ∈ s.opaqueStructs
        · rw [lookUp_of_mem hmem] at h
          have hnamed : (namedType s.settings.handle s).2.Sound := (quiet_namedType _ s).sound hs
          have hspells : (namedType s.settings.handle s).2.spellId (namedType s.settings.handle s).1 =
              .ok s.settings.handle := by
            rw [spellId_namedType hnamed (Grows.refl _).evolves]
            exact congrArg _ (nameText_handle (namedType s.settings.handle s).2)
          obtain rfl := Except.ok.inj (hspells.symm.trans h)
          exact .inl .handle
        · rw [lookUp_of_not_mem hmem] at h
          cases hfind : s.types.find? last with
          | some id =>
            rw [hfind] at h
            exact .inr (.inl ⟨id, rfl, h⟩)
          | none =>
            rw [hfind] at h
            obtain rfl := Except.ok.inj h
            exact .inr (.inr ⟨rfl, hmem, hfind⟩)

/-- The last of the configurations that ended well. -/
theorem Completed.last (h : Completed settings (done ++ [(metadata, b)]) s) :
    ∃ before nativeClass, Completed settings done before ∧
      (bindings nativeClass metadata).runOn before.beginConfiguration = (.ok b, s) := by
  generalize hall : done ++ [(metadata, b)] = configs at h
  cases h with
  | start => simp at hall
  | next h nativeClass hrun =>
    obtain ⟨rfl, hlast⟩ := List.append_inj' hall rfl
    obtain ⟨rfl, rfl⟩ : metadata = _ ∧ b = _ := by simpa using hlast
    exact ⟨_, nativeClass, h, hrun⟩

theorem Completed.pending (h : Completed settings (done ++ [(metadata, b)]) s) : s.pending = [] := by
  obtain ⟨before, nativeClass, hdone, hrun⟩ := h.last
  obtain ⟨all, built, erased, hbuilt⟩ := hdone.reached.built hrun
  exact hbuilt.settles.binds.pending

/-- The view of a type. -/
theorem Completed.view_of_type {spelled : String} (hrun : Completed settings done s)
    (hresolved : s.pending = [] ∧ ∀ name, "unresolved type " ++ name ∉ s.warnings)
    (hspells : s.spellId id = .ok spelled) (hview : s.viewName? spelled = some view) :
    view ∈ emittedViews done ∨ Stray settings done b s view := by
  have hs := hrun.reached.sound
  obtain ⟨base, rfl, rfl, hbase, henum⟩ := viewName?_some hview
  rw [hrun.reached.settings]
  rcases leaf_of_spelled_star hs hbase hspells with hleaf | hstarred
  · obtain ⟨leaf, hget, hsource⟩ := hrun.source_of_leaf hresolved hleaf
    exact hsource.emitted_or_stray hget henum
  · rw [hrun.reached.settings] at hstarred
    exact .inr (.starred hstarred)

/-- The view of the elements of a vector. -/
theorem Completed.view_of_element {accessor : Accessor} {name element : String}
    (hrun : Completed settings (done ++ [(metadata, b)]) s)
    (hresolved : ∀ name, "unresolved type " ++ name ∉ s.warnings)
    (haccessor : accessor ∈ b.accessors) (hreach : accessor.reach = .vector name)
    (helement : Render.vectorElement s name = .ok element)
    (hview : s.viewName? (element ++ "*") = some view) :
    view ∈ emittedViews (done ++ [(metadata, b)]) ∨ Stray settings (done ++ [(metadata, b)]) b s view := by
  have hs := hrun.reached.sound
  have hlast : (metadata, b) ∈ done ++ [(metadata, b)] := by simp
  obtain ⟨base, hbase, rfl, hstar, henum⟩ := viewName?_some hview
  obtain rfl := (String.append_left_inj _).mp hbase
  rw [hrun.reached.settings]
  rcases vectorElement_cases metadata hs helement with hforeign | ⟨known, -, hspells⟩ | ⟨hname, hunknown⟩
  · rw [hrun.reached.settings] at hforeign
    exact .inr (.foreign hlast hforeign)
  · rcases leaf_of_spelled hs hstar hspells with hleaf | hhandle
    · obtain ⟨leaf, hget, hsource⟩ := hrun.source_of_leaf ⟨hrun.pending, hresolved⟩ hleaf
      exact hsource.emitted_or_stray hget henum
    · rw [← hhandle, hrun.reached.settings]
      exact .inr (.foreign hlast .handle)
  · exact .inr (.unknown ⟨⟨accessor, haccessor, name, hreach, hname⟩, hunknown⟩)

/-- The accessors of views name their types by number. -/
theorem reach_of_accessor (hs : Reached settings before)
    (hrun : (bindings nativeClass metadata).runOn before.beginConfiguration = (.ok b, s))
    {accessor : Accessor} (haccessor : accessor ∈ b.accessors) {type : TypeText}
    (hreach : accessor.reach = .field type) : ∃ id, type = .ref id := by
  obtain ⟨all, built, erased, hbuilt⟩ := hs.built hrun
  obtain ⟨pair, hpair, hmem⟩ := List.mem_flatMap.mp haccessor
  obtain ⟨item, -, hof⟩ := hbuilt.layout hpair
  obtain ⟨parts, hfields, -, haccessors⟩ := hof.fields
  rw [haccessors] at hmem
  obtain ⟨part, hpart, rfl⟩ := List.mem_map.mp hmem
  obtain ⟨field, -, hfield⟩ := forall₂_mem hfields.flip hpart
  cases hfield with
  | array => simp [accessorOf] at hreach
  | callback => exact ⟨_, (Reach.field.inj hreach).symm⟩
  | other harray hcallback hor made =>
    rcases hor with rfl | ⟨element, -, rfl⟩
    · exact ⟨_, (Reach.field.inj hreach).symm⟩
    · simp [accessorOf] at hreach

/--
Every view that the declarations of a configuration use is emitted by this or an earlier configuration of the
run, or is a stray, if no type is left unresolved. An element of a vector that looks like a view is the name of
an emitted one, the spelling of a known type, or nothing that is known.
-/
theorem used_views_emitted (hrun : Completed settings (done ++ [(metadata, b)]) s)
    (hresolved : ∀ name, "unresolved type " ++ name ∉ s.warnings) :
    (∀ view ∈ usedViews b s, view ∈ emittedViews (done ++ [(metadata, b)]) ∨
      Stray settings (done ++ [(metadata, b)]) b s view) ∧
    ∀ accessor ∈ b.accessors, ∀ element, elementText? s accessor = some element →
      Text.endsWith element settings.viewSuffix = true →
      element ∈ emittedViews (done ++ [(metadata, b)]) ∨ Foreign settings metadata element ∨
        (∃ name id, s.types.find? name = some id ∧ s.spellId id = .ok element) ∨
        UnknownElement b s element := by
  have hall := And.intro hrun.pending hresolved
  refine ⟨fun view hview => ?_, fun accessor haccessor element helement hsuffix => ?_⟩
  · rcases List.mem_append.mp hview with hmem | hmem
    · obtain ⟨type, -, htype⟩ := List.mem_filterMap.mp hmem
      cases type with
      | plain text => simp [typeView?] at htype
      | ref id => simp [typeView?] at htype
      | view id =>
        obtain ⟨spelled, hspells, hview⟩ := Option.bind_eq_some_iff.mp htype
        exact hrun.view_of_type hall (toOption_eq_some.mp hspells) hview
    · obtain ⟨accessor, haccessor, hview⟩ := List.mem_filterMap.mp hmem
      cases hreach : accessor.reach with
      | list => simp [accessorView?, elementText?, hreach] at hview
      | vector name =>
        simp only [accessorView?, elementText?, hreach] at hview
        obtain ⟨element, helement, hview⟩ := Option.bind_eq_some_iff.mp hview
        exact hrun.view_of_element hresolved haccessor hreach (toOption_eq_some.mp helement) hview
      | field type =>
        simp only [accessorView?, hreach] at hview
        obtain ⟨before, nativeClass, hdone, hlast⟩ := hrun.last
        obtain ⟨id, rfl⟩ := reach_of_accessor hdone.reached hlast haccessor hreach
        obtain ⟨spelled, hspells, hview⟩ := Option.bind_eq_some_iff.mp hview
        exact hrun.view_of_type hall (toOption_eq_some.mp hspells) hview
  · cases hreach : accessor.reach with
    | list => simp [elementText?, hreach] at helement
    | field => simp [elementText?, hreach] at helement
    | vector name =>
      simp only [elementText?, hreach] at helement
      have hs := hrun.reached.sound
      rcases vectorElement_cases metadata hs (toOption_eq_some.mp helement) with
        hforeign | ⟨id, hfind, hspells⟩ | ⟨hname, hunknown⟩
      · rw [hrun.reached.settings] at hforeign
        exact .inr (.inl hforeign)
      · exact .inr (.inr (.inl ⟨_, id, hfind, hspells⟩))
      · exact .inr (.inr (.inr ⟨⟨accessor, haccessor, name, hreach, hname⟩, hunknown⟩))

/-- A callback type, and a struct with a field that points to one. -/
def callbackUser : Metadata where
  typedefs := [{
    name := "ImGuiHook"
    info := { type := {
      kind := .synonym
      name := some "ImGuiHook"
      inner := some { kind := .pointer, inner := some { kind := .function } } } } }]
  structs := [{
    name := "ImPanel"
    fields := [{
      name := "hook"
      info := { type := { kind := .pointer, inner := some { kind := .user, name := some "ImGuiHook" } } } }] }]

theorem used_views_emitted_callbackUser :
    ∃ b s, Completed {} [(callbackUser, b)] s ∧ (∀ name, "unresolved type " ++ name ∉ s.warnings) ∧
      "ImGuiHookPtr" ∈ usedViews b s ∧ "ImGuiHookPtr" ∉ emittedViews [(callbackUser, b)] ∧
      Stray {} [(callbackUser, b)] b s "ImGuiHookPtr" := by
  obtain ⟨b, s, hrun, hread⟩ := exists_ok (bindings "Native" callbackUser)
    (ofSettings {}).beginConfiguration
    (fun b s => (s.warnings, usedViews b s, b.structs.map (·.2.head.name)))
    (b := ([], ["ImGuiHookPtr"], ["ImPanelPtr"])) (by decide +kernel)
  simp only [Prod.mk.injEq] at hread
  obtain ⟨hwarnings, hused, hemitted⟩ := hread
  have hcompleted : Completed {} ([] ++ [(callbackUser, b)]) s := .next .start "Native" hrun
  have hresolved : ∀ name, "unresolved type " ++ name ∉ s.warnings := by simp [hwarnings]
  have hview : "ImGuiHookPtr" ∈ usedViews b s := by simp [hused]
  have hmissing : "ImGuiHookPtr" ∉ emittedViews [(callbackUser, b)] := by simp [emittedViews, hemitted]
  have hall := (used_views_emitted hcompleted hresolved).1 _ hview
  exact ⟨b, s, hcompleted, hresolved, hview, hmissing, hall.resolve_left hmissing⟩

end Generate

end InteropGen

import InteropGen.Proofs.TableSteps

/-!
# Runs step by step

A run of configurations changes the tables of types in single moves: the steps of building a document,
and outside of them a name of an enum is entered and registered, a struct without members is erased,
a forward reference is bound, or something else than types and entries changes. `path_of_runOf` says that
every run, of any number of configurations and also if some of them fail, is a path of such moves.
-/

namespace InteropGen.Generate

open Metadata Decl Build Symbols

/-- A single change to the tables of types in the runs over some documents. -/
inductive Move (documents : List Metadata) : Symbols → Symbols → Prop
  | build {s s' document} (hdocument : document ∈ documents) (h : Step document s s') :
      Move documents s s'
  | enter (name : String) (s : Symbols) : Move documents s (namedType name s).2
  | register {s text id} (name : String) (h : s.arena.names.find? text = some id) :
      Move documents s (s.registerType name id)
  | erase (id : TypeId) (s : Symbols) : Move documents s { s with arena := s.arena.erase id }
  | bind {s id name target} (hget : s.arena.get? id = some (.forward name none))
      (h : s.types.find? name = some target ∨
        s.arena.names.find? s.settings.handle = some target) :
      Move documents s { s with arena := s.arena.bind id target }
  | other {s s'} (harena : s'.arena = s.arena) (htypes : s'.types = s.types) : Move documents s s'

/-- Any number of moves one after the other. -/
abbrev Path (documents : List Metadata) : Symbols → Symbols → Prop :=
  Relation.ReflTransGen (Move documents)

/-- The symbols that runs of any number of configurations over the documents lead to, also if they fail. -/
inductive RunOf (settings : Settings) (documents : List Metadata) : Symbols → Prop
  | start : RunOf settings documents (ofSettings settings)
  | next {before metadata} (h : RunOf settings documents before) (nativeClass : String)
      (hmetadata : metadata ∈ documents) : RunOf settings documents
        ((bindings nativeClass metadata).runOn before.beginConfiguration).2

variable {documents : List Metadata} {document : Metadata} {s s' s'' : Symbols}

theorem path_of_steps (hdocument : document ∈ documents)
    (h : Relation.ReflTransGen (Step document) s s') : Path documents s s' :=
  Relation.ReflTransGen.mono (fun _ _ => .build hdocument) _ _ h

theorem path_of_eq (harena : s'.arena = s.arena) (htypes : s'.types = s.types) :
    Path documents s s' :=
  .single (.other harena htypes)

/-! ### Constants and enums -/

theorem path_enumRegistered (item : Metadata.Enum) (s : Symbols) :
    Path documents s (enumRegistered item s) := by
  have hregister : ∀ (names : List String) {s : Symbols} {id : TypeId} {text : String},
      s.arena.names.find? text = some id → Path documents s (registerAll names id s) := by
    intro names
    induction names with
    | nil => exact fun _ => .refl
    | cons name rest ih => exact fun h => .head (.register name h) (ih h)
  exact .head (.enter _ s) (hregister _ (s.arena.find?_named _))

theorem pathWalk (documents : List Metadata) : OpeningWalk (Path documents) where
  note h := path_of_eq h.arena h.types
  defines s defines := path_of_eq rfl rfl
  start item s := by
    rcases enumStarted_cases item s with ⟨heq, -⟩ | heq <;> rw [heq]
    · exact path_enumRegistered item s
    · exact (path_enumRegistered item s).trans (path_of_eq rfl rfl)
  element s sizes name elements := path_of_eq rfl rfl

/-! ### Settling -/

theorem path_erase (name : String) (s : Symbols) : Path documents s (s.erase name) := by
  have hadd : Path documents s (s.addOpaque name) := by
    refine path_of_eq ?_ (keeps_addOpaque s name).types
    unfold addOpaque
    split <;> rfl
  unfold Symbols.erase
  dsimp only
  split
  · next id hfind => exact hadd.tail (.erase id _)
  · exact hadd

theorem path_keepLaidOut (pairs : List (Layout × View)) :
    Preserves (Path documents) (keepLaidOut (fun pair => .ok (emptyLayout? pair)) pairs) := by
  induction pairs with
  | nil => exact .pure _
  | cons pair rest ih =>
    unfold keepLaidOut
    refine .bind (.ofExcept _) fun empty => ?_
    split
    · exact .bind (.modify fun s => (path_erase _ s).trans (path_of_eq rfl rfl)) fun _ => ih
    · exact .bind ih fun _ => .pure _

theorem path_resolveOne {id : TypeId} {name : String}
    (hget : s.arena.get? id = some (.forward name none)) :
    Path documents s (resolveOne id s).2 := by
  have hname : s.arena.fallbackName id = name := by rw [Arena.fallbackName, hget]
  rw [resolveOne_eq, hname]
  by_cases hmem : name ∈ s.opaqueStructs
  · rw [lookUp_of_mem hmem]
    have hkept : (namedType s.settings.handle s).2.arena.get? id = some (.forward name none) :=
      s.arena.get?_named _ hget
    exact .tail (.single (.enter s.settings.handle s))
      (.bind hkept (.inr (s.arena.find?_named s.settings.handle)))
  · rw [lookUp_of_not_mem hmem]
    cases hfind : s.types.find? name with
    | none => exact path_of_eq rfl rfl
    | some target => exact .single (.bind hget (.inl hfind))

theorem path_resolveAll {ids : List TypeId} (hempty : s.pending = []) (hnodup : ids.Nodup)
    (hids : ∀ id ∈ ids, ∃ name, s.arena.get? id = some (.forward name none)) :
    Path documents s (ids.forM resolveOne s).2 := by
  induction ids generalizing s with
  | nil => exact .refl
  | cons id ids ih =>
    obtain ⟨name, hget⟩ := hids id List.mem_cons_self
    obtain ⟨hid, hnodup⟩ := List.nodup_cons.mp hnodup
    have hfirst := binds_resolveOne hempty hget
    refine (path_resolveOne hget).trans (ih (hfirst.pending.trans hempty) hnodup fun other hother => ?_)
    obtain ⟨name, hget⟩ := hids other (List.mem_cons_of_mem _ hother)
    refine ⟨name, hfirst.kept other ?_ _ hget⟩
    rw [List.mem_singleton]
    rintro rfl
    exact hid hother

theorem path_resolvePending (hs : s.Sound) : Path documents s (resolvePending s).2 := by
  have hclear : Path documents s { s with pending := [] } := path_of_eq rfl rfl
  exact hclear.trans (path_resolveAll rfl hs.nodup hs.pending)

/-! ### Runs -/

/-- From sound symbols on, the run is a path and ends in sound symbols. -/
def Travels (documents : List Metadata) (s s' : Symbols) : Prop :=
  s.Sound → s'.Sound ∧ Path documents s s'

instance : Std.Refl (Travels documents) := ⟨fun _ hs => ⟨hs, .refl⟩⟩
instance : IsTrans Symbols (Travels documents) :=
  ⟨fun _ _ _ h h' hs => ⟨(h' (h hs).1).1, (h hs).2.trans (h' (h hs).1).2⟩⟩

theorem Travels.of_follows (hdocument : document ∈ documents) (h : Follows document s s') :
    Travels documents s s' :=
  fun hs => ⟨(grows_of_steps (h hs)).sound hs, path_of_steps hdocument (h hs)⟩

theorem Travels.of_opens (h : Opens s s') (hpath : Path documents s s') : Travels documents s s' :=
  fun hs => ⟨h.sound hs, hpath⟩

theorem travels_declared (nativeClass : String) (hdocument : document ∈ documents) :
    Preserves (Travels documents) (declared nativeClass document) := by
  have hfollows {s s' : Symbols} : Follows document s s' → Travels documents s s' :=
    Travels.of_follows hdocument
  refine .bind (.lift fun s => .of_opens (walk_constants opensWalk _ s)
    (walk_constants (pathWalk documents) _ s)) fun _ => ?_
  refine .bind (.lift fun s => .of_opens (walk_enums opensWalk _ s)
    (walk_enums (pathWalk documents) _ s)) fun _ => ?_
  refine .bind ((follows_typedefs document).mono fun _ _ => hfollows) fun _ => ?_
  refine .bind ((preserves_inNewScope (follows_structs document _)).mono fun _ _ => hfollows)
    fun pairs => ?_
  refine .bind ((follows_externs document).mono fun _ _ => hfollows) fun externs => ?_
  exact .bind ((preserves_inNewScope (follows_mainWrappers document _)).mono fun _ _ => hfollows)
    fun _ => .pure _

theorem travels_settle (b : Bindings) : Preserves (Travels documents) (settle b) := by
  intro s hs
  refine ⟨(carries_settle b hs).sound hs, ?_⟩
  obtain ⟨erased, hrun, herases⟩ := keepLaidOut_spec b.structs s
  have hkeep : Path documents s erased := (path_keepLaidOut b.structs).of_ok hrun
  have hsettle : ((settle b).runOn s).2 = (resolvePending erased).2 :=
    congrArg Prod.snd (runOn_bind_ok hrun)
  rw [hsettle]
  exact hkeep.trans (path_resolvePending (herases.sound hs))

theorem travels_bindings (nativeClass : String) (hdocument : document ∈ documents) :
    Preserves (Travels documents) (bindings nativeClass document) := by
  rw [bindings_eq]
  exact .bind (travels_declared nativeClass hdocument) travels_settle

/-- A run is a path of moves from the tables at its start. -/
theorem travels_of_runOf {settings : Settings} (h : RunOf settings documents s) :
    s.Sound ∧ Path documents (ofSettings settings) s := by
  induction h with
  | start => exact ⟨sound_ofSettings settings, .refl⟩
  | @next before metadata h nativeClass hmetadata ih =>
    obtain ⟨hsound, hpath⟩ := ih
    have hbegin : Path documents before before.beginConfiguration := path_of_eq rfl rfl
    obtain ⟨hsound', hpath'⟩ := travels_bindings nativeClass hmetadata before.beginConfiguration
      (sound_beginConfiguration hsound)
    exact ⟨hsound', (hpath.trans hbegin).trans hpath'⟩

end InteropGen.Generate

import InteropGen.Proofs.Acyclic
import InteropGen.Proofs.RunSteps

/-!
# Spellings end

Forward references are bound to whatever the table of types holds, other forward references among
them, so the numbers of types do not fall along references. What falls are the native names: `AliasOf`
leads from a typedef to the name that its description comes down to, and `Ranked` says that a reference
never leads to a name from which `AliasOf` could come back. Every move of a run preserves it. So if no
typedef reaches itself, no type does at any point of the run, and every type has a spelling
(`spelling_ends`).
-/

namespace InteropGen

namespace Arena

/-- Pointers lead from the type to a forward reference to the native name. -/
inductive RootedIn (a : Arena) : TypeId → String → Prop
  | forward {id name bound} (hget : a.get? id = some (.forward name bound)) : RootedIn a id name
  | pointer {id target name} (hget : a.get? id = some (.pointer target))
      (h : RootedIn a target name) : RootedIn a id name

variable {a b : Arena} {id target : TypeId} {name other text : String}

theorem not_rootedIn_named {erased : Bool} (hget : a.get? id = some (.named text erased)) :
    ¬ a.RootedIn id name := by
  intro h
  cases h with
  | forward h => simp [hget] at h
  | pointer h => simp [hget] at h

theorem rootedIn_forward {bound : Option TypeId} (hget : a.get? id = some (.forward name bound))
    (h : a.RootedIn id other) : other = name := by
  cases h with
  | forward h =>
    rw [hget] at h
    exact (TypeEntry.forward.inj (Option.some.inj h)).1.symm
  | pointer h => simp [hget] at h

theorem rootedIn_pointer (hget : a.get? id = some (.pointer target)) (h : a.RootedIn id name) :
    a.RootedIn target name := by
  cases h with
  | forward h => simp [hget] at h
  | pointer h hroot =>
    rw [hget] at h
    obtain rfl := TypeEntry.pointer.inj (Option.some.inj h)
    exact hroot

/-- Where a type that was there is rooted does not change. -/
theorem Evolves.rootedIn (h : Evolves a b) (hwf : a.WellFormed) (hid : a.Has id)
    (hroot : b.RootedIn id name) : a.RootedIn id name := by
  induction hroot with
  | forward hget =>
    obtain ⟨entry, hold⟩ := hid
    obtain ⟨entry', hnew, hbecomes⟩ := h.entries _ entry hold
    rw [hget] at hnew
    obtain rfl := Option.some.inj hnew
    cases hbecomes with
    | same => exact .forward hold
    | bound => exact .forward hold
  | pointer hget _ ih =>
    obtain ⟨entry, hold⟩ := hid
    obtain ⟨entry', hnew, hbecomes⟩ := h.entries _ entry hold
    rw [hget] at hnew
    obtain rfl := Option.some.inj hnew
    cases hbecomes with
    | same => exact .pointer hold (ih (hwf.targets _ _ _ hold rfl))

end Arena

namespace Generate

open Metadata Build Symbols Relation

/-- Some document has a typedef of the first name whose description comes down to the second. -/
def AliasOf (documents : List Metadata) (name root : String) : Prop :=
  ∃ document ∈ documents, ∃ item ∈ document.typedefs,
    item.name = name ∧ item.info.type.rootName? = some root

/-- References lead along typedefs, to entries that are there, and pointers to earlier entries. -/
structure Ranked (documents : List Metadata) (s : Symbols) : Prop where
  wellFormed : s.arena.WellFormed
  types : ∀ name id, s.types.find? name = some id → s.arena.Has id
  descends : ∀ id target, s.arena.get? id = some (.pointer target) → target.index < id.index
  known : ∀ name id root, s.types.find? name = some id → s.arena.RootedIn id root →
    TransGen (AliasOf documents) name root
  bound : ∀ id name target root, s.arena.get? id = some (.forward name (some target)) →
    s.arena.RootedIn target root → TransGen (AliasOf documents) name root

variable {documents : List Metadata} {document : Metadata} {s s' : Symbols} {id target : TypeId}
  {name root : String} {settings : Settings}

/-! ### Moves preserve the ranking -/

/-- An entry of a ranked arena after a move: it was there, or it is new and leads along typedefs. -/
inductive Allowed (documents : List Metadata) (s : Symbols) (id : TypeId) : TypeEntry → Prop
  | old {entry : TypeEntry} (h : s.arena.get? id = some entry) : Allowed documents s id entry
  | named (name : String) (erased : Bool) : Allowed documents s id (.named name erased)
  | forward (name : String) : Allowed documents s id (.forward name none)
  | pointer {target : TypeId} (h : s.arena.Has target) (hid : id = s.arena.nextId) :
      Allowed documents s id (.pointer target)
  | bound {name : String} {target : TypeId} (h : s.arena.Has target)
      (hroot : ∀ root, s.arena.RootedIn target root → TransGen (AliasOf documents) name root) :
      Allowed documents s id (.forward name (some target))

/-- A move of the arena alone preserves the ranking if it leaves only allowed entries. -/
theorem Ranked.of_arena {a : Arena} (h : Ranked documents s) (hev : s.arena.Evolves a)
    (hwf : a.WellFormed)
    (hallowed : ∀ id entry, a.get? id = some entry → Allowed documents s id entry) :
    Ranked documents { s with arena := a } := by
  have hback : ∀ {id root}, s.arena.Has id → a.RootedIn id root → s.arena.RootedIn id root :=
    fun hid => hev.rootedIn h.wellFormed hid
  refine ⟨hwf, fun name id hfind => hev.has (h.types name id hfind), ?_, ?_, ?_⟩
  · intro id target hget
    cases hallowed id _ hget with
    | old hold => exact h.descends id target hold
    | pointer htarget hid =>
      obtain ⟨entry, hentry⟩ := htarget
      rw [hid]
      exact (Array.getElem?_eq_some_iff.mp hentry).1
  · intro name id root hfind hroot
    exact h.known name id root hfind (hback (h.types name id hfind) hroot)
  · intro id name target root hget hroot
    cases hallowed id _ hget with
    | old hold =>
      exact h.bound id name target root hold (hback (h.wellFormed.targets id _ _ hold rfl) hroot)
    | bound htarget hall => exact hall root (hback htarget hroot)

/-- An entry of an arena that was pushed to is the new one or was there. -/
theorem allowed_push {a : Arena} {new : TypeEntry}
    (hentries : a.entries = s.arena.entries.push new)
    (hnew : Allowed documents s s.arena.nextId new) (id : TypeId) (entry : TypeEntry)
    (hget : a.get? id = some entry) : Allowed documents s id entry := by
  rcases Arena.get?_push hentries hget with ⟨rfl, rfl⟩ | hold
  · exact hnew
  · exact .old hold

theorem Ranked.enter (h : Ranked documents s) (text : String) :
    Ranked documents (namedType text s).2 := by
  have hallowed : ∀ id entry, (s.arena.named text).2.get? id = some entry →
      Allowed documents s id entry := by
    rcases Arena.named_cases s.arena text with ⟨known, -, heq⟩ | ⟨-, heq⟩
    · intro id entry hget
      rw [heq] at hget
      exact .old hget
    · exact allowed_push (congrArg (fun made => made.2.entries) heq) (.named text false)
  exact h.of_arena (Arena.extends_named _ _).evolves (h.wellFormed.named text) hallowed

theorem Ranked.point (h : Ranked documents s) (htarget : s.arena.Has target) :
    Ranked documents (pointerTo target s).2 := by
  have hallowed : ∀ id entry, (s.arena.pointer target).2.get? id = some entry →
      Allowed documents s id entry := by
    rcases Arena.pointer_cases s.arena target with ⟨known, -, heq⟩ | ⟨-, heq⟩
    · intro id entry hget
      rw [heq] at hget
      exact .old hget
    · exact allowed_push (congrArg (fun made => made.2.entries) heq) (.pointer htarget rfl)
  exact h.of_arena (Arena.extends_pointer _ _).evolves (h.wellFormed.pointer htarget) hallowed

theorem Ranked.of_eq (h : Ranked documents s) (harena : s'.arena = s.arena)
    (htypes : s'.types = s.types) : Ranked documents s' := by
  obtain ⟨hwf, hhas, hdescends, hknown, hbound⟩ := h
  exact ⟨harena ▸ hwf, by rw [harena, htypes]; exact hhas, by rw [harena]; exact hdescends,
    by rw [harena, htypes]; exact hknown, by rw [harena]; exact hbound⟩

theorem Ranked.defer (h : Ranked documents s) (name : String) :
    Ranked documents (Symbols.defer name s).2 := by
  have harena : Ranked documents { s with arena := (s.arena.forward name).2 } :=
    h.of_arena (s.arena.extends_forward name).evolves (h.wellFormed.forward name)
      (allowed_push rfl (.forward name))
  exact harena.of_eq rfl rfl

/-- A new name of a type preserves the ranking if the type leads along typedefs from the name. -/
theorem Ranked.register (h : Ranked documents s) (hid : s.arena.Has id)
    (hroot : ∀ root, s.arena.RootedIn id root → TransGen (AliasOf documents) name root) :
    Ranked documents (s.registerType name id) := by
  have hrow : ∀ other known, (s.registerType name id).types.find? other = some known →
      s.types.find? other = some known ∨ other = name ∧ known = id := by
    intro other known hfind
    by_cases hother : other = name
    · subst hother
      rw [registerType, Table.find?_insertNew_self] at hfind
      cases hold : s.types.find? other with
      | none =>
        rw [hold] at hfind
        exact .inr ⟨rfl, (Option.some.inj hfind).symm⟩
      | some old =>
        rw [hold] at hfind
        exact .inl hfind
    · exact .inl ((s.types.find?_insertNew_of_ne hother id).symm.trans hfind)
  refine ⟨h.wellFormed, fun other known hfind => ?_, h.descends, fun other known root hfind hrooted => ?_,
    h.bound⟩
  · rcases hrow other known hfind with hold | ⟨-, rfl⟩
    · exact h.types other known hold
    · exact hid
  · rcases hrow other known hfind with hold | ⟨rfl, rfl⟩
    · exact h.known other known root hold hrooted
    · exact hroot root hrooted

/-- What stands for a typedef's description leads along typedefs from its name. -/
theorem Stands.alias {item : Typedef} (h : Ranked documents s) (hdocument : document ∈ documents)
    (hitem : item ∈ document.typedefs) (hstands : Stands s item.info.type.rootName? id)
    (hrooted : s.arena.RootedIn id root) : TransGen (AliasOf documents) item.name root := by
  induction hstands with
  | named hget => exact absurd hrooted (Arena.not_rootedIn_named hget)
  | forward hget hroot =>
    obtain rfl := Arena.rootedIn_forward hget hrooted
    exact .single ⟨document, hdocument, item, hitem, rfl, hroot⟩
  | known hfind hroot =>
    exact .head ⟨document, hdocument, item, hitem, rfl, hroot⟩ (h.known _ _ root hfind hrooted)
  | pointer hget _ ih => exact ih (Arena.rootedIn_pointer hget hrooted)

theorem Ranked.step (h : Ranked documents s) (hdocument : document ∈ documents)
    (hstep : Step document s s') : Ranked documents s' := by
  cases hstep with
  | enter => exact h.enter _
  | point htarget => exact h.point htarget
  | defer name => exact h.defer name
  | register name hfind =>
    obtain ⟨erased, hget⟩ := h.wellFormed.names _ _ hfind
    exact h.register ⟨_, hget⟩ fun root hroot => absurd hroot (Arena.not_rootedIn_named hget)
  | typedef hitem hid hstands => exact h.register hid fun root => hstands.alias h hdocument hitem
  | hide name =>
    refine h.of_eq ?_ (keeps_addOpaque s name).types
    unfold addOpaque
    split <;> rfl
  | declare => exact h.of_eq rfl rfl
  | note hnotes => exact h.of_eq hnotes.arena hnotes.types

theorem Ranked.erase (h : Ranked documents s) (id : TypeId) :
    Ranked documents { s with arena := s.arena.erase id } := by
  refine h.of_arena (s.arena.evolves_erase id) (h.wellFormed.erase id) fun other entry hget => ?_
  by_cases hother : other = id
  · subst hother
    rw [Arena.erase, Arena.get?_update_self] at hget
    obtain ⟨old, hold, rfl⟩ := Option.map_eq_some_iff.mp hget
    cases old with
    | named => exact .named _ _
    | pointer => exact .old hold
    | forward => exact .old hold
  · rw [Arena.erase, Arena.get?_update_of_ne _ hother] at hget
    exact .old hget

/-- A forward reference is bound to a name or to the type that its own name has. -/
theorem Ranked.bind (h : Ranked documents s) (hget : s.arena.get? id = some (.forward name none))
    (htarget : s.types.find? name = some target ∨
      s.arena.names.find? s.settings.handle = some target) :
    Ranked documents { s with arena := s.arena.bind id target } := by
  have hhas : s.arena.Has target := by
    rcases htarget with hfind | hfind
    · exact h.types name target hfind
    · exact h.wellFormed.has_name hfind
  have hroot : ∀ root, s.arena.RootedIn target root → TransGen (AliasOf documents) name root := by
    intro root hrooted
    rcases htarget with hfind | hfind
    · exact h.known name target root hfind hrooted
    · obtain ⟨erased, hnamed⟩ := h.wellFormed.names _ _ hfind
      exact absurd hrooted (Arena.not_rootedIn_named hnamed)
  refine h.of_arena (Arena.evolves_bind hget target) (h.wellFormed.bind hget hhas)
    fun other entry hentry => ?_
  by_cases hother : other = id
  · subst hother
    rw [Arena.get?_bind_self hget] at hentry
    obtain rfl := Option.some.inj hentry
    exact .bound hhas hroot
  · rw [Arena.get?_bind_of_ne hother] at hentry
    exact .old hentry

theorem Ranked.move (h : Ranked documents s) (hmove : Move documents s s') :
    Ranked documents s' := by
  cases hmove with
  | build hdocument hstep => exact h.step hdocument hstep
  | enter name => exact h.enter name
  | register name hfind =>
    obtain ⟨erased, hget⟩ := h.wellFormed.names _ _ hfind
    exact h.register ⟨_, hget⟩ fun root hroot => absurd hroot (Arena.not_rootedIn_named hget)
  | erase id => exact h.erase id
  | bind hget htarget => exact h.bind hget htarget
  | other harena htypes => exact h.of_eq harena htypes

theorem ranked_ofSettings (settings : Settings) (documents : List Metadata) :
    Ranked documents (ofSettings settings) := by
  have hs := sound_ofSettings settings
  have hnone : ∀ id entry, (ofSettings settings).arena.get? id ≠ some entry := by
    intro id entry hget
    simp [ofSettings, Arena.get?] at hget
  refine ⟨hs.arena, hs.types, fun id target hget => absurd hget (hnone _ _), ?_,
    fun id name target root hget => absurd hget (hnone _ _)⟩
  intro name id root hfind
  simp [ofSettings, Table.find?, Table.lookupIn] at hfind

theorem Ranked.path (h : Ranked documents s) (hpath : Path documents s s') :
    Ranked documents s' := by
  induction hpath with
  | refl => exact h
  | tail _ hmove ih => exact ih.move hmove

/-! ### Walks along references -/

/-- A walk goes down within pointers, or passes a forward reference and leads along typedefs. -/
def Descends (documents : List Metadata) (s : Symbols) (id target : TypeId) : Prop :=
  (target.index < id.index ∧ ∀ root, s.arena.RootedIn target root → s.arena.RootedIn id root) ∨
  ∃ name, s.arena.RootedIn id name ∧
    ∀ root, s.arena.RootedIn target root → TransGen (AliasOf documents) name root

theorem Ranked.descends_single (h : Ranked documents s) (hleads : s.arena.Leads id target) :
    Descends documents s id target := by
  obtain ⟨entry, hget, htarget⟩ := hleads
  rcases entry with ⟨text, erased⟩ | next | ⟨name, bound⟩
  · simp [TypeEntry.target?] at htarget
  · obtain rfl := Option.some.inj htarget
    exact .inl ⟨h.descends id _ hget, fun root hroot => .pointer hget hroot⟩
  · obtain rfl : bound = some target := htarget
    exact .inr ⟨name, .forward hget, fun root => h.bound id name target root hget⟩

theorem Descends.trans {middle : TypeId} (h : Descends documents s id middle)
    (h' : Descends documents s middle target) : Descends documents s id target := by
  rcases h with ⟨hlt, hroots⟩ | ⟨name, hname, hroots⟩
  · rcases h' with ⟨hlt', hroots'⟩ | ⟨name', hname', hroots'⟩
    · exact .inl ⟨hlt'.trans hlt, fun root hroot => hroots root (hroots' root hroot)⟩
    · exact .inr ⟨name', hroots name' hname', hroots'⟩
  · rcases h' with ⟨-, hroots'⟩ | ⟨name', hname', hroots'⟩
    · exact .inr ⟨name, hname, fun root hroot => hroots root (hroots' root hroot)⟩
    · exact .inr ⟨name, hname, fun root hroot => (hroots name' hname').trans (hroots' root hroot)⟩

/-- Without a typedef that reaches itself, no walk comes back. -/
theorem Ranked.acyclic (h : Ranked documents s)
    (hacyclic : ∀ name, ¬ TransGen (AliasOf documents) name name) : s.arena.Acyclic := by
  intro id hcycle
  have hwalk : ∀ target, TransGen s.arena.Leads id target → Descends documents s id target := by
    intro target hwalk
    induction hwalk with
    | single hleads => exact h.descends_single hleads
    | tail _ hleads ih => exact ih.trans (h.descends_single hleads)
  rcases hwalk id hcycle with ⟨hlt, -⟩ | ⟨name, hname, hroots⟩
  · omega
  · exact hacyclic name (hroots name hname)

/--
If no typedef of the documents reaches itself, then at every point of every run over them no type
reaches itself and every type has a spelling. The points of a run are those of the path of moves that
it is.
-/
theorem spelling_ends (settings : Settings)
    (hacyclic : ∀ name, ¬ TransGen (AliasOf documents) name name) :
    (∀ s, RunOf settings documents s → Path documents (ofSettings settings) s) ∧
    ∀ s, Path documents (ofSettings settings) s → s.arena.Acyclic ∧
      ∀ id, s.arena.Has id → ∃ text, s.spellId id = .ok text := by
  refine ⟨fun s hrun => (travels_of_runOf hrun).2, fun s hpath => ?_⟩
  have hranked : Ranked documents s := (ranked_ofSettings settings documents).path hpath
  have hends : s.arena.Acyclic := hranked.acyclic hacyclic
  refine ⟨hends, fun id hid => ?_⟩
  obtain ⟨text, htext⟩ := hends.exists_spells hranked.wellFormed hid
  exact ⟨text, spellId_eq_ok_iff.mpr htext⟩

/-- Typedefs that each come down to one of lower rank do not reach themselves. -/
theorem not_alias_self (rank : String → Nat)
    (h : ∀ name root, AliasOf documents name root → rank root < rank name) (name : String) :
    ¬ TransGen (AliasOf documents) name name := by
  intro hcycle
  have hfalls : ∀ root, TransGen (AliasOf documents) name root → rank root < rank name := by
    intro root hwalk
    induction hwalk with
    | single halias => exact h _ _ halias
    | tail _ halias ih => exact (h _ _ halias).trans ih
  exact Nat.lt_irrefl _ (hfalls name hcycle)

/-- Two typedefs, the first of which is entered while the second is not known. -/
def aliasDocument : Metadata :=
  { typedefs := [
      { name := "ImHandle"
        info := { type := { kind := .pointer, inner := some { kind := .user, name := some "ImId" } } } },
      { name := "ImId", info := { type := { kind := .builtin, builtin := some "unsigned_int" } } }] }

theorem spelling_ends_aliases :
    (∀ name, ¬ TransGen (AliasOf [aliasDocument]) name name) ∧
      ((bindings "Native" aliasDocument).runOn (ofSettings {}).beginConfiguration).2.arena.Acyclic ∧
      ∃ text, ((bindings "Native" aliasDocument).runOn (ofSettings {}).beginConfiguration).2.spellId
        ⟨1⟩ = .ok text := by
  have hacyclic : ∀ name, ¬ TransGen (AliasOf [aliasDocument]) name name := by
    refine not_alias_self (fun name => if name = "ImHandle" then 1 else 0) fun name root halias => ?_
    obtain ⟨document, hdocument, item, hitem, rfl, hroot⟩ := halias
    obtain rfl := List.mem_singleton.mp hdocument
    rcases List.mem_cons.mp hitem with rfl | hitem
    · obtain rfl : "ImId" = root := Option.some.inj hroot
      decide
    · obtain rfl := List.mem_singleton.mp hitem
      exact absurd hroot (by simp [NativeType.rootName?])
  obtain ⟨hruns, hpoints⟩ := spelling_ends {} hacyclic
  have hrun := hruns _ (.next .start "Native" (List.mem_singleton_self aliasDocument))
  obtain ⟨hends, hspell⟩ := hpoints _ hrun
  exact ⟨hacyclic, hends, hspell ⟨1⟩ ⟨_, rfl⟩⟩

end Generate

end InteropGen

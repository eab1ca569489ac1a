import InteropGen.Proofs.Reading

/-!
# What settling makes of the types

`SettlesTo pairs s id text` says, of the symbols as they are when all is built, how a type is spelled once
the structs without members are erased and the pending forward references are bound. `spells_iff` shows
that it is spelled so afterwards, and in no other way. The argument needs that no reference dangles
(`Sound`): a type that is not there when all is built could be anything later.
-/

namespace InteropGen

/-- The entry that a type of a declaration refers to. -/
def TypeText.id? : TypeText → Option TypeId
  | plain _ => none
  | ref id | view id => some id

theorem Symbols.viewName?_congr {s s' : Symbols} (hsettings : s'.settings = s.settings)
    (henums : s'.enums = s.enums) : s'.viewName? = s.viewName? := by
  funext spelled
  unfold viewName?
  rw [hsettings, henums]

namespace Generate

open Build Decl Symbols

/-- The type is the one of a struct without members. -/
def Dropped (pairs : List (Layout × View)) (s : Symbols) (id : TypeId) : Prop :=
  ∃ name ∈ memberless pairs, s.types.find? name = some id

/-- The name is opaque, or the one of a struct without members. -/
def Hidden (pairs : List (Layout × View)) (s : Symbols) (name : String) : Prop :=
  name ∈ memberless pairs ∨ name ∈ s.opaqueStructs

/-- What a type that is there when all is built will be spelled as. -/
inductive SettlesTo (pairs : List (Layout × View)) (s : Symbols) : TypeId → String → Prop
  | erased {id name mark} (hget : s.arena.get? id = some (.named name mark))
      (h : mark = true ∨ Dropped pairs s id) : SettlesTo pairs s id s.settings.handle
  | named {id name} (hget : s.arena.get? id = some (.named name false))
      (h : ¬ Dropped pairs s id) : SettlesTo pairs s id name
  | pointer {id target text} (hget : s.arena.get? id = some (.pointer target))
      (h : SettlesTo pairs s target text) : SettlesTo pairs s id (s.arena.star text)
  | bound {id name target text} (hget : s.arena.get? id = some (.forward name (some target)))
      (h : SettlesTo pairs s target text) : SettlesTo pairs s id text
  | left {id name} (hget : s.arena.get? id = some (.forward name none)) (hid : id ∉ s.pending) :
      SettlesTo pairs s id name
  | hidden {id name} (hget : s.arena.get? id = some (.forward name none)) (hid : id ∈ s.pending)
      (h : Hidden pairs s name) : SettlesTo pairs s id s.settings.handle
  | known {id name target text} (hget : s.arena.get? id = some (.forward name none))
      (hid : id ∈ s.pending) (hname : ¬ Hidden pairs s name)
      (hfind : s.types.find? name = some target) (h : SettlesTo pairs s target text) :
      SettlesTo pairs s id text
  | unknown {id name} (hget : s.arena.get? id = some (.forward name none)) (hid : id ∈ s.pending)
      (hname : ¬ Hidden pairs s name) (hfind : s.types.find? name = none) : SettlesTo pairs s id name

/-- What a type of a declaration will be spelled as. -/
def TextSettlesTo (pairs : List (Layout × View)) (s : Symbols) : TypeText → String → Prop
  | .plain text, settled => settled = text
  | .ref id, settled => SettlesTo pairs s id settled
  | .view id, settled =>
    ∃ spelled, SettlesTo pairs s id spelled ∧ settled = (s.viewName? spelled).getD spelled

namespace Settles

variable {pairs : List (Layout × View)} {s erased s' : Symbols} {id : TypeId} {name text : String}

/-! ### Entries after settling -/

theorem hidden_iff (h : Settles pairs s erased s') :
    name ∈ s'.opaqueStructs ↔ Hidden pairs s name := by
  rw [h.binds.known, h.erases.known, Hidden]

/-- Settling changes only what is pending and the types of structs without members. -/
theorem kept {entry : TypeEntry} (h : Settles pairs s erased s')
    (hget : s.arena.get? id = some entry) (hpending : id ∉ s.pending)
    (hfull : ¬ Dropped pairs s id) : s'.arena.get? id = some entry := by
  rw [← h.erases.pending] at hpending
  refine h.binds.kept id hpending entry ?_
  by_contra hne
  exact hfull (h.erases.others id entry hget hne)

theorem get?_erased {mark : Bool} (h : Settles pairs s erased s')
    (hget : s.arena.get? id = some (.named name mark)) (herased : mark = true ∨ Dropped pairs s id) :
    s'.arena.get? id = some (.named name true) := by
  rcases herased with rfl | ⟨struct, hstruct, hfind⟩
  · exact h.keeps.arena.erased hget
  · exact h.binds.arena.erased (h.erases.erased struct hstruct id hfind name mark hget)

theorem get?_named (hs : s.Sound) (h : Settles pairs s erased s') {mark : Bool}
    (hget : s.arena.get? id = some (.named name mark)) (hfull : ¬ Dropped pairs s id) :
    s'.arena.get? id = some (.named name mark) := by
  refine h.kept hget (fun hid => ?_) hfull
  obtain ⟨other, hforward⟩ := hs.pending id hid
  rw [hget] at hforward
  simp at hforward

theorem get?_left (h : Settles pairs s erased s')
    (hget : s.arena.get? id = some (.forward name none)) (hid : id ∉ s.pending) :
    s'.arena.get? id = some (.forward name none) := by
  rw [← h.erases.pending] at hid
  exact h.binds.kept id hid _ (h.erases.forward id name none hget)

theorem get?_bound {target : TypeId} (h : Settles pairs s erased s')
    (hget : s.arena.get? id = some (.forward name (some target))) :
    s'.arena.get? id = some (.forward name (some target)) := by
  obtain ⟨entry, hget', hbecomes⟩ := h.keeps.arena.entries id _ hget
  cases hbecomes
  exact hget'

theorem get?_pending (h : Settles pairs s erased s')
    (hget : s.arena.get? id = some (.forward name none)) (hid : id ∈ s.pending)
    (hname : ¬ Hidden pairs s name) :
    s'.arena.get? id = some (.forward name (s.types.find? name)) := by
  obtain ⟨target, hbound, hbinds⟩ := h.bound hid hget
  rw [BindsTo, if_neg (h.hidden_iff.not.mpr hname), h.keeps.types] at hbinds
  rw [hbound, hbinds]

theorem spells_hidden (hs : s.Sound) (h : Settles pairs s erased s')
    (hget : s.arena.get? id = some (.forward name none)) (hid : id ∈ s.pending)
    (hname : Hidden pairs s name) : s'.arena.Spells id text ↔ text = s.settings.handle := by
  obtain ⟨target, hbound, hbinds⟩ := h.bound hid hget
  rw [BindsTo, if_pos (h.hidden_iff.mpr hname)] at hbinds
  obtain ⟨handle, rfl, hfind⟩ := hbinds
  rw [Arena.spells_bound hbound, ← spellId_eq_ok_iff, spellId_of_find? (h.keeps.sound hs) hfind,
    nameText_handle, h.keeps.settings, Except.ok.injEq]
  exact eq_comm

/-! ### Spellings after settling -/

theorem star_eq (h : Settles pairs s erased s') : s'.arena.star = s.arena.star := by
  funext text
  rw [Arena.star, Arena.star, h.keeps.arena.handle]

theorem settlesTo_of_spells (hs : s.Sound) (h : Settles pairs s erased s') (hid : s.arena.Has id)
    (hspells : s'.arena.Spells id text) : SettlesTo pairs s id text := by
  have hlast := h.keeps.sound hs
  obtain ⟨fuel, hfuel⟩ := hspells
  induction fuel generalizing id text with
  | zero => simp [Arena.spellWithin] at hfuel
  | succ fuel ih =>
    have hspells : s'.arena.Spells id text := ⟨_, hfuel⟩
    obtain ⟨entry, hget⟩ := hid
    rw [Arena.spellWithin] at hfuel
    rcases entry with ⟨name, mark⟩ | target | ⟨name, _ | target⟩
    · by_cases herased : mark = true ∨ Dropped pairs s id
      · rw [Arena.spells_named (h.get?_erased hget herased), if_pos rfl, hlast.handle,
          h.keeps.settings] at hspells
        exact hspells ▸ .erased hget herased
      · obtain ⟨hmark, hfull⟩ := not_or.mp herased
        obtain rfl : mark = false := by simpa using hmark
        rw [Arena.spells_named (h.get?_named hs hget hfull), if_neg (by simp)] at hspells
        exact hspells ▸ .named hget hfull
    · rw [h.keeps.arena.pointer hget] at hfuel
      obtain ⟨inner, hinner, rfl⟩ := Option.map_eq_some_iff.mp hfuel
      rw [h.star_eq]
      exact .pointer hget (ih (hs.arena.targets id _ target hget rfl) hinner)
    · by_cases hid : id ∈ s.pending
      · by_cases hname : Hidden pairs s name
        · rw [h.spells_hidden hs hget hid hname] at hspells
          exact hspells ▸ .hidden hget hid hname
        · have hbound := h.get?_pending hget hid hname
          rcases hfind : s.types.find? name with _ | target
          all_goals rw [hfind] at hbound
          · rw [Arena.spells_unbound hbound] at hspells
            exact hspells ▸ .unknown hget hid hname hfind
          · rw [hbound] at hfuel
            exact .known hget hid hname hfind (ih (hs.types name target hfind) hfuel)
      · rw [Arena.spells_unbound (h.get?_left hget hid)] at hspells
        exact hspells ▸ .left hget hid
    · rw [h.get?_bound hget] at hfuel
      exact .bound hget (ih (hs.arena.targets id _ target hget rfl) hfuel)

theorem spells_of_settlesTo (hs : s.Sound) (h : Settles pairs s erased s')
    (hspells : SettlesTo pairs s id text) : s'.arena.Spells id text := by
  have hlast := h.keeps.sound hs
  induction hspells with
  | erased hget herased =>
    rw [Arena.spells_named (h.get?_erased hget herased), if_pos rfl, hlast.handle, h.keeps.settings]
  | named hget hfull =>
    rw [Arena.spells_named (h.get?_named hs hget hfull), if_neg (by simp)]
  | pointer hget _ ih =>
    rw [Arena.spells_pointer (h.keeps.arena.pointer hget), h.star_eq]
    exact ⟨_, ih, rfl⟩
  | bound hget _ ih => exact (Arena.spells_bound (h.get?_bound hget)).mpr ih
  | left hget hid => rw [Arena.spells_unbound (h.get?_left hget hid)]
  | hidden hget hid hname => rw [h.spells_hidden hs hget hid hname]
  | known hget hid hname hfind _ ih =>
    have hbound := h.get?_pending hget hid hname
    rw [hfind] at hbound
    exact (Arena.spells_bound hbound).mpr ih
  | unknown hget hid hname hfind =>
    have hbound := h.get?_pending hget hid hname
    rw [hfind] at hbound
    rw [Arena.spells_unbound hbound]

/-- A type that is there when all is built is spelled in the end as it settles to. -/
theorem spells_iff (hs : s.Sound) (h : Settles pairs s erased s') (hid : s.arena.Has id) :
    s'.arena.Spells id text ↔ SettlesTo pairs s id text :=
  ⟨h.settlesTo_of_spells hs hid, h.spells_of_settlesTo hs⟩

theorem spell_iff {type : TypeText} (hs : s.Sound) (h : Settles pairs s erased s')
    (hid : ∀ id, type.id? = some id → s.arena.Has id) :
    s'.spell type = .ok text ↔ TextSettlesTo pairs s type text := by
  cases type with
  | plain plain =>
    rw [spell, TextSettlesTo, Except.ok.injEq]
    exact eq_comm
  | ref id => exact spellId_eq_ok_iff.trans (h.spells_iff hs (hid id rfl))
  | view id =>
    rw [spell, TextSettlesTo, except_bind_ok, viewName?_congr h.keeps.settings h.keeps.enums]
    refine exists_congr fun spelled => and_congr ?_ ?_
    · exact spellId_eq_ok_iff.trans (h.spells_iff hs (hid id rfl))
    · exact ⟨fun h => (Except.ok.inj h).symm, fun h => congrArg _ h.symm⟩

end Settles

end Generate

end InteropGen

import InteropGen.Proofs.Acyclic

/-!
# The leaves of types

Following pointees and bindings from a type ends at a leaf, a name or a forward reference that is not bound
(`Ends`), unless some type reaches itself. A type is spelled as its leaf with a star for each pointer on the way
(`KeepsWalks.spelling?_eq`), so that an operation on the arena is seen by just the types whose leaf it changes
(`acts_on_leaf`).

The arenas in question are those that operations lead to which take types that are there and close no circle
(`Reached`). In them every type has a leaf: the step lemma is `AllEnd.apply`, the run lemma `Reached.allEnd`. All
operations but a binding keep the walks of all types up to their leaves (`KeepsWalks`), and a binding keeps those that
do not come to the entry that it binds (`Ends.apart`).
-/

namespace InteropGen.Arena

open Relation

/-! ### Walks to a leaf -/

/-- The entry is a name. -/
def IsNamed (a : Arena) (id : TypeId) : Prop := ∃ name erased, a.get? id = some (.named name erased)

/-- The entry is a forward reference that is not bound. -/
def IsUnbound (a : Arena) (id : TypeId) : Prop := ∃ name, a.get? id = some (.forward name none)

/-- Following pointees and bindings ends at the leaf, with so many pointers on the way. -/
inductive Ends (a : Arena) : TypeId → TypeId → Nat → Prop
  | named {id} (h : a.IsNamed id) : Ends a id id 0
  | unbound {id} (h : a.IsUnbound id) : Ends a id id 0
  | bound {id name target leaf k} (h : a.get? id = some (.forward name (some target)))
      (rest : Ends a target leaf k) : Ends a id leaf k
  | pointer {id target leaf k} (h : a.get? id = some (.pointer target)) (rest : Ends a target leaf k) :
      Ends a id leaf (k + 1)

/-- A text with so many stars, put on one at a time; a text that is the handle takes none. -/
def starred (handle text : String) : Nat → String
  | 0 => text
  | k + 1 => if starred handle text k = handle then handle else starred handle text k ++ "*"

theorem starred_handle (handle : String) (k : Nat) : starred handle handle k = handle := by
  induction k with
  | zero => rfl
  | succ k ih => rw [starred, if_pos ih]

variable {a b : Arena} {id target leaf other i : TypeId} {k n : Nat} {name text handle : String} {erased : Bool}

theorem Ends.unique (h : a.Ends id leaf k) (h' : a.Ends id other n) : other = leaf ∧ n = k := by
  induction h generalizing n with
  | named hid =>
    obtain ⟨_, _, hget⟩ := hid
    cases h' with
    | named | unbound => exact ⟨rfl, rfl⟩
    | bound hget' | pointer hget' => simp [hget] at hget'
  | unbound hid =>
    obtain ⟨_, hget⟩ := hid
    cases h' with
    | named | unbound => exact ⟨rfl, rfl⟩
    | bound hget' | pointer hget' => simp [hget] at hget'
  | bound hget _ ih =>
    cases h' with
    | named hid =>
      obtain ⟨_, _, hget'⟩ := hid
      simp [hget] at hget'
    | unbound hid =>
      obtain ⟨_, hget'⟩ := hid
      simp [hget] at hget'
    | bound hget' rest =>
      simp only [hget, Option.some.injEq, TypeEntry.forward.injEq] at hget'
      exact ih (hget'.2 ▸ rest)
    | pointer hget' => simp [hget] at hget'
  | pointer hget _ ih =>
    cases h' with
    | named hid =>
      obtain ⟨_, _, hget'⟩ := hid
      simp [hget] at hget'
    | unbound hid =>
      obtain ⟨_, hget'⟩ := hid
      simp [hget] at hget'
    | bound hget' => simp [hget] at hget'
    | pointer hget' rest =>
      simp only [hget, Option.some.injEq, TypeEntry.pointer.injEq] at hget'
      obtain ⟨rfl, rfl⟩ := ih (hget' ▸ rest)
      exact ⟨rfl, rfl⟩

theorem Ends.leaf_cases (h : a.Ends id leaf k) : a.IsNamed leaf ∨ a.IsUnbound leaf := by
  induction h with
  | named hid => exact .inl hid
  | unbound hid => exact .inr hid
  | bound _ _ ih | pointer _ _ ih => exact ih

theorem Ends.leads (h : a.Ends id leaf k) : ReflTransGen a.Leads id leaf := by
  induction h with
  | named | unbound => exact .refl
  | bound hget _ ih => exact ih.head ⟨_, hget, rfl⟩
  | pointer hget _ ih => exact ih.head ⟨_, hget, rfl⟩

/-! ### Walks that an operation keeps -/

/-- Pointers and bound forward references go on to refer to what they did. -/
structure KeepsWalks (a b : Arena) : Prop where
  handle : b.handle = a.handle
  pointers : ∀ {id target}, a.get? id = some (.pointer target) → b.get? id = some (.pointer target)
  bindings : ∀ {id name target}, a.get? id = some (.forward name (some target)) →
    ∃ name, b.get? id = some (.forward name (some target))

theorem KeepsWalks.refl (a : Arena) : a.KeepsWalks a := ⟨rfl, id, fun h => ⟨_, h⟩⟩

theorem Extends.keepsWalks (h : Extends a b) : a.KeepsWalks b :=
  ⟨h.handle, fun hget => h.entries _ _ hget, fun hget => ⟨_, h.entries _ _ hget⟩⟩

/-- Where walks are kept, they go on from the leaf that they had. -/
theorem KeepsWalks.ends (h : a.KeepsWalks b) (hends : a.Ends id leaf k) (hleaf : b.Ends leaf other n) :
    b.Ends id other (n + k) := by
  induction hends with
  | named | unbound => exact hleaf
  | bound hget _ ih =>
    obtain ⟨name, hget'⟩ := h.bindings hget
    exact .bound hget' (ih hleaf)
  | pointer hget _ ih => exact .pointer (h.pointers hget) (ih hleaf)

/-- Where walks are kept, a type is spelled as the leaf that it had, with a star for each pointer on the way. -/
theorem KeepsWalks.spells (h : a.KeepsWalks b) (hends : a.Ends id leaf k) :
    b.Spells id text ↔ ∃ inner, b.Spells leaf inner ∧ text = starred a.handle inner k := by
  induction hends generalizing text with
  | named | unbound => simp [starred]
  | bound hget _ ih =>
    obtain ⟨name, hget'⟩ := h.bindings hget
    rw [spells_bound hget', ih]
  | pointer hget _ ih =>
    rw [spells_pointer (h.pointers hget)]
    constructor
    · rintro ⟨middle, hmiddle, rfl⟩
      obtain ⟨inner, hinner, rfl⟩ := ih.mp hmiddle
      exact ⟨inner, hinner, by rw [star, h.handle, starred]⟩
    · rintro ⟨inner, hinner, rfl⟩
      exact ⟨_, ih.mpr ⟨inner, hinner, rfl⟩, by rw [star, h.handle, starred]⟩

theorem KeepsWalks.spelling?_eq (h : a.KeepsWalks b) (hends : a.Ends id leaf k)
    (hleaf : b.spelling? leaf = some text) : b.spelling? id = some (starred a.handle text k) :=
  spelling?_eq_some_iff.mpr ((h.spells hends).mpr ⟨text, spelling?_eq_some_iff.mp hleaf, rfl⟩)

theorem spelling?_named (h : a.get? id = some (.named name erased)) :
    a.spelling? id = some (if erased then a.handle else name) :=
  spelling?_eq_some_iff.mpr ((spells_named h).mpr rfl)

theorem spelling?_unbound (h : a.get? id = some (.forward name none)) : a.spelling? id = some name :=
  spelling?_eq_some_iff.mpr ((spells_unbound h).mpr rfl)

/-- A type whose leaf is there has the spelling of the leaf, with stars. -/
theorem Ends.spelling? (h : a.Ends id leaf k) :
    ∃ text, a.spelling? leaf = some text ∧ a.spelling? id = some (starred a.handle text k) := by
  rcases h.leaf_cases with ⟨name, erased, hget⟩ | ⟨name, hget⟩
  · exact ⟨_, spelling?_named hget, (KeepsWalks.refl a).spelling?_eq h (spelling?_named hget)⟩
  · exact ⟨_, spelling?_unbound hget, (KeepsWalks.refl a).spelling?_eq h (spelling?_unbound hget)⟩

/-- If the entry of the leaf stays as well, so does the spelling. -/
theorem KeepsWalks.spelling?_frame (h : a.KeepsWalks b) (hends : a.Ends id leaf k)
    (hleaf : b.get? leaf = a.get? leaf) : b.spelling? id = a.spelling? id := by
  have hsame : b.spelling? leaf = a.spelling? leaf := by
    rcases hends.leaf_cases with ⟨name, erased, hget⟩ | ⟨name, hget⟩
    · rw [spelling?_named hget, spelling?_named (hleaf.trans hget), h.handle]
    · rw [spelling?_unbound hget, spelling?_unbound (hleaf.trans hget)]
  obtain ⟨text, htext, hid⟩ := hends.spelling?
  rw [hid, h.spelling?_eq hends (hsame.trans htext)]

/-! ### Operations that change an entry -/

theorem rename_of_ne (a : Arena) (h : id ≠ i) (name : String) : (a.rename i name).get? id = a.get? id :=
  get?_update_of_ne a h _

theorem erase_of_ne (a : Arena) (h : id ≠ i) : (a.erase i).get? id = a.get? id := get?_update_of_ne a h _

theorem keepsWalks_rename (a : Arena) (i : TypeId) (name : String) : a.KeepsWalks (a.rename i name) := by
  refine ⟨rfl, fun {id target} hget => ?_, fun {id old target} hget => ?_⟩
  · rcases eq_or_ne id i with rfl | hid
    · rw [rename, get?_update_self, hget]
      rfl
    · exact (a.rename_of_ne hid name).trans hget
  · rcases eq_or_ne id i with rfl | hid
    · exact ⟨name, by rw [rename, get?_update_self, hget]; rfl⟩
    · exact ⟨old, (a.rename_of_ne hid name).trans hget⟩

theorem keepsWalks_erase (a : Arena) (i : TypeId) : a.KeepsWalks (a.erase i) := by
  refine ⟨rfl, fun {id target} hget => ?_, fun hget => ⟨_, get?_erase_of_forward hget⟩⟩
  rcases eq_or_ne id i with rfl | hid
  · rw [erase, get?_update_self, hget]
    rfl
  · exact (a.erase_of_ne hid).trans hget

/-- Binding a forward reference that is not bound turns no reference to another target. -/
theorem keepsWalks_bind (hi : a.get? i = some (.forward name none)) (target : TypeId) :
    a.KeepsWalks (a.bind i target) := by
  have hother : ∀ {id entry next}, a.get? id = some entry → entry.target? = some next →
      (a.bind i target).get? id = some entry := by
    intro id entry next hget hnext
    rw [get?_bind_of_ne, hget]
    rintro rfl
    obtain rfl := Option.some.inj (hi.symm.trans hget)
    cases hnext
  exact ⟨rfl, fun hget => hother hget rfl, fun hget => ⟨_, hother hget rfl⟩⟩

/-- A walk that does not come to the only entry that changes is kept. -/
theorem Ends.apart (hsame : ∀ id, id ≠ i → b.get? id = a.get? id) (h : a.Ends id leaf k)
    (hi : ¬ ReflTransGen a.Leads id i) : b.Ends id leaf k := by
  induction h with
  | @named id hid =>
    obtain ⟨name, erased, hget⟩ := hid
    exact .named ⟨name, erased, (hsame id fun heq => hi (heq ▸ .refl)).trans hget⟩
  | @unbound id hid =>
    obtain ⟨name, hget⟩ := hid
    exact .unbound ⟨name, (hsame id fun heq => hi (heq ▸ .refl)).trans hget⟩
  | @bound id _ _ _ _ hget _ ih =>
    exact .bound ((hsame id fun heq => hi (heq ▸ .refl)).trans hget)
      (ih fun hrest => hi (hrest.head ⟨_, hget, rfl⟩))
  | @pointer id _ _ _ hget _ ih =>
    exact .pointer ((hsame id fun heq => hi (heq ▸ .refl)).trans hget)
      (ih fun hrest => hi (hrest.head ⟨_, hget, rfl⟩))

/-! ### Arenas that operations lead to -/

/-- An operation on an arena. -/
inductive Operation
  | named (name : String)
  | pointer (target : TypeId)
  | forward (name : String)
  | bind (id target : TypeId)
  | rename (id : TypeId) (name : String)
  | erase (id : TypeId)

/-- The arena after an operation. -/
def apply (a : Arena) : Operation → Arena
  | .named name => (a.named name).2
  | .pointer target => (a.pointer target).2
  | .forward name => (a.forward name).2
  | .bind id target => a.bind id target
  | .rename id name => a.rename id name
  | .erase id => a.erase id

/-- The operation takes types that are there, and it binds no reference to a type that leads back to it. -/
def Admits (a : Arena) : Operation → Prop
  | .named _ | .forward _ => True
  | .pointer target => a.Has target
  | .bind id target => a.Has id ∧ a.Has target ∧ (a.IsNamed id ∨ ¬ ReflTransGen a.Leads target id)
  | .rename id _ | .erase id => a.Has id

/-- The arenas that any number of operations without a cyclic binding lead to. -/
inductive Reached (handle : String) : Arena → Prop
  | start : Reached handle { handle := handle }
  | step {a : Arena} (h : Reached handle a) (operation : Operation) (hadmits : a.Admits operation) :
      Reached handle (a.apply operation)

theorem handle_apply (a : Arena) (operation : Operation) : (a.apply operation).handle = a.handle := by
  cases operation with
  | named name => exact (extends_named a name).handle
  | pointer target => exact (extends_pointer a target).handle
  | _ => rfl

theorem Reached.handle_eq (h : Reached handle a) : a.handle = handle := by
  induction h with
  | start => rfl
  | @step a _ operation _ ih => exact (handle_apply a operation).trans ih

/-- Every type that is there has a leaf. -/
def AllEnd (a : Arena) : Prop := ∀ id, a.Has id → ∃ leaf k, a.Ends id leaf k

/-- After an entry is added, the types that were there have the leaves that they had. -/
theorem Extends.ends (h : Extends a b) (hends : a.Ends id leaf k) : b.Ends id leaf k := by
  have hleaf : b.Ends leaf leaf 0 := by
    rcases hends.leaf_cases with ⟨name, erased, hget⟩ | ⟨name, hget⟩
    · exact .named ⟨name, erased, h.entries _ _ hget⟩
    · exact .unbound ⟨name, h.entries _ _ hget⟩
  exact Nat.zero_add k ▸ h.keepsWalks.ends hends hleaf

theorem AllEnd.push {new : TypeEntry} (h : a.AllEnd) (hext : Extends a b)
    (hentries : b.entries = a.entries.push new) (hnew : ∃ leaf k, b.Ends a.nextId leaf k) : b.AllEnd := by
  rintro id ⟨entry, hget⟩
  rcases get?_push hentries hget with ⟨rfl, -⟩ | hold
  · exact hnew
  · obtain ⟨leaf, k, hends⟩ := h id ⟨entry, hold⟩
    exact ⟨leaf, k, hext.ends hends⟩

theorem has_of_update {f : TypeEntry → TypeEntry} (h : (a.update i f).Has id) : a.Has id := by
  obtain ⟨entry, hget⟩ := h
  rcases eq_or_ne id i with rfl | hid
  · rw [get?_update_self] at hget
    obtain ⟨old, hold, -⟩ := Option.map_eq_some_iff.mp hget
    exact ⟨old, hold⟩
  · exact ⟨entry, (get?_update_of_ne a hid f).symm.trans hget⟩

/-- Where walks are kept and leaves stay what they are, every type still has a leaf. -/
theorem AllEnd.keeps {f : TypeEntry → TypeEntry} (h : a.AllEnd) (hwalks : a.KeepsWalks (a.update i f))
    (hnamed : ∀ name erased, ∃ name' erased', f (.named name erased) = .named name' erased')
    (hunbound : ∀ name, ∃ name', f (.forward name none) = .forward name' none) : (a.update i f).AllEnd := by
  intro id hid
  obtain ⟨leaf, k, hends⟩ := h id (has_of_update hid)
  refine ⟨leaf, 0 + k, hwalks.ends hends ?_⟩
  rcases hends.leaf_cases with ⟨name, erased, hget⟩ | ⟨name, hget⟩
  · refine .named ?_
    rcases eq_or_ne leaf i with rfl | hleaf
    · obtain ⟨name', erased', heq⟩ := hnamed name erased
      exact ⟨name', erased', by rw [get?_update_self, hget, Option.map_some, heq]⟩
    · exact ⟨name, erased, (get?_update_of_ne a hleaf f).trans hget⟩
  · refine .unbound ?_
    rcases eq_or_ne leaf i with rfl | hleaf
    · obtain ⟨name', heq⟩ := hunbound name
      exact ⟨name', by rw [get?_update_self, hget, Option.map_some, heq]⟩
    · exact ⟨name, (get?_update_of_ne a hleaf f).trans hget⟩

/-- An entry that is bound ends where its target does, and so do all walks that come to it. -/
theorem AllEnd.bind (h : a.AllEnd) (htarget : a.Has target) (hname : ¬ a.IsNamed i)
    (hi : ¬ ReflTransGen a.Leads target i) : (a.bind i target).AllEnd := by
  have hsame : ∀ id, id ≠ i → (a.bind i target).get? id = a.get? id := fun id hid => get?_bind_of_ne hid target
  obtain ⟨leaf, k, hends⟩ := h target htarget
  have hrest : (a.bind i target).Ends target leaf k := hends.apart hsame hi
  have hbound : ∀ {entry}, a.get? i = some entry → ∃ leaf k, (a.bind i target).Ends i leaf k := by
    intro entry hget
    cases entry with
    | named name erased => exact absurd ⟨name, erased, hget⟩ hname
    | pointer old => exact ⟨leaf, k + 1, .pointer (by rw [Arena.bind, get?_update_self, hget]; rfl) hrest⟩
    | forward name old => exact ⟨leaf, k, .bound (by rw [Arena.bind, get?_update_self, hget]; rfl) hrest⟩
  intro id hid
  obtain ⟨first, steps, hwalk⟩ := h id (has_of_update hid)
  clear hid
  induction hwalk with
  | @named id hid =>
    obtain ⟨name, erased, hget⟩ := hid
    rcases eq_or_ne id i with rfl | hne
    · exact hbound hget
    · exact ⟨id, 0, .named ⟨name, erased, (hsame id hne).trans hget⟩⟩
  | @unbound id hid =>
    obtain ⟨name, hget⟩ := hid
    rcases eq_or_ne id i with rfl | hne
    · exact hbound hget
    · exact ⟨id, 0, .unbound ⟨name, (hsame id hne).trans hget⟩⟩
  | @bound id _ _ _ _ hget _ ih =>
    rcases eq_or_ne id i with rfl | hne
    · exact hbound hget
    · obtain ⟨leaf, k, hnext⟩ := ih
      exact ⟨leaf, k, .bound ((hsame id hne).trans hget) hnext⟩
  | @pointer id _ _ _ hget _ ih =>
    rcases eq_or_ne id i with rfl | hne
    · exact hbound hget
    · obtain ⟨leaf, k, hnext⟩ := ih
      exact ⟨leaf, k + 1, .pointer ((hsame id hne).trans hget) hnext⟩

/-- A name stays what it is when it is bound. -/
theorem get?_bind_named (h : a.IsNamed i) (target id : TypeId) : (a.bind i target).get? id = a.get? id := by
  obtain ⟨name, erased, hget⟩ := h
  rcases eq_or_ne id i with rfl | hid
  · rw [Arena.bind, get?_update_self, hget]
    rfl
  · exact get?_bind_of_ne hid target

/-- An operation that closes no circle leaves every type with a leaf. -/
theorem AllEnd.apply (h : a.AllEnd) {operation : Operation} (hadmits : a.Admits operation) :
    (a.apply operation).AllEnd := by
  cases operation with
  | named name =>
    show (a.named name).2.AllEnd
    rcases named_cases a name with ⟨id, -, heq⟩ | ⟨-, heq⟩
    · rwa [heq]
    · have hnew : (a.named name).2.get? a.nextId = some (.named name false) := by simp [heq, get?, nextId]
      exact h.push (extends_named a name) (by rw [heq]) ⟨_, 0, .named ⟨name, false, hnew⟩⟩
  | pointer target =>
    show (a.pointer target).2.AllEnd
    rcases pointer_cases a target with ⟨id, -, heq⟩ | ⟨-, heq⟩
    · rwa [heq]
    · have hnew : (a.pointer target).2.get? a.nextId = some (.pointer target) := by simp [heq, get?, nextId]
      obtain ⟨leaf, k, hends⟩ := h target hadmits
      have hext := extends_pointer a target
      exact h.push hext (by rw [heq]) ⟨leaf, k + 1, .pointer hnew (hext.ends hends)⟩
  | forward name =>
    exact h.push (extends_forward a name) rfl ⟨_, 0, .unbound ⟨name, get?_forward_self a name⟩⟩
  | bind i target =>
    obtain ⟨-, htarget, hwhere⟩ := hadmits
    by_cases hname : a.IsNamed i
    · have hext : Extends a (a.bind i target) :=
        ⟨rfl, fun id _ hget => (get?_bind_named hname target id).trans hget, fun _ _ h => h, fun _ _ h => h⟩
      intro id hid
      obtain ⟨leaf, k, hends⟩ := h id (has_of_update hid)
      exact ⟨leaf, k, hext.ends hends⟩
    · exact h.bind htarget hname (hwhere.resolve_left hname)
  | rename i name =>
    exact h.keeps (keepsWalks_rename a i name) (fun _ erased => ⟨name, erased, rfl⟩) fun _ => ⟨name, rfl⟩
  | erase i => exact h.keeps (keepsWalks_erase a i) (fun name _ => ⟨name, true, rfl⟩) fun name => ⟨name, rfl⟩

theorem Reached.allEnd (h : Reached handle a) : a.AllEnd := by
  induction h with
  | start => exact fun id ⟨entry, hget⟩ => by simp [get?] at hget
  | step _ _ hadmits ih => exact ih.apply hadmits

/-! ### What operations do to a spelling -/

theorem spelling?_rename_leaf (hends : a.Ends id leaf k) (herased : ∀ name, a.get? leaf ≠ some (.named name true))
    (name : String) : (a.rename leaf name).spelling? id = some (starred a.handle name k) := by
  refine (keepsWalks_rename a leaf name).spelling?_eq hends ?_
  rcases hends.leaf_cases with ⟨old, erased, hget⟩ | ⟨old, hget⟩
  · cases erased with
    | true => exact absurd hget (herased old)
    | false =>
      have hnew : (a.rename leaf name).get? leaf = some (.named name false) := by
        rw [rename, get?_update_self, hget]
        rfl
      exact spelling?_named hnew
  · exact spelling?_unbound (by rw [rename, get?_update_self, hget]; rfl)

theorem spelling?_erase_leaf (hends : a.Ends id leaf k) (hname : a.IsNamed leaf) :
    (a.erase leaf).spelling? id = some a.handle := by
  obtain ⟨name, erased, hget⟩ := hname
  have hleaf : (a.erase leaf).spelling? leaf = some a.handle := spelling?_named (get?_erase_self hget)
  rw [(keepsWalks_erase a leaf).spelling?_eq hends hleaf, starred_handle]

/-- The target of a binding that closes no circle does not see the binding. -/
theorem spelling?_bind_leaf (h : a.AllEnd) (hends : a.Ends id leaf k)
    (hleaf : a.get? leaf = some (.forward name none)) (htarget : a.Has target)
    (hcircle : ¬ ReflTransGen a.Leads target leaf) :
    ∃ text, a.spelling? target = some text ∧
      (a.bind leaf target).spelling? id = some (starred a.handle text k) := by
  obtain ⟨last, n, hlast⟩ := h target htarget
  have hwalks := keepsWalks_bind hleaf target
  have hkept : (a.bind leaf target).spelling? target = a.spelling? target :=
    hwalks.spelling?_frame hlast (get?_bind_of_ne (by rintro rfl; exact hcircle hlast.leads) target)
  obtain ⟨text, -, htext⟩ := hlast.spelling?
  refine ⟨_, htext, hwalks.spelling?_eq hends ?_⟩
  rw [spelling?_eq_some_iff, spells_bound (get?_bind_self hleaf target), ← spelling?_eq_some_iff, hkept, htext]

/--
In an arena that operations without a cyclic binding have led to, every type that is there has one leaf, below a number
of pointers, and is spelled as the leaf with so many stars. Renaming a leaf that is not erased, erasing a name and
binding a forward reference change the spellings of the types that have this leaf, to the new text of the leaf with
the stars. All other types keep their spellings, and adding a type changes none.
-/
theorem acts_on_leaf (h : Reached handle a) (hid : a.Has id) :
    ∃ leaf k text, (∀ leaf' k', a.Ends id leaf' k' ↔ leaf' = leaf ∧ k' = k) ∧
      a.spelling? leaf = some text ∧ a.spelling? id = some (starred handle text k) ∧
      (∀ name, (a.named name).2.spelling? id = a.spelling? id) ∧
      (∀ target, (a.pointer target).2.spelling? id = a.spelling? id) ∧
      (∀ name, (a.forward name).2.spelling? id = a.spelling? id) ∧
      (∀ i name,
        (leaf = i → (∀ old, a.get? i ≠ some (.named old true)) →
          (a.rename i name).spelling? id = some (starred handle name k)) ∧
        (leaf ≠ i → (a.rename i name).spelling? id = a.spelling? id)) ∧
      (∀ i,
        (leaf = i → a.IsNamed i → (a.erase i).spelling? id = some handle) ∧
        (leaf ≠ i → (a.erase i).spelling? id = a.spelling? id)) ∧
      ∀ i target, a.IsUnbound i → a.Has target → ¬ ReflTransGen a.Leads target i →
        (leaf = i → ∃ text, a.spelling? target = some text ∧
          (a.bind i target).spelling? id = some (starred handle text k)) ∧
        (leaf ≠ i → (a.bind i target).spelling? id = a.spelling? id) := by
  obtain ⟨leaf, k, hends⟩ := h.allEnd id hid
  obtain ⟨text, hleaf, hspelled⟩ := hends.spelling?
  have hframe : ∀ {b : Arena}, Extends a b → b.spelling? id = a.spelling? id := fun {b} hext => by
    refine hext.keepsWalks.spelling?_frame hends ?_
    rcases hends.leaf_cases with ⟨name, erased, hget⟩ | ⟨name, hget⟩
    · rw [hget, hext.entries _ _ hget]
    · rw [hget, hext.entries _ _ hget]
  obtain rfl := h.handle_eq
  refine ⟨leaf, k, text, fun leaf' k' => ⟨hends.unique, ?_⟩, hleaf, hspelled, fun name => hframe (extends_named a name),
    fun target => hframe (extends_pointer a target), fun name => hframe (extends_forward a name), ?_, ?_, ?_⟩
  · rintro ⟨rfl, rfl⟩
    exact hends
  · refine fun i name => ⟨?_, fun hne => ?_⟩
    · rintro rfl herased
      exact spelling?_rename_leaf hends herased name
    · exact (keepsWalks_rename a i name).spelling?_frame hends (a.rename_of_ne hne name)
  · refine fun i => ⟨?_, fun hne => ?_⟩
    · rintro rfl hname
      exact spelling?_erase_leaf hends hname
    · exact (keepsWalks_erase a i).spelling?_frame hends (a.erase_of_ne hne)
  · rintro i target ⟨name, hget⟩ htarget hcircle
    refine ⟨?_, fun hne => ?_⟩
    · rintro rfl
      exact spelling?_bind_leaf h.allEnd hends hget htarget hcircle
    · exact (keepsWalks_bind hget target).spelling?_frame hends (get?_bind_of_ne hne target)

/-- A pointer to a pointer to a forward reference that is bound to another one, beside a name. -/
def chain : Arena :=
  [.named "ImFont", .forward "ImAtlas", .pointer ⟨1⟩, .forward "ImLater", .bind ⟨1⟩ ⟨3⟩, .pointer ⟨2⟩].foldl apply
    { handle := "IntPtr" }

/-- A walk from a leaf stays there. -/
theorem eq_of_leads (h : a.IsNamed id ∨ a.IsUnbound id) (hwalk : ReflTransGen a.Leads id other) : other = id := by
  cases hwalk.cases_head with
  | inl heq => exact heq.symm
  | inr hstep =>
    obtain ⟨next, ⟨entry, hget, hnext⟩, -⟩ := hstep
    rcases h with ⟨name, erased, hleaf⟩ | ⟨name, hleaf⟩
    all_goals
      obtain rfl := Option.some.inj (hleaf.symm.trans hget)
      cases hnext

theorem acts_on_leaf_chain :
    Reached "IntPtr" chain ∧ chain.Has ⟨4⟩ ∧ chain.IsUnbound ⟨3⟩ ∧ chain.Has ⟨0⟩ ∧
      ¬ ReflTransGen chain.Leads ⟨0⟩ ⟨3⟩ ∧ chain.spelling? ⟨4⟩ = some "ImLater**" ∧
      (chain.rename ⟨3⟩ "IntPtr").spelling? ⟨4⟩ = some "IntPtr" ∧
      (chain.bind ⟨3⟩ ⟨0⟩).spelling? ⟨4⟩ = some "ImFont**" ∧
      (chain.erase ⟨0⟩).spelling? ⟨4⟩ = some "ImLater**" := by
  have hstart := (Reached.start : Reached "IntPtr" _).step (.named "ImFont") trivial
  have hentered := ((hstart.step (.forward "ImAtlas") trivial).step (.pointer ⟨1⟩) ⟨_, rfl⟩).step
    (.forward "ImLater") trivial
  have hbound := hentered.step (.bind ⟨1⟩ ⟨3⟩)
    ⟨⟨_, rfl⟩, ⟨_, rfl⟩, .inr fun hwalk => by cases eq_of_leads (.inr ⟨_, rfl⟩) hwalk⟩
  have hreached : Reached "IntPtr" chain := hbound.step (.pointer ⟨2⟩) ⟨_, rfl⟩
  have hends : chain.Ends ⟨4⟩ ⟨3⟩ 2 := .pointer rfl (.pointer rfl (.bound rfl (.unbound ⟨_, rfl⟩)))
  have hlater : chain.get? ⟨3⟩ = some (.forward "ImLater" none) := rfl
  have hunbound : chain.IsUnbound ⟨3⟩ := ⟨"ImLater", hlater⟩
  have hcircle : ¬ ReflTransGen chain.Leads ⟨0⟩ ⟨3⟩ := fun hwalk => by
    cases eq_of_leads (.inl ⟨_, _, rfl⟩) hwalk
  have hid : chain.Has ⟨4⟩ := ⟨_, rfl⟩
  obtain ⟨leaf, k, text, hunique, hleaf, hspelled, -, -, -, hrename, herase, hbind⟩ := acts_on_leaf hreached hid
  obtain ⟨rfl, rfl⟩ := (hunique _ _).mp hends
  obtain rfl := Option.some.inj ((spelling?_unbound hlater).symm.trans hleaf)
  obtain ⟨font, hfont, hbind⟩ := (hbind ⟨3⟩ ⟨0⟩ hunbound ⟨_, rfl⟩ hcircle).1 rfl
  have hget : chain.get? ⟨0⟩ = some (.named "ImFont" false) := rfl
  obtain rfl := Option.some.inj ((spelling?_named hget).symm.trans hfont)
  refine ⟨hreached, hid, hunbound, ⟨_, rfl⟩, hcircle, hspelled, ?_, hbind, ?_⟩
  · rw [(hrename ⟨3⟩ "IntPtr").1 rfl (fun _ => by simp [hlater]), starred_handle]
  · rw [(herase ⟨0⟩).2 (by decide), hspelled]
    rfl

end InteropGen.Arena

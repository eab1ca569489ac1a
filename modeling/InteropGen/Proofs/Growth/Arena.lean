import InteropGen.Types.Arena

/-!
# How the arena grows

`Extends a b` says that entries are added to an arena and none is changed, as long as declarations are
built. `Evolves a b` says what may happen afterwards: a name may be erased and an unbound forward
reference bound. Both are preorders, so a fact about an entry that they keep holds from the moment
the entry is made.

`WellFormed a` says that the two tables of the arena tell the truth, a name and a pointer that were
entered are found under their numbers, and that every entry refers to one that is there.
-/

namespace InteropGen

/-- What an entry may become: a name may be erased, a forward reference bound. -/
inductive TypeEntry.Becomes : TypeEntry → TypeEntry → Prop
  | same (entry : TypeEntry) : Becomes entry entry
  | erased (name : String) : Becomes (.named name false) (.named name true)
  | bound (name : String) (target : TypeId) :
      Becomes (.forward name none) (.forward name (some target))

theorem TypeEntry.Becomes.trans {e₁ e₂ e₃ : TypeEntry} (h : e₁.Becomes e₂) (h' : e₂.Becomes e₃) :
    e₁.Becomes e₃ := by
  cases h with
  | same => exact h'
  | erased name =>
    cases h' with
    | same => exact .erased name
  | bound name target =>
    cases h' with
    | same => exact .bound name target

/-- The entry that an entry refers to. -/
def TypeEntry.target? : TypeEntry → Option TypeId
  | .named _ _ => none
  | .pointer target => some target
  | .forward _ bound => bound

namespace Arena

/-- The number is that of an entry. -/
def Has (a : Arena) (id : TypeId) : Prop := ∃ entry, a.get? id = some entry

/-- The tables of names and pointers lead to entries of what was looked up, and no entry dangles. -/
structure WellFormed (a : Arena) : Prop where
  names : ∀ name id, a.names.find? name = some id → ∃ erased, a.get? id = some (.named name erased)
  pointers : ∀ target id, a.pointers.lookup target = some id → a.get? id = some (.pointer target)
  targets : ∀ id entry target, a.get? id = some entry → entry.target? = some target → a.Has target

/-- Entries and table rows stay, and more may be added. -/
structure Extends (a b : Arena) : Prop where
  handle : b.handle = a.handle
  entries : ∀ id entry, a.get? id = some entry → b.get? id = some entry
  names : ∀ name id, a.names.find? name = some id → b.names.find? name = some id
  pointers : ∀ target id, a.pointers.lookup target = some id →
    b.pointers.lookup target = some id

/-- Entries and table rows stay, up to erasing names and binding forward references. -/
structure Evolves (a b : Arena) : Prop where
  handle : b.handle = a.handle
  entries : ∀ id entry, a.get? id = some entry → ∃ entry', b.get? id = some entry' ∧
    entry.Becomes entry'
  names : ∀ name id, a.names.find? name = some id → b.names.find? name = some id
  pointers : ∀ target id, a.pointers.lookup target = some id →
    b.pointers.lookup target = some id

variable {a b c : Arena} {id target : TypeId} {name : String}

theorem Extends.refl (a : Arena) : Extends a a :=
  ⟨rfl, fun _ _ h => h, fun _ _ h => h, fun _ _ h => h⟩

theorem Extends.trans (h : Extends a b) (h' : Extends b c) : Extends a c :=
  ⟨h'.handle.trans h.handle, fun id entry hget => h'.entries id entry (h.entries id entry hget),
    fun name id hfind => h'.names name id (h.names name id hfind),
    fun target id hfind => h'.pointers target id (h.pointers target id hfind)⟩

theorem Extends.evolves (h : Extends a b) : Evolves a b :=
  ⟨h.handle, fun id entry hget => ⟨entry, h.entries id entry hget, .same entry⟩, h.names,
    h.pointers⟩

theorem Evolves.refl (a : Arena) : Evolves a a := (Extends.refl a).evolves

theorem Evolves.trans (h : Evolves a b) (h' : Evolves b c) : Evolves a c := by
  refine ⟨h'.handle.trans h.handle, fun id entry hget => ?_,
    fun name id hfind => h'.names name id (h.names name id hfind),
    fun target id hfind => h'.pointers target id (h.pointers target id hfind)⟩
  obtain ⟨entry', hget', hbecomes⟩ := h.entries id entry hget
  obtain ⟨entry'', hget'', hbecomes'⟩ := h'.entries id entry' hget'
  exact ⟨entry'', hget'', hbecomes.trans hbecomes'⟩

theorem Evolves.has (h : Evolves a b) (hid : a.Has id) : b.Has id := by
  obtain ⟨entry, hget⟩ := hid
  obtain ⟨entry', hget', -⟩ := h.entries id entry hget
  exact ⟨entry', hget'⟩

theorem WellFormed.has_name (h : WellFormed a) (hfind : a.names.find? name = some id) : a.Has id :=
  let ⟨_, hget⟩ := h.names name id hfind
  ⟨_, hget⟩

theorem Evolves.pointer (h : Evolves a b) (hget : a.get? id = some (.pointer target)) :
    b.get? id = some (.pointer target) := by
  obtain ⟨entry, hget', hbecomes⟩ := h.entries id _ hget
  cases hbecomes
  exact hget'

theorem Evolves.named {erased : Bool} (h : Evolves a b)
    (hget : a.get? id = some (.named name erased)) :
    ∃ erased', b.get? id = some (.named name erased') := by
  obtain ⟨entry, hget', hbecomes⟩ := h.entries id _ hget
  cases hbecomes with
  | same => exact ⟨erased, hget'⟩
  | erased => exact ⟨true, hget'⟩

theorem Evolves.erased (h : Evolves a b) (hget : a.get? id = some (.named name true)) :
    b.get? id = some (.named name true) := by
  obtain ⟨entry, hget', hbecomes⟩ := h.entries id _ hget
  cases hbecomes
  exact hget'

/-- The number of the next entry is not in use. -/
theorem get?_nextId (a : Arena) : a.get? a.nextId = none := by
  simp [get?, nextId]

/-! ### Entering types -/

/-- After a push, an entry is the new one or one that was there. -/
theorem get?_push {new entry : TypeEntry} (hentries : b.entries = a.entries.push new)
    (hget : b.get? id = some entry) : (id = a.nextId ∧ entry = new) ∨ a.get? id = some entry := by
  rw [get?, hentries, Array.getElem?_push] at hget
  split at hget
  · next hindex =>
    refine .inl ⟨?_, (Option.some.inj hget).symm⟩
    cases id
    exact congrArg TypeId.mk hindex
  · exact .inr hget

/-- A new entry that refers to one that is there leaves nothing dangling. -/
theorem WellFormed.targets_push {new : TypeEntry} (h : WellFormed a) (hext : Extends a b)
    (hentries : b.entries = a.entries.push new)
    (hnew : ∀ target, new.target? = some target → a.Has target) {entry : TypeEntry}
    (hget : b.get? id = some entry) (htarget : entry.target? = some target) : b.Has target := by
  refine hext.evolves.has ?_
  rcases get?_push hentries hget with ⟨-, rfl⟩ | hold
  · exact hnew target htarget
  · exact h.targets id entry target hold htarget

theorem named_cases (a : Arena) (name : String) :
    (∃ id, a.names.find? name = some id ∧ a.named name = (id, a)) ∨
    (a.names.find? name = none ∧ a.named name = (a.nextId, { a with
      entries := a.entries.push (.named name false)
      names := a.names.insert name a.nextId })) := by
  cases h : a.names.find? name with
  | some id => exact .inl ⟨id, rfl, by simp [named, h]⟩
  | none => exact .inr ⟨rfl, by simp [named, h]⟩

theorem extends_named (a : Arena) (name : String) : Extends a (a.named name).2 := by
  rcases named_cases a name with ⟨id, -, heq⟩ | ⟨hnone, heq⟩
  · rw [heq]
    exact .refl a
  · refine ⟨by rw [heq], fun id entry h => a.get?_named name h, ?_, ?_⟩
    · intro other id hfind
      rw [heq]
      have hne : other ≠ name := by
        rintro rfl
        rw [hnone] at hfind
        simp at hfind
      exact (a.names.find?_insert_of_ne hne _).trans hfind
    · intro target id hfind
      rw [heq]
      exact hfind

theorem find?_named (a : Arena) (name : String) :
    (a.named name).2.names.find? name = some (a.named name).1 := by
  rcases named_cases a name with ⟨id, hfind, heq⟩ | ⟨-, heq⟩
  · rw [heq]
    exact hfind
  · rw [heq]
    exact a.names.find?_insert_self name _

theorem WellFormed.named (h : WellFormed a) (name : String) : WellFormed (a.named name).2 := by
  rcases named_cases a name with ⟨id, -, heq⟩ | ⟨-, heq⟩
  · rw [heq]
    exact h
  · have hkeep : ∀ id entry, a.get? id = some entry → (a.named name).2.get? id = some entry :=
      fun _ _ => a.get?_named name
    have hext := extends_named a name
    rw [heq] at hkeep hext ⊢
    refine ⟨?_, ?_, fun _ _ _ hget => h.targets_push hext rfl (by simp [TypeEntry.target?]) hget⟩
    · intro other id hfind
      by_cases hother : other = name
      · subst hother
        have hid : a.nextId = id := Option.some.inj
          ((a.names.find?_insert_self other a.nextId).symm.trans hfind)
        subst hid
        exact ⟨false, by simp [get?, nextId]⟩
      · have hfind' : a.names.find? other = some id :=
          (a.names.find?_insert_of_ne hother _).symm.trans hfind
        obtain ⟨erased, hget⟩ := h.names other id hfind'
        exact ⟨erased, hkeep id _ hget⟩
    · intro target id hfind
      exact hkeep id _ (h.pointers target id hfind)

theorem pointer_cases (a : Arena) (target : TypeId) :
    (∃ id, a.pointers.lookup target = some id ∧ a.pointer target = (id, a)) ∨
    (a.pointers.lookup target = none ∧ a.pointer target = (a.nextId, { a with
      entries := a.entries.push (.pointer target)
      pointers := (target, a.nextId) :: a.pointers })) := by
  cases h : a.pointers.lookup target with
  | some id => exact .inl ⟨id, rfl, by simp [pointer, h]⟩
  | none => exact .inr ⟨rfl, by simp [pointer, h]⟩

theorem extends_pointer (a : Arena) (target : TypeId) : Extends a (a.pointer target).2 := by
  rcases pointer_cases a target with ⟨id, -, heq⟩ | ⟨hnone, heq⟩
  · rw [heq]
    exact .refl a
  · refine ⟨by rw [heq], fun id entry h => a.get?_pointer target h, ?_, ?_⟩
    · intro name id hfind
      rw [heq]
      exact hfind
    · intro other id hfind
      rw [heq]
      have hne : (other == target) = false := by
        rw [beq_eq_false_iff_ne]
        rintro rfl
        rw [hnone] at hfind
        simp at hfind
      simp only [List.lookup_cons, hne]
      exact hfind

theorem WellFormed.pointer (h : WellFormed a) (htarget : a.Has target) :
    WellFormed (a.pointer target).2 := by
  rcases pointer_cases a target with ⟨id, -, heq⟩ | ⟨-, heq⟩
  · rw [heq]
    exact h
  · have hkeep : ∀ id entry, a.get? id = some entry → (a.pointer target).2.get? id = some entry :=
      fun _ _ => a.get?_pointer target
    have hext := extends_pointer a target
    rw [heq] at hkeep hext ⊢
    refine ⟨?_, ?_, fun _ _ _ hget => h.targets_push hext rfl (fun other hother => ?_) hget⟩
    · intro name id hfind
      obtain ⟨erased, hget⟩ := h.names name id hfind
      exact ⟨erased, hkeep id _ hget⟩
    · intro other id hfind
      by_cases hother : other = target
      · subst hother
        have hid : a.nextId = id := by simpa [List.lookup_cons] using hfind
        subst hid
        simp [get?, nextId]
      · have hne : (other == target) = false := by simpa using hother
        simp only [List.lookup_cons, hne] at hfind
        exact hkeep id _ (h.pointers other id hfind)
    · obtain rfl := Option.some.inj hother
      exact htarget

theorem lookup_pointer (a : Arena) (target : TypeId) :
    (a.pointer target).2.pointers.lookup target = some (a.pointer target).1 := by
  rcases pointer_cases a target with ⟨id, hfind, heq⟩ | ⟨-, heq⟩
  · rw [heq]
    exact hfind
  · rw [heq]
    simp

theorem extends_forward (a : Arena) (name : String) : Extends a (a.forward name).2 :=
  ⟨rfl, fun _ _ h => a.get?_forward name h, fun _ _ h => h, fun _ _ h => h⟩

theorem WellFormed.forward (h : WellFormed a) (name : String) : WellFormed (a.forward name).2 := by
  refine ⟨?_, ?_, fun _ _ _ hget => h.targets_push (extends_forward a name) rfl
    (by simp [TypeEntry.target?]) hget⟩
  · intro other id hfind
    obtain ⟨erased, hget⟩ := h.names other id hfind
    exact ⟨erased, a.get?_forward name hget⟩
  · intro target id hfind
    exact a.get?_forward name (h.pointers target id hfind)

theorem get?_forward_self (a : Arena) (name : String) :
    (a.forward name).2.get? (a.forward name).1 = some (.forward name none) := by
  simp [forward, get?, nextId]

/-! ### Changing entries -/

/-- A change of one entry that only erases or binds is an evolution. -/
theorem evolves_update {f : TypeEntry → TypeEntry}
    (h : ∀ entry, a.get? id = some entry → entry.Becomes (f entry)) :
    Evolves a (a.update id f) := by
  refine ⟨rfl, fun other entry hget => ?_, fun _ _ hfind => hfind, fun _ _ hfind => hfind⟩
  by_cases hother : other = id
  · subst hother
    exact ⟨f entry, by rw [get?_update_self, hget]; rfl, h entry hget⟩
  · exact ⟨entry, by rw [get?_update_of_ne a hother, hget], .same entry⟩

theorem WellFormed.update {f : TypeEntry → TypeEntry} (hwf : WellFormed a)
    (hev : Evolves a (a.update id f))
    (htarget : ∀ entry target, a.get? id = some entry → (f entry).target? = some target →
      a.Has target) : WellFormed (a.update id f) := by
  refine ⟨?_, ?_, ?_⟩
  · intro name other hfind
    obtain ⟨erased, hget⟩ := hwf.names name other hfind
    exact hev.named hget
  · intro target other hfind
    exact hev.pointer (hwf.pointers target other hfind)
  · intro other entry target hget hentry
    refine hev.has ?_
    by_cases hother : other = id
    · subst hother
      rw [get?_update_self] at hget
      obtain ⟨old, hold, rfl⟩ := Option.map_eq_some_iff.mp hget
      exact htarget old target hold hentry
    · rw [get?_update_of_ne a hother] at hget
      exact hwf.targets other entry target hget hentry

theorem evolves_erase (a : Arena) (id : TypeId) : Evolves a (a.erase id) := by
  refine evolves_update fun entry _ => ?_
  rcases entry with ⟨name, _ | _⟩ | target | ⟨name, bound⟩
  · exact .erased name
  all_goals exact .same _

theorem WellFormed.erase (h : WellFormed a) (id : TypeId) : WellFormed (a.erase id) := by
  refine h.update (a.evolves_erase id) fun entry target hget hentry =>
    h.targets id entry target hget ?_
  cases entry with
  | named => simp [TypeEntry.target?] at hentry
  | pointer => exact hentry
  | forward => exact hentry

/-- Erasing changes nothing but names. -/
theorem get?_erase_of_forward {other : TypeId} {bound : Option TypeId}
    (h : a.get? other = some (.forward name bound)) :
    (a.erase id).get? other = some (.forward name bound) := by
  by_cases hother : other = id
  · subst hother
    rw [erase, get?_update_self, h]
    rfl
  · rw [erase, get?_update_of_ne a hother, h]

theorem get?_erase_self {erased : Bool} (h : a.get? id = some (.named name erased)) :
    (a.erase id).get? id = some (.named name true) := by
  rw [erase, get?_update_self, h]
  rfl

theorem get?_bind_self (h : a.get? id = some (.forward name none)) (target : TypeId) :
    (a.bind id target).get? id = some (.forward name (some target)) := by
  rw [bind, get?_update_self, h]
  rfl

theorem get?_bind_of_ne {other : TypeId} (h : other ≠ id) (target : TypeId) :
    (a.bind id target).get? other = a.get? other :=
  get?_update_of_ne a h _

theorem evolves_bind (h : a.get? id = some (.forward name none)) (target : TypeId) :
    Evolves a (a.bind id target) := by
  refine evolves_update fun entry hget => ?_
  rw [h] at hget
  obtain rfl := Option.some.inj hget
  exact .bound name target

theorem WellFormed.bind (hwf : WellFormed a) (h : a.get? id = some (.forward name none))
    (htarget : a.Has target) : WellFormed (a.bind id target) := by
  refine hwf.update (evolves_bind h target) fun entry other hget hentry => ?_
  rw [h] at hget
  obtain rfl := Option.some.inj hget
  obtain rfl := Option.some.inj hentry
  exact htarget

end Arena

end InteropGen

import InteropGen.Table

/-!
# The type arena

C# types live in an arena and are referred to by number. An entry is a name, a pointer to another
entry, or a forward reference that may be bound to an entry later, so that a rename, an erasure or
a binding is seen by everything built on the entry. A spelling is the text of a type as the arena
stands; it is missing exactly for a type that reaches itself.
-/

namespace InteropGen

/-- The number of an entry in the arena. -/
structure TypeId where
  index : Nat
  deriving DecidableEq, Repr

instance : Inhabited TypeId := ⟨⟨0⟩⟩

/-- An entry of the arena. An erased name is spelled as the opaque handle. -/
inductive TypeEntry
  | named (name : String) (erased : Bool)
  | pointer (target : TypeId)
  | forward (name : String) (target : Option TypeId)
  deriving DecidableEq, Repr

instance : Inhabited TypeEntry := ⟨.named "" false⟩

/--
Types by number. Names and pointers are entered once each: `names` and `pointers` remember under
which number. `handle` is the type that stands for pointers to opaque structs.
-/
structure Arena where
  handle : String
  entries : Array TypeEntry := #[]
  names : Table TypeId := {}
  pointers : List (TypeId × TypeId) := []

namespace Arena

/-- The number of the next entry. -/
def nextId (a : Arena) : TypeId := ⟨a.entries.size⟩

/-- The entry of a number. -/
def get? (a : Arena) (id : TypeId) : Option TypeEntry := a.entries[id.index]?

/-- Changes the entry of a number. -/
def update (a : Arena) (id : TypeId) (f : TypeEntry → TypeEntry) : Arena :=
  { a with entries := a.entries.modify id.index f }

@[simp] theorem size_update (a : Arena) (id : TypeId) (f : TypeEntry → TypeEntry) :
    (a.update id f).entries.size = a.entries.size := by
  simp [update]

theorem get?_update_self (a : Arena) (id : TypeId) (f : TypeEntry → TypeEntry) :
    (a.update id f).get? id = (a.get? id).map f := by
  simp [update, get?, Array.getElem?_modify]

theorem get?_update_of_ne (a : Arena) {id other : TypeId} (h : other ≠ id)
    (f : TypeEntry → TypeEntry) : (a.update id f).get? other = a.get? other := by
  have hne : id.index ≠ other.index := by
    intro e
    apply h
    cases id
    cases other
    simp_all
  simp [update, get?, Array.getElem?_modify, hne]

/-! ## Entering types -/

/-- The number of a name, entering it if it is new. -/
def named (a : Arena) (name : String) : TypeId × Arena :=
  match a.names.find? name with
  | some id => (id, a)
  | none =>
    (a.nextId, { a with
      entries := a.entries.push (.named name false)
      names := a.names.insert name a.nextId })

/-- The number of the pointer to an entry, entering it if it is new. -/
def pointer (a : Arena) (target : TypeId) : TypeId × Arena :=
  match a.pointers.lookup target with
  | some id => (id, a)
  | none =>
    (a.nextId, { a with
      entries := a.entries.push (.pointer target)
      pointers := (target, a.nextId) :: a.pointers })

/-- The number of a new forward reference. -/
def forward (a : Arena) (name : String) : TypeId × Arena :=
  (a.nextId, { a with entries := a.entries.push (.forward name none) })

/-- Entering a name keeps the entries that are there. -/
theorem get?_named (a : Arena) (name : String) {id : TypeId} {entry : TypeEntry}
    (h : a.get? id = some entry) : (a.named name).2.get? id = some entry := by
  unfold named
  split
  · exact h
  · obtain ⟨hlt, -⟩ := Array.getElem?_eq_some_iff.mp h
    simpa [get?, Array.getElem?_push, Nat.ne_of_lt hlt] using h

/-- Entering a pointer keeps the entries that are there. -/
theorem get?_pointer (a : Arena) (target : TypeId) {id : TypeId} {entry : TypeEntry}
    (h : a.get? id = some entry) : (a.pointer target).2.get? id = some entry := by
  unfold pointer
  split
  · exact h
  · obtain ⟨hlt, -⟩ := Array.getElem?_eq_some_iff.mp h
    simpa [get?, Array.getElem?_push, Nat.ne_of_lt hlt] using h

/-- Entering a forward reference keeps the entries that are there. -/
theorem get?_forward (a : Arena) (name : String) {id : TypeId} {entry : TypeEntry}
    (h : a.get? id = some entry) : (a.forward name).2.get? id = some entry := by
  obtain ⟨hlt, -⟩ := Array.getElem?_eq_some_iff.mp h
  simpa [forward, get?, Array.getElem?_push, Nat.ne_of_lt hlt] using h

/-! ## Changing entries -/

/-- Binds a forward reference to an entry, or turns a pointer to it; a name stays what it is. -/
def bind (a : Arena) (id target : TypeId) : Arena :=
  a.update id fun
    | .named name erased => .named name erased
    | .pointer _ => .pointer target
    | .forward name _ => .forward name (some target)

/-- Gives a name or a forward reference another name. -/
def rename (a : Arena) (id : TypeId) (name : String) : Arena :=
  a.update id fun
    | .named _ erased => .named name erased
    | .pointer target => .pointer target
    | .forward _ target => .forward name target

/-- Erases a name: from now on it is spelled as the handle. -/
def erase (a : Arena) (id : TypeId) : Arena :=
  a.update id fun
    | .named name _ => .named name true
    | entry => entry

/-! ## Spelling -/

/-- The name that a forward reference stands for, and the name of a named entry. -/
def fallbackName (a : Arena) (id : TypeId) : String :=
  match a.get? id with
  | some (.named name _) => name
  | some (.forward name _) => name
  | _ => ""

/-- The spelling of a pointer to a spelled type; the handle already is a pointer. -/
def star (a : Arena) (spelled : String) : String :=
  if spelled = a.handle then a.handle else spelled ++ "*"

/-- The spelling of an entry, going through at most `fuel` entries. -/
def spellWithin (a : Arena) : Nat → TypeId → Option String
  | 0, _ => none
  | fuel + 1, id =>
    match a.get? id with
    | some (.named name erased) => some (if erased then a.handle else name)
    | some (.forward name none) => some name
    | some (.forward _ (some target)) => a.spellWithin fuel target
    | some (.pointer target) => (a.spellWithin fuel target).map a.star
    | none => none

/-- More fuel keeps a spelling. -/
theorem spellWithin_mono (a : Arena) {n m : Nat} (hle : n ≤ m) {id : TypeId} {text : String}
    (h : a.spellWithin n id = some text) : a.spellWithin m id = some text := by
  induction n generalizing m id text with
  | zero => simp [spellWithin] at h
  | succ n ih =>
    obtain ⟨m, rfl⟩ : ∃ k, m = k + 1 := ⟨m - 1, by omega⟩
    have hle : n ≤ m := by omega
    unfold spellWithin at h ⊢
    split at h
    · exact h
    · exact h
    · exact ih hle h
    · obtain ⟨inner, hinner, rfl⟩ := Option.map_eq_some_iff.mp h
      simp [ih hle hinner]
    · exact absurd h (by simp)

/-- The spelling of a type, unless the type reaches itself. -/
def spelling? (a : Arena) (id : TypeId) : Option String := a.spellWithin a.entries.size id

end Arena

end InteropGen

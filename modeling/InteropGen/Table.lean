/-!
# Tables

Look-up tables with text keys that remember the order in which their keys were first put in.
Putting a key again replaces its value where it stands. `find?_insert_self` and
`find?_insert_of_ne` say what a put does to a look-up, `keys_insert` what it does to the keys.
-/

namespace InteropGen

/-- Pairs of key and value, in order of first insertion. -/
structure Table (α : Type) where
  entries : List (String × α) := []
  deriving Repr

namespace Table

variable {α : Type}

/-- The value of the first pair with the key. -/
def lookupIn (key : String) : List (String × α) → Option α
  | [] => none
  | (k, v) :: rest => if k = key then some v else lookupIn key rest

theorem lookupIn_cons_self (key : String) (value : α) (rest : List (String × α)) :
    lookupIn key ((key, value) :: rest) = some value := if_pos rfl

theorem lookupIn_cons_of_ne {key k : String} (h : k ≠ key) (value : α) (rest : List (String × α)) :
    lookupIn key ((k, value) :: rest) = lookupIn key rest := if_neg h

/-- Replaces the value of the first pair with the key, or adds a pair at the end. -/
def putIn (key : String) (value : α) : List (String × α) → List (String × α)
  | [] => [(key, value)]
  | (k, v) :: rest => if k = key then (k, value) :: rest else (k, v) :: putIn key value rest

/-- The table without keys. -/
def empty : Table α := ⟨[]⟩

instance : Inhabited (Table α) := ⟨empty⟩

/-- The value of a key. -/
def find? (t : Table α) (key : String) : Option α := lookupIn key t.entries

/-- Is the key in the table? -/
def contains (t : Table α) (key : String) : Bool := (t.find? key).isSome

/-- Gives a key a value; a key that is already there keeps its place. -/
def insert (t : Table α) (key : String) (value : α) : Table α := ⟨putIn key value t.entries⟩

/-- Gives a key a value unless it has one. -/
def insertNew (t : Table α) (key : String) (value : α) : Table α :=
  if t.contains key then t else t.insert key value

/-- The keys in order of first insertion. -/
def keys (t : Table α) : List String := t.entries.map (·.1)

/-- The values in the order of their keys. -/
def values (t : Table α) : List α := t.entries.map (·.2)

/-- Puts the pairs in one after the other. -/
def insertAll (t : Table α) (pairs : List (String × α)) : Table α :=
  pairs.foldl (fun t pair => t.insert pair.1 pair.2) t

/-- The table of some pairs; of pairs with one key the last value stays. -/
def ofList (pairs : List (String × α)) : Table α := empty.insertAll pairs

/-! ## Look-ups after a put -/

theorem lookupIn_putIn_self (key : String) (value : α) (l : List (String × α)) :
    lookupIn key (putIn key value l) = some value := by
  induction l with
  | nil => simp [putIn, lookupIn]
  | cons p l ih => by_cases h : p.1 = key <;> simp [putIn, lookupIn, h, ih]

theorem lookupIn_putIn_of_ne {key other : String} (h : other ≠ key) (value : α)
    (l : List (String × α)) : lookupIn other (putIn key value l) = lookupIn other l := by
  induction l with
  | nil => simp [putIn, lookupIn, h.symm]
  | cons p l ih =>
    by_cases hk : p.1 = key
    · simp [putIn, lookupIn, hk, h.symm]
    · simp [putIn, lookupIn, hk, ih]

@[simp] theorem find?_empty (key : String) : (empty : Table α).find? key = none := rfl

@[simp] theorem find?_insert_self (t : Table α) (key : String) (value : α) :
    (t.insert key value).find? key = some value :=
  lookupIn_putIn_self key value t.entries

theorem find?_insert_of_ne (t : Table α) {key other : String} (h : other ≠ key) (value : α) :
    (t.insert key value).find? other = t.find? other :=
  lookupIn_putIn_of_ne h value t.entries

theorem contains_iff {t : Table α} {key : String} :
    t.contains key = true ↔ ∃ value, t.find? key = some value :=
  Option.isSome_iff_exists

/-- A key that is there keeps its value. -/
theorem insertNew_of_contains {t : Table α} {key : String} (h : t.contains key = true)
    (value : α) : t.insertNew key value = t := by
  simp [insertNew, h]

theorem find?_insertNew_self (t : Table α) (key : String) (value : α) :
    (t.insertNew key value).find? key = some ((t.find? key).getD value) := by
  unfold insertNew
  split
  · next h =>
    obtain ⟨old, hold⟩ := contains_iff.mp h
    simp [hold]
  · next h =>
    have hnone : t.find? key = none := by simpa [contains] using h
    simp [hnone]

theorem find?_insertNew_of_ne (t : Table α) {key other : String} (h : other ≠ key) (value : α) :
    (t.insertNew key value).find? other = t.find? other := by
  unfold insertNew
  split
  · rfl
  · exact find?_insert_of_ne t h value

/-! ## Keys after a put -/

theorem contains_insert_self (t : Table α) (key : String) (value : α) :
    (t.insert key value).contains key = true :=
  contains_iff.mpr ⟨value, t.find?_insert_self key value⟩

/-- A key stays whatever is put in. -/
theorem contains_insert {t : Table α} {key : String} (h : t.contains key = true) (other : String)
    (value : α) : (t.insert other value).contains key = true := by
  by_cases hkey : key = other
  · exact hkey ▸ contains_insert_self t key value
  · obtain ⟨old, hold⟩ := contains_iff.mp h
    exact contains_iff.mpr ⟨old, (t.find?_insert_of_ne hkey value).trans hold⟩

theorem map_fst_putIn (key : String) (value : α) (l : List (String × α)) :
    (putIn key value l).map (·.1) =
      if key ∈ l.map (·.1) then l.map (·.1) else l.map (·.1) ++ [key] := by
  induction l with
  | nil => simp [putIn]
  | cons p l ih =>
    by_cases h : p.1 = key
    · simp [putIn, h]
    · have h' : key ≠ p.1 := fun e => h e.symm
      simp only [putIn, h, if_false, List.map_cons, ih, List.mem_cons, h', false_or]
      split <;> simp

theorem mem_keys_iff {t : Table α} {key : String} :
    key ∈ t.keys ↔ t.contains key = true := by
  obtain ⟨entries⟩ := t
  induction entries with
  | nil => simp [keys, contains, find?, lookupIn]
  | cons p entries ih =>
    by_cases h : p.1 = key
    · simp [keys, contains, find?, lookupIn, h]
    · have h' : key ≠ p.1 := fun e => h e.symm
      simpa [keys, contains, find?, lookupIn, h, h'] using ih

theorem keys_insert (t : Table α) (key : String) (value : α) :
    (t.insert key value).keys = if key ∈ t.keys then t.keys else t.keys ++ [key] :=
  map_fst_putIn key value t.entries

theorem nodup_keys_insert {t : Table α} (h : t.keys.Nodup) (key : String) (value : α) :
    (t.insert key value).keys.Nodup := by
  rw [keys_insert]
  split
  · exact h
  · next hkey =>
    refine List.nodup_append.mpr ⟨h, by simp, fun old hold new hnew => ?_⟩
    obtain rfl := List.mem_singleton.mp hnew
    rintro rfl
    exact hkey hold

/-- Where no key comes twice, every value is the one of a key. -/
theorem exists_find?_eq {t : Table α} {value : α} (h : t.keys.Nodup) (hmem : value ∈ t.values) :
    ∃ key, t.find? key = some value := by
  obtain ⟨entries⟩ := t
  induction entries with
  | nil => simp [values] at hmem
  | cons p entries ih =>
    obtain ⟨hfirst, hrest⟩ := List.nodup_cons.mp h
    rcases List.mem_cons.mp hmem with rfl | hmem
    · exact ⟨p.1, by simp [find?, lookupIn]⟩
    · obtain ⟨key, hkey⟩ := ih hrest hmem
      have hne : p.1 ≠ key := by
        rintro rfl
        exact hfirst (mem_keys_iff.mpr (contains_iff.mpr ⟨value, hkey⟩))
      exact ⟨key, by simpa [find?, lookupIn, hne] using hkey⟩

end Table

end InteropGen

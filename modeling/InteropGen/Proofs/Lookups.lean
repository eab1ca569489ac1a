import InteropGen.Table

/-!
# Look-ups in tables

What a row of puts leaves in a table: its keys (`contains_insertAll`) and, where no key is put in twice, the value of
each (`find?_insertAll`). A look-up finds a pair that is there (`mem_of_lookupIn`), and where no key comes twice every
pair that is there (`lookupIn_of_mem`), so that the order of the pairs does not matter (`lookupIn_perm`).
-/

namespace InteropGen

namespace Table

variable {α : Type} {t : Table α} {name : String} {pairs pairs' : List (String × α)}

theorem contains_eq_false_iff : t.contains name = false ↔ t.find? name = none := by
  rw [contains, Option.isSome_eq_false_iff, Option.isNone_iff_eq_none]

theorem contains_insert_iff (t : Table α) (key : String) (value : α) :
    (t.insert key value).contains name = true ↔ name = key ∨ t.contains name = true := by
  rw [← mem_keys_iff, ← mem_keys_iff, keys_insert]
  split
  · next h =>
    constructor
    · exact .inr
    · rintro (rfl | hmem)
      · exact h
      · exact hmem
  · rw [List.mem_append, List.mem_singleton, or_comm]

/-- The keys after a row of puts are those before and those put in. -/
theorem contains_insertAll (t : Table α) (pairs : List (String × α)) :
    (t.insertAll pairs).contains name = true ↔ name ∈ pairs.map (·.1) ∨ t.contains name = true := by
  induction pairs generalizing t with
  | nil => simp [insertAll]
  | cons pair pairs ih =>
    show ((t.insert pair.1 pair.2).insertAll pairs).contains name = true ↔ _
    rw [ih, contains_insert_iff, List.map_cons, List.mem_cons]
    constructor
    · rintro (h | h | h)
      · exact .inl (.inr h)
      · exact .inl (.inl h)
      · exact .inr h
    · rintro ((h | h) | h)
      · exact .inr (.inl h)
      · exact .inl h
      · exact .inr (.inr h)

theorem insertAll_append (t : Table α) (pairs pairs' : List (String × α)) :
    t.insertAll (pairs ++ pairs') = (t.insertAll pairs).insertAll pairs' :=
  List.foldl_append

theorem nodup_keys_insertAll {t : Table α} (h : t.keys.Nodup) (pairs : List (String × α)) :
    (t.insertAll pairs).keys.Nodup := by
  induction pairs generalizing t with
  | nil => exact h
  | cons pair pairs ih => exact ih (nodup_keys_insert h pair.1 pair.2)

theorem lookupIn_of_notMem (h : name ∉ pairs.map (·.1)) : lookupIn name pairs = none := by
  induction pairs with
  | nil => rfl
  | cons pair pairs ih =>
    rw [List.map_cons, List.mem_cons, not_or] at h
    exact (lookupIn_cons_of_ne (Ne.symm h.1) pair.2 pairs).trans (ih h.2)

/-- Where no key is put in twice, a look-up afterwards finds what was put in, and else what was there. -/
theorem find?_insertAll (t : Table α) (h : (pairs.map (·.1)).Nodup) (name : String) :
    (t.insertAll pairs).find? name = (lookupIn name pairs).or (t.find? name) := by
  induction pairs generalizing t with
  | nil => rfl
  | cons pair pairs ih =>
    obtain ⟨hfirst, hothers⟩ := List.nodup_cons.mp h
    show ((t.insert pair.1 pair.2).insertAll pairs).find? name = _
    rw [ih _ hothers]
    by_cases hname : pair.1 = name
    · subst hname
      rw [lookupIn_of_notMem hfirst, find?_insert_self, lookupIn_cons_self]
      rfl
    · rw [find?_insert_of_ne t (Ne.symm hname), lookupIn_cons_of_ne hname]

theorem mem_of_lookupIn {value : α} (h : lookupIn name pairs = some value) : (name, value) ∈ pairs := by
  induction pairs with
  | nil => cases h
  | cons pair pairs ih =>
    by_cases hname : pair.1 = name
    · subst hname
      rw [lookupIn_cons_self] at h
      obtain rfl := Option.some.inj h
      exact List.mem_cons_self
    · rw [lookupIn_cons_of_ne hname] at h
      exact List.mem_cons_of_mem _ (ih h)

theorem lookupIn_of_mem {value : α} (h : (pairs.map (·.1)).Nodup) (hmem : (name, value) ∈ pairs) :
    lookupIn name pairs = some value := by
  induction pairs with
  | nil => cases hmem
  | cons pair pairs ih =>
    obtain ⟨hfirst, hothers⟩ := List.nodup_cons.mp h
    rcases List.mem_cons.mp hmem with rfl | hmem
    · exact lookupIn_cons_self name value pairs
    · have hne : pair.1 ≠ name := by
        rintro rfl
        exact hfirst (List.mem_map.mpr ⟨_, hmem, rfl⟩)
      rw [lookupIn_cons_of_ne hne, ih hothers hmem]

/-- Where no key comes twice, a look-up does not depend on the order. -/
theorem lookupIn_perm (h : (pairs.map (·.1)).Nodup) (hperm : pairs.Perm pairs') (name : String) :
    lookupIn name pairs = lookupIn name pairs' := by
  have h' : (pairs'.map (·.1)).Nodup := (hperm.map (·.1)).nodup_iff.mp h
  cases hfind : lookupIn name pairs with
  | some value => exact (lookupIn_of_mem h' (hperm.mem_iff.mp (mem_of_lookupIn hfind))).symm
  | none =>
    cases hfind' : lookupIn name pairs' with
    | none => rfl
    | some value =>
      rw [lookupIn_of_mem h (hperm.mem_iff.mpr (mem_of_lookupIn hfind'))] at hfind
      cases hfind

end Table

end InteropGen

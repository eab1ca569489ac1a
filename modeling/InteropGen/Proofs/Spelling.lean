import InteropGen.Types.Spelling
import Mathlib.Data.Fintype.Card

/-!
# What a type is spelled as

`Arena.Spells a id text` says that following targets from an entry comes to an end and gives the
text. One lemma for each form of an entry says what that means, so that no later proof counts steps:
`spelling?_eq_some_iff` shows that the fuel of `Arena.spelling?`, one step for each entry, is always
enough. The argument is a pigeonhole one. An entry that needs exactly `n` steps has below it one that
needs exactly `k` steps for every `k` from one to `n`; they are `n` entries of the arena.
-/

namespace InteropGen

namespace Arena

variable {a : Arena} {id target : TypeId} {text : String}

/-- The entry is spelled as the text. -/
def Spells (a : Arena) (id : TypeId) (text : String) : Prop :=
  ∃ fuel, a.spellWithin fuel id = some text

/-! ### Spelling by the form of the entry -/

theorem Spells.unique {other : String} (h : a.Spells id text) (h' : a.Spells id other) :
    text = other := by
  obtain ⟨n, hn⟩ := h
  obtain ⟨m, hm⟩ := h'
  have hn' := a.spellWithin_mono (Nat.le_max_left n m) hn
  rw [a.spellWithin_mono (Nat.le_max_right n m) hm] at hn'
  exact (Option.some.inj hn').symm

theorem Spells.exists_entry (h : a.Spells id text) : ∃ entry, a.get? id = some entry := by
  obtain ⟨n, hn⟩ := h
  cases n with
  | zero => simp [spellWithin] at hn
  | succ n =>
    cases hget : a.get? id with
    | none =>
      rw [spellWithin, hget] at hn
      simp at hn
    | some entry => exact ⟨entry, rfl⟩

theorem spells_named {name : String} {erased : Bool} (h : a.get? id = some (.named name erased)) :
    a.Spells id text ↔ text = if erased then a.handle else name := by
  constructor
  · rintro ⟨n, hn⟩
    cases n with
    | zero => simp [spellWithin] at hn
    | succ n =>
      rw [spellWithin, h] at hn
      exact (Option.some.inj hn).symm
  · rintro rfl
    exact ⟨1, by rw [spellWithin, h]⟩

/-- A forward reference that is not bound keeps the name it stands for. -/
theorem spells_unbound {name : String} (h : a.get? id = some (.forward name none)) :
    a.Spells id text ↔ text = name := by
  constructor
  · rintro ⟨n, hn⟩
    cases n with
    | zero => simp [spellWithin] at hn
    | succ n =>
      rw [spellWithin, h] at hn
      exact (Option.some.inj hn).symm
  · rintro rfl
    exact ⟨1, by rw [spellWithin, h]⟩

theorem spells_bound {name : String} (h : a.get? id = some (.forward name (some target))) :
    a.Spells id text ↔ a.Spells target text := by
  constructor
  · rintro ⟨n, hn⟩
    cases n with
    | zero => simp [spellWithin] at hn
    | succ n =>
      rw [spellWithin, h] at hn
      exact ⟨n, hn⟩
  · rintro ⟨n, hn⟩
    exact ⟨n + 1, by rw [spellWithin, h]; exact hn⟩

theorem spells_pointer (h : a.get? id = some (.pointer target)) :
    a.Spells id text ↔ ∃ inner, a.Spells target inner ∧ text = a.star inner := by
  constructor
  · rintro ⟨n, hn⟩
    cases n with
    | zero => simp [spellWithin] at hn
    | succ n =>
      rw [spellWithin, h] at hn
      obtain ⟨inner, hinner, rfl⟩ := Option.map_eq_some_iff.mp hn
      exact ⟨inner, ⟨n, hinner⟩, rfl⟩
  · rintro ⟨inner, ⟨n, hn⟩, rfl⟩
    refine ⟨n + 1, ?_⟩
    rw [spellWithin, h]
    simp [hn]

@[simp] theorem star_handle (a : Arena) : a.star a.handle = a.handle := by simp [star]

/-! ### Enough steps -/

/-- The entry has a spelling after exactly so many steps and none after fewer. -/
def Needs (a : Arena) (steps : Nat) (id : TypeId) : Prop :=
  (a.spellWithin steps id).isSome ∧ ∀ fewer < steps, a.spellWithin fewer id = none

theorem Needs.unique {n m : Nat} (hn : a.Needs n id) (hm : a.Needs m id) : n = m := by
  rcases Nat.lt_trichotomy n m with hlt | rfl | hlt
  · have := hn.1
    rw [hm.2 n hlt] at this
    simp at this
  · rfl
  · have := hm.1
    rw [hn.2 m hlt] at this
    simp at this

theorem Needs.index_lt {n : Nat} (h : a.Needs n id) : id.index < a.entries.size := by
  obtain ⟨text, htext⟩ := Option.isSome_iff_exists.mp h.1
  obtain ⟨entry, hentry⟩ := Spells.exists_entry ⟨n, htext⟩
  exact (Array.getElem?_eq_some_iff.mp hentry).1

theorem exists_needs {fuel : Nat} (h : a.spellWithin fuel id = some text) :
    ∃ n ≤ fuel, a.Needs n id := by
  have hex : ∃ n, (a.spellWithin n id).isSome := ⟨fuel, by rw [h]; rfl⟩
  refine ⟨Nat.find hex, Nat.find_min' hex (by rw [h]; rfl), Nat.find_spec hex, fun m hm => ?_⟩
  simpa using Nat.find_min hex hm

/-- The target of an entry needs one step less. -/
theorem Needs.exists_target {n : Nat} (h : a.Needs (n + 2) id) : ∃ target, a.Needs (n + 1) target := by
  obtain ⟨text, htext⟩ := Option.isSome_iff_exists.mp h.1
  have hfew := h.2 (n + 1) (by omega)
  rw [spellWithin] at htext hfew
  rcases hentry : a.get? id with _ | ⟨name, erased⟩ | target | ⟨name, _ | target⟩
  · rw [hentry] at htext
    simp at htext
  · rw [hentry] at hfew
    simp at hfew
  · rw [hentry] at htext hfew
    obtain ⟨inner, hinner, -⟩ := Option.map_eq_some_iff.mp htext
    refine ⟨target, by rw [hinner]; rfl, fun m hm => ?_⟩
    have hnone : a.spellWithin n target = none := by simpa using hfew
    rw [Option.eq_none_iff_forall_ne_some] at hnone ⊢
    intro other hother
    exact hnone other (a.spellWithin_mono (by omega) hother)
  · rw [hentry] at hfew
    simp at hfew
  · rw [hentry] at htext hfew
    change a.spellWithin (n + 1) target = some text at htext
    refine ⟨target, by rw [htext]; rfl, fun m hm => ?_⟩
    have hnone : a.spellWithin n target = none := hfew
    rw [Option.eq_none_iff_forall_ne_some] at hnone ⊢
    intro other hother
    exact hnone other (a.spellWithin_mono (by omega) hother)

theorem Needs.exists_below {n k : Nat} (h : a.Needs n id) (hk : 0 < k) (hle : k ≤ n) :
    ∃ below, a.Needs k below := by
  induction n generalizing id with
  | zero => omega
  | succ n ih =>
    by_cases heq : k = n + 1
    · subst heq
      exact ⟨id, h⟩
    · obtain ⟨n, rfl⟩ : ∃ m, n = m + 1 := ⟨n - 1, by omega⟩
      obtain ⟨target, htarget⟩ := h.exists_target
      exact ih htarget (by omega)

/-- No entry needs more steps than there are entries. -/
theorem Needs.le_size {n : Nat} (h : a.Needs n id) : n ≤ a.entries.size := by
  have hbelow : ∀ k : Fin n, ∃ below, a.Needs (k.val + 1) below := fun k =>
    h.exists_below (by omega) (by omega)
  choose below hneeds using hbelow
  let place : Fin n → Fin a.entries.size := fun k => ⟨(below k).index, (hneeds k).index_lt⟩
  have hplace : Function.Injective place := by
    intro i j hij
    have hindex : (below i).index = (below j).index := congrArg Fin.val hij
    have hsame : below i = below j := by
      cases hi : below i
      cases hj : below j
      rw [hi, hj] at hindex
      exact congrArg TypeId.mk hindex
    have hsteps := (hneeds i).unique (hsame ▸ hneeds j)
    exact Fin.ext (by omega)
  simpa using Fintype.card_le_of_injective place hplace

/-- A type has a spelling exactly if following its targets comes to an end. -/
theorem spelling?_eq_some_iff : a.spelling? id = some text ↔ a.Spells id text := by
  constructor
  · intro h
    exact ⟨_, h⟩
  · rintro ⟨fuel, hfuel⟩
    obtain ⟨n, -, hneeds⟩ := exists_needs hfuel
    obtain ⟨other, hother⟩ := Option.isSome_iff_exists.mp hneeds.1
    rw [Spells.unique ⟨fuel, hfuel⟩ ⟨n, hother⟩]
    exact a.spellWithin_mono hneeds.le_size hother

end Arena

namespace Symbols

theorem spellId_eq_ok_iff {s : Symbols} {id : TypeId} {text : String} :
    s.spellId id = .ok text ↔ s.arena.Spells id text := by
  rw [← Arena.spelling?_eq_some_iff, spellId]
  cases s.arena.spelling? id with
  | none => simp
  | some spelled => simp

/-- Entries with the same spellings are spelled with the same outcome. -/
theorem spellId_congr {s s' : Symbols} {id id' : TypeId}
    (h : ∀ text, s.arena.Spells id text ↔ s'.arena.Spells id' text) :
    s.spellId id = s'.spellId id' := by
  have hopt : s.arena.spelling? id = s'.arena.spelling? id' := by
    apply Option.ext
    intro text
    rw [Arena.spelling?_eq_some_iff, Arena.spelling?_eq_some_iff]
    exact h text
  rw [spellId, spellId, hopt]

end Symbols

end InteropGen

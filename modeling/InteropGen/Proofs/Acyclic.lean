import InteropGen.Proofs.Growth.Arena
import InteropGen.Proofs.Spelling
import Mathlib.Data.Fintype.EquivFin
import Mathlib.Logic.Relation
import Mathlib.Order.WellFounded

/-!
# Types that do not reach themselves

`Arena.Leads a id target` says that the entry of `id` refers to `target`, as a pointer or as a bound
forward reference. An arena is acyclic if no walk along `Leads` comes back to where it started, and
then every type that is there has a spelling (`Acyclic.exists_spells`). The induction is on the walk
itself: a relation without a cycle on finitely many numbers is well-founded.
-/

namespace InteropGen.Arena

/-- The entry of the first number refers to the second number. -/
def Leads (a : Arena) (id target : TypeId) : Prop :=
  ∃ entry, a.get? id = some entry ∧ entry.target? = some target

/-- No walk from target to target comes back to the type that it started from. -/
def Acyclic (a : Arena) : Prop := ∀ id, ¬ Relation.TransGen a.Leads id id

variable {a : Arena} {id target : TypeId}

theorem Leads.index_lt (h : a.Leads id target) : id.index < a.entries.size := by
  obtain ⟨entry, hget, -⟩ := h
  exact (Array.getElem?_eq_some_iff.mp hget).1

/-- Walks against the direction of `Leads` end, since there are finitely many entries. -/
theorem Acyclic.wellFounded (h : a.Acyclic) : WellFounded fun target id => a.Leads id target := by
  let walks : Fin a.entries.size → Fin a.entries.size → Prop := fun stop start =>
    Relation.TransGen a.Leads ⟨start.val⟩ ⟨stop.val⟩
  have htrans : IsTrans _ walks := ⟨fun _ _ _ h₁ h₂ => h₂.trans h₁⟩
  have hirrefl : Std.Irrefl walks := ⟨fun i hi => h ⟨i.val⟩ hi⟩
  have hwf : WellFounded walks := Finite.wellFounded_of_trans_of_irrefl walks
  have hinside : ∀ i : Fin a.entries.size, Acc (fun target id => a.Leads id target) ⟨i.val⟩ := by
    intro i
    induction i using hwf.induction with
    | _ i ih =>
      refine ⟨_, fun target hleads => ?_⟩
      by_cases htarget : target.index < a.entries.size
      · exact ih ⟨target.index, htarget⟩ (.single hleads)
      · exact ⟨_, fun other hother => absurd hother.index_lt htarget⟩
  refine ⟨fun id => ⟨_, fun target hleads => ?_⟩⟩
  by_cases htarget : target.index < a.entries.size
  · exact hinside ⟨target.index, htarget⟩
  · exact ⟨_, fun other hother => absurd hother.index_lt htarget⟩

/-- A type that is there has a spelling, unless some type reaches itself. -/
theorem Acyclic.exists_spells (h : a.Acyclic) (hwf : a.WellFormed) (hid : a.Has id) :
    ∃ text, a.Spells id text := by
  induction id using h.wellFounded.induction with
  | _ id ih =>
    obtain ⟨entry, hget⟩ := hid
    have htarget : ∀ target, entry.target? = some target → ∃ text, a.Spells target text :=
      fun target hentry => ih target ⟨entry, hget, hentry⟩ (hwf.targets id entry target hget hentry)
    rcases entry with ⟨name, erased⟩ | target | ⟨name, _ | target⟩
    · exact ⟨_, (spells_named hget).mpr rfl⟩
    · obtain ⟨inner, hinner⟩ := htarget target rfl
      exact ⟨_, (spells_pointer hget).mpr ⟨inner, hinner, rfl⟩⟩
    · exact ⟨_, (spells_unbound hget).mpr rfl⟩
    · obtain ⟨text, htext⟩ := htarget target rfl
      exact ⟨text, (spells_bound hget).mpr htext⟩

end InteropGen.Arena

import InteropGen.Proofs.Constants
import Mathlib.Data.List.Forall2

/-!
# Defines under several guards do not see each other

A document may list its defines under two or more guards in another order among their own places (`Reordered`).
`deep_defines_unordered` says that the constants have the same names then, that the same defines are left out and
the same names are known afterwards, and, if no name comes twice among those defines, that the constants and what
is known of every name are the same too.

Two runs are compared group by group. A group that both have in one order keeps the runs alike step by step
(`SameNames.addDefine`, `SameValues.addDefine`); the group in another order gives what each of its defines gives
on its own (`foldl_deep`), which does not depend on the order.
-/

namespace InteropGen

namespace Generate

open Metadata

variable {s s' : Symbols} {run run' : ConstantRun} {define : Define} {defines defines' : List Define}
  {depth : Nat}

/-- The lists differ in the order of the defines with so many guards, among the places of such defines. -/
structure Reordered (depth : Nat) (defines defines' : List Define) : Prop where
  places : List.Forall₂ (fun define define' => define = define' ∨
    define.guards.length = depth ∧ define'.guards.length = depth) defines defines'
  perm : defines.Perm defines'

/-- The defines with so many guards. -/
def guardedBy (depth : Nat) (defines : List Define) : List Define :=
  defines.filter fun define => define.guards.length = depth

namespace Reordered

theorem guardDepths_eq (h : Reordered depth defines defines') :
    guardDepths defines = guardDepths defines' := by
  obtain ⟨hplaces, -⟩ := h
  have hlengths : (defines.map fun define => define.guards.length) =
      defines'.map fun define => define.guards.length := by
    induction hplaces with
    | nil => rfl
    | cons hfirst _ ih =>
      rw [List.map_cons, List.map_cons, ih]
      rcases hfirst with rfl | ⟨hdepth, hdepth'⟩
      · rfl
      · rw [hdepth, hdepth']
  rw [guardDepths, guardDepths, hlengths]

theorem guardedBy_eq (h : Reordered depth defines defines') {other : Nat} (hother : other ≠ depth) :
    guardedBy other defines = guardedBy other defines' := by
  obtain ⟨hplaces, -⟩ := h
  induction hplaces with
  | nil => rfl
  | @cons define define' rest rest' hfirst _ ih =>
    rcases hfirst with rfl | ⟨hdepth, hdepth'⟩
    · by_cases hlength : define.guards.length = other
      · rw [guardedBy, guardedBy, List.filter_cons_of_pos (by simpa), List.filter_cons_of_pos (by simpa)]
        exact congrArg (define :: ·) ih
      · rw [guardedBy, guardedBy, List.filter_cons_of_neg (by simpa), List.filter_cons_of_neg (by simpa)]
        exact ih
    · have hne : define.guards.length ≠ other := fun heq => hother (heq.symm.trans hdepth)
      have hne' : define'.guards.length ≠ other := fun heq => hother (heq.symm.trans hdepth')
      rw [guardedBy, guardedBy, List.filter_cons_of_neg (by simpa), List.filter_cons_of_neg (by simpa)]
      exact ih

theorem guardedBy_perm (h : Reordered depth defines defines') :
    (guardedBy depth defines).Perm (guardedBy depth defines') :=
  h.perm.filter _

end Reordered

/-! ### The same names -/

/-- Two runs agree in the names of their constants and in those that are known, and in what they leave out. -/
structure SameNames (run run' : ConstantRun) : Prop where
  constants : ∀ name, name ∈ run.constants.map (·.head.name) ↔ name ∈ run'.constants.map (·.head.name)
  skipped : run.symbols.skipped.Perm run'.symbols.skipped
  defines : ∀ name, run.symbols.isDefined name = run'.symbols.isDefined name
  discovered : ∀ name, run.discovered.contains name = run'.discovered.contains name

namespace SameNames

theorem refl (run : ConstantRun) : SameNames run run :=
  ⟨fun _ => Iff.rfl, .refl _, fun _ => rfl, fun _ => rfl⟩

theorem admits (h : SameNames run run') (define : Define) :
    run.symbols.admits define.guards = run'.symbols.admits define.guards :=
  Symbols.admits_congr h.defines _

theorem addDefine (h : SameNames run run') (deep : Bool) (define : Define) :
    SameNames (run.addDefine deep define) (run'.addDefine deep define) := by
  have hputs : ∀ {t t' : Table (Option String × String)}, (∀ name, t.contains name = t'.contains name) →
      ∀ name, (t.insertAll [knownEntry run.symbols define]).contains name =
        (t'.insertAll [knownEntry run'.symbols define]).contains name := by
    intro t t' ht name
    rw [Bool.eq_iff_iff, Table.contains_insertAll, Table.contains_insertAll, ht, List.map_singleton,
      List.map_singleton, fst_knownEntry, fst_knownEntry]
  cases hadmits : run.symbols.admits define.guards with
  | false =>
    have hadmits' := (h.admits define).symm.trans hadmits
    rw [ConstantRun.addDefine_left hadmits, ConstantRun.addDefine_left hadmits']
    exact ⟨h.constants, h.skipped.append_right _, h.defines, h.discovered⟩
  | true =>
    have hadmits' := (h.admits define).symm.trans hadmits
    rw [ConstantRun.addDefine_admitted hadmits, ConstantRun.addDefine_admitted hadmits']
    have hconstants : ∀ name,
        name ∈ (addNew run.constants (constantOf run.symbols define)).map (·.head.name) ↔
          name ∈ (addNew run'.constants (constantOf run'.symbols define)).map (·.head.name) := by
      intro name
      rw [mem_names_addNew, mem_names_addNew, h.constants, name_constantOf, name_constantOf]
    cases deep with
    | true => exact ⟨hconstants, h.skipped, h.defines, hputs h.discovered⟩
    | false => exact ⟨hconstants, h.skipped, hputs h.defines, h.discovered⟩

theorem publish (h : SameNames run run') : SameNames run.publish run'.publish := by
  refine ⟨h.constants, h.skipped, fun name => ?_, fun _ => rfl⟩
  show (run.symbols.defines.insertAll run.discovered.entries).contains name =
    (run'.symbols.defines.insertAll run'.discovered.entries).contains name
  rw [Bool.eq_iff_iff, Table.contains_insertAll, Table.contains_insertAll]
  have hdiscovered : name ∈ run.discovered.keys ↔ name ∈ run'.discovered.keys := by
    rw [Table.mem_keys_iff, Table.mem_keys_iff, h.discovered]
  have hdefines : run.symbols.defines.contains name = run'.symbols.defines.contains name := h.defines name
  rw [hdefines]
  exact or_congr_left hdiscovered

theorem admittedOf_perm (h : SameNames run run') (hperm : defines.Perm defines') :
    (admittedOf run.symbols defines).Perm (admittedOf run'.symbols defines') := by
  have hsame : admittedOf run.symbols defines = admittedOf run'.symbols defines :=
    List.filter_congr fun define _ => h.admits define
  rw [hsame]
  exact hperm.filter _

theorem leftRecords_perm (h : SameNames run run') (hperm : defines.Perm defines') :
    (leftRecords run.symbols defines).Perm (leftRecords run'.symbols defines') := by
  have hsame : leftRecords run.symbols defines = leftRecords run'.symbols defines := by
    unfold leftRecords
    simp only [h.admits]
  rw [hsame]
  exact (hperm.filter _).map _

/-- A group that becomes known at its end keeps the runs alike in any order. -/
theorem deepGroup (h : SameNames run run') (hperm : defines.Perm defines') :
    SameNames (defines.foldl (ConstantRun.addDefine true) run)
      (defines'.foldl (ConstantRun.addDefine true) run') := by
  have hadmitted := h.admittedOf_perm hperm
  rw [foldl_deep, foldl_deep]
  refine ⟨fun name => ?_, h.skipped.append (h.leftRecords_perm hperm), h.defines, fun name => ?_⟩
  · have hnames : ∀ (t : Symbols) (l : List Define),
        (l.map (constantOf t)).map (·.head.name) = l.map (·.name) := by
      intro t l
      rw [List.map_map]
      exact List.map_congr_left fun define _ => name_constantOf t define
    rw [mem_names_foldl_addNew, mem_names_foldl_addNew, h.constants, hnames, hnames,
      (hadmitted.map (·.name)).mem_iff]
  · have hnames : ∀ (t : Symbols) (l : List Define), (l.map (knownEntry t)).map (·.1) = l.map (·.name) := by
      intro t l
      rw [List.map_map]
      exact List.map_congr_left fun define _ => fst_knownEntry t define
    rw [Bool.eq_iff_iff, Table.contains_insertAll, Table.contains_insertAll, h.discovered, hnames, hnames,
      (hadmitted.map (·.name)).mem_iff]

theorem addGroup (h : SameNames run run') (hdepth : 2 ≤ depth) (hreordered : Reordered depth defines defines')
    (other : Nat) : SameNames (run.addGroup defines other) (run'.addGroup defines' other) := by
  refine publish ?_
  show SameNames ((guardedBy other defines).foldl _ run) ((guardedBy other defines').foldl _ run')
  by_cases hother : other = depth
  · subst hother
    have hdeep : decide (2 ≤ other) = true := decide_eq_true hdepth
    rw [hdeep]
    exact h.deepGroup hreordered.guardedBy_perm
  · rw [hreordered.guardedBy_eq hother]
    generalize guardedBy other defines' = group
    induction group generalizing run run' with
    | nil => exact h
    | cons define rest ih => exact ih (h.addDefine _ define)

end SameNames

/-! ### The same values -/

/-- Two runs agree in their constants, but for the order, and in what is known of every name. -/
structure SameValues (run run' : ConstantRun) : Prop where
  constants : run.constants.Perm run'.constants
  defines : ∀ name, run.symbols.defines.find? name = run'.symbols.defines.find? name
  discovered : ∀ name, run.discovered.find? name = run'.discovered.find? name
  distinct : run.discovered.keys.Nodup ∧ run'.discovered.keys.Nodup

namespace SameValues

theorem admits (h : SameValues run run') (define : Define) :
    run.symbols.admits define.guards = run'.symbols.admits define.guards := by
  refine Symbols.admits_congr (fun name => ?_) _
  rw [Symbols.isDefined, Table.contains, h.defines]
  rfl

theorem knownEntry_eq (h : SameValues run run') (define : Define) :
    knownEntry run.symbols define = knownEntry run'.symbols define := by
  rw [knownEntry, constantType_congr h.defines, knownEntry]

theorem constantOf_eq (h : SameValues run run') (define : Define) :
    constantOf run.symbols define = constantOf run'.symbols define := by
  rw [constantOf, constantType_congr h.defines, constantOf]

theorem any_eq (h : SameValues run run') (p : Decl.Constant → Bool) :
    run.constants.any p = run'.constants.any p := by
  rw [Bool.eq_iff_iff, List.any_eq_true, List.any_eq_true]
  simp only [h.constants.mem_iff]

theorem addDefine (h : SameValues run run') (deep : Bool) (define : Define) :
    SameValues (run.addDefine deep define) (run'.addDefine deep define) := by
  cases hadmits : run.symbols.admits define.guards with
  | false =>
    have hadmits' := (h.admits define).symm.trans hadmits
    rw [ConstantRun.addDefine_left hadmits, ConstantRun.addDefine_left hadmits']
    exact ⟨h.constants, h.defines, h.discovered, h.distinct⟩
  | true =>
    have hadmits' := (h.admits define).symm.trans hadmits
    rw [ConstantRun.addDefine_admitted hadmits, ConstantRun.addDefine_admitted hadmits', h.constantOf_eq,
      h.knownEntry_eq]
    have hconstants : (addNew run.constants (constantOf run'.symbols define)).Perm
        (addNew run'.constants (constantOf run'.symbols define)) := by
      rw [addNew, addNew, h.any_eq]
      split
      · exact h.constants
      · exact h.constants.append_right _
    have hputs : ∀ {t t' : Table (Option String × String)}, (∀ name, t.find? name = t'.find? name) →
        ∀ name, (t.insertAll [knownEntry run'.symbols define]).find? name =
          (t'.insertAll [knownEntry run'.symbols define]).find? name := by
      intro t t' ht name
      rw [Table.find?_insertAll t (by simp), Table.find?_insertAll t' (by simp), ht]
    cases deep with
    | true =>
      exact ⟨hconstants, h.defines, hputs h.discovered, Table.nodup_keys_insertAll h.distinct.1 _,
        Table.nodup_keys_insertAll h.distinct.2 _⟩
    | false => exact ⟨hconstants, hputs h.defines, h.discovered, h.distinct⟩

theorem publish (h : SameValues run run') : SameValues run.publish run'.publish := by
  refine ⟨h.constants, fun name => ?_, fun _ => rfl, List.nodup_nil, List.nodup_nil⟩
  show (run.symbols.defines.insertAll run.discovered.entries).find? name =
    (run'.symbols.defines.insertAll run'.discovered.entries).find? name
  have hdiscovered : Table.lookupIn name run.discovered.entries =
      Table.lookupIn name run'.discovered.entries := h.discovered name
  rw [Table.find?_insertAll _ h.distinct.1, Table.find?_insertAll _ h.distinct.2, hdiscovered, h.defines]

/-- So does such a group if no name comes twice in it. -/
theorem deepGroup (h : SameValues run run') (hperm : defines.Perm defines')
    (hnames : (defines.map (·.name)).Nodup) :
    SameValues (defines.foldl (ConstantRun.addDefine true) run)
      (defines'.foldl (ConstantRun.addDefine true) run') := by
  have hadmitted : (admittedOf run.symbols defines).Perm (admittedOf run'.symbols defines') := by
    have hsame : admittedOf run.symbols defines = admittedOf run'.symbols defines :=
      List.filter_congr fun define _ => h.admits define
    rw [hsame]
    exact hperm.filter _
  have hconstantOf : constantOf run.symbols = constantOf run'.symbols := funext h.constantOf_eq
  have hknownEntry : knownEntry run.symbols = knownEntry run'.symbols := funext h.knownEntry_eq
  have hdistinct : ((admittedOf run.symbols defines).map (·.name)).Nodup :=
    hnames.sublist (List.filter_sublist.map _)
  have hdistinct' : ((admittedOf run'.symbols defines').map (·.name)).Nodup :=
    (hadmitted.map _).nodup_iff.mp hdistinct
  have hmade : ∀ {l : List Define}, (l.map (·.name)).Nodup →
      ((l.map (constantOf run'.symbols)).map (·.head.name)).Nodup := by
    intro l hl
    rw [List.map_map]
    exact (List.map_congr_left fun define _ => name_constantOf run'.symbols define) ▸ hl
  have hentered : ∀ {l : List Define}, (l.map (·.name)).Nodup →
      ((l.map (knownEntry run'.symbols)).map (·.1)).Nodup := by
    intro l hl
    rw [List.map_map]
    exact hl
  rw [foldl_deep, foldl_deep, hconstantOf, hknownEntry]
  refine ⟨?_, h.defines, fun name => ?_, Table.nodup_keys_insertAll h.distinct.1 _,
    Table.nodup_keys_insertAll h.distinct.2 _⟩
  · dsimp only
    rw [foldl_addNew_of_nodup (hmade hdistinct), foldl_addNew_of_nodup (hmade hdistinct')]
    simp only [h.any_eq]
    exact h.constants.append ((hadmitted.map _).filter _)
  · dsimp only
    rw [Table.find?_insertAll _ (hentered hdistinct), Table.find?_insertAll _ (hentered hdistinct'),
      h.discovered, Table.lookupIn_perm (hentered hdistinct) (hadmitted.map _)]

theorem addGroup (h : SameValues run run') (hdepth : 2 ≤ depth)
    (hreordered : Reordered depth defines defines') (hnames : ((guardedBy depth defines).map (·.name)).Nodup)
    (other : Nat) : SameValues (run.addGroup defines other) (run'.addGroup defines' other) := by
  refine publish ?_
  show SameValues ((guardedBy other defines).foldl _ run) ((guardedBy other defines').foldl _ run')
  by_cases hother : other = depth
  · subst hother
    have hdeep : decide (2 ≤ other) = true := decide_eq_true hdepth
    rw [hdeep]
    exact h.deepGroup hreordered.guardedBy_perm hnames
  · rw [hreordered.guardedBy_eq hother]
    generalize guardedBy other defines' = group
    induction group generalizing run run' with
    | nil => exact h
    | cons define rest ih => exact ih (h.addDefine _ define)

end SameValues

/-! ### Whole runs -/

/--
The order of the defines with two or more guards, among those with as many, changes neither the names of the
constants nor what is left out nor the names that are known afterwards; and if no name comes twice among them, it
changes no constant and nothing that is known.
-/
theorem deep_defines_unordered (hdepth : 2 ≤ depth) (h : Reordered depth defines defines') (s : Symbols) :
    (∀ name, name ∈ (constants defines s).1.map (·.head.name) ↔
      name ∈ (constants defines' s).1.map (·.head.name)) ∧
    (constants defines s).2.skipped.Perm (constants defines' s).2.skipped ∧
    (∀ name, (constants defines s).2.isDefined name = (constants defines' s).2.isDefined name) ∧
    (((guardedBy depth defines).map (·.name)).Nodup →
      (constants defines s).1.Perm (constants defines' s).1 ∧
      ∀ name, (constants defines s).2.defines.find? name = (constants defines' s).2.defines.find? name) := by
  unfold constants
  dsimp only
  rw [← h.guardDepths_eq]
  generalize hstart : ConstantRun.mk s (s.settings.knownDefines.map (seedConstant s)) {} = start
  have hnames : ∀ (depths : List Nat) {run run' : ConstantRun}, SameNames run run' →
      SameNames (depths.foldl (ConstantRun.addGroup defines) run)
        (depths.foldl (ConstantRun.addGroup defines') run') := by
    intro depths
    induction depths with
    | nil => exact fun hrun => hrun
    | cons other depths ih => exact fun hrun => ih (hrun.addGroup hdepth h other)
  have hsame := hnames (guardDepths defines) (.refl start)
  refine ⟨hsame.constants, hsame.skipped, hsame.defines, fun hdistinct => ?_⟩
  have hvalues : ∀ (depths : List Nat) {run run' : ConstantRun}, SameValues run run' →
      SameValues (depths.foldl (ConstantRun.addGroup defines) run)
        (depths.foldl (ConstantRun.addGroup defines') run') := by
    intro depths
    induction depths with
    | nil => exact fun hrun => hrun
    | cons other depths ih => exact fun hrun => ih (hrun.addGroup hdepth h hdistinct other)
  have hfirst : SameValues start start :=
    ⟨.refl _, fun _ => rfl, fun _ => rfl, hstart ▸ List.nodup_nil, hstart ▸ List.nodup_nil⟩
  have hequal := hvalues (guardDepths defines) hfirst
  exact ⟨hequal.constants, hequal.defines⟩

/-- A define and one whose content is its name, both under two guards, around one under none. -/
def guardedPair : List Define :=
  let guards : List Guard := [⟨.undefined, "IMGUI_API"⟩, ⟨.undefined, "IMGUI_DISABLE"⟩]
  [{ name := "LIMIT", content := some "8", guards := guards }, { name := "VERSION", content := some "LIMIT" },
    { name := "ALIAS", content := some "LIMIT", guards := guards }]

theorem deep_defines_unordered_pair :
    Reordered 2 guardedPair guardedPair.reverse ∧
    ((guardedBy 2 guardedPair).map (·.name)).Nodup ∧
    (constants guardedPair.reverse (.ofSettings {})).1.map (·.head.name) = ["ALIAS", "LIMIT", "VERSION"] ∧
    (constants guardedPair (.ofSettings {})).1.Perm (constants guardedPair.reverse (.ofSettings {})).1 := by
  have hreordered : Reordered 2 guardedPair guardedPair.reverse :=
    ⟨.cons (.inr ⟨rfl, rfl⟩) (.cons (.inl rfl) (.cons (.inr ⟨rfl, rfl⟩) .nil)), (List.reverse_perm _).symm⟩
  have hnames : ((guardedBy 2 guardedPair).map (·.name)).Nodup := by decide +kernel
  obtain ⟨-, -, -, hequal⟩ := deep_defines_unordered (by decide) hreordered (.ofSettings {})
  exact ⟨hreordered, hnames, by decide +kernel, (hequal hnames).1⟩

end Generate

end InteropGen

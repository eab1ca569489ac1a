import InteropGen.Generate.Constants
import InteropGen.Proofs.Lookups

/-!
# How constants come about

One define makes at most one step of a run (`addDefine_admitted`, `addDefine_left`): it enters what is known of
it, and its constant if the class has none of the name yet (`addNew`). What a define gives depends on nothing but
the look-ups in the known defines (`constantType_congr`), and whether it counts on their names alone
(`admits_congr`). A group whose defines become known at its end therefore gives what every define of it gives on
its own (`foldl_deep`).
-/

namespace InteropGen

namespace Symbols

variable {s s' : Symbols}

/-- Whether an item counts hangs on the names of the known defines alone. -/
theorem admits_congr (h : ∀ name, s.isDefined name = s'.isDefined name) (guards : List Guard) :
    s.admits guards = s'.admits guards := by
  have hholds : ∀ guard, s.holds guard = s'.holds guard := fun guard => by
    unfold holds
    rw [h]
  have hdefined : s.isDefined = s'.isDefined := funext h
  unfold admits
  rw [hdefined]
  simp only [hholds]

end Symbols

namespace Generate

open Metadata

variable {s s' : Symbols} {run run' : ConstantRun} {define : Define} {name : String}

/-! ### The order of the groups -/

/-- Where only the first of equal entries stays, no entry comes twice. -/
theorem nodup_eraseDups {α : Type} [DecidableEq α] : (l : List α) → l.eraseDups.Nodup
  | [] => by simp
  | a :: rest => by
    rw [List.eraseDups_cons, List.nodup_cons, List.mem_eraseDups]
    exact ⟨by simp, nodup_eraseDups _⟩
termination_by l => l.length
decreasing_by
  exact Nat.lt_succ_of_le (List.length_filter_le _ _)

/-! ### What a define gives -/

/-- What a define gives hangs on the look-ups in the known defines alone. -/
theorem constantType_congr (h : ∀ name, s.defines.find? name = s'.defines.find? name) (define : Define) :
    constantType s define = constantType s' define := by
  unfold constantType
  simp only [h]

/-- What becomes known of a define. -/
def knownEntry (s : Symbols) (define : Define) : String × (Option String × String) :=
  (define.name, some (constantType s define).1, define.content.getD "")

theorem fst_knownEntry (s : Symbols) (define : Define) : (knownEntry s define).1 = define.name := rfl

/-- The constant of a define. -/
def constantOf (s : Symbols) (define : Define) : Decl.Constant where
  head := Decl.Head.withComments { name := define.name, modifiers := ["public", "const"] } define.comments
  type := .plain (constantType s define).1
  value := (constantType s define).2

theorem name_constantOf (s : Symbols) (define : Define) : (constantOf s define).head.name = define.name := by
  unfold constantOf Decl.Head.withComments
  cases define.comments with
  | none => rfl
  | some comments => rfl

/-- Adds a constant unless there is one of its name. -/
def addNew (constants : List Decl.Constant) (constant : Decl.Constant) : List Decl.Constant :=
  if constants.any (·.head.name = constant.head.name) then constants else constants ++ [constant]

namespace ConstantRun

theorem addDefine_left (h : run.symbols.admits define.guards = false) (deep : Bool) :
    run.addDefine deep define =
      { run with symbols := run.symbols.skip .define define.name .guards } := by
  rw [addDefine, if_neg (by simp [h])]

theorem addDefine_admitted (h : run.symbols.admits define.guards = true) (deep : Bool) :
    run.addDefine deep define =
      { symbols :=
          if deep then run.symbols
          else { run.symbols with
            defines := run.symbols.defines.insertAll [knownEntry run.symbols define] }
        constants := addNew run.constants (constantOf run.symbols define)
        discovered :=
          if deep then run.discovered.insertAll [knownEntry run.symbols define] else run.discovered } := by
  have hname : run.hasConstant define.name =
      run.constants.any (·.head.name = (constantOf run.symbols define).head.name) := by
    rw [name_constantOf, hasConstant]
  rw [addDefine, if_pos h, addNew, ← hname, knownEntry, constantOf]
  obtain ⟨type, value⟩ := constantType run.symbols define
  rfl

end ConstantRun

/-! ### New constants -/

theorem mem_names_addNew {constants : List Decl.Constant} {constant : Decl.Constant} :
    name ∈ (addNew constants constant).map (·.head.name) ↔
      name ∈ constants.map (·.head.name) ∨ name = constant.head.name := by
  unfold addNew
  split
  · next h =>
    obtain ⟨old, hold, hname⟩ := List.any_eq_true.mp h
    constructor
    · exact .inl
    · rintro (hmem | rfl)
      · exact hmem
      · exact List.mem_map.mpr ⟨old, hold, of_decide_eq_true hname⟩
  · rw [List.map_append, List.mem_append]
    simp

theorem mem_names_foldl_addNew (made : List Decl.Constant) (constants : List Decl.Constant) (name : String) :
    name ∈ (made.foldl addNew constants).map (·.head.name) ↔
      name ∈ constants.map (·.head.name) ∨ name ∈ made.map (·.head.name) := by
  induction made generalizing constants with
  | nil => simp
  | cons constant made ih =>
    rw [List.foldl_cons, ih, mem_names_addNew, List.map_cons, List.mem_cons, or_assoc]

/-- Constants of different names are all added, except those whose name was there before. -/
theorem foldl_addNew_of_nodup {constants made : List Decl.Constant} (h : (made.map (·.head.name)).Nodup) :
    made.foldl addNew constants =
      constants ++ made.filter fun constant => !constants.any (·.head.name = constant.head.name) := by
  induction made generalizing constants with
  | nil => simp
  | cons constant made ih =>
    obtain ⟨hfirst, hothers⟩ := List.nodup_cons.mp h
    rw [List.foldl_cons, ih hothers]
    cases hany : constants.any (·.head.name = constant.head.name) with
    | true =>
      have hsame : addNew constants constant = constants := by rw [addNew, if_pos hany]
      rw [hsame, List.filter_cons_of_neg (by simp [hany])]
    | false =>
      have hadded : addNew constants constant = constants ++ [constant] := by
        rw [addNew, if_neg (by simp [hany])]
      rw [hadded, List.filter_cons_of_pos (by simp [hany]), List.append_assoc]
      refine congrArg (constants ++ ·) (congrArg (constant :: ·) (List.filter_congr fun other hother => ?_))
      have hne : constant.head.name ≠ other.head.name := fun hname =>
        hfirst (List.mem_map.mpr ⟨other, hother, hname.symm⟩)
      simp [hne]

/-! ### A group that becomes known at its end -/

/-- The defines of a list that count. -/
def admittedOf (s : Symbols) (defines : List Define) : List Define :=
  defines.filter fun define => s.admits define.guards

/-- The records of the defines of a list that do not count. -/
def leftRecords (s : Symbols) (defines : List Define) : List Skip :=
  (defines.filter fun define => !s.admits define.guards).map fun define =>
    ⟨.define, define.name, .guards⟩

/-- Every define of such a group gives what it gives with the defines that were known before the group. -/
theorem foldl_deep (defines : List Define) (run : ConstantRun) :
    defines.foldl (ConstantRun.addDefine true) run =
      { symbols := { run.symbols with
          skipped := run.symbols.skipped ++ leftRecords run.symbols defines }
        constants := ((admittedOf run.symbols defines).map (constantOf run.symbols)).foldl addNew run.constants
        discovered := run.discovered.insertAll
          ((admittedOf run.symbols defines).map (knownEntry run.symbols)) } := by
  induction defines generalizing run with
  | nil => simp [leftRecords, admittedOf, Table.insertAll]
  | cons define rest ih =>
    rw [List.foldl_cons]
    cases hadmits : run.symbols.admits define.guards with
    | true =>
      have hleft : leftRecords run.symbols (define :: rest) = leftRecords run.symbols rest := by
        rw [leftRecords, List.filter_cons_of_neg (by simp [hadmits]), leftRecords]
      have hadmitted : admittedOf run.symbols (define :: rest) = define :: admittedOf run.symbols rest :=
        List.filter_cons_of_pos hadmits
      rw [ConstantRun.addDefine_admitted hadmits, ih, hleft, hadmitted, List.map_cons, List.map_cons,
        List.foldl_cons, ← List.singleton_append, Table.insertAll_append]
      rfl
    | false =>
      have hleft : leftRecords run.symbols (define :: rest) =
          ⟨.define, define.name, .guards⟩ :: leftRecords run.symbols rest := by
        rw [leftRecords, List.filter_cons_of_pos (by simp [hadmits]), List.map_cons, leftRecords]
      have hadmitted : admittedOf run.symbols (define :: rest) = admittedOf run.symbols rest :=
        List.filter_cons_of_neg (by simp [hadmits])
      rw [ConstantRun.addDefine_left hadmits, ih, hleft, hadmitted, ← List.singleton_append,
        ← List.append_assoc]
      rfl

end Generate

end InteropGen

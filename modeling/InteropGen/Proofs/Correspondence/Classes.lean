import InteropGen.Proofs.Correspondence.Wrappers

/-!
# Classes and the functions that they wrap

The main class and the view of a struct are filled by one walk over the functions of a document,
which differs only in the functions that it selects. `classWrappers` is that walk, and what holds of
both kinds of classes is proved of it.
-/

namespace InteropGen.Generate

open Metadata Decl Build Symbols

variable {s₀ lo s s' : Symbols} {st st' : Scoped} {target : WrapperClass}
  {selects : Symbols → Function → Bool} {functions : List Function} {made : List Wrapper}
  {R : Symbols → Symbols → Prop} {Q : NativeType → Prop} [Std.Refl R] [IsTrans Symbols R]

/-- The wrappers of a class: those of the functions that it selects, in order. -/
def classWrappers (selects : Symbols → Function → Bool) (target : WrapperClass) :
    List Function → Build Scoped (List Wrapper)
  | [] => return []
  | function :: rest => do
    let state ← get
    if selects state.symbols function then
      let first ← wrappers target function
      let others ← classWrappers selects target rest
      return first ++ others
    else classWrappers selects target rest

/-- What is selected does not change while the symbols grow. -/
def Steady (selects : Symbols → Function → Bool) : Prop :=
  ∀ s s' : Symbols, s.Grows s' → ∀ function, selects s' function = selects s function

theorem classWrappers_append (earlier later : List Function) :
    classWrappers selects target (earlier ++ later) = (do
      let first ← classWrappers selects target earlier
      let others ← classWrappers selects target later
      return first ++ others) := by
  induction earlier with
  | nil => simp only [classWrappers, List.nil_append, pure_bind, bind_pure]
  | cons function rest ih =>
    simp only [classWrappers, List.cons_append, ih, bind_assoc, pure_bind]
    refine congrArg _ (funext fun state => ?_)
    split
    · simp only [bind_assoc, pure_bind, List.append_assoc]
    · rfl

theorem walk_classWrappers (h : Walk R Q) (selects : Symbols → Function → Bool)
    (target : WrapperClass) (hQ : ∀ function ∈ functions, FunctionTypes Q function) :
    Preserves (OnSymbols R) (classWrappers selects target functions) := by
  induction functions with
  | nil => exact .pure _
  | cons function rest ih =>
    have hrest := ih fun other hother => hQ other (List.mem_cons_of_mem _ hother)
    refine .bind .get fun state => ?_
    split
    · exact .bind (walk_wrappers h target (hQ function List.mem_cons_self)) fun _ =>
        .bind hrest fun _ => .pure _
    · exact hrest

theorem quiet_classWrappers (selects : Symbols → Function → Bool) (target : WrapperClass)
    (functions : List Function) :
    Preserves (OnSymbols Quiet) (classWrappers selects target functions) :=
  walk_classWrappers quietWalk selects target fun _ _ => ⟨trivial, fun _ _ _ _ => trivial⟩

/-- Every wrapper of a class is one of a function that the class selects. -/
theorem classWrappersOf (hsteady : Steady selects) (h₀ : s₀.Grows st.symbols)
    (hlo : lo.Grows st.symbols)
    (hrun : (classWrappers selects target functions).runOn st = (.ok made, st')) :
    ∀ wrapper ∈ made, ∃ function ∈ functions, selects s₀ function = true ∧
      WrapperOf (MadeFor lo st'.symbols) s₀ target.nativeClass function wrapper := by
  induction functions generalizing made st with
  | nil =>
    obtain ⟨rfl, rfl⟩ := ok_pure.mp hrun
    simp
  | cons function rest ih =>
    obtain ⟨state, middle, hget, hrun⟩ := ok_bind.mp hrun
    obtain ⟨rfl, rfl⟩ := ok_get.mp hget
    split at hrun
    · next hselects =>
      obtain ⟨first, middle, hfirst, hrun⟩ := ok_bind.mp hrun
      obtain ⟨others, after, hothers, hrun⟩ := ok_bind.mp hrun
      obtain ⟨rfl, rfl⟩ := ok_pure.mp hrun
      have hgrow := ((quiet_wrappers _ _).of_ok hfirst).toGrows
      have hafter := ((quiet_classWrappers _ _ _).of_ok hothers).toGrows
      rw [hsteady _ _ h₀] at hselects
      intro wrapper hwrapper
      rcases List.mem_append.mp hwrapper with hmem | hmem
      · have hw := wrappersOf h₀ hlo hfirst wrapper hmem
        exact ⟨function, List.mem_cons_self, hselects,
          hw.mono fun _ _ => MadeFor.widen (.refl _) hafter⟩
      · obtain ⟨other, hother, hw⟩ := ih (h₀.trans hgrow) (hlo.trans hgrow) hothers wrapper hmem
        exact ⟨other, List.mem_cons_of_mem _ hother, hw⟩
    · intro wrapper hwrapper
      obtain ⟨other, hother, hw⟩ := ih h₀ hlo hrun wrapper hwrapper
      exact ⟨other, List.mem_cons_of_mem _ hother, hw⟩

/-- Every wrapper of a class calls one of the functions that it is made for. -/
theorem entryPoint_classWrappers (hsteady : Steady selects)
    (hrun : (classWrappers selects target functions).runOn st = (.ok made, st')) :
    ∀ wrapper ∈ made, wrapper.entryPoint ∈ functions.map (·.name) := by
  intro wrapper hwrapper
  obtain ⟨function, hfunction, -, hw⟩ :=
    classWrappersOf hsteady (.refl _) (.refl _) hrun wrapper hwrapper
  rw [hw.entryPoint]
  exact List.mem_map_of_mem hfunction

/-- Around a function that it selects, a class has wrappers of three kinds, in order. -/
theorem classWrappers_around {earlier later : List Function} {function : Function}
    (hsteady : Steady selects) (hselects : selects st.symbols function = true)
    (hrun : (classWrappers selects target (earlier ++ function :: later)).runOn st =
      (.ok made, st')) :
    ∃ first before mine middle rest,
      (classWrappers selects target earlier).runOn st = (.ok first, before) ∧
      (wrappers target function).runOn before = (.ok mine, middle) ∧
      (classWrappers selects target later).runOn middle = (.ok rest, st') ∧
      made = first ++ (mine ++ rest) := by
  rw [classWrappers_append] at hrun
  obtain ⟨first, before, hfirst, hrun⟩ := ok_bind.mp hrun
  obtain ⟨others, after, hothers, hrun⟩ := ok_bind.mp hrun
  obtain ⟨rfl, rfl⟩ := ok_pure.mp hrun
  have hbefore := ((quiet_classWrappers _ _ _).of_ok hfirst).toGrows
  obtain ⟨state, middle, hget, hothers⟩ := ok_bind.mp hothers
  obtain ⟨rfl, rfl⟩ := ok_get.mp hget
  rw [if_pos ((hsteady _ _ hbefore function).trans hselects)] at hothers
  obtain ⟨mine, middle, hmine, hothers⟩ := ok_bind.mp hothers
  obtain ⟨rest, last, hrest, hothers⟩ := ok_bind.mp hothers
  obtain ⟨rfl, rfl⟩ := ok_pure.mp hothers
  exact ⟨first, before, mine, middle, rest, hfirst, hmine, hrest, rfl⟩

/-! ### The main class -/

theorem isMain_grows (h : s.Grows s') (function : Function) :
    isMain s' function = isMain s function := by
  rw [isMain, isMain, h.settings, skipReason?_grows h]

theorem steady_isMain : Steady isMain := fun _ _ => isMain_grows

theorem mainWrappers_eq (target : WrapperClass) (functions : List Function) :
    mainWrappers target functions = classWrappers isMain target functions := by
  induction functions with
  | nil => rfl
  | cons function rest ih => rw [mainWrappers, classWrappers, ih]

theorem walk_mainWrappers (h : Walk R Q) (target : WrapperClass)
    (hQ : ∀ function ∈ functions, FunctionTypes Q function) :
    Preserves (OnSymbols R) (mainWrappers target functions) := by
  rw [mainWrappers_eq]
  exact walk_classWrappers h isMain target hQ

theorem quiet_mainWrappers (target : WrapperClass) (functions : List Function) :
    Preserves (OnSymbols Quiet) (mainWrappers target functions) :=
  walk_mainWrappers quietWalk target fun _ _ => ⟨trivial, fun _ _ _ _ => trivial⟩

theorem mainWrappersOf (h₀ : s₀.Grows st.symbols) (hlo : lo.Grows st.symbols)
    (hrun : (mainWrappers target functions).runOn st = (.ok made, st')) :
    ∀ wrapper ∈ made, ∃ function ∈ functions, isMain s₀ function = true ∧
      WrapperOf (MadeFor lo st'.symbols) s₀ target.nativeClass function wrapper := by
  rw [mainWrappers_eq] at hrun
  exact classWrappersOf steady_isMain h₀ hlo hrun

/-! ### Methods -/

variable {structName : String}

/-- The functions that are methods of a struct. -/
def isMethod (structName : String) (s : Symbols) (function : Function) : Bool :=
  Identifier.pairsWith function.name structName && (skipReason? s function).isNone

theorem isMethod_iff {function : Function} : isMethod structName s function = true ↔
    Identifier.pairsWith function.name structName = true ∧ skipReason? s function = none := by
  rw [isMethod, Bool.and_eq_true, Option.isNone_iff_eq_none]

theorem steady_isMethod (structName : String) : Steady (isMethod structName) := by
  intro s s' hgrows function
  rw [isMethod, isMethod, skipReason?_grows hgrows]

theorem methodWrappers_eq (target : WrapperClass) (structName : String)
    (functions : List Function) :
    methodWrappers target structName functions =
      classWrappers (isMethod structName) target functions := by
  induction functions with
  | nil => rfl
  | cons function rest ih =>
    rw [methodWrappers, classWrappers, ih]
    rfl

theorem walk_methodWrappers (h : Walk R Q) (target : WrapperClass) (structName : String)
    (hQ : ∀ function ∈ functions, FunctionTypes Q function) :
    Preserves (OnSymbols R) (methodWrappers target structName functions) := by
  rw [methodWrappers_eq]
  exact walk_classWrappers h (isMethod structName) target hQ

theorem quiet_methodWrappers (target : WrapperClass) (structName : String)
    (functions : List Function) :
    Preserves (OnSymbols Quiet) (methodWrappers target structName functions) :=
  walk_methodWrappers quietWalk target structName fun _ _ => ⟨trivial, fun _ _ _ _ => trivial⟩

theorem methodWrappersOf (h₀ : s₀.Grows st.symbols) (hlo : lo.Grows st.symbols)
    (hrun : (methodWrappers target structName functions).runOn st = (.ok made, st')) :
    ∀ wrapper ∈ made, ∃ function ∈ functions,
      Identifier.pairsWith function.name structName = true ∧ skipReason? s₀ function = none ∧
      WrapperOf (MadeFor lo st'.symbols) s₀ target.nativeClass function wrapper := by
  rw [methodWrappers_eq] at hrun
  intro wrapper hwrapper
  obtain ⟨function, hfunction, hmethod, hw⟩ :=
    classWrappersOf (steady_isMethod structName) h₀ hlo hrun wrapper hwrapper
  obtain ⟨hpairs, hkept⟩ := isMethod_iff.mp hmethod
  exact ⟨function, hfunction, hpairs, hkept, hw⟩

end InteropGen.Generate

import InteropGen.Proofs.Bodies
import InteropGen.Proofs.LocalNames

/-!
# When no name is captured

Which names meet in a wrapper. The names that are formed for one argument are different from each other, and no
form is as short as `ret`, `i` or `s`; so a wrapper is free of captures exactly if no two arguments have a name
in common where both are in scope, and no argument that the wrapper has under its own name is named like one of
these three where it is declared (`Apart`, `noCapture_iff`). Nothing in the making of wrappers sees to that: an
argument `ret` of a function with a result is captured (`result_captured`).
-/

namespace InteropGen

/-- A name in a wrapper and the argument that it is formed for, without the marks of escaped words. -/
structure Owned where
  argument : String
  name : String

namespace Decl

/-- Names that a step forms for its argument. -/
def Step.owned (step : Step) (names : List String) : List Owned := names.map (Owned.mk step.argument)

namespace Marshaling

/-- The parameters of a wrapper. -/
def parameters (m : Marshaling) : List Owned :=
  m.managed.map fun parameter => ⟨Identifier.bare parameter.name, Identifier.bare parameter.name⟩

/-- The names in scope around the blocks in front of the call. -/
def around (m : Marshaling) : List Owned :=
  m.parameters ++ m.before.flatMap fun step => step.owned step.outer

/-- The names in scope at the call. -/
def atCall (m : Marshaling) : List Owned :=
  m.around ++ m.fixed.flatMap fun step => step.owned step.outer

/-- The names in the blocks in front of the call, those of loops apart. -/
def within (m : Marshaling) : List Owned := m.before.flatMap fun step => step.owned step.nested

/-- The arguments that a wrapper has under their own names: as parameters, or as locals with their defaults. -/
def arguments (m : Marshaling) : List String :=
  m.parameters.map (·.name) ++ (m.before.filter Step.omits).map Step.argument

end Marshaling

end Decl

/--
No two arguments of a wrapper have a name in common where both are in scope, and none is named like a local that
every wrapper names alike.
-/
structure Apart (m : Decl.Marshaling) (returns : Prop) : Prop where
  atCall : ∀ u ∈ m.atCall, ∀ v ∈ m.atCall, u.name = v.name → u.argument = v.argument
  within : ∀ u ∈ m.within, ∀ v ∈ m.around, u.name = v.name → u.argument = v.argument
  result : returns → "ret" ∉ m.arguments
  counters : ∀ step ∈ m.before, ∀ name ∈ step.counters, name ∉ m.arguments

theorem apart_iff {m : Decl.Marshaling} {returns : Prop} :
    Apart m returns ↔
      (∀ u ∈ m.atCall, ∀ v ∈ m.atCall, u.name = v.name → u.argument = v.argument) ∧
      (∀ u ∈ m.within, ∀ v ∈ m.around, u.name = v.name → u.argument = v.argument) ∧
      (returns → "ret" ∉ m.arguments) ∧
      ∀ step ∈ m.before, ∀ name ∈ step.counters, name ∉ m.arguments :=
  ⟨fun h => ⟨h.atCall, h.within, h.result, h.counters⟩,
    fun ⟨hcall, hwithin, hresult, hcounters⟩ => ⟨hcall, hwithin, hresult, hcounters⟩⟩

instance (m : Decl.Marshaling) (returns : Prop) [Decidable returns] : Decidable (Apart m returns) :=
  decidable_of_iff' _ apart_iff

namespace Generate

open Metadata Decl Build Symbols

variable {m : Marshaling} {name : String}

/-! ### Names as lists -/

theorem names_owned (steps : List Decl.Step) (form : Decl.Step → List String) :
    (steps.flatMap fun step => step.owned (form step)).map Owned.name = steps.flatMap form := by
  rw [List.map_flatMap]
  congr 1
  funext step
  rw [Step.owned, List.map_map]
  exact List.map_id _

theorem mem_owned {steps : List Decl.Step} {form : Decl.Step → List String} {u : Owned} :
    (u ∈ steps.flatMap fun step => step.owned (form step)) ↔
      ∃ step ∈ steps, u.name ∈ form step ∧ u.argument = step.argument := by
  rw [List.mem_flatMap]
  refine exists_congr fun step => and_congr_right fun _ => ?_
  rw [Step.owned, List.mem_map]
  constructor
  · rintro ⟨name, hname, rfl⟩
    exact ⟨hname, rfl⟩
  · rintro ⟨hname, hargument⟩
    exact ⟨u.name, hname, by rw [← hargument]⟩

theorem mem_parameters {u : Owned} :
    u ∈ m.parameters ↔ u.name ∈ m.parameters.map Owned.name ∧ u.argument = u.name := by
  constructor
  · intro h
    obtain ⟨parameter, -, rfl⟩ := List.mem_map.mp h
    exact ⟨List.mem_map_of_mem h, rfl⟩
  · rintro ⟨hname, hsame⟩
    obtain ⟨v, hv, hvname⟩ := List.mem_map.mp hname
    obtain ⟨parameter, -, rfl⟩ := List.mem_map.mp hv
    obtain ⟨argument, name⟩ := u
    cases hsame
    cases hvname
    exact hv

theorem mem_around {u : Owned} :
    u ∈ m.around ↔ (u.name ∈ m.parameters.map Owned.name ∧ u.argument = u.name) ∨
      ∃ step ∈ m.before, u.name ∈ step.outer ∧ u.argument = step.argument := by
  rw [Marshaling.around, List.mem_append, mem_parameters, mem_owned]

theorem mem_atCall {u : Owned} :
    u ∈ m.atCall ↔ (u.name ∈ m.parameters.map Owned.name ∧ u.argument = u.name) ∨
      ∃ step ∈ m.before ++ m.fixed, u.name ∈ step.outer ∧ u.argument = step.argument := by
  rw [Marshaling.atCall, List.mem_append, mem_around, mem_owned, or_assoc]
  refine or_congr_right ?_
  simp only [List.mem_append, or_and_right, exists_or]

theorem names_around (m : Marshaling) :
    m.around.map Owned.name = m.parameters.map Owned.name ++ m.before.flatMap Step.outer := by
  rw [Marshaling.around, List.map_append, names_owned]

theorem names_atCall (m : Marshaling) :
    m.atCall.map Owned.name =
      m.parameters.map Owned.name ++ m.before.flatMap Step.outer ++ m.fixed.flatMap Step.outer := by
  rw [Marshaling.atCall, List.map_append, names_around, names_owned]

/-! ### One argument, one step -/

/-- The step pins its argument in the header of a `fixed` block. -/
def Pins : Decl.Step → Prop
  | .stringBuffer _ | .pinned _ _ => True
  | _ => False

/-- No argument is marshaled twice, only pinning stands in headers, and nothing is declared after the call. -/
structure Separate (m : Marshaling) : Prop where
  arguments : m.arguments.Nodup
  steps : ((m.before ++ m.fixed).map Step.argument).Nodup
  pins : ∀ step ∈ m.fixed, Pins step
  closings : ∀ step ∈ m.after, step.outer = [] ∧ step.nested ++ step.counters = []

theorem count_arguments_join (name : String) (m m' : Marshaling) :
    (join m m').arguments.count name = m.arguments.count name + m'.arguments.count name := by
  simp only [Marshaling.arguments, Marshaling.parameters, join, List.map_append, List.filter_append,
    List.count_append]
  omega

theorem count_steps_join (name : String) (m m' : Marshaling) :
    (((join m m').before ++ (join m m').fixed).map Step.argument).count name =
      ((m.before ++ m.fixed).map Step.argument).count name +
        ((m'.before ++ m'.fixed).map Step.argument).count name := by
  simp only [join, List.map_append, List.count_append]
  omega

theorem arguments_part (passing : Passing) (name : String) :
    (passing.part name).arguments.Sublist [Identifier.bare name] := by
  cases passing with
  | self => exact List.nil_sublist _
  | _ => exact List.Sublist.refl _

theorem steps_part (passing : Passing) (name : String) :
    (((passing.part name).before ++ (passing.part name).fixed).map Step.argument).Sublist
      [Identifier.bare name] := by
  cases passing with
  | self | byName => exact List.nil_sublist _
  | _ => exact List.Sublist.refl _

theorem fixed_part (passing : Passing) (name : String) :
    ∀ step ∈ (passing.part name).fixed, Pins step := by
  cases passing with
  | pinned | vector | buffer => exact List.forall_mem_singleton.mpr trivial
  | _ => exact List.forall_mem_nil _

/-- What adds up over the parts of a marshaling, and is at most one for the argument of a part, counts arguments. -/
theorem count_marshal (name : String) (count : Marshaling → Nat) (hempty : count {} = 0)
    (hjoin : ∀ m m', count (join m m') = count m + count m')
    (hpart : ∀ (passing : Passing) argument,
      count (passing.part argument) ≤ [Identifier.bare argument].count name)
    (arguments : List (Argument × NativeType)) (passings : List Passing) :
    count (marshal arguments passings) ≤
      (arguments.map fun argument => Identifier.bare (Identifier.escape argument.1.name)).count name := by
  induction passings generalizing arguments with
  | nil =>
    rw [show marshal arguments [] = {} by cases arguments <;> rfl, hempty]
    exact Nat.zero_le _
  | cons passing passings ih =>
    cases arguments with
    | nil =>
      rw [marshal_nil, hempty]
      exact Nat.zero_le _
    | cons first arguments =>
      have hfirst := hpart passing (Identifier.escape first.1.name)
      have hothers := ih arguments
      rw [marshal_cons, hjoin, List.map_cons, List.count_cons]
      rw [List.count_singleton] at hfirst
      omega

theorem pins_marshal (arguments : List (Argument × NativeType)) (passings : List Passing) :
    ∀ step ∈ (marshal arguments passings).fixed, Pins step := by
  induction passings generalizing arguments with
  | nil =>
    rw [show marshal arguments [] = {} by cases arguments <;> rfl]
    exact List.forall_mem_nil _
  | cons passing passings ih =>
    cases arguments with
    | nil => exact List.forall_mem_nil _
    | cons first arguments =>
      rw [marshal_cons]
      exact List.forall_mem_append.mpr ⟨fixed_part _ _, ih arguments⟩

theorem closing_declares_nothing {step closing : Decl.Step} (h : step.closing? = some closing) :
    closing.outer = [] ∧ closing.nested ++ closing.counters = [] := by
  cases step <;> cases h <;> exact ⟨rfl, rfl⟩

/-- The marshaling of arguments of different names is separate. -/
theorem separate_marshal {arguments : List (Argument × NativeType)}
    (hnames : (arguments.map (·.1.name)).Nodup)
    (hmarks : ∀ argument ∈ arguments, Identifier.Unmarked argument.1.name) (passings : List Passing) :
    Separate (marshal arguments passings) := by
  have hbare : (arguments.map fun argument => Identifier.bare (Identifier.escape argument.1.name)) =
      arguments.map (·.1.name) :=
    List.map_congr_left fun argument hargument => Identifier.bare_escape (hmarks argument hargument)
  refine ⟨?_, ?_, pins_marshal _ _, fun closing hclosing => ?_⟩
  · refine List.nodup_iff_count_le_one.mpr fun name => ?_
    have hcount := count_marshal name (fun m => m.arguments.count name) rfl
      (count_arguments_join name) (fun passing argument => (arguments_part passing argument).count_le name)
      arguments passings
    rw [hbare] at hcount
    exact hcount.trans (List.nodup_iff_count_le_one.mp hnames name)
  · refine List.nodup_iff_count_le_one.mpr fun name => ?_
    have hcount := count_marshal name (fun m => ((m.before ++ m.fixed).map Step.argument).count name) rfl
      (count_steps_join name) (fun passing argument => (steps_part passing argument).count_le name)
      arguments passings
    rw [hbare] at hcount
    exact hcount.trans (List.nodup_iff_count_le_one.mp hnames name)
  · rw [after_marshal] at hclosing
    obtain ⟨step, -, hcloses⟩ := List.mem_filterMap.mp hclosing
    exact closing_declares_nothing hcloses

/-! ### Names in common -/

theorem Pins.not_omits {step : Decl.Step} (h : Pins step) : step.omits = false := by
  cases step <;> first | rfl | cases h

/-- Short names in scope are arguments under their own names. -/
theorem mem_outer_iff {step : Decl.Step} (hshort : name.length < 7) :
    name ∈ step.outer ↔ step.omits = true ∧ step.argument = name := by
  constructor
  · intro h
    rcases step.form_of_mem name (List.mem_append_left _ h) with ⟨homits, hname⟩ | ⟨-, hlong⟩
    · exact ⟨homits, hname.symm⟩
    · omega
  · rintro ⟨homits, rfl⟩
    exact Step.argument_mem_outer homits

theorem mem_around_iff (hshort : name.length < 7) :
    name ∈ m.around.map Owned.name ↔ name ∈ m.arguments := by
  rw [names_around, Marshaling.arguments, List.mem_append, List.mem_append]
  refine or_congr_right ?_
  rw [List.mem_flatMap, List.mem_map]
  refine exists_congr fun step => ?_
  rw [mem_outer_iff hshort, List.mem_filter, and_assoc]

theorem mem_atCall_iff (hpins : ∀ step ∈ m.fixed, Pins step) (hshort : name.length < 7) :
    name ∈ m.atCall.map Owned.name ↔ name ∈ m.arguments := by
  have hnone : name ∉ m.fixed.flatMap Step.outer := by
    intro h
    obtain ⟨step, hstep, hmem⟩ := List.mem_flatMap.mp h
    have homits := ((mem_outer_iff hshort).mp hmem).1
    rw [(hpins step hstep).not_omits] at homits
    cases homits
  rw [names_atCall, List.mem_append, ← names_around, mem_around_iff hshort]
  exact or_iff_left hnone

/-- A parameter is no local of a step unless two arguments have a name in common. -/
theorem parameter_ne_local (h : Separate m) {step : Decl.Step} (hstep : step ∈ m.before ++ m.fixed)
    (hparameter : name ∈ m.parameters.map Owned.name) (hlocal : name ∈ step.outer ++ step.nested) :
    name ≠ step.argument := by
  intro hsame
  rcases step.form_of_mem name hlocal with ⟨homits, -⟩ | ⟨hlonger, -⟩
  · have hbefore : step ∈ m.before := by
      rcases List.mem_append.mp hstep with hbefore | hfixed
      · exact hbefore
      · rw [(h.pins step hfixed).not_omits] at homits
        cases homits
    refine List.disjoint_of_nodup_append h.arguments hparameter ?_
    exact List.mem_map.mpr ⟨step, List.mem_filter.mpr ⟨hbefore, homits⟩, hsame.symm⟩
  · rw [hsame] at hlonger
    exact Nat.lt_irrefl _ hlonger

/-- What is in scope at the call has different names if names are formed for one argument only. -/
theorem nodup_atCall_iff (h : Separate m) :
    (m.atCall.map Owned.name).Nodup ↔
      ∀ u ∈ m.atCall, ∀ v ∈ m.atCall, u.name = v.name → u.argument = v.argument := by
  constructor
  · intro hnodup u hu v hv hsame
    rw [List.inj_on_of_nodup_map hnodup hu hv hsame]
  intro hone
  have hlocal : ∀ step ∈ m.before ++ m.fixed, ∀ name ∈ step.outer, ⟨step.argument, name⟩ ∈ m.atCall :=
    fun step hstep name hname => mem_atCall.mpr (.inr ⟨step, hstep, hname, rfl⟩)
  have hparameters : (m.parameters.map Owned.name).Nodup :=
    h.arguments.sublist (List.sublist_append_left _ _)
  have hsteps : ((m.before ++ m.fixed).flatMap Step.outer).Nodup := by
    refine List.nodup_flatMap.mpr ⟨fun step _ => (List.nodup_append.mp step.nodup_names).1, ?_⟩
    refine (List.pairwise_map.mp h.steps).imp_of_mem ?_
    intro step step' hstep hstep' hne name hname hname'
    exact hne (hone _ (hlocal step hstep name hname) _ (hlocal step' hstep' name hname') rfl)
  rw [names_atCall, List.append_assoc, ← List.flatMap_append]
  refine hparameters.append hsteps ?_
  intro name hparameter hmem
  obtain ⟨step, hstep, hname⟩ := List.mem_flatMap.mp hmem
  refine parameter_ne_local h hstep hparameter (List.mem_append_left _ hname) ?_
  exact hone ⟨name, name⟩ (mem_atCall.mpr (.inl ⟨hparameter, rfl⟩)) _ (hlocal step hstep name hname) rfl

/-- The blocks in front of the call declare no name from around them if names are formed for one argument only. -/
theorem within_iff (h : Separate m) :
    (∀ step ∈ m.before, ∀ name ∈ step.nested, name ∉ m.around.map Owned.name) ↔
      ∀ u ∈ m.within, ∀ v ∈ m.around, u.name = v.name → u.argument = v.argument := by
  constructor
  · intro hapart u hu v hv hsame
    obtain ⟨step, hstep, hname, -⟩ := mem_owned.mp hu
    rw [hsame] at hname
    exact absurd (List.mem_map_of_mem hv) (hapart step hstep _ hname)
  intro hone step hstep name hname hmem
  obtain ⟨v, hv, rfl⟩ := List.mem_map.mp hmem
  have hargument : step.argument = v.argument :=
    hone ⟨step.argument, v.name⟩ (mem_owned.mpr ⟨step, hstep, hname, rfl⟩) v hv rfl
  rcases mem_around.mp hv with ⟨hparameter, hsame⟩ | ⟨step', hstep', hname', hsame⟩
  · refine parameter_ne_local h (List.mem_append_left _ hstep) hparameter (List.mem_append_right _ hname) ?_
    rw [← hsame, hargument]
  · have hsteps := h.steps
    rw [List.map_append] at hsteps
    have heq : step = step' := List.inj_on_of_nodup_map (List.nodup_append.mp hsteps).1 hstep hstep'
      (hargument.trans hsame)
    rw [← heq] at hname'
    exact List.disjoint_of_nodup_append step.nodup_names hname' hname

/-! ### The blocks of a wrapper -/

section Blocks

open Render Render.Statement

variable {s : Symbols} {w : Wrapper} {result : String} {names : List String}
  {before fixed after : List (List Statement)}

/-- The local of the result. -/
def resultLocal (result : String) : List String := if result ≠ "void" then ["ret"] else []

theorem declaredIn_gaps (bodies : List (List Statement)) :
    declaredIn (bodies.flatMap (· ++ [said []])) = declaredIn bodies.flatten := by
  induction bodies with
  | nil => rfl
  | cons first rest ih =>
    rw [List.flatMap_cons, declaredIn_append, declaredIn_append, ih, List.flatten_cons, declaredIn_append]
    congr 1
    exact List.append_nil _

theorem scopesOf_gaps (names : List String) (bodies : List (List Statement)) :
    scopesOf names (bodies.flatMap (· ++ [said []])) = scopesOf names bodies.flatten := by
  induction bodies with
  | nil => rfl
  | cons first rest ih =>
    rw [List.flatMap_cons, scopesOf_append, scopesOf_append, ih, List.flatten_cons, scopesOf_append]
    congr 1
    exact List.append_nil _

theorem declaredIn_innerBody (hafter : Marked s w.marshaling.after after)
    (hclosings : ∀ step ∈ w.marshaling.after, step.outer = []) :
    declaredIn (innerBody w result after) = resultLocal result := by
  have hnone : declaredIn after.flatten = [] := by
    rw [declaredIn_marked hafter]
    exact List.flatMap_eq_nil_iff.mpr hclosings
  have hret : Identifier.bare "ret" = "ret" := by decide
  rw [innerBody, List.cons_append, resultLocal]
  split
  · show Identifier.bare "ret" :: declaredIn (after.flatten ++ _) = _
    rw [declaredIn_append, hnone, hret]
    rfl
  · show declaredIn (after.flatten ++ _) = _
    rw [declaredIn_append, hnone]
    rfl

theorem scopes_innerBody (hafter : Marked s w.marshaling.after after)
    (hclosings : ∀ step ∈ w.marshaling.after, step.nested ++ step.counters = [])
    (hnames : names.Nodup) :
    ∀ scope ∈ scopesOf names (innerBody w result after), scope.Nodup := by
  have hsplit : scopesOf names (innerBody w result after) = scopesOf names after.flatten := by
    rw [innerBody, List.cons_append, scopesOf, scopesOf_append]
    split <;> exact List.append_nil _
  rw [hsplit]
  refine (scopes_marked hafter hnames).mpr fun step hstep => ?_
  rwa [hclosings step hstep, List.append_nil]

theorem scopes_block {above body : List Statement} (habove : scopesOf names above = []) :
    scopes names (.block above (.plain []) body) =
      (names ++ declaredIn above ++ declaredIn body) ::
        scopesOf (names ++ declaredIn above ++ declaredIn body) body := by
  rw [scopes, habove, List.nil_append, Line.local?, Option.toList_none, List.append_nil]

theorem scopesOf_pins (hfixed : Marked s w.marshaling.fixed fixed)
    (hpins : ∀ step ∈ w.marshaling.fixed, Pins step) : scopesOf names fixed.flatten = [] := by
  generalize w.marshaling.fixed = steps at hfixed hpins
  induction hfixed with
  | nil => rfl
  | @cons step body _ _ hbody _ ih =>
    obtain ⟨hpin, hothers⟩ := List.forall_mem_cons.mp hpins
    rw [List.flatten_cons, scopesOf_append, ih hothers, List.append_nil]
    cases step with
    | stringBuffer name =>
      cases hbody
      rfl
    | pinned name type =>
      obtain ⟨spelled, -, hbody⟩ := except_bind_ok.mp hbody
      cases hbody
      rfl
    | _ => cases hpin

theorem nodup_below_result {around : List String} (step : Decl.Step)
    (hresult : (around ++ resultLocal result).Nodup) :
    (around ++ resultLocal result ++ (step.nested ++ step.counters)).Nodup ↔
      (around ++ (step.nested ++ step.counters)).Nodup := by
  constructor
  · exact fun h => h.sublist ((List.sublist_append_left _ _).append_right _)
  · intro h
    refine hresult.append step.nodup_below fun name hname hbelow => ?_
    rcases List.mem_append.mp hname with haround | hret
    · exact List.disjoint_of_nodup_append h haround hbelow
    · obtain rfl : name = "ret" := by
        rw [resultLocal] at hret
        split at hret
        · exact List.mem_singleton.mp hret
        · cases hret
      rcases List.mem_append.mp hbelow with hnested | hcounter
      · exact absurd (Step.long_of_mem_nested hnested) (by decide)
      · rcases Step.short_of_mem_counters hcounter with h | h
        · exact absurd h (by decide)
        · exact absurd h (by decide)

/-- In a wrapper no name is captured if none is at the call and none in the blocks in front of it. -/
theorem noCapture_method (header : String) (hbefore : Marked s w.marshaling.before before)
    (hfixed : Marked s w.marshaling.fixed fixed) (hafter : Marked s w.marshaling.after after)
    (hpins : ∀ step ∈ w.marshaling.fixed, Pins step)
    (hclosings : ∀ step ∈ w.marshaling.after, step.outer = [] ∧ step.nested ++ step.counters = []) :
    NoCapture names (.block [said [header]] (.plain []) (methodBody w result before fixed after)) ↔
      (names ++ w.marshaling.before.flatMap Step.outer ++ w.marshaling.fixed.flatMap Step.outer ++
        resultLocal result).Nodup ∧
      ∀ step ∈ w.marshaling.before,
        (names ++ w.marshaling.before.flatMap Step.outer ++ (step.nested ++ step.counters)).Nodup := by
  have hinner : declaredIn (innerBody w result after) = resultLocal result :=
    declaredIn_innerBody hafter fun step hstep => (hclosings step hstep).1
  have hblocks : ∀ {names : List String}, names.Nodup →
      ∀ scope ∈ scopesOf names (innerBody w result after), scope.Nodup :=
    scopes_innerBody hafter fun step hstep => (hclosings step hstep).2
  rw [NoCapture, scopes_block (by rfl), show declaredIn [said [header]] = [] from rfl, List.append_nil,
    methodBody, declaredIn_append, declaredIn_gaps, declaredIn_marked hbefore, scopesOf_append, scopesOf_gaps,
    List.forall_mem_cons, List.forall_mem_append]
  by_cases hnone : w.marshaling.fixed.isEmpty = true
  · rw [if_pos hnone, hinner, List.isEmpty_iff.mp hnone, List.flatMap_nil, List.append_nil,
      ← List.append_assoc]
    refine and_congr_right fun hcall => ?_
    rw [scopes_marked hbefore hcall, and_iff_left (hblocks hcall)]
    exact forall₂_congr fun step _ => nodup_below_result step hcall
  · rw [if_neg hnone, scopesOf, scopesOf, List.append_nil, scopes_block (scopesOf_pins hfixed hpins),
      declaredIn_marked hfixed, hinner, List.forall_mem_cons]
    have hnothing : declaredIn [.block fixed.flatten (.plain []) (innerBody w result after)] = [] := rfl
    rw [hnothing, List.append_nil]
    constructor
    · rintro ⟨haround, hbelow, hcall, -⟩
      exact ⟨hcall, (scopes_marked hbefore haround).mp hbelow⟩
    · rintro ⟨hcall, hbelow⟩
      have haround := hcall.sublist
        ((List.sublist_append_left _ _).trans (List.sublist_append_left _ _))
      exact ⟨haround, (scopes_marked hbefore haround).mpr hbelow, hcall, hblocks hcall⟩

theorem nodup_result_iff (hpins : ∀ step ∈ m.fixed, Pins step) :
    (m.atCall.map Owned.name ++ resultLocal result).Nodup ↔
      (m.atCall.map Owned.name).Nodup ∧ (result ≠ "void" → "ret" ∉ m.arguments) := by
  rw [← mem_atCall_iff hpins (by decide), resultLocal]
  split
  · rename_i hreturns
    rw [List.nodup_append_comm, List.singleton_append, List.nodup_cons, and_comm]
    exact and_congr_right fun _ => ⟨fun h _ => h, fun h => h hreturns⟩
  · rename_i hreturns
    rw [List.append_nil]
    exact (and_iff_left fun h => absurd h hreturns).symm

theorem nodup_below_iff (step : Decl.Step) (haround : (m.around.map Owned.name).Nodup) :
    (m.around.map Owned.name ++ (step.nested ++ step.counters)).Nodup ↔
      (∀ name ∈ step.nested, name ∉ m.around.map Owned.name) ∧
        ∀ name ∈ step.counters, name ∉ m.arguments := by
  have hcounters : (∀ name ∈ step.counters, name ∉ m.arguments) ↔
      ∀ name ∈ step.counters, name ∉ m.around.map Owned.name := by
    refine forall₂_congr fun name hname => not_congr (mem_around_iff ?_).symm
    rcases Step.short_of_mem_counters hname with rfl | rfl <;> decide
  rw [hcounters, ← List.forall_mem_append]
  constructor
  · exact fun h name hbelow hname => List.disjoint_of_nodup_append h hname hbelow
  · exact fun h => haround.append step.nodup_below fun name hname hbelow => h name hbelow hname

/-- A wrapper is free of captures exactly if its arguments are apart. -/
theorem noCapture_iff {method : Statement} (h : Separate w.marshaling)
    (hmethod : wrapperBody s w = .ok method) :
    ∃ result, s.spell w.result = .ok result ∧
      (method.NoCapture (w.marshaling.parameters.map Owned.name) ↔
        Apart w.marshaling (result ≠ "void")) := by
  obtain ⟨result, hresult, hmethod⟩ := except_bind_ok.mp hmethod
  obtain ⟨parameters, -, hmethod⟩ := except_bind_ok.mp hmethod
  obtain ⟨before, hbefore, hmethod⟩ := except_bind_ok.mp hmethod
  obtain ⟨fixed, hfixed, hmethod⟩ := except_bind_ok.mp hmethod
  obtain ⟨after, hafter, hmethod⟩ := except_bind_ok.mp hmethod
  refine ⟨result, hresult, ?_⟩
  rw [← Except.ok.inj hmethod, noCapture_method _ (except_mapM_ok.mp hbefore) (except_mapM_ok.mp hfixed)
    (except_mapM_ok.mp hafter) h.pins h.closings, ← names_atCall, ← names_around, nodup_result_iff h.pins]
  have haround : (w.marshaling.atCall.map Owned.name).Nodup → (w.marshaling.around.map Owned.name).Nodup := by
    rw [Marshaling.atCall, List.map_append]
    exact fun hcall => hcall.sublist (List.sublist_append_left _ _)
  constructor
  · rintro ⟨⟨hcall, hret⟩, hbelow⟩
    have hapart := fun step hstep => (nodup_below_iff step (haround hcall)).mp (hbelow step hstep)
    exact ⟨(nodup_atCall_iff h).mp hcall, (within_iff h).mp fun step hstep => (hapart step hstep).1, hret,
      fun step hstep => (hapart step hstep).2⟩
  · intro hapart
    have hcall := (nodup_atCall_iff h).mpr hapart.atCall
    refine ⟨⟨hcall, hapart.result⟩, fun step hstep => ?_⟩
    refine (nodup_below_iff step (haround hcall)).mpr ⟨?_, hapart.counters step hstep⟩
    exact (within_iff h).mpr hapart.within step hstep

end Blocks

/-! ### Wrappers without captures -/

/--
In the wrappers of a function whose arguments have different names, no local is named like a parameter or
like another local in the same block or one around it exactly if their arguments are apart.
-/
theorem wrapper_noCapture_iff {function : Function} {target : WrapperClass} {st st' : Scoped}
    {made : List Wrapper} (hnames : ((typedArguments function.arguments).map (·.1.name)).Nodup)
    (hmarks : ∀ argument ∈ typedArguments function.arguments, Identifier.Unmarked argument.1.name)
    (hrun : (wrappers target function).runOn st = (.ok made, st')) :
    ∀ wrapper ∈ made, ∀ s code, Render.wrapper s wrapper = .ok code →
      ∃ method result, Render.wrapperBody s wrapper = .ok method ∧ method.code = code ∧
        s.spell wrapper.result = .ok result ∧
        (method.NoCapture (wrapper.marshaling.parameters.map Owned.name) ↔
          Apart wrapper.marshaling (result ≠ "void")) := by
  intro wrapper hwrapper s code hcode
  obtain ⟨passings, -, heq⟩ := (wrappersOf (.refl _) (.refl _) hrun wrapper hwrapper).marshaling
  have hseparate : Separate wrapper.marshaling := heq ▸ separate_marshal hnames hmarks passings
  rw [Render.wrapper_eq] at hcode
  cases hmethod : Render.wrapperBody s wrapper with
  | error fault =>
    rw [hmethod] at hcode
    cases hcode
  | ok method =>
    rw [hmethod] at hcode
    obtain ⟨result, hresult, hiff⟩ := noCapture_iff hseparate hmethod
    exact ⟨method, result, rfl, Except.ok.inj hcode, hresult, hiff⟩

theorem wrapper_noCapture_iff_checkbox :
    ((typedArguments checkbox.arguments).map (·.1.name)).Nodup ∧
      (∀ argument ∈ typedArguments checkbox.arguments, Identifier.Unmarked argument.1.name) ∧
      ∃ made st' wrapper method,
        (wrappers { nativeClass := "Native" } checkbox).runOn begunClass = (.ok made, st') ∧
        wrapper ∈ made ∧ Render.wrapper st'.symbols wrapper = .ok method.code ∧
        Render.wrapperBody st'.symbols wrapper = .ok method ∧
        wrapper.marshaling.atCall.map Owned.name =
          ["label", "v", "native_label", "label_byteCount", "native_v_val", "native_v", "count"] ∧
        method.NoCapture (wrapper.marshaling.parameters.map Owned.name) := by
  have hnames : ((typedArguments checkbox.arguments).map (·.1.name)).Nodup := by decide +kernel
  have hmarks : ∀ argument ∈ typedArguments checkbox.arguments, Identifier.Unmarked argument.1.name := by
    decide +kernel
  obtain ⟨made, st', hrun, hread⟩ := exists_ok (wrappers { nativeClass := "Native" } checkbox) begunClass
    (fun made after => made.map fun wrapper => (wrapper.marshaling.atCall.map Owned.name,
      decide (Apart wrapper.marshaling True), (Render.wrapper after.symbols wrapper).toOption.isSome))
    (b := [(["label", "v", "native_label", "label_byteCount", "native_v_val", "native_v", "count"], true, true),
      (["label", "v", "count", "native_label", "label_byteCount", "native_v_val", "native_v"], true, true)])
    (by decide +kernel)
  obtain ⟨wrapper, rest, hwrappers, hfirst, -⟩ := List.map_eq_cons_iff.mp hread
  obtain ⟨hscope, hothers⟩ := Prod.mk.inj hfirst
  obtain ⟨hapart, hwritten⟩ := Prod.mk.inj hothers
  have hapart : Apart wrapper.marshaling True := of_decide_eq_true hapart
  have hwrapper : wrapper ∈ made := by simp [hwrappers]
  cases hcode : Render.wrapper st'.symbols wrapper with
  | error fault =>
    rw [hcode] at hwritten
    cases hwritten
  | ok code =>
    obtain ⟨method, result, hmethod, rfl, -, hiff⟩ :=
      wrapper_noCapture_iff hnames hmarks hrun wrapper hwrapper st'.symbols code hcode
    exact ⟨hnames, hmarks, made, st', wrapper, method, hrun, hwrapper, hcode, hmethod, hscope,
      hiff.mpr { hapart with result := fun _ => hapart.result trivial }⟩

/-- A function with a result and an argument that is named like the local of the result. -/
def resultNamed : Function where
  name := "ImGui_Show"
  result := { type := { kind := .builtin, builtin := some "int" } }
  arguments :=
    [{ name := "ret", info := some { type := { kind := .builtin, builtin := some "int" } } }]

/-- The local of the result is declared although the parameter has its name. -/
theorem result_captured :
    (resultNamed.arguments.map (·.name)).Nodup ∧ ∃ made st' wrapper method,
      (wrappers { nativeClass := "Native" } resultNamed).runOn begunClass = (.ok made, st') ∧
      wrapper ∈ made ∧ Render.wrapper st'.symbols wrapper = .ok method.code ∧
      Render.wrapperBody st'.symbols wrapper = .ok method ∧
      ¬ method.NoCapture (wrapper.marshaling.parameters.map Owned.name) := by
  obtain ⟨made, st', hrun, hread⟩ := exists_ok (wrappers { nativeClass := "Native" } resultNamed) begunClass
    (fun made after => made.map fun wrapper => ((Render.wrapperBody after.symbols wrapper).toOption.map
      fun method => method.scopes (wrapper.marshaling.parameters.map Owned.name)))
    (b := [some [["ret", "ret"]]])
    (by decide +kernel)
  obtain ⟨wrapper, rest, hwrappers, hfirst, -⟩ := List.map_eq_cons_iff.mp hread
  cases hmethod : Render.wrapperBody st'.symbols wrapper with
  | error fault =>
    rw [hmethod] at hfirst
    cases hfirst
  | ok method =>
    rw [hmethod] at hfirst
    have hscopes : method.scopes (wrapper.marshaling.parameters.map Owned.name) = [["ret", "ret"]] :=
      Option.some.inj hfirst
    refine ⟨by decide, made, st', wrapper, method, hrun, by simp [hwrappers], ?_, hmethod, fun hnone => ?_⟩
    · rw [Render.wrapper_eq, hmethod]
      rfl
    · rw [Render.Statement.NoCapture, hscopes] at hnone
      exact absurd (hnone _ List.mem_cons_self) (by decide)

end Generate

end InteropGen

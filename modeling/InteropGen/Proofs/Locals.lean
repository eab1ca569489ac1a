import InteropGen.Proofs.Calls
import InteropGen.Proofs.DefaultWrappers

/-!
# The locals of a wrapper

A step before the call or in the header of a `fixed` block introduces one local: the native local of an argument
that is given, or a local of the argument's own name if the wrapper leaves the argument out and passes its
default. What is passed to the call is `NativePtr`, a parameter, or such a local (`named_marshal`). The names of
different arguments keep their locals apart unless an argument that is left out is named like the native local
of one in front of it (`NamesApart`), so every local is introduced by one step only (`nodup_locals`). The steps
that need something after the call are then different from each other, and so is what closes them (`Paired`).
-/

namespace InteropGen

namespace Identifier

/-- The name does not begin with the mark of an escaped word. -/
def Unmarked (name : String) : Prop := name.toList.head? ≠ some '@'

theorem bare_of_unmarked {name : String} (h : Unmarked name) : bare name = name := by
  unfold bare Text.stripStart
  cases hchars : name.toList with
  | nil => simp [← String.toList_inj, hchars]
  | cons first rest =>
    have hfirst : first ≠ '@' := by
      rintro rfl
      exact h (by rw [hchars]; rfl)
    simp [← String.toList_inj, hchars, hfirst]

theorem escape_eq (name : String) : escape name = name ∨ escape name = "@" ++ name := by
  unfold escape
  split
  · exact .inr rfl
  · exact .inl rfl

theorem bare_escape {name : String} (h : Unmarked name) : bare (escape name) = name := by
  rcases escape_eq name with heq | heq
  · rw [heq, bare_of_unmarked h]
  · have hmark : bare ("@" ++ name) = bare name := by
      simp [bare, Text.stripStart]
    rw [heq, hmark, bare_of_unmarked h]

theorem escape_injective {name name' : String} (h : Unmarked name) (h' : Unmarked name')
    (heq : escape name = escape name') : name = name' := by
  rw [← bare_escape h, heq, bare_escape h']

theorem nativeLocal_escape {name : String} (h : Unmarked name) :
    nativeLocal (escape name) = "native_" ++ name := by
  rw [nativeLocal, bare_escape h]

/-- An escaped name is a native local only if the name itself is. -/
theorem eq_of_escape_eq_native {name name' : String} (h : escape name = "native_" ++ name') :
    name = "native_" ++ name' := by
  rcases escape_eq name with heq | heq
  · rw [← heq, h]
  · rw [heq] at h
    have hhead := congrArg (fun text => text.toList.head?) h
    simp at hhead

end Identifier

/-- The local that a step introduces. -/
def Decl.Step.local? : Decl.Step → Option String
  | .boolValue name | .boolRef name | .voidPointer name | .string name | .stringBuffer name
  | .pinned name _ | .array name _ | .stringArray name => some (Identifier.nativeLocal name)
  | .defaultValue name _ _ | .defaultString name _ _ => some name
  | .boolWriteback _ | .stringFree _ | .defaultStringFree _ => none

/-- The local that a step after the call belongs to. -/
def Decl.Step.closes? : Decl.Step → Option String
  | .boolWriteback name | .stringFree name => some (Identifier.nativeLocal name)
  | .defaultStringFree name => some name
  | _ => none

/-- The locals that are introduced before the call, each as often as there are steps that introduce it. -/
def Decl.Marshaling.locals (m : Decl.Marshaling) : List String :=
  (m.before ++ m.fixed).filterMap Decl.Step.local?

namespace Generate

open Metadata Decl Build Symbols

variable {R : Origin → TypeId → Prop} {s : Symbols} {function : Function} {argument : Argument}
  {t : NativeType} {name expression : String} {m m' : Marshaling} {passing : Passing}
  {passings : List Passing} {arguments front tail : List (Argument × NativeType)}

/-! ### What is passed -/

/-- The expression is the pointer of a view, a parameter, or a local, maybe as a pointer to floats. -/
def Named (m : Marshaling) (expression : String) : Prop :=
  expression = "NativePtr" ∨ ∃ name, (expression = name ∨ expression = "(float*)" ++ name) ∧
    (name ∈ m.managed.map (·.name) ∨ name ∈ m.locals)

theorem mem_locals : name ∈ m.locals ↔ ∃ step ∈ m.before ++ m.fixed, step.local? = some name :=
  List.mem_filterMap

theorem count_locals_join (name : String) (m m' : Marshaling) :
    (join m m').locals.count name = m.locals.count name + m'.locals.count name := by
  simp only [Marshaling.locals, join, List.filterMap_append, List.count_append]
  omega

theorem mem_locals_join : name ∈ (join m m').locals ↔ name ∈ m.locals ∨ name ∈ m'.locals := by
  rw [← List.count_pos_iff, count_locals_join, ← List.count_pos_iff, ← List.count_pos_iff]
  omega

theorem Named.join_left (h : Named m expression) (m' : Marshaling) : Named (join m m') expression := by
  refine h.imp id fun ⟨name, hname, hfrom⟩ => ⟨name, hname, hfrom.imp (fun hmem => ?_) fun hmem => ?_⟩
  · rw [join, List.map_append]
    exact List.mem_append_left _ hmem
  · exact mem_locals_join.mpr (.inl hmem)

theorem Named.join_right (h : Named m' expression) (m : Marshaling) : Named (join m m') expression := by
  refine h.imp id fun ⟨name, hname, hfrom⟩ => ⟨name, hname, hfrom.imp (fun hmem => ?_) fun hmem => ?_⟩
  · rw [join, List.map_append]
    exact List.mem_append_right _ hmem
  · exact mem_locals_join.mpr (.inr hmem)

theorem named_part (passing : Passing) (name : String) :
    Named (passing.part name) (passing.expression name) := by
  cases passing with
  | self => exact .inl rfl
  | byName type => exact .inr ⟨name, .inl rfl, .inl List.mem_cons_self⟩
  | vector bounds => exact .inr ⟨_, .inr rfl, .inr List.mem_cons_self⟩
  | _ => exact .inr ⟨_, .inl rfl, .inr List.mem_cons_self⟩

/-- Everything that is passed is named. -/
theorem named_marshal (arguments : List (Argument × NativeType)) (passings : List Passing) :
    ∀ expression ∈ (marshal arguments passings).native, Named (marshal arguments passings) expression := by
  induction passings generalizing arguments with
  | nil =>
    rw [show marshal arguments [] = {} by cases arguments <;> rfl]
    exact fun _ hmem => nomatch hmem
  | cons passing passings ih =>
    cases arguments with
    | nil => exact fun _ hmem => nomatch hmem
    | cons first arguments =>
      rw [marshal_cons]
      intro expression hexpression
      rcases List.mem_append.mp hexpression with hfirst | hothers
      · rw [native_part, List.mem_singleton] at hfirst
        rw [hfirst]
        exact (named_part _ _).join_left _
      · exact (ih arguments expression hothers).join_right _

/-! ### Locals of their own -/

theorem locals_given (h : Given R s function argument t passing) (name : String) :
    (passing.part name).locals.Sublist [Identifier.nativeLocal name] := by
  cases h <;> simp [Passing.part, Marshaling.locals, Step.local?]

theorem DefaultStep.local_eq {step : Decl.Step} (h : DefaultStep R s argument t step) :
    step.local? = some (Identifier.escape argument.name) := by
  cases h <;> rfl

theorem locals_defaults (h : Defaults R s arguments m) :
    m.locals = arguments.map fun argument => Identifier.escape argument.1.name := by
  obtain ⟨-, -, hbefore, hfixed, -⟩ := h
  rw [Marshaling.locals, hfixed, List.append_nil]
  generalize m.before = steps at hbefore
  induction hbefore with
  | nil => rfl
  | cons hfirst _ ih => rw [List.filterMap_cons_some hfirst.local_eq, ih, List.map_cons]

/-- The native locals of arguments in front, each as often as there are arguments of the name. -/
theorem count_locals_front (h : AllInFull R s function front passings)
    (hunmarked : ∀ argument ∈ front, Identifier.Unmarked argument.1.name) (name : String) :
    (marshal front passings).locals.count name ≤
      (front.map fun argument => "native_" ++ argument.1.name).count name := by
  induction h with
  | nil => exact Nat.le_refl _
  | @cons first passing front passings hfirst _ ih =>
    obtain ⟨hmark, hothers⟩ := List.forall_mem_cons.mp hunmarked
    have hone : (passing.part (Identifier.escape first.1.name)).locals.Sublist
        ["native_" ++ first.1.name] := by
      cases hfirst with
      | self => exact List.nil_sublist _
      | given _ given =>
        rw [← Identifier.nativeLocal_escape hmark]
        exact locals_given given _
    have hcount := hone.count_le name
    have := ih hothers
    rw [marshal_cons, count_locals_join, List.map_cons, List.count_cons]
    rw [List.count_singleton] at hcount
    omega

/-! ### Where a wrapper stops -/

theorem cons_mem_stops {first : Argument × NativeType} (h : (front, tail) ∈ stops arguments) :
    (first :: front, tail) ∈ stops (first :: arguments) := by
  have hlater : (first :: front, tail) ∈
      (stops arguments).map fun stop => (first :: stop.1, stop.2) := List.mem_map.mpr ⟨_, h, rfl⟩
  cases hstop : stopsAt first with
  | true =>
    rw [stops_cons_of_stopsAt hstop]
    exact List.mem_cons_of_mem _ hlater
  | false =>
    rw [stops_cons_of_not hstop]
    exact hlater

theorem append_of_mem_stops {stop : List (Argument × NativeType) × List (Argument × NativeType)}
    (h : stop ∈ stops arguments) : stop.1 ++ stop.2 = arguments := by
  induction arguments generalizing stop with
  | nil => cases h
  | cons first rest ih =>
    have hlater : ∀ stop ∈ (stops rest).map fun stop => (first :: stop.1, stop.2),
        stop.1 ++ stop.2 = first :: rest := by
      intro stop hstop
      obtain ⟨later, hmem, rfl⟩ := List.mem_map.mp hstop
      rw [List.cons_append, ih hmem]
    cases hstop : stopsAt first with
    | true =>
      rw [stops_cons_of_stopsAt hstop] at h
      rcases List.mem_cons.mp h with rfl | h
      · rfl
      · exact hlater stop h
    | false =>
      rw [stops_cons_of_not hstop] at h
      exact hlater stop h

/-- The arguments are parted where a wrapper may end: at a stop, or after all of them. -/
def PartedAt (arguments front tail : List (Argument × NativeType)) : Prop :=
  (front = arguments ∧ tail = []) ∨ (front, tail) ∈ stops arguments

theorem PartedAt.cons {first : Argument × NativeType} (h : PartedAt arguments front tail) :
    PartedAt (first :: arguments) (first :: front) tail :=
  h.imp (fun ⟨hfront, htail⟩ => ⟨congrArg _ hfront, htail⟩) cons_mem_stops

theorem PartedAt.append (h : PartedAt arguments front tail) : front ++ tail = arguments := by
  rcases h with ⟨rfl, rfl⟩ | h
  · exact List.append_nil _
  · exact append_of_mem_stops h

/-- A planned marshaling gives the arguments in front and the defaults of the others. -/
theorem Planned.parted (h : Planned R s function arguments passings) :
    ∃ front tail given defaults, PartedAt arguments front tail ∧ AllInFull R s function front given ∧
      Defaults R s tail defaults ∧ marshal arguments passings = join (marshal front given) defaults := by
  induction h with
  | none => exact ⟨[], [], [], {}, .inl ⟨rfl, rfl⟩, .nil, ⟨rfl, rfl, .nil, rfl, rfl⟩, rfl⟩
  | @self argument t arguments passings hself _ ih =>
    obtain ⟨front, tail, given, defaults, hparted, hgiven, hdefaults, heq⟩ := ih
    refine ⟨(argument, t) :: front, tail, .self :: given, defaults, hparted.cons,
      .cons (.self hself) hgiven, hdefaults, ?_⟩
    rw [marshal_cons, marshal_cons, join_assoc, heq]
  | @given argument t arguments passing passings hself first _ ih =>
    obtain ⟨front, tail, given, defaults, hparted, hgiven, hdefaults, heq⟩ := ih
    refine ⟨(argument, t) :: front, tail, passing :: given, defaults, hparted.cons,
      .cons (.given hself first) hgiven, hdefaults, ?_⟩
    rw [marshal_cons, marshal_cons, join_assoc, heq]
  | @omitted argument t arguments passings hself hdefault all =>
    have hstop : stopsAt (argument, t) = true := by rw [stopsAt_eq hself, hdefault]
    refine ⟨[], (argument, t) :: arguments, [], _, .inr ?_, .nil, defaults_marshal all, ?_⟩
    · rw [stops_cons_of_stopsAt hstop]
      exact List.mem_cons_self
    · rw [marshal_nil, empty_join]

/-! ### Names that keep locals apart -/

/--
The arguments of the function have different names without the mark of an escaped word, and none from a default
on is named like the native local of an argument in front of that default.
-/
structure NamesApart (function : Function) : Prop where
  nodup : ((typedArguments function.arguments).map (·.1.name)).Nodup
  unmarked : ∀ argument ∈ typedArguments function.arguments, Identifier.Unmarked argument.1.name
  apart : ∀ stop ∈ stops (typedArguments function.arguments), ∀ given ∈ stop.1, ∀ omitted ∈ stop.2,
    omitted.1.name ≠ "native_" ++ given.1.name

/-- Every local of a wrapper is introduced by one step only. -/
theorem nodup_locals (h : NamesApart function)
    (hplanned : Planned R s function (typedArguments function.arguments) passings) :
    (marshal (typedArguments function.arguments) passings).locals.Nodup := by
  obtain ⟨front, tail, given, defaults, hparted, hgiven, hdefaults, heq⟩ := hplanned.parted
  have happend := hparted.append
  have hnames : ((front ++ tail).map (·.1.name)).Nodup := happend ▸ h.nodup
  have hmarks : ∀ argument ∈ front ++ tail, Identifier.Unmarked argument.1.name := happend ▸ h.unmarked
  obtain ⟨hfrontMarks, htailMarks⟩ := List.forall_mem_append.mp hmarks
  rw [List.map_append] at hnames
  obtain ⟨hfrontNames, htailNames, -⟩ := List.nodup_append.mp hnames
  have hfront : (front.map fun argument => "native_" ++ argument.1.name).Nodup := by
    refine List.pairwise_map.mpr ((List.pairwise_map.mp hfrontNames).imp fun hne hsame => hne ?_)
    have hchars := congrArg String.toList hsame
    simp only [String.toList_append] at hchars
    exact String.toList_injective (List.append_cancel_left hchars)
  have htail : (tail.map fun argument => Identifier.escape argument.1.name).Nodup := by
    refine List.pairwise_map.mpr ((List.pairwise_map.mp htailNames).imp_of_mem ?_)
    intro argument argument' hmem hmem' hne hsame
    exact hne (Identifier.escape_injective (htailMarks _ hmem) (htailMarks _ hmem') hsame)
  have hapart : ∀ given ∈ front, ∀ omitted ∈ tail,
      Identifier.escape omitted.1.name ≠ "native_" ++ given.1.name := by
    intro given hgiven omitted homitted hsame
    rcases hparted with ⟨-, rfl⟩ | hstop
    · cases homitted
    · exact h.apart _ hstop given hgiven omitted homitted (Identifier.eq_of_escape_eq_native hsame)
  rw [List.nodup_iff_count_le_one]
  intro name
  have hcount := count_locals_front hgiven hfrontMarks name
  have hfrontOnce := List.nodup_iff_count_le_one.mp hfront name
  have htailOnce := List.nodup_iff_count_le_one.mp htail name
  rw [heq, count_locals_join, locals_defaults hdefaults]
  by_cases hmem : name ∈ tail.map fun argument => Identifier.escape argument.1.name
  · obtain ⟨omitted, homitted, rfl⟩ := List.mem_map.mp hmem
    have hnone : Identifier.escape omitted.1.name ∉
        front.map fun argument => "native_" ++ argument.1.name := by
      intro hmem
      obtain ⟨given, hgiven, hsame⟩ := List.mem_map.mp hmem
      exact hapart given hgiven omitted homitted hsame.symm
    rw [List.count_eq_zero.mpr hnone] at hcount
    omega
  · rw [List.count_eq_zero.mpr hmem]
    omega

/-! ### Steps in pairs -/

/-- What closes a step belongs to the local that the step introduces. -/
theorem local_of_closing {step closing : Decl.Step} (h : step.closing? = some closing) :
    ∃ name, step.local? = some name ∧ closing.closes? = some name := by
  cases step <;> cases h <;> exact ⟨_, rfl, rfl⟩

/-- The steps of a marshaling are complete and paired. -/
structure Paired (m : Marshaling) : Prop where
  named : ∀ expression ∈ m.native, Named m expression
  once : m.locals.Nodup
  closed : m.after = m.before.filterMap Step.closing?
  single : m.after.Nodup

theorem nodup_closing {steps : List Decl.Step} (h : (steps.filterMap Step.local?).Nodup) :
    (steps.filterMap Step.closing?).Nodup := by
  rw [List.Nodup, List.pairwise_filterMap] at h ⊢
  refine h.imp fun hlocals closing hclosing closing' hclosing' hsame => ?_
  obtain ⟨name, hlocal, hcloses⟩ := local_of_closing hclosing
  obtain ⟨name', hlocal', hcloses'⟩ := local_of_closing hclosing'
  rw [hsame, hcloses'] at hcloses
  exact hlocals name hlocal name' hlocal' (Option.some.inj hcloses).symm

theorem paired_marshal (h : NamesApart function)
    (hplanned : Planned R s function (typedArguments function.arguments) passings) :
    Paired (marshal (typedArguments function.arguments) passings) := by
  have honce := nodup_locals h hplanned
  refine ⟨named_marshal _ _, honce, after_marshal _ _, ?_⟩
  rw [after_marshal]
  refine nodup_closing ?_
  rw [Marshaling.locals, List.filterMap_append] at honce
  exact (List.nodup_append.mp honce).1

end Generate

end InteropGen

import InteropGen.Proofs.Locals
import InteropGen.Render.Decls

/-!
# The bodies of wrappers

The code of a wrapper as lines: what a builder lays out is `Code.linesOf`, which is defined on the tree alone
(`toList_emitAll`). A wrapper that can be written is a head, the steps that introduce locals, one line with the
call, the steps that belong after it, and the line that returns (`exists_body`). Each step before the call has a
line that introduces its local (`introduces_local`), and what closes the step afterwards frees or reads that very
local (`closes_local`). Together with the pairs of steps this is `paired_wrappers`.
-/

namespace InteropGen

/-! ### Code as lines -/

namespace Code

/-- A text on a line at a depth; an empty line stays empty. -/
def placed (depth : Nat) (text : String) : String :=
  if text.isEmpty then "" else Builder.margin depth ++ text

mutual

/-- The lines of code at a depth. -/
def lines (depth : Nat) : Code → List String
  | line text => [placed depth text]
  | block header body =>
    (if header.isEmpty then [] else [placed depth header]) ++
      placed depth "\x7b" :: (linesOf (depth + 1) body ++ [placed depth "\x7d"])

/-- The lines of pieces of code one below the other. -/
def linesOf (depth : Nat) : List Code → List String
  | [] => []
  | code :: rest => lines depth code ++ linesOf depth rest

end

theorem linesOf_append (depth : Nat) (code code' : List Code) :
    linesOf depth (code ++ code') = linesOf depth code ++ linesOf depth code' := by
  induction code with
  | nil => rfl
  | cons first rest ih => rw [List.cons_append, linesOf, linesOf, ih, List.append_assoc]

theorem linesOf_flatMap {α : Type} (depth : Nat) (items : List α) (code : α → List Code) :
    linesOf depth (items.flatMap code) = items.flatMap fun item => linesOf depth (code item) := by
  induction items with
  | nil => rfl
  | cons first rest ih => rw [List.flatMap_cons, linesOf_append, ih, List.flatMap_cons]

theorem linesOf_flatten (depth : Nat) (pieces : List (List Code)) :
    linesOf depth pieces.flatten = pieces.flatMap (linesOf depth) := by
  rw [← List.flatMap_id, linesOf_flatMap]
  rfl

theorem toList_line (b : Builder) (text : String) :
    (b.line text).lines.toList = b.lines.toList ++ [placed b.depth text] := by
  simp [Builder.line, placed]

theorem toList_openBlock (b : Builder) (header : String) :
    (b.openBlock header).lines.toList = b.lines.toList ++
      ((if header.isEmpty then [] else [placed b.depth header]) ++ [placed b.depth "\x7b"]) := by
  unfold Builder.openBlock Builder.pushBlock
  split
  · exact toList_line b _
  · show ((b.line header).line "\x7b").lines.toList = _
    rw [toList_line, toList_line, List.append_assoc]
    rfl

theorem depth_openBlock (b : Builder) (header : String) : (b.openBlock header).depth = b.depth + 1 := by
  unfold Builder.openBlock
  split <;> rfl

mutual

/-- A builder lays out the lines of code at its depth. -/
theorem toList_emit (code : Code) (b : Builder) :
    (emit code b).lines.toList = b.lines.toList ++ lines b.depth code := by
  cases code with
  | line text => exact toList_line b text
  | block header body =>
    show ((emitAll body (b.openBlock header)).dedent.line "\x7d").lines.toList = _
    have hdepth : (emitAll body (b.openBlock header)).dedent.depth = b.depth := by
      rw [Builder.depth_dedent, depth_emitAll, depth_openBlock, Nat.add_sub_cancel]
    rw [toList_line, hdepth]
    show (emitAll body (b.openBlock header)).lines.toList ++ _ = _
    rw [toList_emitAll body, depth_openBlock, toList_openBlock, lines]
    simp only [List.append_assoc, List.cons_append, List.nil_append]

theorem toList_emitAll (code : List Code) (b : Builder) :
    (emitAll code b).lines.toList = b.lines.toList ++ linesOf b.depth code := by
  cases code with
  | nil => exact (List.append_nil _).symm
  | cons first rest =>
    rw [emitAll, toList_emitAll rest, toList_emit first, depth_emit, linesOf, List.append_assoc]

end

theorem mem_linesOf {code : List Code} {text : String} (h : line text ∈ code) (depth : Nat) :
    placed depth text ∈ linesOf depth code := by
  obtain ⟨front, back, rfl⟩ := List.append_of_mem h
  rw [linesOf_append]
  exact List.mem_append_right _ List.mem_cons_self

end Code

namespace Generate

open Metadata Decl Build Symbols

variable {s : Symbols} {function : Function} {wrapper : Wrapper} {step : Decl.Step} {code : List Code}
  {name : String}

/-! ### The parts of a body -/

/-- The code of each of the steps. -/
abbrev Written (s : Symbols) : List Decl.Step → List (List Code) → Prop :=
  List.Forall₂ fun step code => Render.step s step = .ok code

theorem written_steps {steps : List Decl.Step} (h : Render.steps s steps = .ok code) :
    ∃ pieces, Written s steps pieces ∧ code = pieces.flatten := by
  obtain ⟨pieces, hpieces, hpure⟩ := except_bind_ok.mp h
  exact ⟨pieces, except_mapM_ok.mp hpieces, (Except.ok.inj hpure).symm⟩

/-- What a wrapper is written with: its head, the type that it returns, and the code of its steps. -/
structure Body (s : Symbols) (wrapper : Wrapper) where
  header : String
  result : String
  introductions : List (List Code)
  pins : List (List Code)
  closings : List (List Code)
  spelled : s.spell wrapper.result = .ok result
  introduced : Written s wrapper.marshaling.before introductions
  pinned : Written s wrapper.marshaling.fixed pins
  closed : Written s wrapper.marshaling.after closings

namespace Body

/-- The depth of the call in a wrapper: it stands in one more block if something is pinned. -/
def callDepth (wrapper : Wrapper) (depth : Nat) : Nat :=
  if wrapper.marshaling.fixed.isEmpty then depth + 1 else depth + 2

/-- The lines in front of the call: the head, and the steps that introduce locals. -/
def opening (body : Body s wrapper) (depth : Nat) : List String :=
  Code.placed depth body.header :: Code.placed depth "\x7b" ::
    (body.introductions.flatMap (fun code => Code.linesOf (depth + 1) code ++ [""]) ++
      body.pins.flatMap (Code.linesOf (depth + 1)) ++
      if wrapper.marshaling.fixed.isEmpty then [] else [Code.placed (depth + 1) "\x7b"])

/-- The line of the call. -/
def call (body : Body s wrapper) (depth : Nat) : String :=
  Code.placed (callDepth wrapper depth) <| String.join
    [if body.result ≠ "void" then "var ret = " else "",
      String.join [wrapper.nativeClass, ".", wrapper.entryPoint, "(",
        String.intercalate ", " wrapper.marshaling.native, ");"]]

/-- The lines of the steps after the call. -/
def closing (body : Body s wrapper) (depth : Nat) : List String :=
  body.closings.flatMap (Code.linesOf (callDepth wrapper depth))

/-- The line that returns, if anything is returned. -/
def returning (body : Body s wrapper) (depth : Nat) : List String :=
  if body.result ≠ "void" then
    [Code.placed (callDepth wrapper depth) (String.join ["return ", wrapper.resultCode, ";"])]
  else []

/-- The braces at the end. -/
def ending (wrapper : Wrapper) (depth : Nat) : List String :=
  (if wrapper.marshaling.fixed.isEmpty then [] else [Code.placed (depth + 1) "\x7d"]) ++
    [Code.placed depth "\x7d"]

/-- The lines of a wrapper: what is introduced, the call, what is closed, and what is returned. -/
def lines (body : Body s wrapper) (depth : Nat) : List String :=
  body.opening depth ++ body.call depth ::
    (body.closing depth ++ body.returning depth ++ ending wrapper depth)

/-- The code from the call on. -/
def inner (body : Body s wrapper) : List Code :=
  Render.line [if body.result ≠ "void" then "var ret = " else "",
      String.join [wrapper.nativeClass, ".", wrapper.entryPoint, "(",
        String.intercalate ", " wrapper.marshaling.native, ");"]] :: body.closings.flatten ++
    (if body.result ≠ "void" then [Render.line ["return ", wrapper.resultCode, ";"]] else [])

theorem linesOf_inner (body : Body s wrapper) (depth : Nat) :
    Code.linesOf (callDepth wrapper depth) body.inner =
      body.call depth :: (body.closing depth ++ body.returning depth) := by
  rw [inner, List.cons_append, Code.linesOf, Code.linesOf_append, Code.linesOf_flatten]
  have hreturn : Code.linesOf (callDepth wrapper depth)
      (if body.result ≠ "void" then [Render.line ["return ", wrapper.resultCode, ";"]] else []) =
        body.returning depth := by
    unfold returning
    split <;> rfl
  rw [hreturn]
  rfl

end Body

/-- A wrapper that can be written is laid out so. -/
theorem exists_body (h : Render.wrapper s wrapper = .ok code) :
    ∃ body : Body s wrapper, ∀ depth, Code.linesOf depth code = body.lines depth := by
  obtain ⟨result, hresult, h⟩ := except_bind_ok.mp h
  obtain ⟨parameters, -, h⟩ := except_bind_ok.mp h
  obtain ⟨introductions, hintroductions, h⟩ := except_bind_ok.mp h
  obtain ⟨fixed, hfixed, h⟩ := except_bind_ok.mp h
  obtain ⟨after, hafter, h⟩ := except_bind_ok.mp h
  obtain ⟨pins, hpins, rfl⟩ := written_steps hfixed
  obtain ⟨closings, hclosings, rfl⟩ := written_steps hafter
  let body : Body s wrapper :=
    { header := String.join [Render.modifierText wrapper.head, result, " ", wrapper.head.name, "(",
        String.intercalate ", " parameters, ")"]
      result := result
      introductions := introductions
      pins := pins
      closings := closings
      spelled := hresult
      introduced := except_mapM_ok.mp hintroductions
      pinned := hpins
      closed := hclosings }
  have hcode : [.line body.header, .block "" (introductions.flatMap (· ++ [.line ""]) ++
      if wrapper.marshaling.fixed.isEmpty then body.inner
      else pins.flatten ++ [.block "" body.inner])] = code := Except.ok.inj h
  refine ⟨body, fun depth => ?_⟩
  have hgaps : Code.linesOf (depth + 1) (introductions.flatMap (· ++ [Code.line ""])) =
      introductions.flatMap fun code => Code.linesOf (depth + 1) code ++ [""] := by
    rw [Code.linesOf_flatMap]
    simp only [Code.linesOf_append]
    rfl
  have hinner := body.linesOf_inner depth
  rw [← hcode, Body.lines, Body.opening, Body.ending]
  by_cases hnone : wrapper.marshaling.fixed.isEmpty = true
  · have hempty : body.pins = [] := by
      have hpinned := body.pinned
      rw [List.isEmpty_iff.mp hnone] at hpinned
      cases hpinned
      rfl
    rw [Body.callDepth, if_pos hnone] at hinner
    simp only [if_pos hnone, Code.linesOf, Code.lines, Code.linesOf_append, hgaps, hinner, hempty]
    simp [body]
  · rw [Body.callDepth, if_neg hnone] at hinner
    simp only [if_neg hnone, Code.linesOf, Code.lines, Code.linesOf_append, Code.linesOf_flatten, hgaps,
      hinner]
    simp [body]

/-! ### What the lines say -/

/-- The line declares a local of the name. -/
def Introduces (name line : String) : Prop :=
  ∃ depth type rest, line = Code.placed depth (type ++ " " ++ name ++ rest) ∧
    (rest = ";" ∨ ∃ value, rest = " = " ++ value)

/-- The line releases the local of the name, or reads back what the call has left in it. -/
def Concludes (name line : String) : Prop :=
  ∃ depth, line = Code.placed depth ("Util.Free(" ++ name ++ ");") ∨
    ∃ target, line = Code.placed depth (target ++ " = " ++ name ++ "_val != 0;")

theorem introduces_of_plain {text : String} {i : Nat} (type : String)
    (hline : code[i]? = some (.line text)) (depth : Nat) (htext : text = type ++ " " ++ name ++ ";") :
    ∃ line ∈ Code.linesOf depth code, Introduces name line :=
  ⟨_, Code.mem_linesOf (List.mem_of_getElem? hline) depth, depth, type, ";", congrArg _ htext, .inl rfl⟩

theorem introduces_of_value {text : String} {i : Nat} (type value : String)
    (hline : code[i]? = some (.line text)) (depth : Nat)
    (htext : text = type ++ " " ++ name ++ (" = " ++ value)) :
    ∃ line ∈ Code.linesOf depth code, Introduces name line :=
  ⟨_, Code.mem_linesOf (List.mem_of_getElem? hline) depth, depth, type, " = " ++ value,
    congrArg _ htext, .inr ⟨value, rfl⟩⟩

/-- The code of a step introduces the local that belongs to the step. -/
theorem introduces_local (h : Render.step s step = .ok code) (hlocal : step.local? = some name)
    (depth : Nat) : ∃ line ∈ Code.linesOf depth code, Introduces name line := by
  cases step with
  | boolValue argument =>
    cases hlocal
    cases h
    refine introduces_of_value (i := 1) "var" (argument ++ " ? (byte)1 : (byte)0;") rfl depth ?_
    simp [← String.toList_inj, String.join]
  | boolRef argument =>
    cases hlocal
    cases h
    refine introduces_of_value (i := 2) "var" ("&" ++ Identifier.nativeLocal argument ++ "_val;") rfl
      depth ?_
    simp [← String.toList_inj, String.join]
  | voidPointer argument =>
    cases hlocal
    cases h
    refine introduces_of_value (i := 1) "var" (argument ++ ".ToPointer();") rfl depth ?_
    simp [← String.toList_inj, String.join]
  | string argument =>
    cases hlocal
    cases h
    refine introduces_of_plain (i := 1) "byte*" rfl depth ?_
    simp [String.join]
  | stringBuffer argument =>
    cases hlocal
    cases h
    refine introduces_of_value (i := 0) "fixed (byte*" (argument ++ ")") rfl depth ?_
    simp [← String.toList_inj, String.join]
  | pinned argument type =>
    obtain ⟨spelled, -, h⟩ := except_bind_ok.mp h
    cases hlocal
    cases h
    refine introduces_of_value (i := 0) ("fixed (" ++ spelled ++ "*") ("&" ++ argument ++ ")") rfl depth ?_
    simp [← String.toList_inj, String.join]
  | array argument type =>
    obtain ⟨spelled, -, h⟩ := except_bind_ok.mp h
    cases hlocal
    cases h
    refine introduces_of_value (i := 1) "var" ("stackalloc " ++ spelled ++ "[" ++ argument ++ ".Length];")
      rfl depth ?_
    simp [← String.toList_inj, String.join]
  | stringArray argument =>
    cases hlocal
    cases h
    refine introduces_of_value (i := 7) "var" ("stackalloc byte*[" ++ argument ++ ".Length];") rfl depth ?_
    simp [← String.toList_inj, String.join]
  | defaultValue argument type value =>
    obtain ⟨spelled, -, h⟩ := except_bind_ok.mp h
    obtain ⟨text, -, h⟩ := except_bind_ok.mp h
    cases hlocal
    cases h
    refine introduces_of_value (i := 0) spelled (text ++ ";") rfl depth ?_
    simp [← String.toList_inj, String.join]
  | defaultString argument type value =>
    obtain ⟨spelled, -, h⟩ := except_bind_ok.mp h
    obtain ⟨text, -, h⟩ := except_bind_ok.mp h
    cases hlocal
    cases h
    refine introduces_of_plain (i := 0) spelled rfl depth ?_
    simp [String.join]
  | boolWriteback | stringFree | defaultStringFree => cases hlocal

/-- The code of a step after the call closes the local that belongs to the step. -/
theorem closes_local (h : Render.step s step = .ok code) (hcloses : step.closes? = some name)
    (depth : Nat) : ∃ line ∈ Code.linesOf depth code, Concludes name line := by
  have hfree : ∀ argument local' : String, ∃ line ∈ Code.linesOf depth
      [Render.longText argument [Render.line ["Util.Free(", local', ");"]]], Concludes local' line := by
    intro argument local'
    refine ⟨Code.placed (depth + 1) ("Util.Free(" ++ local' ++ ");"), ?_, depth + 1, .inl rfl⟩
    simp [Render.longText, Render.block, Render.line, Code.linesOf, Code.lines, String.join]
  cases step with
  | stringFree argument =>
    cases hcloses
    cases h
    exact hfree _ _
  | defaultStringFree argument =>
    cases hcloses
    cases h
    exact hfree _ _
  | boolWriteback argument =>
    cases hcloses
    cases h
    refine ⟨_, List.mem_cons_self, depth, .inr ⟨argument, congrArg _ ?_⟩⟩
    simp [String.join]
  | _ => cases hcloses

/-! ### Wrappers in order -/

/-- The code introduces every local before the call, and closes every local that it must after the call. -/
structure InOrder (s : Symbols) (wrapper : Wrapper) (code : List Code) (body : Body s wrapper) : Prop where
  lines : ∀ b : Code.Builder,
    (Code.emitAll code b).lines.toList = b.lines.toList ++ body.lines b.depth
  introduced : ∀ name ∈ wrapper.marshaling.locals, ∀ depth,
    ∃ line ∈ body.opening depth, Introduces name line
  closed : ∀ step ∈ wrapper.marshaling.after, ∃ name ∈ wrapper.marshaling.locals,
    step.closes? = some name ∧ ∀ depth, ∃ line ∈ body.closing depth, Concludes name line

theorem Body.introduces (body : Body s wrapper) (hname : name ∈ wrapper.marshaling.locals) (depth : Nat) :
    ∃ line ∈ body.opening depth, Introduces name line := by
  obtain ⟨step, hstep, hlocal⟩ := mem_locals.mp hname
  rcases List.mem_append.mp hstep with hbefore | hfixed
  · obtain ⟨code, hcode, hwritten⟩ := forall₂_mem body.introduced hbefore
    obtain ⟨line, hline, hintroduces⟩ := introduces_local hwritten hlocal (depth + 1)
    have hmem : line ∈ body.introductions.flatMap fun code => Code.linesOf (depth + 1) code ++ [""] :=
      List.mem_flatMap.mpr ⟨code, hcode, List.mem_append_left _ hline⟩
    exact ⟨line, by simp [Body.opening, hmem], hintroduces⟩
  · obtain ⟨code, hcode, hwritten⟩ := forall₂_mem body.pinned hfixed
    obtain ⟨line, hline, hintroduces⟩ := introduces_local hwritten hlocal (depth + 1)
    have hmem : line ∈ body.pins.flatMap (Code.linesOf (depth + 1)) :=
      List.mem_flatMap.mpr ⟨code, hcode, hline⟩
    exact ⟨line, by simp [Body.opening, hmem], hintroduces⟩

theorem inOrder_of_closed (h : Render.wrapper s wrapper = .ok code)
    (hafter : wrapper.marshaling.after = wrapper.marshaling.before.filterMap Decl.Step.closing?) :
    ∃ body, InOrder s wrapper code body := by
  obtain ⟨body, hlines⟩ := exists_body h
  refine ⟨body, fun b => ?_, fun name => body.introduces, fun closing hclosing => ?_⟩
  · rw [Code.toList_emitAll, hlines]
  · have hmem := hclosing
    rw [hafter] at hmem
    obtain ⟨step, hstep, hcloses⟩ := List.mem_filterMap.mp hmem
    obtain ⟨name, hlocal, hname⟩ := local_of_closing hcloses
    refine ⟨name, mem_locals.mpr ⟨step, List.mem_append_left _ hstep, hlocal⟩, hname, fun depth => ?_⟩
    obtain ⟨code, hcode, hwritten⟩ := forall₂_mem body.closed hclosing
    obtain ⟨line, hline, hcloses⟩ := closes_local hwritten hname (Body.callDepth wrapper depth)
    exact ⟨line, List.mem_flatMap.mpr ⟨code, hcode, hline⟩, hcloses⟩

/--
If the names of a function's arguments keep its locals apart, every wrapper of it passes only parameters and
locals that one step introduces, closes each step that must be closed by one step of the same local and does
nothing else after the call, and is written with the steps before the call, the one call, the steps after it
and the returned value in this order.
-/
theorem paired_wrappers {target : WrapperClass} {st st' : Scoped} {made : List Wrapper}
    (hnames : NamesApart function) (hrun : (wrappers target function).runOn st = (.ok made, st')) :
    ∀ wrapper ∈ made, Paired wrapper.marshaling ∧
      ∀ s code, Render.wrapper s wrapper = .ok code → ∃ body, InOrder s wrapper code body := by
  intro wrapper hwrapper
  obtain ⟨passings, hplanned, heq⟩ :=
    (wrappersOf (.refl _) (.refl _) hrun wrapper hwrapper).marshaling
  have hpaired : Paired wrapper.marshaling := heq ▸ paired_marshal hnames hplanned
  exact ⟨hpaired, fun _ _ hcode => inOrder_of_closed hcode hpaired.closed⟩

/-- A function with a text, a truth value that is changed, and a number that may be left out. -/
def checkbox : Function where
  name := "ImGui_Checkbox"
  result := { type := { kind := .builtin, builtin := some "bool" } }
  arguments :=
    [{ name := "label"
       info := some { type :=
        { kind := .pointer
          inner := some { kind := .builtin, builtin := some "char", storage := ["const"] } } } },
     { name := "v"
       info := some { type :=
        { kind := .pointer, inner := some { kind := .builtin, builtin := some "bool" } } } },
     { name := "count"
       info := some { type := { kind := .builtin, builtin := some "int" } }
       default := some "1" }]

theorem paired_wrappers_checkbox :
    NamesApart checkbox ∧ ∃ made st' wrapper,
      (wrappers { nativeClass := "Native" } checkbox).runOn begunClass = (.ok made, st') ∧
      wrapper ∈ made ∧ wrapper.marshaling.native = ["native_label", "native_v", "count"] ∧
      Paired wrapper.marshaling ∧
      ∀ s code, Render.wrapper s wrapper = .ok code → ∃ body, InOrder s wrapper code body := by
  have hnames : NamesApart checkbox := by
    refine ⟨by decide +kernel, ?_, by decide +kernel⟩
    unfold Identifier.Unmarked
    decide +kernel
  obtain ⟨made, st', hrun, hnative⟩ := exists_ok (wrappers { nativeClass := "Native" } checkbox) begunClass
    (fun made _ => made.map (·.marshaling.native))
    (b := [["native_label", "native_v", "count"], ["native_label", "native_v", "count"]])
    (by decide +kernel)
  obtain ⟨wrapper, rest, hwrappers, hfirst, -⟩ := List.map_eq_cons_iff.mp hnative
  have hwrapper : wrapper ∈ made := by simp [hwrappers]
  obtain ⟨hpaired, hordered⟩ := paired_wrappers hnames hrun wrapper hwrapper
  exact ⟨hnames, made, st', wrapper, hrun, hwrapper, hfirst, hpaired, hordered⟩

/-- A function with an argument that is named like the native local of the one in front of it. -/
def nativeNamed : Function where
  name := "ImGui_Show"
  result := { type := { kind := .builtin, builtin := some "void" } }
  arguments :=
    [{ name := "x", info := some { type := { kind := .builtin, builtin := some "bool" } } },
     { name := "native_x"
       info := some { type := { kind := .builtin, builtin := some "int" } }
       default := some "1" }]

/-- The shorter wrapper of the function passes a local that two of its steps introduce. -/
theorem local_introduced_twice :
    (nativeNamed.arguments.map (·.name)).Nodup ∧ ∃ made st' wrapper expression,
      (wrappers { nativeClass := "Native" } nativeNamed).runOn begunClass = (.ok made, st') ∧
      wrapper ∈ made ∧ expression ∈ wrapper.marshaling.native ∧ expression ≠ "NativePtr" ∧
      ∀ name, (expression = name ∨ expression = "(float*)" ++ name) →
        name ∉ wrapper.marshaling.managed.map (·.name) ∧ wrapper.marshaling.locals.count name ≠ 1 := by
  obtain ⟨made, st', hrun, hread⟩ := exists_ok (wrappers { nativeClass := "Native" } nativeNamed) begunClass
    (fun made _ => made.map fun wrapper => (wrapper.marshaling.native,
      wrapper.marshaling.managed.map (·.name), wrapper.marshaling.locals))
    (b := [(["native_x", "native_x"], ["x"], ["native_x", "native_x"]),
      (["native_x", "native_x"], ["x", "native_x"], ["native_x"])])
    (by decide +kernel)
  obtain ⟨wrapper, rest, hwrappers, hfirst, -⟩ := List.map_eq_cons_iff.mp hread
  obtain ⟨hnative, hothers⟩ := Prod.mk.inj hfirst
  obtain ⟨hmanaged, hlocals⟩ := Prod.mk.inj hothers
  refine ⟨by decide, made, st', wrapper, "native_x", hrun, by simp [hwrappers], by simp [hnative], by decide,
    fun name hname => ?_⟩
  rw [hmanaged, hlocals]
  rcases hname with rfl | hcast
  · decide
  · have hhead := congrArg (fun text => text.toList.head?) hcast
    simp at hhead

end Generate

end InteropGen

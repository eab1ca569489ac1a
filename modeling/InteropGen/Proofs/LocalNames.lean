import InteropGen.Proofs.Scopes

/-!
# The names of locals

The names of the locals of a step are formed from the name of its argument, by what is put in front of it and
behind it. `outer`, `nested` and `counters` list them by the blocks where they stand; the marked code declares
just these (`declaredIn_stepBody`, `scopes_stepBody`). The names of one step are different from each other
(`nodup_names`) and, unless the step stands for an argument that is left out, from that argument
(`form_of_mem`): they differ in their weight, in which the text around the argument's name can be read.
-/

namespace InteropGen

namespace Identifier

instance (name : String) : Decidable (Unmarked name) := inferInstanceAs (Decidable (_ ≠ _))

theorem bare_append (name : String) {suffix : String} (h : Unmarked suffix) :
    bare (name ++ suffix) = bare name ++ suffix := by
  have hsuffix : suffix.toList.dropWhile (· == '@') = suffix.toList := by
    have hbare := congrArg String.toList (bare_of_unmarked h)
    rwa [bare, Text.stripStart, String.toList_ofList] at hbare
  rw [← String.toList_inj, String.toList_append, bare, bare, Text.stripStart, Text.stripStart,
    String.toList_ofList, String.toList_ofList, String.toList_append, List.dropWhile_append, hsuffix]
  split
  · rename_i hempty
    rw [List.isEmpty_iff.mp hempty, List.nil_append]
  · rfl

theorem bare_nativeLocal (name : String) : bare (nativeLocal name) = nativeLocal name := by
  refine bare_of_unmarked ?_
  simp [Unmarked, nativeLocal]

end Identifier

/-! ### The locals of a step -/

namespace Decl.Step

/-- The argument that a step is for, without the mark of an escaped word. -/
def argument : Decl.Step → String
  | boolValue name | boolRef name | boolWriteback name | voidPointer name | string name
  | stringFree name | stringBuffer name | pinned name _ | array name _ | stringArray name
  | defaultValue name _ _ | defaultString name _ _ | defaultStringFree name => Identifier.bare name

/-- Does the step stand for an argument that is left out? -/
def omits : Decl.Step → Bool
  | defaultValue _ _ _ | defaultString _ _ _ => true
  | _ => false

/-- The locals that a step declares in the block where it stands. -/
def outer : Decl.Step → List String
  | boolValue name | voidPointer name | stringBuffer name | pinned name _ | array name _ =>
    [Identifier.nativeLocal name]
  | boolRef name => [Identifier.nativeLocal name ++ "_val", Identifier.nativeLocal name]
  | string name => [Identifier.nativeLocal name, Identifier.bare name ++ "_byteCount"]
  | stringArray name =>
    [Identifier.bare name ++ "_byteCounts", Identifier.bare name ++ "_byteCount",
      Identifier.nativeLocal name ++ "_data", Identifier.bare name ++ "_offset",
      Identifier.nativeLocal name]
  | defaultValue name _ _ => [Identifier.bare name]
  | defaultString name _ _ =>
    [Identifier.bare name, Identifier.bare name ++ "_byteCount", Identifier.bare name ++ "_offset"]
  | boolWriteback _ | stringFree _ | defaultStringFree _ => []

/-- The locals that a step declares in blocks below it, those of loops apart. -/
def nested : Decl.Step → List String
  | string name => [Identifier.bare name ++ "_offset", Identifier.nativeLocal name ++ "_stackBytes"]
  | defaultString name _ _ => [Identifier.bare name ++ "_stackBytes"]
  | _ => []

/-- The locals of the loops of a step. -/
def counters : Decl.Step → List String
  | array _ _ => ["i"]
  | stringArray _ => ["i", "s"]
  | _ => []

end Decl.Step

namespace Render

open Build Statement

variable {s : Symbols} {step : Decl.Step} {body : List Statement} {names : List String}

theorem declaredIn_stepBody (h : stepBody s step = .ok body) : declaredIn body = step.outer := by
  cases step with
  | boolValue name | voidPointer name | stringBuffer name =>
    cases h
    exact congrArg (fun text => [text]) (Identifier.bare_nativeLocal name)
  | boolWriteback | stringFree | defaultStringFree =>
    cases h
    rfl
  | boolRef name =>
    cases h
    show [Identifier.bare (_ ++ _), Identifier.bare _] = _
    simp (disch := decide) only [Identifier.bare_append, Identifier.bare_nativeLocal]
    rfl
  | string name =>
    cases h
    show [Identifier.bare _, Identifier.bare (_ ++ _)] = _
    simp (disch := decide) only [Identifier.bare_append, Identifier.bare_nativeLocal]
    rfl
  | stringArray name =>
    cases h
    show [Identifier.bare (_ ++ _), Identifier.bare (_ ++ _), Identifier.bare (_ ++ _),
      Identifier.bare (_ ++ _), Identifier.bare _] = _
    simp (disch := decide) only [Identifier.bare_append, Identifier.bare_nativeLocal]
    rfl
  | pinned name type =>
    obtain ⟨spelled, -, h⟩ := except_bind_ok.mp h
    cases h
    exact congrArg (fun text => [text]) (Identifier.bare_nativeLocal name)
  | array name type =>
    obtain ⟨spelled, -, h⟩ := except_bind_ok.mp h
    cases h
    exact congrArg (fun text => [text]) (Identifier.bare_nativeLocal name)
  | defaultValue name type value =>
    obtain ⟨spelled, -, h⟩ := except_bind_ok.mp h
    obtain ⟨text, -, h⟩ := except_bind_ok.mp h
    cases h
    rfl
  | defaultString name type value =>
    obtain ⟨spelled, -, h⟩ := except_bind_ok.mp h
    obtain ⟨text, -, h⟩ := except_bind_ok.mp h
    cases h
    show [Identifier.bare _, Identifier.bare (_ ++ _), Identifier.bare (_ ++ _)] = _
    simp (disch := decide) only [Identifier.bare_append]
    rfl

/-! ### The blocks of a step -/

theorem scopesOf_encodeTextBody (names : List String) (name : String) :
    scopesOf names (encodeTextBody name (Identifier.nativeLocal name)) =
      let scope := names ++ [Identifier.bare name ++ "_offset"]
      [scope, scope, scope ++ [Identifier.nativeLocal name ++ "_stackBytes"]] := by
  have hoffset : Identifier.bare (name ++ "_offset") = Identifier.bare name ++ "_offset" :=
    Identifier.bare_append name (by decide)
  have hbytes : Identifier.bare (Identifier.nativeLocal name ++ "_stackBytes") =
      Identifier.nativeLocal name ++ "_stackBytes" := by
    rw [Identifier.bare_append _ (by decide), Identifier.bare_nativeLocal]
  simp [encodeTextBody, allocateTextBody, noteBody, said, declared, under, longTextBody, scopesOf, scopes,
    declaredIn, Line.local?, hoffset, hbytes]

theorem scopesOf_encodeTextsBody (names : List String) (name native : String) :
    scopesOf names (encodeTextsBody name native) =
      [names ++ ["i"], names ++ ["i", "s"], names ++ ["i"]] := by
  have hindex : Identifier.bare "i" = "i" := by decide
  have helement : Identifier.bare "s" = "s" := by decide
  simp [encodeTextsBody, noteBody, said, declared, eachElementBody, scopesOf, scopes, declaredIn,
    Line.local?, hindex, helement]

theorem scopesOf_encodeDefaultBody (names : List String) (name type value : String) :
    scopesOf names (encodeDefaultBody name type value) =
      [names, names ++ [Identifier.bare name ++ "_stackBytes"]] := by
  have hbytes : Identifier.bare (name ++ "_stackBytes") = Identifier.bare name ++ "_stackBytes" :=
    Identifier.bare_append name (by decide)
  simp [encodeDefaultBody, said, declared, under, longTextBody, scopesOf, scopes, declaredIn, Line.local?,
    hbytes]

theorem nodup_iff_innermost {blocks : List (List String)} {innermost : List String}
    (hmem : innermost ∈ blocks) (hothers : ∀ scope ∈ blocks, scope.Sublist innermost) :
    (∀ scope ∈ blocks, scope.Nodup) ↔ innermost.Nodup :=
  ⟨fun h => h innermost hmem, fun h scope hscope => h.sublist (hothers scope hscope)⟩

/-- The blocks of a step are free of captures if its innermost one is. -/
theorem scopes_stepBody (h : stepBody s step = .ok body) (hnames : names.Nodup) :
    (∀ scope ∈ scopesOf names body, scope.Nodup) ↔
      (names ++ (step.nested ++ step.counters)).Nodup := by
  cases step with
  | boolValue name | voidPointer name | stringBuffer name | boolRef name | boolWriteback =>
    cases h
    simp [scopesOf, scopes, noteBody, said, declared, Decl.Step.nested, Decl.Step.counters, hnames]
  | stringFree | defaultStringFree =>
    cases h
    simp [scopesOf, scopes, longTextBody, under, said, declaredIn, Line.local?, Decl.Step.nested,
      Decl.Step.counters, hnames]
  | string name =>
    cases h
    rw [scopesOf_encodeTextBody]
    refine nodup_iff_innermost (by simp [Decl.Step.nested, Decl.Step.counters]) ?_
    simp [Decl.Step.nested, Decl.Step.counters]
  | stringArray name =>
    cases h
    rw [scopesOf_encodeTextsBody]
    refine nodup_iff_innermost (by simp [Decl.Step.nested, Decl.Step.counters]) ?_
    simp [Decl.Step.nested, Decl.Step.counters]
  | pinned name type =>
    obtain ⟨spelled, -, h⟩ := except_bind_ok.mp h
    cases h
    simp [scopesOf, scopes, Decl.Step.nested, Decl.Step.counters, hnames]
  | array name type =>
    obtain ⟨spelled, -, h⟩ := except_bind_ok.mp h
    cases h
    have hindex : Identifier.bare "i" = "i" := by decide
    simp [scopesOf, scopes, noteBody, said, declared, eachElementBody, declaredIn, Line.local?, hindex,
      Decl.Step.nested, Decl.Step.counters]
  | defaultValue name type value =>
    obtain ⟨spelled, -, h⟩ := except_bind_ok.mp h
    obtain ⟨text, -, h⟩ := except_bind_ok.mp h
    cases h
    simp [scopesOf, scopes, Decl.Step.nested, Decl.Step.counters, hnames]
  | defaultString name type value =>
    obtain ⟨spelled, -, h⟩ := except_bind_ok.mp h
    obtain ⟨text, -, h⟩ := except_bind_ok.mp h
    cases h
    rw [scopesOf_encodeDefaultBody]
    refine nodup_iff_innermost (by simp [Decl.Step.nested, Decl.Step.counters]) ?_
    simp [Decl.Step.nested, Decl.Step.counters]

/-! ### The blocks of several steps -/

variable {steps : List Decl.Step} {bodies : List (List Statement)}

/-- The statements of each of the steps. -/
abbrev Marked (s : Symbols) : List Decl.Step → List (List Statement) → Prop :=
  List.Forall₂ fun step body => stepBody s step = .ok body

theorem declaredIn_marked (h : Marked s steps bodies) :
    declaredIn bodies.flatten = steps.flatMap Decl.Step.outer := by
  induction h with
  | nil => rfl
  | cons first _ ih =>
    rw [List.flatten_cons, declaredIn_append, declaredIn_stepBody first, ih, List.flatMap_cons]

theorem scopes_marked (h : Marked s steps bodies) (hnames : names.Nodup) :
    (∀ scope ∈ scopesOf names bodies.flatten, scope.Nodup) ↔
      ∀ step ∈ steps, (names ++ (step.nested ++ step.counters)).Nodup := by
  induction h with
  | nil => simp [scopesOf]
  | cons first _ ih =>
    rw [List.flatten_cons, scopesOf_append, List.forall_mem_append, scopes_stepBody first hnames, ih,
      List.forall_mem_cons]

end Render

/-! ### Different forms of one name -/

namespace Identifier

/-- The length of a text with each `n` for three; no two forms of a name that one step uses weigh the same. -/
def weight (text : String) : Nat := text.length + 2 * text.toList.count 'n'

theorem weight_append (text text' : String) : weight (text ++ text') = weight text + weight text' := by
  simp only [weight, String.length_append, String.toList_append, List.count_append]
  omega

theorem weight_nativeLocal (name : String) :
    weight (nativeLocal name) = weight (bare name) + 9 := by
  rw [nativeLocal, weight_append, Nat.add_comm]
  rfl

end Identifier

namespace Decl.Step

open Identifier

/-- The locals of a step have different names. -/
theorem nodup_names (step : Decl.Step) : (step.outer ++ step.nested).Nodup := by
  refine List.Nodup.of_map weight ?_
  have hval : weight "_val" = 4 := rfl
  have hdata : weight "_data" = 5 := rfl
  have hbytes : weight "_stackBytes" = 11 := rfl
  have hcount : weight "_byteCount" = 12 := rfl
  have hcounts : weight "_byteCounts" = 13 := rfl
  have hoffset : weight "_offset" = 7 := rfl
  cases step <;>
    simp [outer, nested, weight_append, weight_nativeLocal, hval, hdata, hbytes, hcount, hcounts, hoffset]

theorem argument_mem_outer {step : Decl.Step} (h : step.omits = true) : step.argument ∈ step.outer := by
  cases step <;> cases h <;> exact List.mem_cons_self

/-- A local of a step is the argument itself if it is left out, and else a longer name formed from it. -/
theorem form_of_mem (step : Decl.Step) : ∀ name ∈ step.outer ++ step.nested,
    (step.omits = true ∧ name = step.argument) ∨
      (step.argument.length < name.length ∧ 7 ≤ name.length) := by
  have hval : "_val".length = 4 := rfl
  have hdata : "_data".length = 5 := rfl
  have hbytes : "_stackBytes".length = 11 := rfl
  have hcount : "_byteCount".length = 10 := rfl
  have hcounts : "_byteCounts".length = 11 := rfl
  have hoffset : "_offset".length = 7 := rfl
  have hnative : "native_".length = 7 := rfl
  cases step <;>
    simp [outer, nested, omits, argument, nativeLocal, String.length_append, hval, hdata, hbytes, hcount,
      hcounts, hoffset, hnative] <;> omega

theorem long_of_mem_nested {step : Decl.Step} {name : String} (h : name ∈ step.nested) :
    7 ≤ name.length := by
  rcases step.form_of_mem name (List.mem_append_right _ h) with ⟨homits, rfl⟩ | ⟨-, hlong⟩
  · exact absurd h (List.disjoint_of_nodup_append step.nodup_names (argument_mem_outer homits))
  · exact hlong

theorem short_of_mem_counters {step : Decl.Step} {name : String} (h : name ∈ step.counters) :
    name = "i" ∨ name = "s" := by
  cases step with
  | array => exact .inl (List.mem_singleton.mp h)
  | stringArray => simpa [counters] using h
  | _ => cases h

/-- What a step declares in blocks below it has different names. -/
theorem nodup_below (step : Decl.Step) : (step.nested ++ step.counters).Nodup := by
  refine (List.nodup_append.mp step.nodup_names).2.1.append ?_ fun name hnested hcounter => ?_
  · cases step <;> simp [counters]
  · have hlong := long_of_mem_nested hnested
    rcases short_of_mem_counters hcounter with rfl | rfl
    · exact absurd hlong (by decide)
    · exact absurd hlong (by decide)

end Decl.Step

end InteropGen

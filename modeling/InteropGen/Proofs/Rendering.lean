import InteropGen.Proofs.Causes

/-!
# Why writing declarations fails

`Writable s d` says that the declaration is none that only its owner writes, that it has its plan if it is a
wrapper, and that every type that it refers to is there. Then writing it fails only because a type that is
there has no spelling or because the declaration holds a size with too many digits (`decl_fails`). Tidying
keeps declarations writable, and so the same holds of the files that the declarations of a document are placed
in (`fileText_fails`).
-/

namespace InteropGen.Generate

open Metadata Decl Symbols

variable {s s' : Symbols} {d : Decl} {ds : List Decl}

/-! ### Declarations that can be written -/

/-- The types of the result and of the parameters are there. -/
structure KnowsMethod (s : Symbols) (m : Method) : Prop where
  result : Knows s m.result
  parameters : ∀ parameter ∈ m.parameters, Knows s parameter.type

/-- The types that a wrapper returns and passes on are there. -/
structure KnowsWrapper (s : Symbols) (w : Wrapper) : Prop where
  result : Knows s w.result
  marshaling : KnowsMarshaling s w.marshaling

/-- The type that an accessor reaches is there; the elements of a vector are looked up by their name. -/
def KnowsReach (s : Symbols) : Reach → Prop
  | .list elements _ _ => Knows s elements
  | .vector _ => True
  | .field type => Knows s type

/-- All types that the declaration and what it holds refer to are there, and no part stands alone. -/
inductive Writable (s : Symbols) : Decl → Prop
  | group {form head members} (h : ∀ member ∈ members, Writable s member) :
      Writable s (.group form head members)
  | enum (e : Decl.Enum) : Writable s (.enum e)
  | single {head type} (h : Knows s type) : Writable s (.field (.single head type))
  | buffer {head type size} (h : Knows s type) : Writable s (.field (.buffer head type size))
  | constant {c} (h : Knows s c.type) : Writable s (.constant c)
  | method {m} (h : KnowsMethod s m) : Writable s (.method m)
  | delegate {m} (h : KnowsMethod s m) : Writable s (.delegate m)
  | accessor {a} (h : KnowsReach s a.reach) : Writable s (.accessor a)
  | wrapper {w} (h : KnowsWrapper s w) : Writable s (.wrapper w)

/-! ### What may fail -/

/-- The declaration holds a size that has too many digits to be written out. -/
inductive HoldsLong : Decl → Prop
  | buffer {head type size} (h : Text.hasDecimal size.natAbs = false) :
      HoldsLong (.field (.buffer head type size))
  | list {head elements size inPlace} (h : Text.hasDecimal size.natAbs = false) :
      HoldsLong (.accessor ⟨head, .list elements size inPlace⟩)
  | member {form head members member} (hmem : member ∈ members) (h : HoldsLong member) :
      HoldsLong (.group form head members)

/-- Why writing fails: a type that is there has no spelling, or there is too long a number. -/
inductive Unwritten (s : Symbols) (long : Prop) : Fault → Prop
  | unspelled {fault} (h : Unspelled s fault) : Unwritten s long fault
  | long (h : long) : Unwritten s long .longNumber

theorem Unwritten.mono {long long' : Prop} {fault : Fault} (h : Unwritten s long fault)
    (hlong : long → long') : Unwritten s long' fault := by
  cases h with
  | unspelled h => exact .unspelled h
  | long h => exact .long (hlong h)

theorem unwritten {α : Type} {outcome : Except Fault α} {long : Prop}
    (h : OnlyFails (Unspelled s) outcome) : OnlyFails (Unwritten s long) outcome :=
  h.mono fun _ => .unspelled

theorem numeral_fails {size : Int} {long : Prop} (h : Text.hasDecimal size.natAbs = false → long) :
    OnlyFails (Unwritten s long) (numeral size) := by
  unfold numeral
  split
  · exact .ok _
  · next hsize => exact .error (.long (h (by simpa using hsize)))

/-! ### Methods and wrappers -/

theorem methodCode_fails {m : Method} (h : KnowsMethod s m) :
    OnlyFails (Unspelled s) (Render.methodCode s m) := by
  have hparameters : OnlyFails (Unspelled s) (m.parameters.mapM fun p => do
      return (← s.spell p.type) ++ " " ++ p.name) :=
    .mapM fun parameter hmem => (spell_fails (h.parameters parameter hmem)).bind fun _ => .ok _
  have hsignature : OnlyFails (Unspelled s) (Render.signature s m) :=
    hparameters.bind fun _ => (spell_fails h.result).bind fun _ => .ok _
  exact hsignature.bind fun _ => .ok _

theorem spellValue_fails {value : ValueText} (h : KnowsValue s value) :
    OnlyFails (Unspelled s) (s.spellValue value) := by
  cases value with
  | plain text => exact .ok text
  | default type text =>
    refine (spell_fails h).bind fun spelled => ?_
    split
    · exact .ok _
    · split <;> exact .ok _

theorem step_fails {step : Decl.Step} (h : KnowsStep s step) :
    OnlyFails (Unspelled s) (Render.step s step) := by
  cases step with
  | pinned => exact (spell_fails h).bind fun _ => .ok _
  | array => exact (spell_fails h).bind fun _ => .ok _
  | defaultValue => exact (spell_fails h.1).bind fun _ => (spellValue_fails h.2).bind fun _ => .ok _
  | defaultString => exact (spell_fails h.1).bind fun _ => (spellValue_fails h.2).bind fun _ => .ok _
  | _ => exact .ok _

theorem managed_fails {parameter : Managed} (h : Knows s parameter.type) :
    OnlyFails (Unspelled s) (Render.managed s parameter) :=
  (spell_fails h).bind fun _ => .ok _

theorem wrapper_fails {w : Wrapper} (h : KnowsWrapper s w) :
    OnlyFails (Unspelled s) (Render.wrapper s w) := by
  have hsteps : ∀ {list : List Decl.Step}, (∀ step ∈ list, KnowsStep s step) →
      OnlyFails (Unspelled s) (list.mapM (Render.step s)) :=
    fun hlist => .mapM fun step hmem => step_fails (hlist step hmem)
  refine (spell_fails h.result).bind fun _ => ?_
  refine (OnlyFails.mapM fun parameter hmem => managed_fails (h.marshaling.managed parameter hmem)).bind
    fun _ => ?_
  refine (hsteps h.marshaling.before).bind fun _ => ?_
  refine ((hsteps h.marshaling.fixed).bind fun _ => .ok _).bind fun _ => ?_
  exact ((hsteps h.marshaling.after).bind fun _ => .ok _).bind fun _ => .ok _

/-! ### Accessors -/

/-- The elements of a vector are spelled after entering the handle, if their name is an opaque struct's. -/
theorem vectorElement_fails (hs : s.Sound) (name : String) :
    OnlyFails (Unspelled s) (Render.vectorElement s name) := by
  unfold Render.vectorElement
  split
  · exact .ok _
  · dsimp only
    generalize (if s.settings.viewSuffix.isEmpty then "" else _) = base
    split
    · exact .ok _
    · split
      · exact .ok _
      · by_cases hmem : Identifier.lastSegment name ∈ s.opaqueStructs
        · have hnamed : (namedType s.settings.handle s).2.Sound := (quiet_namedType _ s).sound hs
          rw [lookUp_of_mem hmem]
          show OnlyFails _ ((namedType s.settings.handle s).2.spellId _)
          rw [spellId_namedType hnamed (Grows.refl _).evolves]
          exact .ok _
        · rw [lookUp_of_not_mem hmem]
          cases hfind : s.types.find? (Identifier.lastSegment name) with
          | some id => exact spellId_fails (hs.types _ id hfind)
          | none => exact .ok _

theorem accessorLine_fails {a : Accessor} (hs : s.Sound) (h : KnowsReach s a.reach) :
    OnlyFails (Unwritten s (HoldsLong (.accessor a))) (Render.accessorLine s a) := by
  obtain ⟨head, reach⟩ := a
  cases reach with
  | list elements size inPlace =>
    refine (unwritten (spell_fails h)).bind fun _ => ?_
    exact (numeral_fails fun hsize => .list hsize).bind fun _ => .ok _
  | vector elementName => exact (unwritten (vectorElement_fails hs elementName)).bind fun _ => .ok _
  | field type => exact (unwritten (spell_fails h)).bind fun _ => .ok _

/-! ### Trees -/

theorem decls_fails_of {P : Fault → Prop} (h : ∀ d ∈ ds, OnlyFails P (Render.decl s d))
    (previous : Option Bool) : OnlyFails P (Render.decls s previous ds) := by
  induction ds generalizing previous with
  | nil => exact .ok _
  | cons d rest ih =>
    obtain ⟨hd, hrest⟩ := List.forall_mem_cons.mp h
    exact hd.bind fun _ => (ih hrest (some d.isCompact)).bind fun _ => .ok _

/--
A declaration that can be written has a code, unless a type that is there has no spelling or it holds too long
a size.
-/
theorem decl_fails (hs : s.Sound) (h : Writable s d) :
    OnlyFails (Unwritten s (HoldsLong d)) (Render.decl s d) := by
  induction h with
  | group _ ih =>
    refine (decls_fails_of (fun d hd => ?_) none).bind fun _ => .ok _
    exact (ih d hd).mono fun _ hfault => hfault.mono fun hlong => .member hd hlong
  | enum e => exact .ok _
  | single h => exact (unwritten (spell_fails h)).bind fun _ => .ok _
  | buffer h =>
    refine (unwritten (spell_fails h)).bind fun _ => ?_
    exact (numeral_fails fun hsize => .buffer hsize).bind fun _ => .ok _
  | constant h => exact (unwritten (spell_fails h)).bind fun _ => .ok _
  | method h => exact unwritten (methodCode_fails h)
  | delegate h => exact unwritten (methodCode_fails h)
  | accessor h => exact (accessorLine_fails hs h).bind fun _ => .ok _
  | wrapper h => exact (unwritten (wrapper_fails h)).bind fun _ => .ok _

/-! ### Tidying -/

theorem uncommentAll_eq_map (ds : List Decl) : uncommentAll ds = ds.map uncomment := by
  induction ds with
  | nil => rfl
  | cons d rest ih => rw [uncommentAll, ih, List.map_cons]

theorem dropStemsAll_eq_map (ds : List Decl) : dropStemsAll ds = ds.map dropStems := by
  induction ds with
  | nil => rfl
  | cons d rest ih => rw [dropStemsAll, ih, List.map_cons]

theorem Writable.uncomment (h : Writable s d) : Writable s d.uncomment := by
  induction h with
  | group _ ih =>
    rw [Decl.uncomment, uncommentAll_eq_map]
    exact .group (List.forall_mem_map.mpr ih)
  | enum e => exact .enum _
  | single h => exact .single h
  | buffer h => exact .buffer h
  | constant h => exact .constant h
  | method h => exact .method ⟨h.result, h.parameters⟩
  | delegate h => exact .delegate ⟨h.result, h.parameters⟩
  | accessor h => exact .accessor h
  | wrapper h => exact .wrapper ⟨h.result, h.marshaling⟩

theorem Writable.dropStems (h : Writable s d) : Writable s d.dropStems := by
  induction h with
  | group _ ih =>
    rw [Decl.dropStems, dropStemsAll_eq_map]
    exact .group (List.forall_mem_map.mpr ih)
  | enum e => exact .enum _
  | single h => exact .single h
  | buffer h => exact .buffer h
  | constant h => exact .constant h
  | method h => exact .method h
  | delegate h => exact .delegate h
  | accessor h => exact .accessor h
  | wrapper h => exact .wrapper h

/-! ### Files -/

/--
A file of declarations that can be written has a text, unless a type that is there has no spelling or one of
them holds too long a size.
-/
theorem fileText_fails {file : Render.SourceFile} (hs : s.Sound) (h : ∀ d ∈ file.decls, Writable s d) :
    OnlyFails (Unwritten s (∃ d ∈ file.decls, HoldsLong d)) (Render.fileText s file) :=
  (decls_fails_of (fun d hd => (decl_fails hs (h d hd)).mono fun _ hfault =>
    hfault.mono fun hlong => ⟨d, hd, hlong⟩) none).bind fun _ => .ok _

theorem writable_tidyFile {file : Render.SourceFile} (h : ∀ d ∈ file.decls, Writable s d) :
    ∀ d ∈ (tidyFile file).decls, Writable s d := by
  intro d hd
  have htidy : (tidyFile file).decls = (file.decls.map uncomment).map dropStems := by
    rw [← uncommentAll_eq_map, ← dropStemsAll_eq_map]
    rfl
  rw [htidy, List.map_map] at hd
  obtain ⟨original, horiginal, rfl⟩ := List.mem_map.mp hd
  exact (h original horiginal).uncomment.dropStems

/-- The types that a layout and the view over it refer to are there. -/
structure KnowsPair (s : Symbols) (pair : Layout × View) : Prop where
  fields : ∀ field ∈ pair.1.fields, Writable s (.field field)
  accessors : ∀ accessor ∈ pair.2.accessors, KnowsReach s accessor.reach
  wrappers : ∀ wrapper ∈ pair.2.wrappers, KnowsWrapper s wrapper

/-- The types that the declarations of a document refer to are there. -/
structure KnowsBindings (s : Symbols) (b : Bindings) : Prop where
  constants : ∀ constant ∈ b.constants, Knows s constant.type
  structs : ∀ pair ∈ b.structs, KnowsPair s pair
  externs : ∀ method ∈ b.externs, KnowsMethod s method
  mainWrappers : ∀ wrapper ∈ b.mainWrappers, KnowsWrapper s wrapper

theorem KnowsPair.layout {pair : Layout × View} (h : KnowsPair s pair) : Writable s pair.1.toDecl :=
  .group (List.forall_mem_map.mpr h.fields)

theorem KnowsPair.view {pair : Layout × View} (h : KnowsPair s pair) : Writable s pair.2.toDecl := by
  refine .group (List.forall_mem_append.mpr ⟨?_, ?_⟩)
  · exact List.forall_mem_map.mpr fun accessor hmem => .accessor (h.accessors accessor hmem)
  · exact List.forall_mem_map.mpr fun wrapper hmem => .wrapper (h.wrappers wrapper hmem)

/-- Every declaration in the files of a document can be written. -/
theorem writable_placeFiles {config : Configuration} {b : Bindings} {delegates : List Method}
    (h : KnowsBindings s b) (hdelegates : ∀ m ∈ delegates, KnowsMethod s m) :
    ∀ file ∈ placeFiles config b delegates, ∀ d ∈ file.decls, Writable s d := by
  have hclass : ∀ {name : String} {members : List Decl}, (∀ member ∈ members, Writable s member) →
      ∀ d ∈ [classOf name members], Writable s d := by
    intro name members hmembers d hd
    obtain rfl := List.mem_singleton.mp hd
    exact .group hmembers
  have hstructs : ∀ file ∈ b.structs.flatMap (structFiles config), ∀ d ∈ file.decls,
      Writable s d := by
    intro file hfile d hd
    obtain ⟨pair, hpair, hfile⟩ := List.mem_flatMap.mp hfile
    rcases List.mem_pair.mp hfile with rfl | rfl <;> obtain rfl := List.mem_singleton.mp hd
    · exact (h.structs pair hpair).layout
    · exact (h.structs pair hpair).view
  refine List.forall_mem_append.mpr ⟨List.forall_mem_append.mpr ⟨?_, hstructs⟩, ?_⟩
  · refine List.forall_mem_cons.mpr ⟨?_, List.forall_mem_singleton.mpr ?_⟩
    · intro d hd
      obtain rfl := List.mem_singleton.mp hd
      exact .group (List.forall_mem_map.mpr fun constant hmem => .constant (h.constants constant hmem))
    · exact List.forall_mem_map.mpr fun e _ => .enum e
  · refine List.forall_mem_cons.mpr ⟨?_, ?_⟩
    · exact hclass (List.forall_mem_map.mpr fun method hmem => .method (h.externs method hmem))
    refine List.forall_mem_cons.mpr ⟨?_, List.forall_mem_singleton.mpr ?_⟩
    · exact List.forall_mem_map.mpr fun delegate hmem => .delegate (hdelegates delegate hmem)
    · exact hclass (List.forall_mem_map.mpr fun wrapper hmem =>
        .wrapper (h.mainWrappers wrapper hmem))

end InteropGen.Generate

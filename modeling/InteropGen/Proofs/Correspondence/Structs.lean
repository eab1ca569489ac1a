import InteropGen.Proofs.Correspondence.Classes

/-!
# Structs and their halves

A struct that is not left out and has fields gives a pair: a layout with the fields that are not left
out and a view with the wrappers of its methods. Of all structs the pairs come in order.
-/

namespace InteropGen.Generate

open Metadata Decl Build Symbols

variable {s₀ lo s s' : Symbols} {st st' : Scoped} {P : String → NativeType → Prop}
  {field : Metadata.Field} {item : Struct} {R : Symbols → Symbols → Prop} {Q : NativeType → Prop}
  [Std.Refl R] [IsTrans Symbols R]

theorem fieldSkip?_rules (h : SameRules s s') (field : Metadata.Field) :
    fieldSkip? s' field = fieldSkip? s field := by
  rw [fieldSkip?, fieldSkip?, h.admits]

theorem fieldSkip?_grows (h : s.Grows s') (field : Metadata.Field) :
    fieldSkip? s' field = fieldSkip? s field :=
  fieldSkip?_rules h.rules field

theorem structSkip?_rules (h : SameRules s s') (item : Struct) :
    structSkip? s' item = structSkip? s item := by
  rw [structSkip?, structSkip?, h.settings, h.isVectorName, h.admits]

theorem structSkip?_grows (h : s.Grows s') (item : Struct) :
    structSkip? s' item = structSkip? s item :=
  structSkip?_rules h.rules item

/-! ### Fields -/

omit [Std.Refl R] [IsTrans Symbols R] in
theorem walk_elementType (h : Walk R Q) {t : NativeType} (ht : Q t) :
    Preserves R (elementType t) := by
  intro s
  show R s (Build.runOn (if _ then _ else _) s).2
  split
  · exact h.vector s
  · exact h.resolve ht s

theorem madeFor_elementType {t : NativeType} {id : TypeId} (h₀ : s₀.Grows s) (hlo : lo.Grows s)
    (hrun : (elementType t).runOn s = (.ok id, s')) : MadeFor lo s' (elementOrigin s₀ t) id := by
  obtain ⟨state, middle, hget, hrun⟩ := ok_bind.mp hrun
  obtain ⟨rfl, rfl⟩ := ok_get.mp hget
  unfold elementOrigin
  split at hrun
  · next hvector =>
    rw [if_pos (by rwa [← h₀.isVector]), ← h₀.settings]
    exact .now hlo hrun
  · next hvector =>
    rw [if_neg (by rwa [← h₀.isVector])]
    exact .now hlo hrun

theorem preserves_fitsBuffer (element : TypeId) (size : Int) :
    Preserves R (fitsBuffer element size) := by
  unfold fitsBuffer
  split
  · exact .bind .get fun _ => .bind (.ofExcept _) fun _ => .pure _
  · exact .pure _

theorem quiet_fitsBuffer (element : TypeId) (size : Int) : Preserves Quiet (fitsBuffer element size) :=
  preserves_fitsBuffer element size

theorem walk_arrayField (h : Walk R Q) (ht : Q field.info.type) (structName : String) :
    Preserves R (arrayField structName field) := by
  have helement : Q (arrayParts field).1 := by
    unfold arrayParts
    dsimp only
    split
    · next hinner => exact h.inner ht hinner
    · exact ht
  exact .bind (walk_readSize h _ _) fun _ => .bind (walk_elementType h helement) fun _ =>
    .bind (preserves_fitsBuffer _ _) fun _ => .pure _

theorem quiet_arrayField (structName : String) (field : Metadata.Field) :
    Preserves Quiet (arrayField structName field) :=
  walk_arrayField quietWalk trivial structName

theorem fieldOf_arrayField {structName : String} {part : List Decl.Field × Accessor}
    (h₀ : s₀.Grows s) (hlo : lo.Grows s) (harray : field.isArray = true)
    (hrun : (arrayField structName field).runOn s = (.ok part, s')) :
    FieldOf (MadeFor lo s') s₀ field part := by
  obtain ⟨size, middle, hsize, hrun⟩ := ok_bind.mp hrun
  obtain ⟨id, after, hid, hrun⟩ := ok_bind.mp hrun
  obtain ⟨inPlace, last, hbuffer, hrun⟩ := ok_bind.mp hrun
  obtain ⟨rfl, rfl⟩ := ok_pure.mp hrun
  have hgrow := ((walk_readSize quietWalk _ _).of_ok hsize).toGrows
  have hafter := ((quiet_fitsBuffer _ _).of_ok hbuffer).toGrows
  have hmade := madeFor_elementType (h₀.trans hgrow) (hlo.trans hgrow) hid
  exact .array harray (hmade.widen (.refl _) hafter)

theorem walk_plainField (h : DeclaringWalk R Q P) (ht : Q field.info.type)
    (hP : ∀ target, field.info.type.callback? = some target → P (fieldDelegate field) target) :
    Preserves R (plainField field) := by
  unfold plainField
  dsimp only
  split
  · next target htarget =>
    exact .bind (h.register none (hP target htarget)) fun _ =>
      .bind (h.callback ht htarget (hP target htarget)) fun _ => .pure _
  · exact .bind (h.resolve ht) fun _ => .bind .get fun _ => .pure _

theorem vectorInstance?_grows (h : s.Grows s') (t : NativeType) :
    vectorInstance? s' t = vectorInstance? s t := by
  rw [vectorInstance?, vectorInstance?, h.isVector, h.settings]

theorem fieldOf_plainField {part : List Decl.Field × Accessor} (h₀ : s₀.Grows s)
    (hlo : lo.Grows s) (harray : field.isArray = false)
    (hrun : (plainField field).runOn s = (.ok part, s')) :
    FieldOf (MadeFor lo s') s₀ field part := by
  unfold plainField at hrun
  dsimp only at hrun
  split at hrun
  · next target htarget =>
    obtain ⟨_, middle, hregister, hrun⟩ := ok_bind.mp hrun
    obtain ⟨id, after, hid, hrun⟩ := ok_bind.mp hrun
    obtain ⟨rfl, rfl⟩ := ok_pure.mp hrun
    have hgrow := ((registers_registerDelegate (P := fun _ _ => True) none trivial).of_ok
      hregister).1
    exact .callback harray (by rw [NativeType.isCallback, htarget]; rfl)
      (.now (hlo.trans hgrow) hid)
  · next hnone =>
    obtain ⟨id, after, hid, hrun⟩ := ok_bind.mp hrun
    obtain ⟨state, middle, hget, hrun⟩ := ok_bind.mp hrun
    obtain ⟨rfl, rfl⟩ := ok_get.mp hget
    obtain ⟨rfl, rfl⟩ := ok_pure.mp hrun
    have hgrow := ((quiet_resolve _ _).of_ok hid).toGrows
    refine .other harray (by rw [NativeType.isCallback, hnone]; rfl) ?_ (.now hlo hid)
    rw [vectorInstance?_grows (h₀.trans hgrow)]
    cases vectorInstance? s₀ field.info.type with
    | none => exact .inl rfl
    | some element => exact .inr ⟨element, rfl, rfl⟩

theorem walk_layoutField (h : DeclaringWalk R Q P) (ht : Q field.info.type)
    (hP : ∀ target, field.info.type.callback? = some target → P (fieldDelegate field) target)
    (structName : String) : Preserves R (layoutField structName field) := by
  unfold layoutField
  split
  · exact walk_arrayField h.toWalk ht structName
  · exact walk_plainField h ht hP

theorem registers_layoutField {structName : String}
    (h : ∀ target, field.info.type.callback? = some target → P (fieldDelegate field) target) :
    Preserves (Registers P) (layoutField structName field) :=
  walk_layoutField (registersWalk P).toDeclaringWalk trivial h structName

theorem fieldOf {structName : String} {part : List Decl.Field × Accessor} (h₀ : s₀.Grows s)
    (hlo : lo.Grows s) (hrun : (layoutField structName field).runOn s = (.ok part, s')) :
    FieldOf (MadeFor lo s') s₀ field part := by
  unfold layoutField at hrun
  split at hrun
  · next harray => exact fieldOf_arrayField h₀ hlo harray hrun
  · next harray => exact fieldOf_plainField h₀ hlo (by simpa using harray) hrun

theorem walk_layoutFields (h : DocumentWalk R Q P) {fields : List Metadata.Field}
    (hQ : ∀ field ∈ fields, Q field.info.type)
    (hP : ∀ field ∈ fields, ∀ target, field.info.type.callback? = some target →
      P (fieldDelegate field) target) (nativeName structName : String) :
    Preserves R (layoutFields nativeName structName fields) := by
  induction fields with
  | nil => exact .pure _
  | cons field rest ih =>
    have hrest := ih (fun other hother => hQ other (List.mem_cons_of_mem _ hother))
      fun other hother => hP other (List.mem_cons_of_mem _ hother)
    have hfield := walk_layoutField h.toDeclaringWalk (hQ field List.mem_cons_self) (hP field List.mem_cons_self)
    refine .bind .get fun s => ?_
    split
    · exact .bind (.modify fun s => h.skip s _ _ _) fun _ => hrest
    · exact .bind (hfield structName) fun _ => .bind hrest fun _ => .pure _

theorem registers_layoutFields {nativeName structName : String} {fields : List Metadata.Field}
    (h : ∀ field ∈ fields, ∀ target, field.info.type.callback? = some target →
      P (fieldDelegate field) target) :
    Preserves (Registers P) (layoutFields nativeName structName fields) :=
  walk_layoutFields (registersWalk P) (fun _ _ => trivial) h nativeName structName

theorem fieldsOf {nativeName structName : String} {fields : List Metadata.Field}
    {parts : List (List Decl.Field × Accessor)} (h₀ : s₀.Grows s) (hlo : lo.Grows s)
    (hrun : (layoutFields nativeName structName fields).runOn s = (.ok parts, s')) :
    List.Forall₂ (FieldOf (MadeFor lo s') s₀)
      (fields.filter fun field => (fieldSkip? s₀ field).isNone) parts := by
  induction fields generalizing parts s with
  | nil =>
    obtain ⟨rfl, rfl⟩ := ok_pure.mp hrun
    exact .nil
  | cons field rest ih =>
    obtain ⟨state, middle, hget, hrun⟩ := ok_bind.mp hrun
    obtain ⟨rfl, rfl⟩ := ok_get.mp hget
    split at hrun
    · next reason hreason =>
      obtain ⟨_, middle, hskip, hrun⟩ := ok_bind.mp hrun
      have hgrow := ((Preserves.modify fun s => quiet_skip s _ _ _).of_ok hskip).toGrows
      rw [fieldSkip?_grows h₀] at hreason
      rw [List.filter_cons_of_neg (by simp [hreason])]
      exact ih (h₀.trans hgrow) (hlo.trans hgrow) hrun
    · next hreason =>
      obtain ⟨first, middle, hfirst, hrun⟩ := ok_bind.mp hrun
      obtain ⟨others, after, hothers, hrun⟩ := ok_bind.mp hrun
      obtain ⟨rfl, rfl⟩ := ok_pure.mp hrun
      have hgrow := ((registers_layoutField (P := fun _ _ => True) fun _ _ => trivial).of_ok
        hfirst).1
      have hafter := ((registers_layoutFields (P := fun _ _ => True)
        fun _ _ _ _ => trivial).of_ok hothers).1
      rw [fieldSkip?_grows h₀] at hreason
      rw [List.filter_cons_of_pos (by simp [hreason])]
      exact .cons ((fieldOf h₀ hlo hfirst).mono fun _ _ => MadeFor.widen (.refl _) hafter)
        (ih (h₀.trans hgrow) (hlo.trans hgrow) hothers)

/-! ### Pairs -/

theorem quiet_registerStruct (nativeName name : String) (s : Symbols) :
    Quiet s (registerStruct nativeName name s).2 :=
  (quiet_namedType _ _).trans
    ((quiet_registerName _ (s.arena.find?_named name)).trans
      (quiet_registerName _ (s.arena.find?_named name)))

/-- The symbols when a struct that is not left out has its type; it is opaque if it has no fields. -/
def announced (item : Struct) (s : Symbols) : Symbols :=
  if item.fields.isEmpty then s.addOpaque item.name
  else (registerStruct item.name (Identifier.lastSegment item.name) s).2

theorem quiet_announced (item : Struct) (s : Symbols) : Quiet s (announced item s) := by
  unfold announced
  split
  · exact quiet_addOpaque s _
  · exact quiet_registerStruct _ _ s

/-- What is made of a struct that has its type. -/
def announcedPair (target : WrapperClass) (item : Struct) (functions : List Function) :
    Build Scoped (Option (Layout × View)) :=
  if item.fields.isEmpty then return none
  else do
    let name := Identifier.lastSegment item.name
    let viewSuffix := (← get).symbols.settings.viewSuffix
    let parts ← onSymbols (layoutFields item.name name item.fields)
    beginClass
    let methods ← methodWrappers target name functions
    let head (name : String) : Head :=
      Head.withComments { name := name, modifiers := structModifiers } item.comments
    return some (⟨head name, item.name, parts.flatMap (·.1)⟩,
      ⟨head (name ++ viewSuffix), name, parts.map (·.2), methods⟩)

theorem runOn_struct_left {target : WrapperClass} {functions : List Function} {reason : SkipReason}
    (h : structSkip? st.symbols item = some reason) :
    (struct target item functions).runOn st =
      (.ok none, { st with symbols := st.symbols.skip .struct item.name reason }) := by
  unfold struct
  rw [runOn_bind_ok (runOn_get st)]
  dsimp only
  rw [h]
  rfl

/-- A struct that is not left out is announced first. -/
theorem runOn_struct_kept {target : WrapperClass} {functions : List Function}
    (h : structSkip? st.symbols item = none) :
    (struct target item functions).runOn st =
      (announcedPair target item functions).runOn
        { st with symbols := announced item st.symbols } := by
  unfold struct announcedPair
  rw [runOn_bind_ok (runOn_get st)]
  dsimp only
  rw [h]
  unfold announced
  by_cases hempty : item.fields.isEmpty
  · simp only [hempty, if_true]
    rfl
  · simp only [hempty, if_false, Bool.false_eq_true]
    rw [runOn_bind_ok (runOn_get _)]
    rfl

/-- What a walk must allow at a struct: announcing it, and the types and callbacks of its fields. -/
structure StructTypes (R : Symbols → Symbols → Prop) (Q : NativeType → Prop)
    (P : String → NativeType → Prop) (item : Struct) : Prop where
  announce (s : Symbols) (h : structSkip? s item = none) : R s (announced item s)
  fields : ∀ field ∈ item.fields, Q field.info.type
  callbacks : ∀ field ∈ item.fields, ∀ target, field.info.type.callback? = some target →
    P (fieldDelegate field) target

theorem walk_announcedPair (h : DocumentWalk R Q P) {functions : List Function}
    (hQ : ∀ function ∈ functions, FunctionTypes Q function) (hitem : StructTypes R Q P item)
    (target : WrapperClass) : Preserves (OnSymbols R) (announcedPair target item functions) := by
  unfold announcedPair
  split
  · exact .pure _
  · exact .bind .get fun _ => .bind (preserves_onSymbols
      (walk_layoutFields h hitem.fields hitem.callbacks _ _)) fun _ => .bind preserves_beginClass
        fun _ => .bind (walk_methodWrappers h.toWalk target _ hQ) fun _ => .pure _

theorem walk_struct (h : DocumentWalk R Q P) {functions : List Function}
    (hQ : ∀ function ∈ functions, FunctionTypes Q function) (hitem : StructTypes R Q P item)
    (target : WrapperClass) : Preserves (OnSymbols R) (struct target item functions) := by
  intro st
  cases hskip : structSkip? st.symbols item with
  | some reason =>
    rw [runOn_struct_left hskip]
    exact h.skip st.symbols _ _ _
  | none =>
    rw [runOn_struct_kept hskip]
    have hpair : R (announced item st.symbols) _ :=
      walk_announcedPair h hQ hitem target { st with symbols := announced item st.symbols }
    exact IsTrans.trans st.symbols _ _ (hitem.announce st.symbols hskip) hpair

/-- Any struct is one that callback types may be registered for. -/
theorem registers_structTypes
    (h : ∀ field ∈ item.fields, ∀ target, field.info.type.callback? = some target →
      P (fieldDelegate field) target) : StructTypes (Registers P) (fun _ => True) P item :=
  ⟨fun s _ => .of_quiet (quiet_announced item s), fun _ _ => trivial, h⟩

theorem registers_announcedPair {target : WrapperClass} {functions : List Function}
    (h : ∀ field ∈ item.fields, ∀ target, field.info.type.callback? = some target →
      P (fieldDelegate field) target) :
    Preserves (OnSymbols (Registers P)) (announcedPair target item functions) :=
  walk_announcedPair (registersWalk P) (fun _ _ => ⟨trivial, fun _ _ _ _ => trivial⟩)
    (registers_structTypes h) target

theorem registers_struct {target : WrapperClass} {functions : List Function}
    (h : ∀ field ∈ item.fields, ∀ target, field.info.type.callback? = some target →
      P (fieldDelegate field) target) :
    Preserves (OnSymbols (Registers P)) (struct target item functions) :=
  walk_struct (registersWalk P) (fun _ _ => ⟨trivial, fun _ _ _ _ => trivial⟩)
    (registers_structTypes h) target

/-- A pair is made for a struct that has fields. -/
theorem announcedPairOf {target : WrapperClass} {functions : List Function}
    {made : Option (Layout × View)} (hkept : structSkip? s₀ item = none)
    (h₀ : s₀.Grows st.symbols) (hlo : lo.Grows st.symbols)
    (hrun : (announcedPair target item functions).runOn st = (.ok made, st')) :
    List.Forall₂ (PairOf (MadeFor lo st'.symbols) s₀ target.nativeClass functions)
      (laidOut s₀ [item]) made.toList := by
  unfold announcedPair at hrun
  split at hrun
  · next hempty =>
    obtain ⟨rfl, rfl⟩ := ok_pure.mp hrun
    rw [laidOut, List.filter_cons_of_neg (by simp [hempty])]
    exact .nil
  · next hfields =>
    obtain ⟨state, first, hget, hrun⟩ := ok_bind.mp hrun
    obtain ⟨rfl, rfl⟩ := ok_get.mp hget
    obtain ⟨parts, second, hparts, hrun⟩ := ok_bind.mp hrun
    obtain ⟨_, third, hclass, hrun⟩ := ok_bind.mp hrun
    obtain ⟨methods, last, hmethods, hrun⟩ := ok_bind.mp hrun
    obtain ⟨rfl, rfl⟩ := ok_pure.mp hrun
    have hone : st.symbols.Grows second.symbols := ((preserves_onSymbols
      (registers_layoutFields (P := fun _ _ => True) fun _ _ _ _ => trivial)).of_ok hparts).1
    have htwo : second.symbols.Grows third.symbols :=
      (preserves_beginClass (R := Grows)).of_ok hclass
    have hthree : third.symbols.Grows last.symbols :=
      ((quiet_methodWrappers _ _ _).of_ok hmethods).toGrows
    obtain ⟨symbols, hfieldsRun, rfl⟩ := ok_onSymbols.mp hparts
    have hparts := fieldsOf h₀ hlo hfieldsRun
    rw [laidOut, List.filter_cons_of_pos (by simp [hkept, hfields])]
    refine .cons ⟨rfl, Head.name_withComments _ _, ?_, ?_⟩ .nil
    · refine ⟨parts, hparts.imp fun _ _ hf => ?_, rfl, rfl⟩
      exact hf.mono fun _ _ => MadeFor.widen (.refl _) (htwo.trans hthree)
    · exact methodWrappersOf (h₀.trans (hone.trans htwo)) (hlo.trans (hone.trans htwo)) hmethods

theorem pairOf {target : WrapperClass} {functions : List Function}
    {made : Option (Layout × View)} (h₀ : s₀.Grows st.symbols) (hlo : lo.Grows st.symbols)
    (hrun : (struct target item functions).runOn st = (.ok made, st')) :
    List.Forall₂ (PairOf (MadeFor lo st'.symbols) s₀ target.nativeClass functions)
      (laidOut s₀ [item]) made.toList := by
  have hgrow := (quiet_announced item st.symbols).toGrows
  cases hskip : structSkip? st.symbols item with
  | some reason =>
    rw [runOn_struct_left hskip] at hrun
    obtain rfl : none = made := by simpa using congrArg Prod.fst hrun
    rw [structSkip?_grows h₀] at hskip
    rw [laidOut, List.filter_cons_of_neg (by simp [hskip])]
    exact .nil
  | none =>
    rw [runOn_struct_kept hskip] at hrun
    rw [structSkip?_grows h₀] at hskip
    exact announcedPairOf hskip (h₀.trans hgrow) (hlo.trans hgrow) hrun

theorem walk_structs (h : DocumentWalk R Q P) {functions : List Function} {items : List Struct}
    (hQ : ∀ function ∈ functions, FunctionTypes Q function)
    (hitems : ∀ item ∈ items, StructTypes R Q P item) (target : WrapperClass) :
    Preserves (OnSymbols R) (structs target functions items) := by
  induction items with
  | nil => exact .pure _
  | cons item rest ih =>
    have hrest := ih fun other hother => hitems other (List.mem_cons_of_mem _ hother)
    exact .bind (walk_struct h hQ (hitems item List.mem_cons_self) target) fun _ =>
      .bind hrest fun _ => .pure _

theorem registers_structs {target : WrapperClass} {functions : List Function}
    {items : List Struct}
    (h : ∀ item ∈ items, ∀ field ∈ item.fields, ∀ target,
      field.info.type.callback? = some target → P (fieldDelegate field) target) :
    Preserves (OnSymbols (Registers P)) (structs target functions items) :=
  walk_structs (registersWalk P) (fun _ _ => ⟨trivial, fun _ _ _ _ => trivial⟩)
    (fun item hitem => registers_structTypes (h item hitem)) target

theorem laidOut_append (s : Symbols) (items items' : List Struct) :
    laidOut s (items ++ items') = laidOut s items ++ laidOut s items' :=
  List.filter_append ..

/-- Pairs are made for the structs that are not left out and have fields. -/
theorem pairsOf {target : WrapperClass} {functions : List Function} {items : List Struct}
    {pairs : List (Layout × View)} (h₀ : s₀.Grows st.symbols) (hlo : lo.Grows st.symbols)
    (hrun : (structs target functions items).runOn st = (.ok pairs, st')) :
    List.Forall₂ (PairOf (MadeFor lo st'.symbols) s₀ target.nativeClass functions)
      (laidOut s₀ items) pairs := by
  induction items generalizing pairs st with
  | nil =>
    obtain ⟨rfl, rfl⟩ := ok_pure.mp hrun
    exact .nil
  | cons item rest ih =>
    obtain ⟨first, middle, hfirst, hrun⟩ := ok_bind.mp hrun
    obtain ⟨others, after, hothers, hrun⟩ := ok_bind.mp hrun
    obtain ⟨rfl, rfl⟩ := ok_pure.mp hrun
    have hgrow := ((registers_struct (P := fun _ _ => True) fun _ _ _ _ => trivial).of_ok hfirst).1
    have hafter := ((registers_structs (P := fun _ _ => True)
      fun _ _ _ _ _ _ => trivial).of_ok hothers).1
    rw [← List.singleton_append, laidOut_append]
    refine List.rel_append ?_ (ih (h₀.trans hgrow) (hlo.trans hgrow) hothers)
    exact (pairOf h₀ hlo hfirst).imp fun _ _ hp => hp.mono fun _ _ =>
      MadeFor.widen (.refl _) hafter

/-! ### The wrappers of views -/

/-- The view of a struct has the wrappers of a class of its own. -/
theorem methods_struct {target : WrapperClass} {functions : List Function}
    {pair : Layout × View}
    (hrun : (struct target item functions).runOn st = (.ok (some pair), st')) :
    ∃ first, first.scope.signatures = [] ∧ st.symbols.Grows first.symbols ∧
      (methodWrappers target pair.1.head.name functions).runOn first =
        (.ok pair.2.wrappers, st') := by
  cases hskip : structSkip? st.symbols item with
  | some reason =>
    rw [runOn_struct_left hskip] at hrun
    simp at hrun
  | none =>
    rw [runOn_struct_kept hskip] at hrun
    unfold announcedPair at hrun
    split at hrun
    · obtain ⟨hnone, -⟩ := ok_pure.mp hrun
      simp at hnone
    · obtain ⟨state, first, hget, hrun⟩ := ok_bind.mp hrun
      obtain ⟨rfl, rfl⟩ := ok_get.mp hget
      obtain ⟨parts, laid, hparts, hrun⟩ := ok_bind.mp hrun
      obtain ⟨_, begun, hclass, hrun⟩ := ok_bind.mp hrun
      obtain ⟨methods, last, hmethods, hrun⟩ := ok_bind.mp hrun
      obtain ⟨hpair, rfl⟩ := ok_pure.mp hrun
      obtain rfl := Option.some.inj hpair
      have hannounced := (quiet_announced item st.symbols).toGrows
      have hlaid : (announced item st.symbols).Grows laid.symbols := ((preserves_onSymbols
        (registers_layoutFields (P := fun _ _ => True) fun _ _ _ _ => trivial)).of_ok hparts).1
      have hbegun : laid.symbols.Grows begun.symbols :=
        (preserves_beginClass (R := Grows)).of_ok hclass
      obtain rfl := (Prod.mk.inj hclass).2
      refine ⟨_, rfl, (hannounced.trans hlaid).trans hbegun, ?_⟩
      rw [Head.name_withComments]
      exact hmethods

theorem methods_structs {target : WrapperClass} {items : List Struct} {functions : List Function}
    {pairs : List (Layout × View)}
    (hrun : (structs target functions items).runOn st = (.ok pairs, st')) :
    ∀ pair ∈ pairs, ∃ first last, first.scope.signatures = [] ∧ st.symbols.Grows first.symbols ∧
      (methodWrappers target pair.1.head.name functions).runOn first =
        (.ok pair.2.wrappers, last) ∧ last.symbols.Grows st'.symbols := by
  induction items generalizing st pairs with
  | nil =>
    obtain ⟨rfl, rfl⟩ := ok_pure.mp hrun
    simp
  | cons item rest ih =>
    obtain ⟨made, middle, hmade, hrun⟩ := ok_bind.mp hrun
    obtain ⟨others, after, hothers, hrun⟩ := ok_bind.mp hrun
    obtain ⟨rfl, rfl⟩ := ok_pure.mp hrun
    have hgrow := ((registers_struct (P := fun _ _ => True) fun _ _ _ _ => trivial).of_ok hmade).1
    have hafter := ((registers_structs (P := fun _ _ => True)
      fun _ _ _ _ _ _ => trivial).of_ok hothers).1
    intro pair hpair
    rcases List.mem_append.mp hpair with hmem | hmem
    · obtain rfl : made = some pair := by simpa using hmem
      obtain ⟨first, hempty, hbefore, hmethods⟩ := methods_struct hmade
      exact ⟨first, middle, hempty, hbefore, hmethods, hafter⟩
    · obtain ⟨first, last, hempty, hbefore, hmethods, hlast⟩ := ih hothers pair hmem
      exact ⟨first, last, hempty, hgrow.trans hbefore, hmethods, hlast⟩

end InteropGen.Generate

import InteropGen.Proofs.Failing
import InteropGen.Proofs.KnownTypes
import InteropGen.Proofs.TableSteps

/-!
# Why building a document fails

`Cause document s fault` says why a fault comes up while a document is built: a type of the document lacks its
inner type, the bounds of an argument are digits without a value, a type that is there has no spelling, or a
size is too long to be put into a bound.
There are no other causes (`justified_bindings`). Each generator is led through once, from sound symbols on:
a lemma `justified_…` says that its steps keep the symbols sound and that a fault of theirs has its cause in
the symbols at which it comes up.
-/

namespace InteropGen.Generate

open Metadata Decl Build Symbols

/-! ### Causes -/

/-- The type lacks the inner type that its form needs. -/
structure Hollow (t : NativeType) : Prop where
  kind : t.kind = .pointer ∨ t.kind = .array ∨ t.kind = .synonym
  inner : t.inner = none

/-- The type is an array of floats whose bounds are digits without a value. -/
structure DigitBound (t : NativeType) (text : String) : Prop where
  kind : t.kind = .array
  inner : ∃ inner, t.inner = some inner ∧ inner.kind = .builtin ∧ inner.builtin = some "float"
  bounds : text = Text.strip (t.bounds.getD "")
  digits : isDigitText text = true
  value : decimalText? text = none

/-- A type that is there has no spelling. -/
inductive Unspelled (s : Symbols) : Fault → Prop
  | endless {id} (hid : s.arena.Has id) (h : s.arena.spelling? id = none) :
      Unspelled s .endlessSpelling

/-- Why a fault comes up while a document is built. -/
inductive Cause (document : Metadata) (s : Symbols) : Fault → Prop
  | hollow {t} (h : Mentions document t) (hhollow : Hollow t) : Cause document s .missingType
  | digits {function argument info text} (hfunction : function ∈ document.functions)
      (hargument : argument ∈ function.arguments) (hinfo : argument.info = some info)
      (h : DigitBound info.type text) : Cause document s (.unreadableBound text)
  | endless {id} (hid : s.arena.Has id) (h : s.arena.spelling? id = none) :
      Cause document s .endlessSpelling
  | long {word size} (hsize : (word, size) ∈ s.arraySizes.entries)
      (h : Text.hasDecimal size.natAbs = false) : Cause document s .longNumber

/-- From sound symbols on, the steps keep them sound, and a fault of the steps has a cause. -/
abbrev Justified {α : Type} (document : Metadata) (s : Symbols) (build : Build Symbols α) : Prop :=
  Explained Sound (Cause document) s build

/-- The symbols are sound in the scope of a class. -/
def Scoped.Sound (st : Scoped) : Prop := st.symbols.Sound

/-- The same for steps in the scope of a class. -/
abbrev JustifiedIn {α : Type} (document : Metadata) (st : Scoped) (build : Build Scoped α) : Prop :=
  Explained Scoped.Sound (fun st => Cause document st.symbols) st build

variable {document : Metadata} {s s' : Symbols} {st : Scoped} {t : NativeType} {id : TypeId}
  {function : Function} {argument : Argument} {m : Marshaling}

theorem justified_onSymbols {α : Type} {build : Build Symbols α}
    (h : Justified document st.symbols build) : JustifiedIn document st (onSymbols build) :=
  ⟨h.keeps, h.fails⟩

/-! ### Spelling -/

theorem Unspelled.cause {fault : Fault} (h : Unspelled s fault) : Cause document s fault := by
  cases h with
  | endless hid h => exact .endless hid h

theorem spellId_fails (h : s.arena.Has id) : OnlyFails (Unspelled s) (s.spellId id) := by
  unfold spellId
  cases hspelling : s.arena.spelling? id with
  | some text => exact .ok text
  | none => exact .error (.endless h hspelling)

theorem spell_fails {type : TypeText} (h : Knows s type) :
    OnlyFails (Unspelled s) (s.spell type) := by
  cases type with
  | plain text => exact .ok text
  | ref id => exact spellId_fails h
  | view id => exact (spellId_fails h).bind fun _ => .ok _

/-! ### Resolving -/

mutual

theorem justified_resolve (delegateName : Option String) : (t : NativeType) → Mentions document t →
    (s : Symbols) → s.Sound → Justified document s (resolve delegateName t)
  | ⟨kind, builtin, name, inner, bounds, result, parameters, storage⟩, ht, s, hs => by
    have hinner : ∀ t, inner = some t → Mentions document t := fun _ h => ht.inner h
    have hwarned : ∀ text, Justified document s (modify fun s => s.warn text) :=
      fun text => .modify ((quiet_warn s text).sound hs)
    have hnamed : ∀ text (s : Symbols), s.Sound →
        Justified document s (liftM (namedType text)) :=
      fun text s hs => .lift ((quiet_namedType text s).sound hs)
    have hpointer : kind = .pointer ∨ kind = .array →
        Justified document s (resolveInner inner >>= fun target => liftM (pointerTo target)) := by
      intro hkind
      have hinside := justified_resolveInner inner hinner
        (fun hnone => ⟨_, ht, hkind.imp_right .inl, hnone⟩) s hs
      refine hinside.bind fun target s' hrun hs' => .lift ?_
      have hhas := (makes_resolveInner inner).has hrun hs'
      exact (quiet_pointerTo fun _ => hhas).sound hs'
    unfold resolve
    cases kind with
    | builtin => exact .bind (.get hs) fun _ s' _ hs' => hnamed _ s' hs'
    | user => exact .lift ((quiet_resolveName _ s).sound hs)
    | pointer => exact hpointer (.inl rfl)
    | array => exact hpointer (.inr rfl)
    | synonym =>
      dsimp only
      split
      · exact hnamed _ s hs
      · exact justified_resolveInner inner hinner (fun hnone => ⟨_, ht, .inr (.inr rfl), hnone⟩) s hs
    | function => exact (hwarned _).bind fun _ s' _ hs' => hnamed _ s' hs'
    | other word => exact (hwarned _).bind fun _ s' _ hs' => hnamed _ s' hs'

theorem justified_resolveInner : (inner : Option NativeType) →
    (∀ t, inner = some t → Mentions document t) →
    (inner = none → ∃ t, Mentions document t ∧ Hollow t) →
    (s : Symbols) → s.Sound → Justified document s (resolveInner inner)
  | some t, h, _, s, hs => justified_resolve none t (h t rfl) s hs
  | none, _, hnone, s, hs => by
    obtain ⟨t, ht, hhollow⟩ := hnone rfl
    exact .throw hs (.hollow ht hhollow)

end

/-! ### Callback types -/

theorem justified_delegateParameter (position : Nat) (ht : Mentions document t) (hs : s.Sound) :
    Justified document s (delegateParameter position t) := by
  have htype : Mentions document (delegateParameterType t) := by
    unfold delegateParameterType
    split
    · next hinner => exact ht.inner hinner
    · exact ht
  exact (justified_resolve none _ htype s hs).bind fun _ _ _ hs' => .pure hs' _

theorem justified_delegateParameters (position : Nat) {types : List NativeType}
    (h : ∀ t ∈ types, Mentions document t) (hs : s.Sound) :
    Justified document s (delegateParameters position types) := by
  induction types generalizing position s with
  | nil => exact .pure hs _
  | cons t types ih =>
    obtain ⟨ht, htypes⟩ := List.forall_mem_cons.mp h
    exact (justified_delegateParameter position ht hs).bind fun _ _ _ hs' =>
      (ih _ htypes hs').bind fun _ _ _ hs'' => .pure hs'' _

theorem justified_resultType {result : Option NativeType}
    (h : ∀ t, result = some t → Mentions document t) (hs : s.Sound) :
    Justified document s (resultType result) := by
  cases result with
  | none => exact .pure hs _
  | some t => exact (justified_resolve none t (h t rfl) s hs).bind fun _ _ _ hs' => .pure hs' _

theorem justified_registerDelegate {target : NativeType} (name : String) (comments : Option Comments)
    (h : Mentions document target) (hs : s.Sound) :
    Justified document s (registerDelegate target name comments) := by
  refine .bind (.get hs) fun _ s _ hs => ?_
  show Justified document s (if _ then _ else _)
  split
  · exact .pure hs _
  · have hdelegate : Justified document s (delegate target name comments) :=
      (justified_delegateParameters 0 (fun _ => h.parameter) hs).bind fun _ _ _ hs' =>
        (justified_resultType (fun _ => h.returned) hs').bind fun _ _ _ hs'' => .pure hs'' _
    exact hdelegate.bind fun method s' _ hs' => .lift ((grows_addDelegate method s').sound hs')

theorem justified_typedef {item : Typedef} (hitem : item ∈ document.typedefs) (hs : s.Sound) :
    Justified document s (typedef item) := by
  have ht : Mentions document item.info.type := .typedef hitem
  refine .bind (.get hs) fun _ s _ hs => ?_
  split
  · exact .modify ((quiet_skip s _ _ _).sound hs)
  · split
    · next target htarget =>
      exact (justified_registerDelegate _ _ (ht.callback htarget) hs).bind fun _ _ _ hs' => .pure hs' _
    · split
      · exact .modify ((quiet_skip s _ _ _).sound hs)
      · refine (justified_resolve none _ ht s hs).bind fun id s' hrun hs' => .modify ?_
        have hhas := (makes_resolve none item.info.type).has hrun hs'
        exact (quiet_registerType _ fun _ => hhas).sound hs'

theorem justified_typedefs (hs : s.Sound) : Justified document s (typedefs document.typedefs) :=
  .forM hs fun _ hitem _ hs => justified_typedef hitem hs

/-! ### Fields -/

theorem justified_elementType (ht : Mentions document t) (hs : s.Sound) :
    Justified document s (elementType t) := by
  refine .bind (.get hs) fun _ s _ hs => ?_
  split
  · exact .lift ((quiet_namedType _ s).sound hs)
  · exact justified_resolve none t ht s hs

theorem justified_fitsBuffer (size : Int) (hid : s.arena.Has id) (hs : s.Sound) :
    Justified document s (fitsBuffer id size) := by
  unfold fitsBuffer
  split
  · refine .bind (.get hs) fun state s' hrun _ => ?_
    obtain ⟨rfl, rfl⟩ := ok_get.mp hrun
    have hspell : OnlyFails (Cause document s) (s.spellId id) :=
      (spellId_fails hid).mono fun _ h => h.cause
    exact .bind (.ofExcept hs hspell) fun _ _ _ hs' => .pure hs' _
  · exact .pure hs _

theorem justified_readSize (bounds owner : String) (hs : s.Sound) :
    Justified document s (readSize bounds owner) := by
  refine .bind (.get hs) fun state s' hrun hs' => ?_
  obtain ⟨rfl, rfl⟩ := ok_get.mp hrun
  split
  · next hlong =>
    obtain ⟨-, hlong⟩ := (Bool.and_eq_true _ _).mp hlong
    obtain ⟨⟨word, size⟩, hmem, hsize⟩ := List.any_eq_true.mp hlong
    exact .throw hs' (.long hmem (by simpa using ((Bool.and_eq_true _ _).mp hsize).2))
  · exact .lift ((quiet_arraySize _ _ s).sound hs')

theorem justified_arrayField (structName : String) {field : Metadata.Field}
    (ht : Mentions document field.info.type) (hs : s.Sound) :
    Justified document s (arrayField structName field) := by
  have helement : Mentions document (arrayParts field).1 := by
    unfold arrayParts
    dsimp only
    split
    · next hinner => exact ht.inner hinner
    · exact ht
  refine .bind (justified_readSize _ _ hs) fun size s₁ _ hs₁ => ?_
  refine .bind (justified_elementType helement hs₁) fun element s₂ hrun hs₂ => ?_
  have hmade := madeFor_elementType (.refl s₁) (.refl s₁) hrun
  exact .bind (justified_fitsBuffer size (hmade.has hs₁) hs₂) fun _ _ _ hs₃ => .pure hs₃ _

theorem justified_plainField {field : Metadata.Field} (ht : Mentions document field.info.type)
    (hs : s.Sound) : Justified document s (plainField field) := by
  unfold plainField
  dsimp only
  split
  · next target htarget =>
    exact (justified_registerDelegate _ none (ht.callback htarget) hs).bind fun _ s₁ _ hs₁ =>
      (justified_resolve _ _ ht s₁ hs₁).bind fun _ _ _ hs₂ => .pure hs₂ _
  · exact (justified_resolve none _ ht s hs).bind fun _ _ _ hs₁ =>
      .bind (.get hs₁) fun _ _ _ hs₂ => .pure hs₂ _

theorem justified_layoutFields (nativeName structName : String) {fields : List Metadata.Field}
    (h : ∀ field ∈ fields, Mentions document field.info.type) (hs : s.Sound) :
    Justified document s (layoutFields nativeName structName fields) := by
  induction fields generalizing s with
  | nil => exact .pure hs _
  | cons field rest ih =>
    obtain ⟨ht, hrest⟩ := List.forall_mem_cons.mp h
    refine .bind (.get hs) fun _ s _ hs => ?_
    split
    · exact .bind (.modify ((quiet_skip s _ _ _).sound hs)) fun _ _ _ hs' => ih hrest hs'
    · have hfield : Justified document s (layoutField structName field) := by
        unfold layoutField
        split
        · exact justified_arrayField structName ht hs
        · exact justified_plainField ht hs
      exact hfield.bind fun _ _ _ hs' => (ih hrest hs').bind fun _ _ _ hs'' => .pure hs'' _

/-! ### Externs -/

theorem justified_parameterType (ht : Mentions document t) (hs : s.Sound) :
    Justified document s (parameterType t) := by
  refine .bind (.get hs) fun _ s _ hs => ?_
  have hresolve := (justified_resolve none t ht s hs).bind fun id s' _ hs' =>
    (Explained.pure hs' (TypeText.ref id) : Justified document s' _)
  split
  · next hkind hinner => exact .throw hs (.hollow ht ⟨.inl hkind, hinner⟩)
  · split
    · exact .pure hs _
    · exact hresolve
  · exact hresolve

theorem justified_externParameters {arguments : List Argument}
    (h : ArgumentTypes (Mentions document) arguments) (hs : s.Sound) :
    Justified document s (externParameters function arguments) := by
  induction arguments generalizing s with
  | nil => exact .pure hs _
  | cons argument rest ih =>
    unfold externParameters
    split
    · exact ih h.tail hs
    · next info hinfo =>
      have ht := h argument List.mem_cons_self info hinfo
      have hparameter : Justified document s (externParameter function argument info.type) := by
        unfold externParameter
        dsimp only
        split
        · next target htarget =>
          exact (justified_registerDelegate _ none (ht.callback htarget) hs).bind fun _ s₁ _ hs₁ =>
            (justified_resolve _ _ ht s₁ hs₁).bind fun _ _ _ hs₂ => .pure hs₂ _
        · exact (justified_parameterType ht hs).bind fun _ _ _ hs₁ => .pure hs₁ _
      exact hparameter.bind fun _ _ _ hs' => (ih h.tail hs').bind fun _ _ _ hs'' => .pure hs'' _

theorem justified_externMethod (hfunction : function ∈ document.functions) (hs : s.Sound) :
    Justified document s (externMethod function) := by
  have htypes := functionTypes hfunction
  refine .bind (.get hs) fun _ s _ hs => ?_
  split
  · exact .bind (.modify ((quiet_skip s _ _ _).sound hs)) fun _ _ _ hs' => .pure hs' _
  · exact (justified_externParameters htypes.arguments hs).bind fun _ _ _ hs₁ =>
      .bind (.get hs₁) fun _ s₂ _ hs₂ =>
        (justified_resolve none _ htypes.result s₂ hs₂).bind fun _ _ _ hs₃ => .pure hs₃ _

theorem justified_externMethods (hs : s.Sound) :
    Justified document s (externMethods document.functions) :=
  .bind (.mapM hs fun _ hfunction _ hs => justified_externMethod hfunction hs) fun _ _ _ hs' =>
    .pure hs' _

/-! ### Arguments of wrappers -/

theorem justified_isFloatVector {inner : NativeType} (hfunction : function ∈ document.functions)
    (hargument : argument ∈ function.arguments) {info : TypeInfo} (hinfo : argument.info = some info)
    (hkind : info.type.kind = .array) (hinner : info.type.inner = some inner) (hs : s.Sound) :
    Justified document s
      (classifyArray.isFloatVector inner (Text.strip (info.type.bounds.getD ""))) := by
  unfold classifyArray.isFloatVector
  split
  · next hfloat =>
    obtain ⟨hbuiltin, hname⟩ : inner.kind = .builtin ∧ inner.builtin = some "float" := by
      simpa using hfloat
    unfold isVectorBound
    split
    · next hdigits =>
      have hcause : decimalText? (Text.strip (info.type.bounds.getD "")) = none →
          Cause document s (.unreadableBound (Text.strip (info.type.bounds.getD ""))) :=
        fun hvalue => .digits hfunction hargument hinfo
          ⟨hkind, ⟨inner, hinner, hbuiltin, hname⟩, rfl, hdigits, hvalue⟩
      exact .bind (.ofOption hs hcause) fun _ _ _ hs' => .pure hs' _
    · exact .pure hs _
  · exact .pure hs _

theorem justified_classifyArray {name : String} (hfunction : function ∈ document.functions)
    (hargument : argument ∈ function.arguments) {info : TypeInfo} (hinfo : argument.info = some info)
    (hkind : info.type.kind = .array) (hs : s.Sound) :
    Justified document s (classifyArray info.type name m) := by
  have ht : Mentions document info.type := .argument hfunction hargument hinfo
  have hhollow : info.type.inner = none → Cause document s .missingType :=
    fun hnone => .hollow ht ⟨.inr (.inl hkind), hnone⟩
  refine .bind (.ofOption hs hhollow) fun inner s hrun hs => ?_
  obtain ⟨hinner, -⟩ := ok_ofOption.mp hrun
  dsimp only
  split
  · exact .pure hs _
  · refine (justified_isFloatVector hfunction hargument hinfo hkind hinner hs).bind
      fun isVector s' _ hs' => ?_
    split
    · exact .pure hs' _
    · exact (justified_resolve none inner (ht.inner hinner) s' hs').bind fun _ _ _ hs'' => .pure hs'' _

theorem justified_classifyPointer {name : String} (ht : Mentions document t) (hkind : t.kind = .pointer)
    (hs : s.Sound) : Justified document s (classifyPointer function argument t name m) := by
  have hhollow : t.inner = none → Cause document s .missingType :=
    fun hnone => .hollow ht ⟨.inl hkind, hnone⟩
  refine .bind (.ofOption hs hhollow) fun inner s hrun hs => ?_
  obtain ⟨hinner, -⟩ := ok_ofOption.mp hrun
  have hresolve := fun s hs => justified_resolve none inner (ht.inner hinner) s hs
  split
  · unfold classifyBuiltinPointer
    dsimp only
    split
    · exact .bind (.get hs) fun _ _ _ hs' => .pure hs' _
    · exact .pure hs _
    · split <;> exact .pure hs _
    · exact (hresolve s hs).bind fun _ _ _ hs' => .pure hs' _
  · exact (hresolve s hs).bind fun _ _ _ hs' => .pure hs' _
  · refine .bind (.get hs) fun _ s hrun hs => ?_
    split
    · exact .pure hs _
    · exact (justified_resolve none t ht s hs).bind fun _ _ _ hs' => .pure hs' _
  · exact .bind (.modify ((quiet_warn s _).sound hs)) fun _ s' _ hs' =>
      (justified_resolve none t ht s' hs').bind fun _ _ _ hs'' => .pure hs'' _

theorem justified_classifyValue {name : String} (ht : Mentions document t) (hs : s.Sound) :
    Justified document s (classifyValue function argument t name m) := by
  unfold classifyValue
  split
  · exact .pure hs _
  · split
    · exact .bind (.modify ((quiet_warn s _).sound hs)) fun _ s' _ hs' =>
        (justified_resolve none t ht s' hs').bind fun _ _ _ hs'' => .pure hs'' _
    · exact (justified_resolve none t ht s hs).bind fun _ _ _ hs' => .pure hs' _

theorem justified_classify (hfunction : function ∈ document.functions)
    (hargument : argument ∈ function.arguments) {info : TypeInfo} (hinfo : argument.info = some info)
    (hs : s.Sound) : Justified document s (classify function argument info.type m) := by
  have ht : Mentions document info.type := .argument hfunction hargument hinfo
  unfold classify
  dsimp only
  split
  · next hkind => exact justified_classifyArray hfunction hargument hinfo hkind hs
  · split
    · exact .pure hs _
    · exact (justified_resolve none _ ht s hs).bind fun _ _ _ hs' => .pure hs' _
  · next hkind => exact justified_classifyPointer ht hkind hs
  · exact justified_classifyValue ht hs

theorem justified_withDefaults {arguments : List Argument}
    (h : ArgumentTypes (Mentions document) arguments) (hs : s.Sound) :
    Justified document s (withDefaults function arguments m) := by
  induction arguments generalizing m s with
  | nil => exact .pure hs _
  | cons argument rest ih =>
    unfold withDefaults
    split
    · exact ih h.tail hs
    · next info hinfo =>
      have ht := h argument List.mem_cons_self info hinfo
      have hdefault : Justified document s (passDefault function argument info.type m) := by
        rw [passDefault_eq]
        refine (justified_resolve none _ ht s hs).bind fun id s₁ _ hs₁ => ?_
        have hvalue : Justified document s₁ (omittedValue function argument) := by
          unfold omittedValue
          split
          · exact .bind (.get hs₁) fun _ _ _ hs₂ => .pure hs₂ _
          · exact .bind (.modify ((quiet_warn s₁ _).sound hs₁)) fun _ _ _ hs₂ => .pure hs₂ _
        exact hvalue.bind fun _ _ _ hs₂ => .pure hs₂ _
      exact hdefault.bind fun _ _ _ hs' => ih h.tail hs'

/-! ### Wrappers -/

theorem managedTypes_fails (h : KnowsMarshaling s m) :
    OnlyFails (Unspelled s) (managedTypes s m.managed) :=
  .mapM fun parameter hmem => (spell_fails (h.managed parameter hmem)).bind fun _ => .ok _

theorem justified_addWrapper (target : WrapperClass) (plan : WrapperPlan)
    (h : KnowsMarshaling st.symbols m) (hs : st.Sound) :
    JustifiedIn document st (addWrapper target plan m) := by
  refine .bind (.get hs) fun state st' hrun _ => ?_
  obtain ⟨rfl, rfl⟩ := ok_get.mp hrun
  have htypes : OnlyFails (Cause document st.symbols) (managedTypes st.symbols m.managed) :=
    (managedTypes_fails h).mono fun _ h => h.cause
  refine .bind (.ofExcept hs htypes) fun types st' _ hs' => ?_
  dsimp only
  split
  · exact .pure hs' _
  · exact .bind (.modify hs') fun _ _ _ hs'' => .pure hs'' _

theorem justified_shorterWrappers (target : WrapperClass) (plan : WrapperPlan) {rest : List Argument}
    (htypes : ArgumentTypes (Mentions document) (argument :: rest)) (h : KnowsMarshaling st.symbols m)
    (hs : st.Sound) :
    JustifiedIn document st (shorterWrappers target function plan argument rest m) := by
  unfold shorterWrappers
  split
  · refine (justified_onSymbols (justified_withDefaults htypes hs)).bind fun short st' hscoped hs' => ?_
    obtain ⟨symbols, hrun, rfl⟩ := ok_onSymbols.mp hscoped
    have hgrows := ((quiet_withDefaults _ _ _).of_ok hrun).toGrows
    obtain ⟨passings, homitted, rfl⟩ := omitted_withDefaults (.refl _) (.refl _) hrun
    have hpassed : List.Forall₂
        (fun argument => Passed (Present symbols) st.symbols function argument.1 argument.2)
        (typedArguments (argument :: rest)) passings :=
      homitted.imp fun _ _ h => .omitted (h.mono fun _ _ => MadeFor.has hs)
    exact justified_addWrapper target plan ((h.grows hgrows).join (knows_passed hpassed)) hs'
  · exact .pure hs _

theorem justified_wrapArguments (target : WrapperClass) (plan : WrapperPlan) {arguments : List Argument}
    (hfunction : function ∈ document.functions) (hsub : arguments ⊆ function.arguments)
    (h : KnowsMarshaling st.symbols m) (hs : st.Sound) :
    JustifiedIn document st (wrapArguments target function plan arguments m) := by
  induction arguments generalizing m st with
  | nil => exact justified_addWrapper target plan h hs
  | cons argument rest ih =>
    obtain ⟨hargument, hrest⟩ := List.cons_subset.mp hsub
    cases hinfo : argument.info with
    | none =>
      rw [wrapArguments_untyped hinfo]
      exact ih hrest h hs
    | some info =>
      by_cases hself : argument.name = "self"
      · rw [wrapArguments_self hinfo hself]
        exact ih hrest ⟨h.managed, h.before, h.fixed, h.after⟩ hs
      · rw [wrapArguments_given hinfo hself]
        have htypes : ArgumentTypes (Mentions document) (argument :: rest) :=
          fun other hother => (functionTypes hfunction).arguments other (hsub hother)
        refine (justified_shorterWrappers target plan htypes h hs).bind fun shorter st₁ hrun₁ hs₁ => ?_
        have hgrows₁ := ((quiet_shorterWrappers _ _ _ _ _ _).of_ok hrun₁).toGrows
        have hclassify := justified_classify (m := m) hfunction hargument hinfo hs₁
        refine (justified_onSymbols hclassify).bind fun longer st₂ hscoped hs₂ => ?_
        obtain ⟨symbols, hrun₂, rfl⟩ := ok_onSymbols.mp hscoped
        have hgrows₂ := ((quiet_classify _ _ _ _).of_ok hrun₂).toGrows
        obtain ⟨passing, hgiven, rfl⟩ := given_classify (.refl _) (.refl _) hrun₂
        have hpassing : KnowsPassing symbols passing :=
          Passed.knows (.given (hgiven.mono fun _ _ => MadeFor.has hs₁))
        have hpart := hpassing.part (Identifier.escape argument.name)
        have hlonger := ((h.grows hgrows₁).grows hgrows₂).join hpart
        exact (ih hrest hlonger hs₂).bind fun _ _ _ hs₃ => .pure hs₃ _

theorem justified_wrappers (target : WrapperClass) (hfunction : function ∈ document.functions)
    (hs : st.Sound) : JustifiedIn document st (wrappers target function) := by
  have hname : (wrapperName function st).2.symbols.Sound := by rwa [wrapperName_symbols]
  refine .bind (.lift hname) fun named st₁ _ (hs₁ : st₁.symbols.Sound) => ?_
  have hresult : Justified document st₁.symbols (wrapperResult function) := by
    unfold wrapperResult
    dsimp only
    split
    · exact .pure hs₁ _
    · exact (justified_resolve none _ (.result hfunction) _ hs₁).bind fun _ _ _ hs₂ => .pure hs₂ _
  refine (justified_onSymbols hresult).bind fun result st₂ _ hs₂ => ?_
  exact justified_wrapArguments _ _ hfunction (List.Subset.refl _) (.empty _) hs₂

theorem justified_classWrappers (selects : Symbols → Function → Bool) (target : WrapperClass)
    {functions : List Function} (h : functions ⊆ document.functions) (hs : st.Sound) :
    JustifiedIn document st (classWrappers selects target functions) := by
  induction functions generalizing st with
  | nil => exact .pure hs _
  | cons function rest ih =>
    obtain ⟨hfunction, hrest⟩ := List.cons_subset.mp h
    refine .bind (.get hs) fun _ st _ hs => ?_
    split
    · exact (justified_wrappers target hfunction hs).bind fun _ _ _ hs₁ =>
        (ih hrest hs₁).bind fun _ _ _ hs₂ => .pure hs₂ _
    · exact ih hrest hs

/-! ### Structs -/

theorem justified_announcedPair (target : WrapperClass) {item : Struct} (hitem : item ∈ document.structs)
    (hs : st.Sound) :
    JustifiedIn document st (announcedPair target item document.functions) := by
  have hfields : ∀ field ∈ item.fields, Mentions document field.info.type :=
    fun _ hfield => .field hitem hfield
  unfold announcedPair
  split
  · exact .pure hs _
  · refine .bind (.get hs) fun _ st₁ _ hs₁ => ?_
    refine (justified_onSymbols (justified_layoutFields _ _ hfields hs₁)).bind fun _ st₂ _ hs₂ => ?_
    have hbegin : JustifiedIn document st₂ beginClass := .modify hs₂
    refine hbegin.bind fun _ st₃ _ hs₃ => ?_
    rw [methodWrappers_eq]
    exact (justified_classWrappers _ target (List.Subset.refl _) hs₃).bind fun _ _ _ hs₄ => .pure hs₄ _

theorem justified_struct (target : WrapperClass) {item : Struct} (hitem : item ∈ document.structs)
    (hs : st.Sound) : JustifiedIn document st (struct target item document.functions) := by
  cases hskip : structSkip? st.symbols item with
  | some reason =>
    exact .of_run (runOn_struct_left hskip) ((quiet_skip st.symbols _ _ _).sound hs) (.ok none)
  | none =>
    have hannounced : (announced item st.symbols).Sound := (quiet_announced item st.symbols).sound hs
    have hpair : JustifiedIn document { st with symbols := announced item st.symbols }
        (announcedPair target item document.functions) :=
      justified_announcedPair target hitem hannounced
    exact .of_run (runOn_struct_kept hskip) hpair.keeps hpair.fails

theorem justified_structs (target : WrapperClass) {items : List Struct} (h : items ⊆ document.structs)
    (hs : st.Sound) : JustifiedIn document st (structs target document.functions items) := by
  induction items generalizing st with
  | nil => exact .pure hs _
  | cons item rest ih =>
    obtain ⟨hitem, hrest⟩ := List.cons_subset.mp h
    exact (justified_struct target hitem hs).bind fun _ _ _ hs₁ =>
      (ih hrest hs₁).bind fun _ _ _ hs₂ => .pure hs₂ _

/-! ### Documents -/

theorem justified_inNewScope {α : Type} {build : Build Scoped α}
    (h : JustifiedIn document { symbols := s } build) : Justified document s (inNewScope build) :=
  ⟨h.keeps, h.fails⟩

theorem justified_declared (nativeClass : String) (document : Metadata) (hs : s.Sound) :
    Justified document s (declared nativeClass document) := by
  have hconstants := (walk_constants opensWalk document.defines s).sound hs
  refine .bind (.lift hconstants) fun _ s₁ _ hs₁ => ?_
  refine .bind (.lift ((walk_enums opensWalk document.enums s₁).sound hs₁)) fun _ s₂ _ hs₂ => ?_
  refine (justified_typedefs hs₂).bind fun _ s₃ _ hs₃ => ?_
  refine (justified_inNewScope (justified_structs _ (List.Subset.refl _) hs₃)).bind
    fun _ s₄ _ hs₄ => ?_
  refine (justified_externMethods hs₄).bind fun _ s₅ _ hs₅ => ?_
  rw [mainWrappers_eq]
  exact (justified_inNewScope (justified_classWrappers _ _ (List.Subset.refl _) hs₅)).bind
    fun _ _ _ hs₆ => .pure hs₆ _

/-- Building a document fails for these causes alone. -/
theorem justified_bindings (nativeClass : String) (document : Metadata) (hs : s.Sound) :
    Justified document s (bindings nativeClass document) := by
  rw [bindings_eq]
  refine (justified_declared nativeClass document hs).bind fun b s' _ hs' => ?_
  obtain ⟨erased, last, hrun, hsettles⟩ := settles_settle hs' b
  exact .of_run hrun (hsettles.keeps.sound hs') (.ok _)

end InteropGen.Generate

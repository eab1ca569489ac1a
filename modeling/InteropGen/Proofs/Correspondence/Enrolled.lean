import InteropGen.Proofs.Correspondence.Document

/-!
# Which callback types are declared

A document has callback types in three places: its typedefs of function pointers, the fields of the
structs that get a layout, and the arguments of the functions that are imported. `callbacks` lists
them with their names, in the order in which generation comes to them. Under a name the first of
them is declared, and nothing else is declared: `Enrolls listed s s'` says so of a run that comes to
the listed types, and `Enrolls.append` of two runs one after the other.
-/

namespace InteropGen.Generate

open Metadata Decl Build Symbols

variable {s₀ lo hi s s' s'' : Symbols} {st st' : Scoped} {listed later : List (String × NativeType)}
  {target : NativeType} {name : String} {method : Method}

/-! ### The callback types of a document -/

/-- The function type of a callback type, under a name. -/
def callbackAs (name : String) (t : NativeType) : List (String × NativeType) :=
  (t.callback?.map fun target => (name, target)).toList

/-- The callback type that a typedef stands for. -/
def typedefCallback (s : Symbols) (item : Typedef) : List (String × NativeType) :=
  if s.admits item.guards then callbackAs (typedefDelegate item) item.info.type else []

/-- The callback type of a field; the elements of an array field are not declared. -/
def fieldCallback (field : Metadata.Field) : List (String × NativeType) :=
  if field.isArray then [] else callbackAs (fieldDelegate field) field.info.type

/-- The callback types of structs. -/
def structCallbacks (s : Symbols) (items : List Struct) : List (String × NativeType) :=
  (laidOut s items).flatMap fun item => (keptFields s item).flatMap fieldCallback

/-- The callback types of the arguments of a function. -/
def argumentCallbacks (function : Function) (arguments : List Argument) :
    List (String × NativeType) :=
  (typedArguments arguments).flatMap fun argument =>
    callbackAs (argumentDelegate function argument.1) argument.2

/-- The callback types of functions. -/
def functionCallbacks (s : Symbols) (functions : List Function) : List (String × NativeType) :=
  (imported s functions).flatMap fun function => argumentCallbacks function function.arguments

/-- The callback types of a document with their names, in the order in which they are reached. -/
def callbacks (s : Symbols) (metadata : Metadata) : List (String × NativeType) :=
  metadata.typedefs.flatMap (typedefCallback s) ++ structCallbacks s metadata.structs ++
    functionCallbacks s metadata.functions

theorem callbackAs_some {t : NativeType} (h : t.callback? = some target) :
    callbackAs name t = [(name, target)] := by
  simp [callbackAs, h]

theorem callbackAs_none {t : NativeType} (h : t.callback? = none) : callbackAs name t = [] := by
  simp [callbackAs, h]

/-! ### Enrolling -/

/-- The delegate was made from the function type at some moment between the two. -/
def Synthesized (s s' : Symbols) (target : NativeType) (name : String) (method : Method) : Prop :=
  ∃ before after comments, s.Grows before ∧
    (delegate target name comments).runOn before = (.ok method, after) ∧ after.Grows s'

theorem Synthesized.widen (hlo : lo.Grows s) (hhi : s'.Grows hi)
    (h : Synthesized s s' target name method) : Synthesized lo hi target name method := by
  obtain ⟨before, after, comments, hbefore, hrun, hafter⟩ := h
  exact ⟨before, after, comments, hlo.trans hbefore, hrun, hafter.trans hhi⟩

/--
What a run does to the declared callback types if it comes to the listed ones: those that were
declared stay, and of the others the first of each name is declared, and no more.
-/
structure Enrolls (listed : List (String × NativeType)) (s s' : Symbols) : Prop where
  grows : s.Grows s'
  old : ∀ name method, s.delegates.find? name = some method → s'.delegates.find? name = some method
  first : ∀ name target, s.delegates.find? name = none → listed.lookup name = some target →
    ∃ method, s'.delegates.find? name = some method ∧ Synthesized s s' target name method
  others : ∀ name, s.delegates.find? name = none → listed.lookup name = none →
    s'.delegates.find? name = none

theorem Enrolls.of_quiet (h : Quiet s s') : Enrolls [] s s' := by
  refine ⟨h.toGrows, ?_, ?_, ?_⟩
  · intro name method hfind
    rwa [h.delegates]
  · intro name target _ hlookup
    simp at hlookup
  · intro name hnone _
    rwa [h.delegates]

/-- The names of a later run count only where the earlier one left them free. -/
theorem Enrolls.append (h : Enrolls listed s s') (h' : Enrolls later s' s'') :
    Enrolls (listed ++ later) s s'' := by
  refine ⟨h.grows.trans h'.grows, ?_, ?_, ?_⟩
  · intro name method hfind
    exact h'.old name method (h.old name method hfind)
  · intro name target hnone hlookup
    rw [List.lookup_append] at hlookup
    cases hfirst : listed.lookup name with
    | some found =>
      rw [hfirst, Option.some_or] at hlookup
      obtain rfl := Option.some.inj hlookup
      obtain ⟨method, hfind, hmade⟩ := h.first name found hnone hfirst
      exact ⟨method, h'.old name method hfind, hmade.widen (.refl s) h'.grows⟩
    | none =>
      rw [hfirst, Option.none_or] at hlookup
      have hfree := h.others name hnone hfirst
      obtain ⟨method, hfind, hmade⟩ := h'.first name target hfree hlookup
      exact ⟨method, hfind, hmade.widen h.grows (.refl s'')⟩
  · intro name hnone hlookup
    rw [List.lookup_append, Option.or_eq_none_iff] at hlookup
    exact h'.others name (h.others name hnone hlookup.1) hlookup.2

theorem Enrolls.quietly (h : Enrolls listed s s') (h' : Quiet s' s'') :
    Enrolls listed s s'' := by
  have happend := h.append (.of_quiet h')
  rwa [List.append_nil] at happend

theorem Enrolls.after (h : Quiet s s') (h' : Enrolls listed s' s'') : Enrolls listed s s'' :=
  (Enrolls.of_quiet h).append h'

/-- Without callback types before the run, the declared names are the listed ones. -/
theorem Enrolls.contains_iff (h : Enrolls listed s s') (hnone : s.delegates = {}) :
    s'.delegates.contains name = true ↔ name ∈ listed.map (·.1) := by
  have hfree : s.delegates.find? name = none := by
    rw [hnone]
    rfl
  cases hlookup : listed.lookup name with
  | some target =>
    obtain ⟨method, hfind, -⟩ := h.first name target hfree hlookup
    obtain ⟨before, after, hsplit, -⟩ := List.lookup_eq_some_iff.mp hlookup
    rw [Table.contains, hfind, hsplit]
    simp
  | none =>
    have hleft := h.others name hfree hlookup
    rw [Table.contains, hleft]
    rw [List.lookup_eq_none_iff] at hlookup
    have habsent : name ∉ listed.map (·.1) := by
      intro hmem
      obtain ⟨pair, hpair, rfl⟩ := List.mem_map.mp hmem
      simpa using hlookup pair hpair
    simp [habsent]

/-! ### Registering -/

theorem find?_addDelegate_self (h : s.delegates.find? method.head.name = none) :
    (addDelegate method s).2.delegates.find? method.head.name = some method := by
  have hfree : s.delegates.contains method.head.name = false := by rw [Table.contains, h]; rfl
  unfold addDelegate
  rw [if_neg (by simp [hfree])]
  exact Table.find?_insert_self s.delegates _ method

theorem find?_addDelegate_of_ne (h : name ≠ method.head.name) :
    (addDelegate method s).2.delegates.find? name = s.delegates.find? name := by
  unfold addDelegate
  dsimp only
  split
  · rfl
  · exact s.delegates.find?_insert_of_ne h method

theorem lookup_single (other name : String) (target : NativeType) :
    List.lookup other [(name, target)] = if other = name then some target else none := by
  rw [List.lookup_cons, List.lookup_nil]
  cases hother : other == name with
  | true => rw [if_pos (eq_of_beq hother)]
  | false => rw [if_neg (beq_eq_false_iff_ne.mp hother)]

/-- Under a name that is declared already nothing new is. -/
theorem enrolls_taken (h : s.delegates.contains name = true) : Enrolls [(name, target)] s s := by
  refine ⟨.refl s, fun _ _ hfind => hfind, ?_, fun _ hnone _ => hnone⟩
  intro other found hnone hfound
  by_cases hother : other = name
  · rw [hother] at hnone
    rw [Table.contains, hnone] at h
    simp at h
  · rw [lookup_single, if_neg hother] at hfound
    simp at hfound

theorem enrolls_addDelegate {comments : Option Comments} (hfree : s.delegates.find? name = none)
    (hrun : (delegate target name comments).runOn s = (.ok method, s')) :
    Enrolls [(name, target)] s (addDelegate method s').2 := by
  have hquiet := (quiet_delegate target name comments).of_ok hrun
  have hname : method.head.name = name := (delegateOf (.refl s) hrun).name
  have hgrows := grows_addDelegate method s'
  have hself : (addDelegate method s').2.delegates.find? name = some method := by
    rw [← hname] at hfree ⊢
    exact find?_addDelegate_self (by rw [hquiet.delegates]; exact hfree)
  have hothers : ∀ other, other ≠ name →
      (addDelegate method s').2.delegates.find? other = s.delegates.find? other := by
    intro other hother
    rw [find?_addDelegate_of_ne (by rwa [hname]), hquiet.delegates]
  refine ⟨hquiet.toGrows.trans hgrows, ?_, ?_, ?_⟩
  · intro other old hfind
    have hother : other ≠ name := by
      rintro rfl
      rw [hfree] at hfind
      simp at hfind
    rwa [hothers other hother]
  · intro other found _ hfound
    rw [lookup_single] at hfound
    obtain ⟨hother, htarget⟩ := Option.ite_none_right_eq_some.mp hfound
    rw [hother, ← Option.some.inj htarget]
    exact ⟨method, hself, s, s', comments, .refl s, hrun, hgrows⟩
  · intro other hnone habsent
    rw [lookup_single] at habsent
    have hother : other ≠ name := by simpa using habsent
    rwa [hothers other hother]

theorem enrolls_registerDelegate {comments : Option Comments} {added : Bool}
    (hrun : (registerDelegate target name comments).runOn s = (.ok added, s')) :
    Enrolls [(name, target)] s s' := by
  obtain ⟨state, middle, hget, hrun⟩ := ok_bind.mp hrun
  obtain ⟨rfl, rfl⟩ := ok_get.mp hget
  split at hrun
  · next htaken =>
    obtain ⟨-, rfl⟩ := ok_pure.mp hrun
    exact enrolls_taken htaken
  · next hnew =>
    obtain ⟨made, middle, hdelegate, hrun⟩ := ok_bind.mp hrun
    obtain ⟨-, rfl⟩ := ok_lift.mp hrun
    exact enrolls_addDelegate (by simpa [Table.contains] using hnew) hdelegate

/-! ### Typedefs -/

theorem enrolls_typedef {item : Typedef} (h₀ : s₀.Grows s)
    (hrun : (typedef item).runOn s = (.ok (), s')) : Enrolls (typedefCallback s₀ item) s s' := by
  obtain ⟨state, middle, hget, hrun⟩ := ok_bind.mp hrun
  obtain ⟨rfl, rfl⟩ := ok_get.mp hget
  unfold typedefCallback
  rw [← h₀.admits]
  split at hrun
  · next hguards =>
    rw [if_neg (by simpa using hguards)]
    exact .of_quiet ((Preserves.modify fun s => quiet_skip s _ _ _).of_ok hrun)
  · next hguards =>
    rw [if_pos (by simpa using hguards)]
    split at hrun
    · next target htarget =>
      obtain ⟨added, middle, hregister, hrun⟩ := ok_bind.mp hrun
      obtain ⟨-, rfl⟩ := ok_pure.mp hrun
      rw [callbackAs_some htarget]
      exact enrolls_registerDelegate hregister
    · next hnone =>
      rw [callbackAs_none hnone]
      split at hrun
      · exact .of_quiet ((Preserves.modify fun s => quiet_skip s _ _ _).of_ok hrun)
      · exact .of_quiet (((makes_resolve none item.info.type).registers item.name).of_ok hrun)

theorem enrolls_typedefs {items : List Typedef} (h₀ : s₀.Grows s)
    (hrun : (typedefs items).runOn s = (.ok (), s')) :
    Enrolls (items.flatMap (typedefCallback s₀)) s s' := by
  induction items generalizing s with
  | nil =>
    obtain ⟨-, rfl⟩ := ok_pure.mp hrun
    exact .of_quiet (.refl s)
  | cons item rest ih =>
    have hsteps : (typedef item >>= fun _ => typedefs rest).runOn s = (.ok (), s') := hrun
    obtain ⟨⟨⟩, middle, hfirst, hrest⟩ := ok_bind.mp hsteps
    have hitem := enrolls_typedef h₀ hfirst
    rw [List.flatMap_cons]
    exact hitem.append (ih (h₀.trans hitem.grows) hrest)

/-! ### Fields -/

theorem enrolls_plainField {field : Metadata.Field} {part : List Decl.Field × Accessor}
    (hrun : (plainField field).runOn s = (.ok part, s')) :
    Enrolls (callbackAs (fieldDelegate field) field.info.type) s s' := by
  unfold plainField at hrun
  dsimp only at hrun
  split at hrun
  · next target htarget =>
    obtain ⟨added, middle, hregister, hrun⟩ := ok_bind.mp hrun
    obtain ⟨id, after, hid, hrun⟩ := ok_bind.mp hrun
    obtain ⟨-, rfl⟩ := ok_pure.mp hrun
    have hquiet := (quiet_resolve _ _).of_ok hid
    rw [callbackAs_some htarget]
    exact (enrolls_registerDelegate hregister).quietly hquiet
  · next hnone =>
    obtain ⟨id, after, hid, hrun⟩ := ok_bind.mp hrun
    obtain ⟨state, middle, hget, hrun⟩ := ok_bind.mp hrun
    obtain ⟨rfl, rfl⟩ := ok_get.mp hget
    obtain ⟨-, rfl⟩ := ok_pure.mp hrun
    rw [callbackAs_none hnone]
    exact .of_quiet ((quiet_resolve _ _).of_ok hid)

theorem enrolls_layoutField {structName : String} {field : Metadata.Field}
    {part : List Decl.Field × Accessor}
    (hrun : (layoutField structName field).runOn s = (.ok part, s')) :
    Enrolls (fieldCallback field) s s' := by
  unfold layoutField at hrun
  unfold fieldCallback
  split at hrun
  · next harray =>
    rw [if_pos harray]
    exact .of_quiet ((quiet_arrayField _ _).of_ok hrun)
  · next harray =>
    rw [if_neg harray]
    exact enrolls_plainField hrun

theorem enrolls_layoutFields {nativeName structName : String} {fields : List Metadata.Field}
    {parts : List (List Decl.Field × Accessor)} (h₀ : s₀.Grows s)
    (hrun : (layoutFields nativeName structName fields).runOn s = (.ok parts, s')) :
    Enrolls ((fields.filter fun field => (fieldSkip? s₀ field).isNone).flatMap fieldCallback)
      s s' := by
  induction fields generalizing parts s with
  | nil =>
    obtain ⟨-, rfl⟩ := ok_pure.mp hrun
    exact .of_quiet (.refl s)
  | cons field rest ih =>
    obtain ⟨state, middle, hget, hrun⟩ := ok_bind.mp hrun
    obtain ⟨rfl, rfl⟩ := ok_get.mp hget
    split at hrun
    · next reason hreason =>
      obtain ⟨_, middle, hskip, hrun⟩ := ok_bind.mp hrun
      have hquiet := (Preserves.modify fun s => quiet_skip s _ _ _).of_ok hskip
      rw [fieldSkip?_grows h₀] at hreason
      rw [List.filter_cons_of_neg (by simp [hreason])]
      exact .after hquiet (ih (h₀.trans hquiet.toGrows) hrun)
    · next hreason =>
      obtain ⟨first, middle, hfirst, hrun⟩ := ok_bind.mp hrun
      obtain ⟨others, after, hothers, hrun⟩ := ok_bind.mp hrun
      obtain ⟨-, rfl⟩ := ok_pure.mp hrun
      have hfield := enrolls_layoutField hfirst
      rw [fieldSkip?_grows h₀] at hreason
      rw [List.filter_cons_of_pos (by simp [hreason]), List.flatMap_cons]
      exact hfield.append (ih (h₀.trans hfield.grows) hothers)

/-! ### Structs -/

theorem enrolls_announcedPair {item : Struct} {target : WrapperClass} {functions : List Function}
    {made : Option (Layout × View)} (hkept : structSkip? s₀ item = none)
    (h₀ : s₀.Grows st.symbols)
    (hrun : (announcedPair target item functions).runOn st = (.ok made, st')) :
    Enrolls (structCallbacks s₀ [item]) st.symbols st'.symbols := by
  unfold structCallbacks
  unfold announcedPair at hrun
  split at hrun
  · next hempty =>
    obtain ⟨-, rfl⟩ := ok_pure.mp hrun
    rw [laidOut, List.filter_cons_of_neg (by simp [hempty])]
    exact .of_quiet (.refl _)
  · next hfields =>
    obtain ⟨state, first, hget, hrun⟩ := ok_bind.mp hrun
    obtain ⟨rfl, rfl⟩ := ok_get.mp hget
    obtain ⟨parts, second, hscoped, hrun⟩ := ok_bind.mp hrun
    obtain ⟨symbols, hparts, rfl⟩ := ok_onSymbols.mp hscoped
    obtain ⟨_, third, hclass, hrun⟩ := ok_bind.mp hrun
    obtain ⟨methods, last, hmethods, hrun⟩ := ok_bind.mp hrun
    obtain ⟨-, rfl⟩ := ok_pure.mp hrun
    have hbegun : Quiet symbols third.symbols := (preserves_beginClass (R := Quiet)).of_ok hclass
    have hwrapped := (quiet_methodWrappers _ _ _).of_ok hmethods
    have henrolls := enrolls_layoutFields h₀ hparts
    rw [laidOut, List.filter_cons_of_pos (by simp [hkept, hfields])]
    simp only [List.filter_nil, List.flatMap_cons, List.flatMap_nil, List.append_nil]
    exact henrolls.quietly (hbegun.trans hwrapped)

theorem enrolls_struct {item : Struct} {target : WrapperClass} {functions : List Function}
    {made : Option (Layout × View)} (h₀ : s₀.Grows st.symbols)
    (hrun : (struct target item functions).runOn st = (.ok made, st')) :
    Enrolls (structCallbacks s₀ [item]) st.symbols st'.symbols := by
  cases hskip : structSkip? st.symbols item with
  | some reason =>
    rw [runOn_struct_left hskip] at hrun
    obtain rfl := congrArg Prod.snd hrun
    rw [structSkip?_grows h₀] at hskip
    rw [structCallbacks, laidOut, List.filter_cons_of_neg (by simp [hskip])]
    exact .of_quiet (quiet_skip st.symbols _ _ _)
  | none =>
    rw [runOn_struct_kept hskip] at hrun
    rw [structSkip?_grows h₀] at hskip
    have hquiet := quiet_announced item st.symbols
    exact .after hquiet (enrolls_announcedPair hskip (h₀.trans hquiet.toGrows) hrun)

theorem enrolls_structs {items : List Struct} {target : WrapperClass} {functions : List Function}
    {pairs : List (Layout × View)} (h₀ : s₀.Grows st.symbols)
    (hrun : (structs target functions items).runOn st = (.ok pairs, st')) :
    Enrolls (structCallbacks s₀ items) st.symbols st'.symbols := by
  induction items generalizing pairs st with
  | nil =>
    obtain ⟨-, rfl⟩ := ok_pure.mp hrun
    exact .of_quiet (.refl _)
  | cons item rest ih =>
    obtain ⟨first, middle, hfirst, hrun⟩ := ok_bind.mp hrun
    obtain ⟨others, after, hothers, hrun⟩ := ok_bind.mp hrun
    obtain ⟨-, rfl⟩ := ok_pure.mp hrun
    have hitem := enrolls_struct h₀ hfirst
    have hrest := ih (h₀.trans hitem.grows) hothers
    rw [structCallbacks, ← List.singleton_append, laidOut_append, List.flatMap_append]
    exact hitem.append hrest

/-! ### Functions -/

theorem enrolls_externParameter {function : Function} {argument : Argument} {t : NativeType}
    {parameter : Parameter}
    (hrun : (externParameter function argument t).runOn s = (.ok parameter, s')) :
    Enrolls (callbackAs (argumentDelegate function argument) t) s s' := by
  unfold externParameter at hrun
  dsimp only at hrun
  split at hrun
  · next target htarget =>
    obtain ⟨added, middle, hregister, hrun⟩ := ok_bind.mp hrun
    obtain ⟨id, after, hid, hrun⟩ := ok_bind.mp hrun
    obtain ⟨-, rfl⟩ := ok_pure.mp hrun
    have hquiet := (quiet_resolve _ _).of_ok hid
    rw [callbackAs_some htarget]
    exact (enrolls_registerDelegate hregister).quietly hquiet
  · next hnone =>
    obtain ⟨type, after, htype, hrun⟩ := ok_bind.mp hrun
    obtain ⟨-, rfl⟩ := ok_pure.mp hrun
    rw [callbackAs_none hnone]
    exact .of_quiet ((quiet_parameterType t).of_ok htype)

theorem enrolls_externParameters {function : Function} {arguments : List Argument}
    {parameters : List Parameter}
    (hrun : (externParameters function arguments).runOn s = (.ok parameters, s')) :
    Enrolls (argumentCallbacks function arguments) s s' := by
  induction arguments generalizing parameters s with
  | nil =>
    obtain ⟨-, rfl⟩ := ok_pure.mp hrun
    exact .of_quiet (.refl s)
  | cons argument rest ih =>
    unfold externParameters at hrun
    unfold argumentCallbacks
    split at hrun
    · next hinfo =>
      rw [typedArguments_untyped hinfo]
      exact ih hrun
    · next info hinfo =>
      obtain ⟨first, middle, hfirst, hrun⟩ := ok_bind.mp hrun
      obtain ⟨others, after, hothers, hrun⟩ := ok_bind.mp hrun
      obtain ⟨-, rfl⟩ := ok_pure.mp hrun
      rw [typedArguments_typed hinfo, List.flatMap_cons]
      exact (enrolls_externParameter hfirst).append (ih hothers)

theorem imported_append (s : Symbols) (functions functions' : List Function) :
    imported s (functions ++ functions') = imported s functions ++ imported s functions' :=
  List.filter_append ..

theorem enrolls_externMethod {function : Function} {made : Option Method} (h₀ : s₀.Grows s)
    (hrun : (externMethod function).runOn s = (.ok made, s')) :
    Enrolls (functionCallbacks s₀ [function]) s s' := by
  unfold functionCallbacks
  obtain ⟨state, middle, hget, hrun⟩ := ok_bind.mp hrun
  obtain ⟨rfl, rfl⟩ := ok_get.mp hget
  split at hrun
  · next reason hreason =>
    obtain ⟨_, after, hskip, hrun⟩ := ok_bind.mp hrun
    obtain ⟨-, rfl⟩ := ok_pure.mp hrun
    rw [skipReason?_grows h₀] at hreason
    rw [imported, List.filter_cons_of_neg (by simp [hreason])]
    exact .of_quiet ((Preserves.modify fun s => quiet_skip s _ _ _).of_ok hskip)
  · next hreason =>
    obtain ⟨parameters, middle, hparameters, hrun⟩ := ok_bind.mp hrun
    obtain ⟨state, before, hget, hrun⟩ := ok_bind.mp hrun
    obtain ⟨rfl, rfl⟩ := ok_get.mp hget
    obtain ⟨id, after, hid, hrun⟩ := ok_bind.mp hrun
    obtain ⟨-, rfl⟩ := ok_pure.mp hrun
    have hquiet := (quiet_resolve _ _).of_ok hid
    rw [skipReason?_grows h₀] at hreason
    rw [imported, List.filter_cons_of_pos (by simp [hreason])]
    simp only [List.filter_nil, List.flatMap_cons, List.flatMap_nil, List.append_nil]
    exact (enrolls_externParameters hparameters).quietly hquiet

theorem enrolls_externMethods {functions : List Function} {methods : List Method}
    (h₀ : s₀.Grows s) (hrun : (externMethods functions).runOn s = (.ok methods, s')) :
    Enrolls (functionCallbacks s₀ functions) s s' := by
  obtain ⟨made, after, hmade, hrest⟩ := ok_bind.mp hrun
  obtain ⟨-, rfl⟩ := ok_pure.mp hrest
  clear hrun hrest
  induction functions generalizing made s with
  | nil =>
    rw [List.mapM_nil] at hmade
    obtain ⟨-, rfl⟩ := ok_pure.mp hmade
    exact .of_quiet (.refl s)
  | cons function rest ih =>
    rw [List.mapM_cons] at hmade
    obtain ⟨first, middle, hfirst, hmade⟩ := ok_bind.mp hmade
    obtain ⟨others, after, hothers, hmade⟩ := ok_bind.mp hmade
    obtain ⟨-, rfl⟩ := ok_pure.mp hmade
    have hfunction := enrolls_externMethod h₀ hfirst
    have hrest := ih (h₀.trans hfunction.grows) others hothers
    rw [functionCallbacks, ← List.singleton_append, imported_append, List.flatMap_append]
    exact hfunction.append hrest

/-! ### Documents -/

/-- The callback types of a document are declared, each name for the first of them. -/
theorem enrolls_declared {nativeClass : String} {metadata : Metadata} {b : Bindings}
    (hrun : (declared nativeClass metadata).runOn s = (.ok b, s')) :
    Enrolls (callbacks (opened metadata s) metadata) (opened metadata s) s' := by
  obtain ⟨typed, paired, imports, wrapped, hstages, rfl⟩ := stages_of_declared hrun
  have htyped := enrolls_typedefs (.refl _) hstages.typedefs
  have hpaired := enrolls_structs htyped.grows hstages.structs
  have himports := enrolls_externMethods (htyped.grows.trans hpaired.grows) hstages.externs
  have hwrapped := (quiet_mainWrappers _ _).of_ok hstages.mainWrappers
  exact ((htyped.append hpaired).append himports).quietly hwrapped

end InteropGen.Generate

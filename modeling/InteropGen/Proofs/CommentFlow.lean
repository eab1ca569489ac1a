import InteropGen.Proofs.Recommenting

/-!
# Comments pass through generators

Nothing that is generated depends on what comments say. If a function replaces every comment of a document, the same
bindings come out with their comments replaced (`commutes_bindings`): comments are carried along, by delegates in the
tables and from functions to their longer forms, but nothing looks into them. This is proved generator by generator.
-/

namespace InteropGen.Generate

open Metadata Decl Build Symbols

variable {f : Comments → Comments} (hf : f {} = {})

include hf

/-! ### Constants and enums -/

/-- A head without comments keeps none. -/
theorem recomment_of_none {head : Head} (h : head.comments = {}) : head.recomment f = head :=
  (recomment_withComments hf head h none).symm

theorem constantOf_recomment (s : Symbols) (define : Define) :
    constantOf (s.recomment f) (define.recomment f) = (constantOf s define).recomment f := by
  have htype : constantType (s.recomment f) (define.recomment f) = constantType s define := by
    unfold constantType
    rfl
  have hhead := recomment_withComments hf { name := define.name, modifiers := ["public", "const"] } rfl define.comments
  have hfields : (define.recomment f).name = define.name ∧ (define.recomment f).comments = define.comments.map f :=
    ⟨rfl, rfl⟩
  rw [constantOf, htype, hfields.1, hfields.2, hhead, constantOf, Constant.recomment]

omit hf in
theorem addNew_recomment (constants : List Constant) (constant : Constant) :
    addNew (constants.map (Constant.recomment f)) (constant.recomment f) =
      (addNew constants constant).map (Constant.recomment f) := by
  unfold addNew
  rw [List.any_map]
  show (if constants.any (·.head.name = constant.head.name) then _ else _) = _
  split
  · rfl
  · rw [List.map_append]
    rfl

theorem addDefine_recomment (deep : Bool) (run : ConstantRun) (define : Define) :
    (run.recomment f).addDefine deep (define.recomment f) = (run.addDefine deep define).recomment f := by
  have hadmits : (run.recomment f).symbols.admits (define.recomment f).guards = run.symbols.admits define.guards :=
    admits_recomment _ _
  cases hguards : run.symbols.admits define.guards with
  | false =>
    rw [ConstantRun.addDefine_left (hadmits.trans hguards), ConstantRun.addDefine_left hguards]
    rfl
  | true =>
    have hconstants := addNew_recomment (f := f) run.constants (constantOf run.symbols define)
    rw [← constantOf_recomment hf] at hconstants
    rw [ConstantRun.addDefine_admitted (hadmits.trans hguards), ConstantRun.addDefine_admitted hguards]
    show ConstantRun.mk _ (addNew (run.constants.map (Constant.recomment f))
      (constantOf (run.symbols.recomment f) (define.recomment f))) _ = _
    rw [hconstants]
    cases deep <;> rfl

omit hf in
/-- A fold over changed items on a changed state. -/
theorem foldl_recomment {σ α β : Type} {step : σ → α → σ} {step' : σ → β → σ} {φ : σ → σ} {g : α → β}
    (h : ∀ state item, step' (φ state) (g item) = φ (step state item)) (items : List α) (state : σ) :
    (items.map g).foldl step' (φ state) = φ (items.foldl step state) := by
  rw [List.foldl_map]
  exact List.foldl_hom φ h

theorem addGroup_recomment (defines : List Define) (run : ConstantRun) (depth : Nat) :
    (run.recomment f).addGroup (defines.map (Define.recomment f)) depth = (run.addGroup defines depth).recomment f := by
  unfold ConstantRun.addGroup
  rw [List.filter_map, foldl_recomment (addDefine_recomment hf _)]
  rfl

theorem constants_recomment (defines : List Define) (s : Symbols) :
    constants (defines.map (Define.recomment f)) (s.recomment f) =
      ((constants defines s).1.map (Constant.recomment f), (constants defines s).2.recomment f) := by
  have hdepths : guardDepths (defines.map (Define.recomment f)) = guardDepths defines := by
    rw [guardDepths, List.map_map]
    rfl
  have hseeds : (s.settings.knownDefines.map (seedConstant s)).map (Constant.recomment f) =
      s.settings.knownDefines.map (seedConstant s) := by
    rw [List.map_map]
    exact List.map_congr_left fun name _ => congrArg (Constant.mk · _ _) (recomment_of_none hf rfl)
  unfold constants
  dsimp only
  rw [hdepths]
  have hstart : { symbols := s.recomment f, constants := s.settings.knownDefines.map (seedConstant s) } =
      ConstantRun.recomment f { symbols := s, constants := s.settings.knownDefines.map (seedConstant s) } := by
    rw [ConstantRun.recomment, hseeds]
  have hsettings : (s.recomment f).settings = s.settings := rfl
  have hseed : seedConstant (s.recomment f) = seedConstant s := rfl
  rw [hsettings, hseed, hstart,
    List.foldl_hom (ConstantRun.recomment f) fun run depth => addGroup_recomment hf defines run depth]
  rfl

omit hf in
theorem enumStarted_recomment (item : Metadata.Enum) (s : Symbols) :
    enumStarted (item.recomment f) (s.recomment f) = (enumStarted item s).recomment f := by
  have hname : (item.recomment f).name = item.name := rfl
  have henums : (s.recomment f).enums = s.enums := rfl
  unfold enumStarted
  rw [hname, henums]
  dsimp only
  split
  · rfl
  · split <;> rfl

theorem inherited_recomment (item : Metadata.Enum) (s : Symbols) :
    (inherited item s).map (Element.recomment f) = inherited item s := by
  unfold inherited
  dsimp only
  rw [List.map_map]
  exact List.map_congr_left fun element _ => congrArg (Element.mk · element.2) (recomment_of_none hf rfl)

theorem addElement_recomment (name : String) (run : EnumRun) (element : EnumElement) :
    (run.recomment f).addElement name (element.recomment f) = (run.addElement name element).recomment f := by
  have helements (value : String) :
      (run.elements ++ [Element.mk (Head.withComments { name := element.name } element.comments) value]).map
        (Element.recomment f) = run.elements.map (Element.recomment f) ++
          [Element.mk (Head.withComments { name := element.name } (element.comments.map f)) value] := by
    rw [List.map_append, List.map_singleton, Element.recomment, recomment_withComments hf _ rfl]
  unfold EnumRun.addElement
  dsimp only
  show (if (run.symbols.recomment f).admits element.guards then _ else _) = _
  rw [admits_recomment]
  split
  · exact congrArg (EnumRun.mk _) (helements _).symm
  · rfl

theorem enumRun_recomment (item : Metadata.Enum) (s : Symbols) :
    enumRun (item.recomment f) (s.recomment f) = (enumRun item s).recomment f := by
  have hstart : EnumRun.mk (enumStarted (item.recomment f) (s.recomment f)) (inherited item s) =
      (EnumRun.mk (enumStarted item s) (inherited item s)).recomment f := by
    rw [EnumRun.recomment, inherited_recomment hf, enumStarted_recomment]
  have hinherited : inherited (item.recomment f) (s.recomment f) = inherited item s := rfl
  rw [enumRun, hinherited, hstart]
  exact foldl_recomment (addElement_recomment hf _) item.elements _

theorem enum_recomment (item : Metadata.Enum) (s : Symbols) :
    enum (item.recomment f) (s.recomment f) =
      ((enum item s).1.map (Decl.Enum.recomment f), (enum item s).2.recomment f) := by
  cases hadmits : s.admits item.guards with
  | false =>
    have hadmits' : (s.recomment f).admits (item.recomment f).guards = false := (admits_recomment s _).trans hadmits
    rw [enum_left hadmits, enum_left hadmits']
    rfl
  | true =>
    have hadmits' : (s.recomment f).admits (item.recomment f).guards = true := (admits_recomment s _).trans hadmits
    have hhead : enumHead (item.recomment f) = (enumHead item).recomment f :=
      recomment_withComments hf _ rfl item.comments
    rw [enum_made hadmits, enum_made hadmits', hhead, enumRun_recomment hf]
    rfl

theorem enums_recomment (items : List Metadata.Enum) (s : Symbols) :
    enums (items.map (Metadata.Enum.recomment f)) (s.recomment f) =
      ((enums items s).1.map (Decl.Enum.recomment f), (enums items s).2.recomment f) := by
  induction items generalizing s with
  | nil => rfl
  | cons item rest ih =>
    rw [List.map_cons, enums, state_bind, state_bind, enum_recomment hf, ih, enums, state_bind, state_bind]
    cases (enum item s).1 <;> rfl

/-! ### Callback types and typedefs -/

omit hf in
theorem addDelegate_recomment (method : Method) (s : Symbols) :
    addDelegate (method.recomment f) (s.recomment f) =
      ((addDelegate method s).1, (addDelegate method s).2.recomment f) := by
  have hcontains : (s.recomment f).delegates.contains (method.recomment f).head.name =
      s.delegates.contains method.head.name := contains_mapValues _ _ _
  unfold addDelegate
  dsimp only
  rw [hcontains]
  split
  · rfl
  · have hinsert : (s.recomment f).delegates.insert (method.recomment f).head.name (method.recomment f) =
        (s.delegates.insert method.head.name method).mapValues (Method.recomment f) := insert_mapValues _ _ _ _
    rw [hinsert]
    rfl

theorem commutes_registerDelegate (function : NativeType) (name : String) (comments : Option Comments) :
    Commutes (Symbols.recomment f) id (registerDelegate function name comments)
      (registerDelegate function name (comments.map f)) := by
  have hdelegate : Commutes (Symbols.recomment f) (Method.recomment f) (delegate function name comments)
      (delegate function name (comments.map f)) :=
    (blind_delegateParameters 0 _).andThen fun parameters => (blind_resultType _).andThen fun result => by
      dsimp only
      rw [recomment_withComments hf _ rfl]
      exact .pure (Method.mk _ result parameters)
  refine .get_bind fun s => ?_
  show Commutes _ _ (if s.delegates.contains name then _ else _)
    (if (s.recomment f).delegates.contains name then _ else _)
  rw [show (s.recomment f).delegates.contains name = s.delegates.contains name from contains_mapValues _ _ _]
  split
  · exact .pure _
  · exact hdelegate.bind fun method => .lift (addDelegate_recomment method)

theorem commutes_typedef (item : Typedef) :
    Commutes (Symbols.recomment f) id (typedef item) (typedef (item.recomment f)) := by
  refine .get_bind fun s => ?_
  show Commutes _ _ (if !s.admits item.guards then _ else _) (if !(s.recomment f).admits item.guards then _ else _)
  rw [admits_recomment]
  split
  · exact (blind_skip _ _ _).commutes
  · have hinfo : (item.recomment f).info = item.info := rfl
    have hname : (item.recomment f).name = item.name := rfl
    rw [hinfo, hname]
    split
    · exact (commutes_registerDelegate hf _ _ _).bind fun _ => .pure _
    · split
      · exact (blind_skip _ _ _).commutes
      · exact ((blind_resolve none _).bind fun id => blind_registerType item.name id).commutes

/-! ### Externs -/

omit hf in
theorem skipReason?_recomment (s : Symbols) (function : Function) :
    skipReason? (s.recomment f) (function.recomment f) = skipReason? s function := by
  unfold skipReason?
  show (if !(s.recomment f).admits function.guards then _ else _) = _
  rw [admits_recomment]
  rfl

theorem blind_externParameter (function : Function) (argument : Argument) (t : NativeType) :
    Commutes (Symbols.recomment f) id (externParameter function argument t)
      (externParameter (function.recomment f) argument t) := by
  unfold externParameter
  dsimp only
  split
  · exact (commutes_registerDelegate hf _ _ none).bind fun _ =>
      ((blind_resolve _ t).bind fun _ => .pure _).commutes
  · exact ((blind_parameterType t).bind fun _ => .pure _).commutes

theorem commutes_externParameters (function : Function) (arguments : List Argument) :
    Commutes (Symbols.recomment f) id (externParameters function arguments)
      (externParameters (function.recomment f) arguments) := by
  induction arguments with
  | nil => exact .pure _
  | cons argument rest ih =>
    unfold externParameters
    split
    · exact ih
    · exact (blind_externParameter hf _ _ _).bind fun _ => ih.bind fun _ => .pure _

theorem commutes_externMethod (function : Function) :
    Commutes (Symbols.recomment f) (Option.map (Method.recomment f)) (externMethod function)
      (externMethod (function.recomment f)) := by
  refine .get_bind fun s => ?_
  rw [skipReason?_recomment]
  split
  · exact (blind_skip _ _ _).andThen fun _ => .pure _
  · refine (commutes_externParameters hf _ _).bind fun parameters => .get_bind fun s => ?_
    refine (blind_resolve none _).andThen fun result => ?_
    have hhead := recomment_withComments hf {
      name := function.name
      modifiers := ["public", "static", "extern"]
      attributes := [importAttribute s.settings.library function.name] } rfl function.comments
    exact .pure_of_eq (congrArg (fun head => some (Method.mk head (.ref result) parameters)) hhead)

theorem commutes_externMethods (functions : List Function) :
    Commutes (Symbols.recomment f) (List.map (Method.recomment f)) (externMethods functions)
      (externMethods (functions.map (Function.recomment f))) := by
  refine (Commutes.mapM fun function => commutes_externMethod hf function).bind fun methods => ?_
  have hkept : (methods.map (Option.map (Method.recomment f))).filterMap id =
      (methods.filterMap id).map (Method.recomment f) := by
    rw [List.filterMap_map, List.map_filterMap]
    rfl
  rw [hkept]
  exact .pure _

/-! ### Wrappers -/

omit hf in
theorem commutes_onSymbols {α β : Type} {ψ : α → β} {build : Build Symbols α} {build' : Build Symbols β}
    (h : Commutes (Symbols.recomment f) ψ build build') :
    Commutes (Scoped.recomment f) ψ (onSymbols build) (onSymbols build') :=
  h.focus (fun _ => rfl) fun _ _ => rfl

omit hf in
theorem blind_onSymbols {α : Type} {build : Build Symbols α} (h : Blind (Symbols.recomment f) build) :
    Blind (Scoped.recomment f) (onSymbols build) :=
  (commutes_onSymbols h.commutes).blind

omit hf in
theorem wrapperName_recomment (function : Function) (st : Scoped) :
    wrapperName (function.recomment f) (st.recomment f) =
      (((wrapperName function st).1.1, (wrapperName function st).1.2.map f),
        (wrapperName function st).2.recomment f) := by
  unfold wrapperName
  dsimp only
  show (if Text.endsWith (Identifier.lastSegment function.name) "Ex" &&
    2 < (Identifier.lastSegment function.name).length then _ else _) = _
  split
  · have hborrowed (short : String) : ((st.recomment f).scope.comments.find? short).getD (function.comments.map f) =
        ((st.scope.comments.find? short).getD function.comments).map f := by
      rw [Scoped.recomment, find?_mapValues, Option.getD_map]
    exact Prod.ext (Prod.ext rfl (hborrowed _)) rfl
  · have hlent := insert_mapValues (Option.map f) st.scope.comments (Identifier.lastSegment function.name)
      function.comments
    let lend (comments) := Scoped.mk ⟨st.scope.signatures, comments⟩ (st.symbols.recomment f)
    exact Prod.ext rfl (congrArg lend hlent)

theorem wrapper_recomment (plan : WrapperPlan) (target : WrapperClass) (m : Marshaling) :
    (plan.recomment f).wrapper target m = (plan.wrapper target m).recomment f := by
  have hhead := recomment_withComments hf {
    name := plan.name
    modifiers := if target.isStatic then ["public", "static"] else ["public"] } rfl plan.comments
  rw [WrapperPlan.wrapper, WrapperPlan.wrapper, Wrapper.recomment, ← hhead]
  rfl

theorem commutes_addWrapper (target : WrapperClass) (plan : WrapperPlan) (m : Marshaling) :
    Commutes (Scoped.recomment f) (List.map (Wrapper.recomment f)) (addWrapper target plan m)
      (addWrapper target (plan.recomment f) m) := by
  refine .get_bind fun st => ?_
  refine Blind.andThen (.ofExcept _) fun types => ?_
  have hblind : ∀ signature, Blind (Scoped.recomment f) (modify fun state : Scoped => { state with
      scope := { state.scope with signatures := state.scope.signatures ++ [signature] } } : Build Scoped Unit) :=
    fun _ => .modify fun _ => rfl
  show Commutes _ _ (if st.scope.signatures.contains (plan.name ++ "(" ++ String.intercalate ", " types ++ ")") then _
    else _) (if st.scope.signatures.contains (plan.name ++ "(" ++ String.intercalate ", " types ++ ")") then _ else _)
  split
  · exact .pure _
  · exact (hblind _).andThen fun _ => .pure_of_eq (congrArg ([·]) (wrapper_recomment hf plan target m))

omit hf in
theorem withDefaults_recomment (function : Function) (arguments : List Argument) (m : Marshaling) :
    withDefaults (function.recomment f) arguments m = withDefaults function arguments m := by
  induction arguments generalizing m with
  | nil => rfl
  | cons argument rest ih =>
    have hdefault : ∀ t, passDefault (function.recomment f) argument t m = passDefault function argument t m :=
      fun _ => rfl
    unfold withDefaults
    simp only [ih, hdefault]

theorem commutes_shorterWrappers (target : WrapperClass) (function : Function) (plan : WrapperPlan)
    (argument : Argument) (rest : List Argument) (m : Marshaling) :
    Commutes (Scoped.recomment f) (List.map (Wrapper.recomment f))
      (shorterWrappers target function plan argument rest m)
      (shorterWrappers target (function.recomment f) (plan.recomment f) argument rest m) := by
  unfold shorterWrappers
  split
  · rw [withDefaults_recomment]
    exact (blind_onSymbols (blind_withDefaults _ _ _)).andThen fun short => commutes_addWrapper hf _ _ _
  · exact .pure _

theorem commutes_wrapArguments (target : WrapperClass) (function : Function) (plan : WrapperPlan)
    (arguments : List Argument) (m : Marshaling) :
    Commutes (Scoped.recomment f) (List.map (Wrapper.recomment f)) (wrapArguments target function plan arguments m)
      (wrapArguments target (function.recomment f) (plan.recomment f) arguments m) := by
  induction arguments generalizing m with
  | nil => exact commutes_addWrapper hf _ _ _
  | cons argument rest ih =>
    cases hinfo : argument.info with
    | none =>
      rw [wrapArguments_untyped hinfo, wrapArguments_untyped hinfo]
      exact ih m
    | some info =>
      by_cases hself : argument.name = "self"
      · rw [wrapArguments_self hinfo hself, wrapArguments_self hinfo hself]
        exact ih _
      · rw [wrapArguments_given hinfo hself, wrapArguments_given hinfo hself]
        refine (commutes_shorterWrappers hf _ _ _ _ _ _).bind fun shorter => ?_
        refine (blind_onSymbols (blind_classify _ _ _ _)).andThen fun m => (ih m).bind fun longer => ?_
        rw [← List.map_append]
        exact .pure _

theorem commutes_wrappers (target : WrapperClass) (function : Function) :
    Commutes (Scoped.recomment f) (List.map (Wrapper.recomment f)) (wrappers target function)
      (wrappers target (function.recomment f)) := by
  have hname : Commutes (Scoped.recomment f) (fun named : String × Option Comments => (named.1, named.2.map f))
      (liftM (wrapperName function)) (liftM (wrapperName (function.recomment f))) :=
    .lift (wrapperName_recomment function)
  exact hname.bind fun named => (blind_onSymbols (blind_wrapperResult function)).andThen fun result =>
    commutes_wrapArguments hf target function ⟨named.1, function.name, named.2, result.1, result.2⟩ _ _

theorem commutes_classWrappers {selects : Symbols → Function → Bool}
    (hselects : ∀ s function, selects (s.recomment f) (function.recomment f) = selects s function)
    (target : WrapperClass) (functions : List Function) :
    Commutes (Scoped.recomment f) (List.map (Wrapper.recomment f)) (classWrappers selects target functions)
      (classWrappers selects target (functions.map (Function.recomment f))) := by
  induction functions with
  | nil => exact .pure _
  | cons function rest ih =>
    refine .get_bind fun st => ?_
    rw [show selects (st.recomment f).symbols (function.recomment f) = selects st.symbols function from hselects _ _]
    split
    · refine (commutes_wrappers hf target function).bind fun first => ih.bind fun others => ?_
      rw [← List.map_append]
      exact .pure _
    · exact ih

theorem commutes_methodWrappers (target : WrapperClass) (structName : String) (functions : List Function) :
    Commutes (Scoped.recomment f) (List.map (Wrapper.recomment f)) (methodWrappers target structName functions)
      (methodWrappers target structName (functions.map (Function.recomment f))) := by
  rw [methodWrappers_eq, methodWrappers_eq]
  refine commutes_classWrappers hf (fun s function => ?_) target functions
  rw [isMethod, skipReason?_recomment]
  rfl

theorem commutes_mainWrappers (target : WrapperClass) (functions : List Function) :
    Commutes (Scoped.recomment f) (List.map (Wrapper.recomment f)) (mainWrappers target functions)
      (mainWrappers target (functions.map (Function.recomment f))) := by
  rw [mainWrappers_eq, mainWrappers_eq]
  refine commutes_classWrappers hf (fun s function => ?_) target functions
  rw [isMain, skipReason?_recomment]
  rfl

/-! ### Structs -/

theorem arrayFields_recomment (field : Metadata.Field) (element : TypeText) (size : Int) (inPlace : Bool) :
    arrayFields (field.recomment f) element size inPlace =
      (arrayFields field element size inPlace).map (Decl.Field.recomment f) := by
  have hhead : ∀ name isBuffer comments,
      fieldHead name isBuffer (comments.map f) = (fieldHead name isBuffer comments).recomment f :=
    fun _ _ => recomment_withComments hf _ rfl
  unfold arrayFields
  split
  · exact congrArg (fun head => [Field.buffer head element size]) (hhead _ _ _)
  · rw [List.map_map]
    refine List.map_congr_left fun i _ => ?_
    have hcomments : (if i = 0 then (field.recomment f).comments else none) =
        (if i = 0 then field.comments else none).map f := by split <;> rfl
    rw [hcomments, hhead]
    rfl

theorem accessorOf_recomment (field : Metadata.Field) (reach : Reach) :
    accessorOf (field.recomment f) reach = (accessorOf field reach).recomment f :=
  congrArg (Accessor.mk · reach) (recomment_withComments hf _ rfl field.comments)

theorem commutes_arrayField (structName : String) (field : Metadata.Field) :
    Commutes (Symbols.recomment f) (recommentPart f) (arrayField structName field)
      (arrayField structName (field.recomment f)) := by
  have hparts : arrayParts (field.recomment f) = arrayParts field := rfl
  unfold arrayField
  rw [hparts]
  exact (blind_readSize _ _).andThen fun size => (blind_elementType _).andThen fun element =>
    (blind_fitsBuffer _ _).andThen fun inPlace =>
      .pure_of_eq (Prod.ext (arrayFields_recomment hf _ _ _ _) (accessorOf_recomment hf _ _))

theorem commutes_plainField (field : Metadata.Field) :
    Commutes (Symbols.recomment f) (recommentPart f) (plainField field) (plainField (field.recomment f)) := by
  have hpart : ∀ id reach, ([Field.single (fieldHead field.name false (field.comments.map f)) (.ref id)],
      accessorOf (field.recomment f) reach) =
        recommentPart f ([.single (fieldHead field.name false field.comments) (.ref id)], accessorOf field reach) :=
    fun id reach => Prod.ext
      (congrArg (fun head => [Field.single head (.ref id)]) (recomment_withComments hf _ rfl field.comments))
      (accessorOf_recomment hf field reach)
  have hinfo : (field.recomment f).info = field.info := rfl
  unfold plainField
  rw [hinfo]
  dsimp only
  split
  · refine (commutes_registerDelegate hf _ _ none).bind fun _ => ?_
    refine (blind_resolve _ _).andThen fun id => ?_
    exact .pure_of_eq (hpart id _)
  · refine (blind_resolve _ _).andThen fun id => .get_bind fun s => ?_
    exact .pure_of_eq (hpart id _)

omit hf in
theorem fieldSkip?_recomment (s : Symbols) (field : Metadata.Field) :
    fieldSkip? (s.recomment f) (field.recomment f) = fieldSkip? s field := by
  unfold fieldSkip?
  show (if !(s.recomment f).admits field.guards then _ else _) = _
  rw [admits_recomment]
  rfl

theorem commutes_layoutFields (nativeName structName : String) (fields : List Metadata.Field) :
    Commutes (Symbols.recomment f) (List.map (recommentPart f)) (layoutFields nativeName structName fields)
      (layoutFields nativeName structName (fields.map (Metadata.Field.recomment f))) := by
  induction fields with
  | nil => exact .pure _
  | cons field rest ih =>
    have hfield : Commutes (Symbols.recomment f) (recommentPart f) (layoutField structName field)
        (layoutField structName (field.recomment f)) := by
      unfold layoutField
      show Commutes _ _ (if field.isArray then _ else _) (if field.isArray then _ else _)
      split
      · exact commutes_arrayField hf _ _
      · exact commutes_plainField hf _
    refine .get_bind fun s => ?_
    rw [fieldSkip?_recomment]
    split
    · exact (blind_skip _ _ _).andThen fun _ => ih
    · exact hfield.bind fun first => ih.bind fun others => .pure _

omit hf in
theorem structSkip?_recomment (s : Symbols) (item : Struct) :
    structSkip? (s.recomment f) (item.recomment f) = structSkip? s item := by
  unfold structSkip?
  show (if _ then _ else if _ then _ else if !(s.recomment f).admits item.guards then _ else _) = _
  rw [admits_recomment]
  rfl

omit hf in
theorem addOpaque_recomment (s : Symbols) (name : String) :
    (s.recomment f).addOpaque name = (s.addOpaque name).recomment f := by
  unfold addOpaque
  show (if s.opaqueStructs.contains name then _ else _) = _
  split <;> rfl

omit hf in
theorem erase_recomment (s : Symbols) (name : String) : (s.recomment f).erase name = (s.erase name).recomment f := by
  unfold erase
  dsimp only
  rw [addOpaque_recomment]
  rw [show ((s.addOpaque name).recomment f).types = (s.addOpaque name).types from rfl]
  cases (s.addOpaque name).types.find? name <;> rfl

theorem commutes_struct (target : WrapperClass) (item : Struct) (functions : List Function) :
    Commutes (Scoped.recomment f) (Option.map (recommentPair f)) (struct target item functions)
      (struct target (item.recomment f) (functions.map (Function.recomment f))) := by
  have hhead : ∀ name, Head.withComments { name := name, modifiers := structModifiers } (item.comments.map f) =
      (Head.withComments { name := name, modifiers := structModifiers } item.comments).recomment f :=
    fun _ => recomment_withComments hf _ rfl _
  have hempty : (item.recomment f).fields.isEmpty = item.fields.isEmpty := List.isEmpty_map
  refine .get_bind fun st => ?_
  dsimp only
  rw [show structSkip? (st.recomment f).symbols (item.recomment f) = structSkip? st.symbols item from
    structSkip?_recomment _ _, hempty]
  split
  · exact (blind_onSymbols (blind_skip _ _ _)).andThen fun _ => .pure _
  · split
    · exact (blind_onSymbols (.modify fun s => addOpaque_recomment s item.name)).andThen fun _ => .pure _
    · refine (blind_onSymbols (.lift fun _ => rfl)).andThen fun _ => ?_
      refine (commutes_onSymbols (commutes_layoutFields hf _ _ _)).bind fun parts => ?_
      refine Blind.andThen (.modify fun _ => rfl) fun _ => ?_
      refine (commutes_methodWrappers hf _ _ _).bind fun methods => .pure_of_eq (congrArg some (Prod.ext ?_ ?_))
      · have hfields : (parts.map (recommentPart f)).flatMap (·.1) =
            (parts.flatMap (·.1)).map (Decl.Field.recomment f) := by
          rw [List.flatMap_map, List.map_flatMap]
          rfl
        show Layout.mk (Head.withComments _ (item.comments.map f)) item.name _ = _
        rw [hfields, hhead]
        rfl
      · have haccessors : (parts.map (recommentPart f)).map (·.2) =
            (parts.map (·.2)).map (Accessor.recomment f) := by
          rw [List.map_map, List.map_map]
          rfl
        show View.mk (Head.withComments _ (item.comments.map f)) _ _ _ = _
        rw [haccessors, hhead]
        rfl

theorem commutes_structs (target : WrapperClass) (functions : List Function) (items : List Struct) :
    Commutes (Scoped.recomment f) (List.map (recommentPair f)) (structs target functions items)
      (structs target (functions.map (Function.recomment f)) (items.map (Struct.recomment f))) := by
  induction items with
  | nil => exact .pure _
  | cons item rest ih =>
    refine (commutes_struct hf target item functions).bind fun first => ih.bind fun others => .pure_of_eq ?_
    rw [List.map_append, Option.toList_map]

/-! ### Documents -/

omit hf in
theorem commutes_inNewScope {α β : Type} {ψ : α → β} {build : Build Scoped α} {build' : Build Scoped β}
    (h : Commutes (Scoped.recomment f) ψ build build') :
    Commutes (Symbols.recomment f) ψ (inNewScope build) (inNewScope build') := by
  intro s
  have hrun := h { symbols := s }
  show ((build'.runOn _).1, (build'.runOn _).2.symbols) =
    ((build.runOn _).1.map ψ, ((build.runOn _).2.symbols).recomment f)
  have hstart : ({ symbols := s.recomment f } : Scoped) = Scoped.recomment f { symbols := s } := rfl
  rw [hstart, hrun]
  rfl

omit hf in
theorem commutes_keepLaidOut (pairs : List (Layout × View)) :
    Commutes (Symbols.recomment f) (List.map (recommentPair f))
      (keepLaidOut (fun pair => .ok (emptyLayout? pair)) pairs)
      (keepLaidOut (fun pair => .ok (emptyLayout? pair)) (pairs.map (recommentPair f))) := by
  induction pairs with
  | nil => exact .pure _
  | cons pair rest ih =>
    have hempty : emptyLayout? (recommentPair f pair) = emptyLayout? pair := by
      unfold emptyLayout?
      show (if (pair.1.fields.map _).isEmpty then _ else _) = _
      rw [List.isEmpty_map]
      rfl
    rw [List.map_cons]
    unfold keepLaidOut
    rw [hempty]
    refine Blind.andThen (.ofExcept _) fun nativeName? => ?_
    cases nativeName? with
    | some nativeName =>
      refine Blind.andThen (.modify fun s => ?_) fun _ => ih
      rw [erase_recomment]
      rfl
    | none => exact ih.bind fun kept => .pure _

omit hf in
theorem blind_resolvePending : Blind (Symbols.recomment f) (liftM resolvePending : Build Symbols Unit) := by
  have hone : ∀ id s, (resolveOne id (s.recomment f)).2 = (resolveOne id s).2.recomment f := fun id s => by
    rw [resolveOne_eq, resolveOne_eq, show (s.recomment f).arena = s.arena from rfl, lookUp_recomment]
    rcases lookUp (s.arena.fallbackName id) s with ⟨_ | target, after⟩ <;> rfl
  have hall (ids : List TypeId) :
      ∀ s, (ids.forM resolveOne (s.recomment f)).2 = (ids.forM resolveOne s).2.recomment f := by
    induction ids with
    | nil => exact fun _ => rfl
    | cons id ids ih =>
      intro s
      show (ids.forM resolveOne (resolveOne id (s.recomment f)).2).2 = _
      rw [hone, ih]
      rfl
  exact .lift fun s => Prod.ext rfl (hall s.pending { s with pending := [] })

/-- The bindings of a document with other comments are its bindings with these comments. -/
theorem commutes_bindings (nativeClass : String) (metadata : Metadata) :
    Commutes (Symbols.recomment f) (Bindings.recomment f) (bindings nativeClass metadata)
      (bindings nativeClass (metadata.recomment f)) := by
  refine (Commutes.lift (constants_recomment hf metadata.defines)).bind fun constants => ?_
  refine (Commutes.lift (enums_recomment hf metadata.enums)).bind fun enums => ?_
  refine (Commutes.forM fun item => commutes_typedef hf item).bind fun _ => ?_
  refine (commutes_inNewScope (commutes_structs hf _ _ _)).bind fun pairs => ?_
  refine (commutes_externMethods hf _).bind fun externs => ?_
  refine (commutes_inNewScope (commutes_mainWrappers hf _ _)).bind fun wrappers => ?_
  refine (commutes_keepLaidOut pairs).bind fun kept => ?_
  exact blind_resolvePending.andThen fun _ => .pure _

end InteropGen.Generate

import InteropGen.Proofs.Correspondence.Walk

/-!
# What is registered as a callback type

The delegate of a function type has the types of the function, made while the delegate is. `Registers P`
is growth of the symbols that says where new callback types come from: each is the delegate of a
function type that `P` gives its name. It is what the steps of all generators do to the symbols.
-/

namespace InteropGen.Generate

open Decl Build Symbols

variable {s s' s'' lo hi : Symbols} {P : String → NativeType → Prop} {origin : Origin} {id : TypeId}
  {R : Symbols → Symbols → Prop} {Q : NativeType → Prop} [Std.Refl R] [IsTrans Symbols R]

theorem MadeFor.widen (hlo : lo.Grows s) (hhi : s'.Grows hi) (h : MadeFor s s' origin id) :
    MadeFor lo hi origin id := by
  obtain ⟨before, after, hbefore, hrun, hafter⟩ := h
  exact ⟨before, after, hlo.trans hbefore, hrun, hafter.trans hhi⟩

/-- A type that is resolved now is made from its origin. -/
theorem MadeFor.now (hlo : lo.Grows s) (hrun : origin.resolve.runOn s = (.ok id, s')) :
    MadeFor lo s' origin id :=
  ⟨s, s', hlo, hrun, .refl _⟩

/-! ### Delegates -/

theorem walk_delegateParameter (h : Walk R Q) (position : Nat) {t : NativeType} (ht : Q t) :
    Preserves R (delegateParameter position t) := by
  refine .bind (h.resolve ?_) fun _ => .pure _
  split
  · next hinner => exact h.inner ht hinner
  · exact ht

theorem quiet_delegateParameter (position : Nat) (t : NativeType) :
    Preserves Quiet (delegateParameter position t) :=
  walk_delegateParameter quietWalk position trivial

theorem delegateParameterOf {position : Nat} {t : NativeType} {parameter : Parameter}
    (hlo : lo.Grows s) (hrun : (delegateParameter position t).runOn s = (.ok parameter, s')) :
    DelegateParameterOf (MadeFor lo s') position t parameter := by
  obtain ⟨id, after, hid, hrest⟩ := ok_bind.mp hrun
  obtain ⟨rfl, rfl⟩ := ok_pure.mp hrest
  exact ⟨rfl, id, rfl, .now hlo hid⟩

theorem walk_delegateParameters (h : Walk R Q) (position : Nat) {types : List NativeType}
    (htypes : ∀ t ∈ types, Q t) : Preserves R (delegateParameters position types) := by
  induction types generalizing position with
  | nil => exact .pure _
  | cons t types ih =>
    have hrest := ih (position + 1) fun other hother => htypes other (List.mem_cons_of_mem _ hother)
    exact .bind (walk_delegateParameter h _ (htypes t List.mem_cons_self)) fun _ =>
      .bind hrest fun _ => .pure _

theorem quiet_delegateParameters (position : Nat) (types : List NativeType) :
    Preserves Quiet (delegateParameters position types) :=
  walk_delegateParameters quietWalk position fun _ _ => trivial

theorem delegateParametersOf {position : Nat} {types : List NativeType}
    {parameters : List Parameter} (hlo : lo.Grows s)
    (hrun : (delegateParameters position types).runOn s = (.ok parameters, s')) :
    List.Forall₂ (fun (t, position) => DelegateParameterOf (MadeFor lo s') position t)
      (types.zipIdx position) parameters := by
  induction types generalizing position parameters s with
  | nil =>
    obtain ⟨rfl, rfl⟩ := ok_pure.mp hrun
    exact .nil
  | cons t types ih =>
    obtain ⟨first, middle, hfirst, hrun⟩ := ok_bind.mp hrun
    obtain ⟨others, after, hothers, hrun⟩ := ok_bind.mp hrun
    obtain ⟨rfl, rfl⟩ := ok_pure.mp hrun
    have hgrow := ((quiet_delegateParameter position t).of_ok hfirst).toGrows
    have hrest := ((quiet_delegateParameters _ types).of_ok hothers).toGrows
    rw [List.zipIdx_cons]
    refine .cons ?_ (ih (hlo.trans hgrow) hothers)
    exact (delegateParameterOf hlo hfirst).mono fun _ _ => MadeFor.widen (.refl _) hrest

theorem walk_resultType (h : Walk R Q) {result : Option NativeType}
    (hresult : ∀ t, result = some t → Q t) : Preserves R (resultType result) := by
  cases result with
  | none => exact .pure _
  | some t => exact .bind (h.resolve (hresult t rfl)) fun _ => .pure _

theorem quiet_resultType (t : Option NativeType) : Preserves Quiet (resultType t) :=
  walk_resultType quietWalk fun _ _ => trivial

theorem walk_delegate (h : Walk R Q) {target : NativeType} (name : String)
    (comments : Option Comments) (hparameters : ∀ t ∈ target.parameters, Q t)
    (hresult : ∀ t, target.result = some t → Q t) : Preserves R (delegate target name comments) :=
  .bind (walk_delegateParameters h _ hparameters) fun _ =>
    .bind (walk_resultType h hresult) fun _ => .pure _

theorem quiet_delegate (target : NativeType) (name : String) (comments : Option Comments) :
    Preserves Quiet (delegate target name comments) :=
  walk_delegate quietWalk name comments (fun _ _ => trivial) fun _ _ => trivial

theorem delegateOf {target : NativeType} {name : String} {comments : Option Comments}
    {method : Method} (hlo : lo.Grows s)
    (hrun : (delegate target name comments).runOn s = (.ok method, s')) :
    DelegateOf (MadeFor lo s') target name method := by
  obtain ⟨parameters, middle, hparameters, hrun⟩ := ok_bind.mp hrun
  obtain ⟨result, after, hresult, hrun⟩ := ok_bind.mp hrun
  obtain ⟨rfl, rfl⟩ := ok_pure.mp hrun
  have hgrow := ((quiet_delegateParameters _ _).of_ok hparameters).toGrows
  have hrest := ((quiet_resultType _).of_ok hresult).toGrows
  refine ⟨Head.name_withComments _ _, ?_, ?_⟩
  · exact (delegateParametersOf hlo hparameters).imp fun _ _ hp =>
      hp.mono fun _ _ => MadeFor.widen (.refl _) hrest
  · revert hresult
    cases target.result with
    | none =>
      intro hresult
      exact (ok_pure.mp hresult).1.symm
    | some t =>
      intro hresult
      obtain ⟨id, last, hid, hresult⟩ := ok_bind.mp hresult
      obtain ⟨rfl, rfl⟩ := ok_pure.mp hresult
      exact ⟨id, rfl, .now (hlo.trans hgrow) hid⟩

/-! ### Registering -/

/-- Growth of the symbols, with an origin for each new callback type. -/
def Registers (P : String → NativeType → Prop) (s s' : Symbols) : Prop :=
  s.Grows s' ∧ ∀ name delegate, s'.delegates.find? name = some delegate →
    s.delegates.find? name = some delegate ∨
      ∃ target, P name target ∧ DelegateOf (MadeFor s s') target name delegate

theorem Registers.refl (s : Symbols) : Registers P s s := ⟨.refl s, fun _ _ h => .inl h⟩

theorem Registers.trans (h : Registers P s s') (h' : Registers P s' s'') : Registers P s s'' := by
  refine ⟨h.1.trans h'.1, fun name delegate hfind => ?_⟩
  rcases h'.2 name delegate hfind with hold | ⟨target, hP, hdelegate⟩
  · rcases h.2 name delegate hold with hold | ⟨target, hP, hdelegate⟩
    · exact .inl hold
    · exact .inr ⟨target, hP, hdelegate.mono fun _ _ => MadeFor.widen (.refl _) h'.1⟩
  · exact .inr ⟨target, hP, hdelegate.mono fun _ _ => MadeFor.widen h.1 (.refl _)⟩

instance : Std.Refl (Registers P) := ⟨Registers.refl⟩
instance : IsTrans Symbols (Registers P) := ⟨fun _ _ _ => Registers.trans⟩

theorem Registers.of_quiet (h : Quiet s s') : Registers P s s' :=
  ⟨h.toGrows, fun name delegate hfind => .inl (by rwa [h.delegates] at hfind)⟩

/-- Steps that register no callback type register only what `P` allows. -/
theorem registers_of_quiet {α : Type} {build : Build Symbols α} (h : Preserves Quiet build) :
    Preserves (Registers P) build :=
  h.mono fun _ _ => Registers.of_quiet

/-- A relation that allows the types of a function allows registering it, if it allows the entry. -/
theorem walk_registerDelegate (h : Walk R Q) (hadd : ∀ method s, R s (addDelegate method s).2)
    {target : NativeType} {name : String} (comments : Option Comments)
    (hparameters : ∀ t ∈ target.parameters, Q t) (hresult : ∀ t, target.result = some t → Q t) :
    Preserves R (registerDelegate target name comments) := by
  refine .bind .get fun state => ?_
  show Preserves R (if _ then _ else _)
  split
  · exact .pure _
  · exact .bind (walk_delegate h name comments hparameters hresult) fun method =>
      .lift (hadd method)

theorem grows_addDelegate (method : Method) (s : Symbols) : s.Grows (addDelegate method s).2 := by
  unfold addDelegate
  dsimp only
  split
  · exact .refl s
  · have hinsert : s.Grows { s with delegates := s.delegates.insert method.head.name method } :=
      ⟨fun hs => ⟨hs.arena, hs.handle, hs.pending, hs.nodup, hs.types⟩, rfl, rfl, rfl, .refl _,
        fun _ _ h => h, fun _ h => h, fun _ h => h⟩
    exact hinsert.trans ((quiet_namedType _ _).trans
      (quiet_registerName _ (Arena.find?_named _ _))).toGrows

theorem find?_addDelegate {method delegate : Method} {name : String}
    (h : (addDelegate method s).2.delegates.find? name = some delegate) :
    s.delegates.find? name = some delegate ∨ (name = method.head.name ∧ delegate = method) := by
  unfold addDelegate at h
  dsimp only at h
  split at h
  · exact .inl h
  · change (s.delegates.insert method.head.name method).find? name = some delegate at h
    by_cases hname : name = method.head.name
    · subst hname
      rw [Table.find?_insert_self] at h
      exact .inr ⟨rfl, (Option.some.inj h).symm⟩
    · rw [Table.find?_insert_of_ne _ hname] at h
      exact .inl h

/-- A callback type that is registered now comes from its function type. -/
theorem registers_registerDelegate {target : NativeType} {name : String}
    (comments : Option Comments) (h : P name target) :
    Preserves (Registers P) (registerDelegate target name comments) := by
  refine .bind .get fun state => ?_
  show Preserves _ (if _ then _ else _)
  split
  · exact .pure _
  · intro s
    have hquiet := quiet_delegate target name comments s
    rw [runOn_bind]
    rcases hrun : (delegate target name comments).runOn s with ⟨_ | method, middle⟩
    · rw [hrun] at hquiet
      exact .of_quiet hquiet
    · rw [hrun] at hquiet
      have hadd := grows_addDelegate method middle
      refine ⟨hquiet.toGrows.trans hadd, fun other delegate hfind => ?_⟩
      rcases find?_addDelegate hfind with hold | ⟨rfl, rfl⟩
      · rw [hquiet.delegates] at hold
        exact .inl hold
      · have hdelegate := delegateOf (.refl s) hrun
        rw [hdelegate.name]
        exact .inr ⟨target, h, hdelegate.mono fun _ _ => MadeFor.widen (.refl _) hadd⟩

theorem registersWalk (P : String → NativeType → Prop) :
    DocumentWalk (Registers P) (fun _ => True) P where
  warn s text := .of_quiet (quiet_warn s text)
  size bounds owner s := .of_quiet (quiet_arraySize bounds owner s)
  skip s kind name reason := .of_quiet (quiet_skip s kind name reason)
  vector s := .of_quiet (quiet_namedType _ s)
  resolve _ := registers_of_quiet (quiet_resolve none _)
  inner _ _ := trivial
  register comments h := registers_registerDelegate comments h
  callback _ _ _ := registers_of_quiet (quiet_resolve _ _)

end InteropGen.Generate

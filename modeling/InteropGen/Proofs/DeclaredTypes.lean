import InteropGen.Proofs.Rendering

/-!
# Declared types are there

Every type that a declaration of a document refers to is there when the document is built
(`knows_bindings`). Whatever has a native type follows from `Declares`, type by type; constants are written
with texts alone, and a callback type that is written is one that is declared, since no name comes twice in
their table (`distinctWalk`).
-/

namespace InteropGen.Generate

open Metadata Decl Build Symbols

variable {document : Metadata} {s s' : Symbols} {b : Bindings} {nativeClass : String}

/-! ### Constants -/

/-- The types of constants are written as they are. -/
def PlainConstants (run : ConstantRun) : Prop :=
  ∀ constant ∈ run.constants, ∃ text, constant.type = .plain text

theorem PlainConstants.addDefine {run : ConstantRun} (h : PlainConstants run) (deep : Bool)
    (define : Define) : PlainConstants (run.addDefine deep define) := by
  unfold ConstantRun.addDefine
  split
  · dsimp only [PlainConstants]
    split
    · exact h
    · exact List.forall_mem_append.mpr ⟨h, List.forall_mem_singleton.mpr ⟨_, rfl⟩⟩
  · exact h

theorem PlainConstants.addGroup {run : ConstantRun} (h : PlainConstants run) (defines : List Define)
    (depth : Nat) : PlainConstants (run.addGroup defines depth) :=
  List.foldlRecOn (motive := PlainConstants) _ _ h fun _ hrun define _ => hrun.addDefine _ define

theorem plain_constants (defines : List Define) (s : Symbols) :
    ∀ constant ∈ (constants defines s).1, ∃ text, constant.type = .plain text := by
  refine List.foldlRecOn (motive := PlainConstants) _ _ ?_ fun _ hrun depth _ => hrun.addGroup defines depth
  exact List.forall_mem_map.mpr fun name _ => ⟨"string", rfl⟩

theorem constants_declared (hrun : (declared nativeClass document).runOn s = (.ok b, s')) :
    b.constants = (constants document.defines s).1 := by
  obtain ⟨_, _, hconstants, hrun⟩ := ok_bind.mp hrun
  obtain ⟨_, _, -, hrun⟩ := ok_bind.mp hrun
  obtain ⟨_, _, -, hrun⟩ := ok_bind.mp hrun
  obtain ⟨_, _, -, hrun⟩ := ok_bind.mp hrun
  obtain ⟨_, _, -, hrun⟩ := ok_bind.mp hrun
  obtain ⟨_, _, -, hrun⟩ := ok_bind.mp hrun
  obtain ⟨rfl, -⟩ := ok_pure.mp hrun
  exact (ok_lift.mp hconstants).1.symm

/-! ### Callback types are declared once -/

/-- If no name came twice among the callback types, none does now. -/
def KeepsDistinct (s s' : Symbols) : Prop := s.delegates.keys.Nodup → s'.delegates.keys.Nodup

instance : Std.Refl KeepsDistinct := ⟨fun _ h => h⟩
instance : IsTrans Symbols KeepsDistinct := ⟨fun _ _ _ h h' hs => h' (h hs)⟩

theorem KeepsDistinct.of_eq (h : s'.delegates = s.delegates) : KeepsDistinct s s' :=
  fun hs => by rwa [h]

theorem keepsDistinct_addDelegate (method : Method) (s : Symbols) :
    KeepsDistinct s (addDelegate method s).2 := by
  unfold addDelegate
  dsimp only
  split
  · exact .of_eq rfl
  · exact fun hs => Table.nodup_keys_insert hs _ method

theorem distinctTypes : Walk KeepsDistinct fun _ => True where
  warn _ _ := .of_eq rfl
  size bounds owner s := .of_eq (quiet_arraySize bounds owner s).delegates
  vector _ := .of_eq rfl
  resolve _ := (quiet_resolve none _).mono fun _ _ h => .of_eq h.delegates
  inner _ _ := trivial

theorem distinctWalk : DocumentWalk KeepsDistinct (fun _ => True) (fun _ _ => True) where
  toWalk := distinctTypes
  register comments _ := walk_registerDelegate distinctTypes keepsDistinct_addDelegate comments
    (fun _ _ => trivial) fun _ _ => trivial
  callback _ _ _ := (quiet_resolve _ _).mono fun _ _ h => .of_eq h.delegates
  skip _ _ _ _ := .of_eq rfl

theorem keepsDistinct_declared (nativeClass : String) (document : Metadata) :
    Preserves KeepsDistinct (declared nativeClass document) := by
  have hall : ∀ function ∈ document.functions, FunctionTypes (fun _ => True) function :=
    fun _ _ => ⟨trivial, fun _ _ _ _ => trivial⟩
  refine .bind (.lift fun s => .of_eq (walk_constants opensWalk _ s).delegates) fun _ => ?_
  refine .bind (.lift fun s => .of_eq (walk_enums opensWalk _ s).delegates) fun _ => ?_
  refine .bind (walk_typedefs distinctWalk fun item _ => ⟨?_, fun _ _ => trivial⟩) fun _ => ?_
  · exact .bind (distinctWalk.resolve trivial) fun _ => .modify fun _ => .of_eq rfl
  have hstructs : ∀ item ∈ document.structs,
      StructTypes KeepsDistinct (fun _ => True) (fun _ _ => True) item :=
    fun item _ => ⟨fun s _ => .of_eq (quiet_announced item s).delegates, fun _ _ => trivial,
      fun _ _ _ _ => trivial⟩
  refine .bind (preserves_inNewScope (walk_structs distinctWalk hall hstructs _)) fun _ => ?_
  refine .bind (walk_externMethods distinctWalk hall fun _ _ _ _ _ _ _ _ => trivial) fun _ => ?_
  exact .bind (preserves_inNewScope (walk_mainWrappers distinctWalk.toWalk _ hall)) fun _ => .pure _

/-! ### Declared types are there -/

theorem DelegateOf.knows {target : NativeType} {name : String} {method : Method}
    (h : DelegateOf (Present s) target name method) : KnowsMethod s method := by
  refine ⟨?_, fun parameter hmem => ?_⟩
  · have hresult := h.result
    revert hresult
    cases target.result with
    | none =>
      intro hresult
      rw [hresult]
      trivial
    | some t =>
      rintro ⟨id, hresult, hid⟩
      rw [hresult]
      exact hid
  · obtain ⟨_, -, hparameter⟩ := forall₂_mem h.parameters.flip hmem
    obtain ⟨id, htype, hid⟩ := hparameter.type
    rw [htype]
    exact hid

theorem ExternOf.knows {function : Function} {method : Method}
    (h : ExternOf (Present s) s' function method) : KnowsMethod s method := by
  refine ⟨?_, fun parameter hmem => ?_⟩
  · obtain ⟨id, hresult, hid⟩ := h.result
    rw [hresult]
    exact hid
  · obtain ⟨_, -, hparameter⟩ := forall₂_mem h.parameters.flip hmem
    cases hparameter with
    | callback _ made => exact made
    | vector => trivial
    | other _ _ made => exact made

theorem WrapperOf.knows {function : Function} {wrapper : Wrapper}
    (h : WrapperOf (Present s) s' nativeClass function wrapper) : KnowsWrapper s wrapper := by
  refine ⟨?_, ?_⟩
  · have hresult := h.result
    generalize wrapper.result = result, wrapper.resultCode = code at hresult
    cases hresult with
    | truth => trivial
    | view made => exact made
  · obtain ⟨passings, hplanned, hmarshaling⟩ := h.marshaling
    rw [hmarshaling]
    exact knows_passed hplanned.passed

theorem FieldOf.knows {field : Metadata.Field} {part : List Decl.Field × Accessor}
    (h : FieldOf (Present s) s' field part) :
    (∀ member ∈ part.1, Writable s (.field member)) ∧ KnowsReach s part.2.reach := by
  cases h with
  | @array id size inPlace _ made =>
    refine ⟨?_, made⟩
    unfold arrayFields
    split
    · exact List.forall_mem_singleton.mpr (.buffer made)
    · exact List.forall_mem_map.mpr fun _ _ => .single made
  | callback _ _ made => exact ⟨List.forall_mem_singleton.mpr (.single made), made⟩
  | other _ _ hreach made =>
    refine ⟨List.forall_mem_singleton.mpr (.single made), ?_⟩
    rcases hreach with rfl | ⟨element, -, rfl⟩
    · exact made
    · trivial

theorem PairOf.knows {item : Struct} {functions : List Function} {pair : Layout × View}
    (h : PairOf (Present s) s' nativeClass functions item pair) : KnowsPair s pair := by
  obtain ⟨parts, hparts, hfields, haccessors⟩ := h.fields
  have hknows : ∀ part ∈ parts, (∀ member ∈ part.1, Writable s (.field member)) ∧
      KnowsReach s part.2.reach := by
    intro part hpart
    obtain ⟨_, -, hfield⟩ := forall₂_mem hparts.flip hpart
    exact hfield.knows
  refine ⟨?_, ?_, fun wrapper hwrapper => ?_⟩
  · rw [hfields]
    intro field hmem
    obtain ⟨part, hpart, hmem⟩ := List.mem_flatMap.mp hmem
    exact (hknows part hpart).1 field hmem
  · rw [haccessors]
    exact List.forall_mem_map.mpr fun part hpart => (hknows part hpart).2
  · obtain ⟨function, -, -, -, hw⟩ := h.wrappers wrapper hwrapper
    exact hw.knows

/-- All types that the declarations of a document refer to are there when it is built. -/
theorem knows_bindings (hs : s.Sound) (hnone : s.delegates = {})
    (hrun : (bindings nativeClass document).runOn s = (.ok b, s')) :
    KnowsBindings s' b ∧ ∀ method ∈ s'.delegates.values, KnowsMethod s' method := by
  have hopened := (opens_opened document s).sound hs
  obtain ⟨all, built, erased, hdeclared, -, rfl, hsettles⟩ := ok_bindings hopened hrun hnone
  obtain ⟨hgrows, hmade⟩ := declares hnone hdeclared
  have hpresent : Declares (Present s') (opened document s) nativeClass document all built.delegates :=
    hmade.mono fun _ _ hid => hsettles.keeps.arena.has (hid.has hopened)
  refine ⟨⟨?_, ?_, ?_, ?_⟩, ?_⟩
  · rw [constants_declared hdeclared]
    intro constant hmem
    obtain ⟨text, htype⟩ := plain_constants document.defines s constant hmem
    rw [htype]
    trivial
  · intro pair hpair
    obtain ⟨_, -, hof⟩ := forall₂_mem hpresent.structs.flip (List.mem_of_mem_filter hpair)
    exact hof.knows
  · intro method hmethod
    obtain ⟨_, -, hextern⟩ := forall₂_mem hpresent.externs.flip hmethod
    exact hextern.knows
  · intro wrapper hwrapper
    obtain ⟨function, -, -, hw⟩ := hpresent.mainWrappers wrapper hwrapper
    exact hw.knows
  · intro method hmethod
    rw [hsettles.keeps.delegates] at hmethod
    have hkeeps := (keepsDistinct_declared nativeClass document).of_ok hdeclared
    have hdistinct : built.delegates.keys.Nodup := hkeeps (by rw [hnone]; exact List.nodup_nil)
    obtain ⟨name, hfind⟩ := Table.exists_find?_eq hdistinct hmethod
    obtain ⟨target, -, hdelegate⟩ := hpresent.delegates name method hfind
    exact hdelegate.knows

end InteropGen.Generate

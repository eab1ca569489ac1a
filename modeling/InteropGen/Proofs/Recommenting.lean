import InteropGen.Proofs.Commuting
import InteropGen.Proofs.Constants
import InteropGen.Proofs.Correspondence.Document

/-!
# Replacing comments

`recomment f` replaces every comment of a document, of its declarations, or of what a run holds. The generators that
make no declaration with comments are `Blind` to the replacement: what they return and what they write does not depend
on any comment.
-/

namespace InteropGen

variable (f : Comments → Comments)

/-! ### Replacing -/

namespace Metadata

/-- The define with its comments replaced. -/
def Define.recomment (item : Define) : Define := { item with comments := item.comments.map f }

/-- The element with its comments replaced. -/
def EnumElement.recomment (item : EnumElement) : EnumElement := { item with comments := item.comments.map f }

/-- The enum and its elements with their comments replaced. -/
def Enum.recomment (item : Enum) : Enum :=
  { item with comments := item.comments.map f, elements := item.elements.map (EnumElement.recomment f) }

/-- The typedef with its comments replaced. -/
def Typedef.recomment (item : Typedef) : Typedef := { item with comments := item.comments.map f }

/-- The field with its comments replaced. -/
def Field.recomment (item : Field) : Field := { item with comments := item.comments.map f }

/-- The struct and its fields with their comments replaced. -/
def Struct.recomment (item : Struct) : Struct :=
  { item with comments := item.comments.map f, fields := item.fields.map (Field.recomment f) }

/-- The function with its comments replaced. -/
def Function.recomment (item : Function) : Function := { item with comments := item.comments.map f }

end Metadata

/-- The document with all comments replaced. -/
def Metadata.recomment (metadata : Metadata) : Metadata where
  defines := metadata.defines.map (Metadata.Define.recomment f)
  enums := metadata.enums.map (Metadata.Enum.recomment f)
  typedefs := metadata.typedefs.map (Metadata.Typedef.recomment f)
  structs := metadata.structs.map (Metadata.Struct.recomment f)
  functions := metadata.functions.map (Metadata.Function.recomment f)

namespace Decl

/-- The comments above a declaration. -/
def Head.comments (head : Head) : Comments := ⟨head.attached, head.preceding⟩

/-- The head with its comments replaced. -/
def Head.recomment (head : Head) : Head :=
  { head with attached := (f head.comments).attached, preceding := (f head.comments).preceding }

/-- The element with its comments replaced. -/
def Element.recomment (element : Element) : Element := { element with head := element.head.recomment f }

/-- The enum and its elements with their comments replaced. -/
def Enum.recomment (e : Enum) : Enum :=
  { e with head := e.head.recomment f, elements := e.elements.map (Element.recomment f) }

/-- The field with its comments replaced. -/
def Field.recomment : Field → Field
  | single head type => single (head.recomment f) type
  | buffer head type size => buffer (head.recomment f) type size

/-- The constant with its comments replaced. -/
def Constant.recomment (c : Constant) : Constant := { c with head := c.head.recomment f }

/-- The method with its comments replaced. -/
def Method.recomment (m : Method) : Method := { m with head := m.head.recomment f }

/-- The accessor with its comments replaced. -/
def Accessor.recomment (a : Accessor) : Accessor := { a with head := a.head.recomment f }

/-- The wrapper with its comments replaced. -/
def Wrapper.recomment (w : Wrapper) : Wrapper := { w with head := w.head.recomment f }

/-- The layout and its fields with their comments replaced. -/
def Layout.recomment (layout : Layout) : Layout :=
  { layout with head := layout.head.recomment f, fields := layout.fields.map (Field.recomment f) }

/-- The view and what it holds with their comments replaced. -/
def View.recomment (view : View) : View :=
  { view with
    head := view.head.recomment f
    accessors := view.accessors.map (Accessor.recomment f)
    wrappers := view.wrappers.map (Wrapper.recomment f) }

end Decl

/-- The table with its values changed. -/
def Table.mapValues {α β : Type} (g : α → β) (t : Table α) : Table β :=
  ⟨t.entries.map fun entry => (entry.1, g entry.2)⟩

/-- The symbols with the comments of delegates replaced. -/
def Symbols.recomment (s : Symbols) : Symbols := { s with delegates := s.delegates.mapValues (Decl.Method.recomment f) }

namespace Generate

open Metadata Decl Build Symbols

/-- The constants so far with their comments replaced. -/
def ConstantRun.recomment (run : ConstantRun) : ConstantRun :=
  { run with symbols := run.symbols.recomment f, constants := run.constants.map (Constant.recomment f) }

/-- The elements so far with their comments replaced. -/
def EnumRun.recomment (run : EnumRun) : EnumRun where
  symbols := run.symbols.recomment f
  elements := run.elements.map (Element.recomment f)

/-- The state of a class with the comments that it holds replaced. -/
def Scoped.recomment (st : Scoped) : Scoped where
  scope := { st.scope with comments := st.scope.comments.mapValues (Option.map f) }
  symbols := st.symbols.recomment f

/-- The pair with the comments of both halves replaced. -/
def recommentPair (pair : Layout × View) : Layout × View := (pair.1.recomment f, pair.2.recomment f)

/-- The fields and the accessor of a field with their comments replaced. -/
def recommentPart (part : List Decl.Field × Accessor) : List Decl.Field × Accessor :=
  (part.1.map (Field.recomment f), part.2.recomment f)

/-- The plan with its comments replaced. -/
def WrapperPlan.recomment (plan : WrapperPlan) : WrapperPlan := { plan with comments := plan.comments.map f }

/-- The bindings with all comments replaced. -/
def Bindings.recomment (b : Bindings) : Bindings where
  constants := b.constants.map (Constant.recomment f)
  enums := b.enums.map (Decl.Enum.recomment f)
  structs := b.structs.map (recommentPair f)
  externs := b.externs.map (Method.recomment f)
  mainWrappers := b.mainWrappers.map (Wrapper.recomment f)

variable {f} {s : Symbols}

/-! ### Heads and tables -/

/-- Comments come with a head, or it has none. -/
theorem recomment_withComments (hf : f {} = {}) (head : Head) (h : head.comments = {}) (comments : Option Comments) :
    head.withComments (comments.map f) = (head.withComments comments).recomment f := by
  cases comments with
  | none =>
    have hkept : head.recomment f = head := by
      rw [Head.recomment, h, hf, ← h]
      rfl
    exact hkept.symm
  | some comments => rfl

section tables

variable {α β : Type} (g : α → β)

theorem find?_mapValues (t : Table α) (key : String) : (t.mapValues g).find? key = (t.find? key).map g := by
  obtain ⟨entries⟩ := t
  show Table.lookupIn key _ = (Table.lookupIn key entries).map g
  induction entries with
  | nil => rfl
  | cons entry entries ih =>
    by_cases h : entry.1 = key
    · simp [Table.mapValues, Table.lookupIn, h]
    · simpa [Table.mapValues, Table.lookupIn, h] using ih

theorem contains_mapValues (t : Table α) (key : String) : (t.mapValues g).contains key = t.contains key := by
  rw [Table.contains, Table.contains, find?_mapValues, Option.isSome_map]

theorem insert_mapValues (t : Table α) (key : String) (value : α) :
    (t.mapValues g).insert key (g value) = (t.insert key value).mapValues g := by
  obtain ⟨entries⟩ := t
  show Table.mk (Table.putIn key (g value) _) = Table.mk ((Table.putIn key value entries).map _)
  congr 1
  induction entries with
  | nil => rfl
  | cons entry entries ih =>
    by_cases h : entry.1 = key
    · simp [Table.mapValues, Table.putIn, h]
    · simpa [Table.mapValues, Table.putIn, h] using ih

theorem values_mapValues (t : Table α) : (t.mapValues g).values = t.values.map g := by
  simp [Table.values, Table.mapValues]

end tables

/-! ### Generators that make no comments -/

theorem admits_recomment (s : Symbols) (guards : List Guard) : (s.recomment f).admits guards = s.admits guards :=
  admits_congr (fun _ => rfl) guards

theorem blind_namedType (name : String) :
    Blind (Symbols.recomment f) (liftM (namedType name) : Build Symbols TypeId) :=
  .lift fun _ => rfl

theorem blind_warn (text : String) :
    Blind (Symbols.recomment f) (modify fun s => s.warn text : Build Symbols Unit) :=
  .modify fun _ => rfl

theorem blind_skip (kind : ItemKind) (name : String) (reason : SkipReason) :
    Blind (Symbols.recomment f) (modify fun s => s.skip kind name reason : Build Symbols Unit) :=
  .modify fun _ => rfl

theorem blind_registerType (name : String) (id : TypeId) :
    Blind (Symbols.recomment f) (modify fun s => s.registerType name id : Build Symbols Unit) :=
  .modify fun _ => rfl

theorem lookUp_recomment (name : String) (s : Symbols) :
    lookUp name (s.recomment f) = ((lookUp name s).1, (lookUp name s).2.recomment f) := by
  unfold lookUp
  show (if s.opaqueStructs.contains name then _ else _) = _
  split <;> rfl

theorem resolveName_recomment (name : String) (s : Symbols) :
    resolveName name (s.recomment f) = ((resolveName name s).1, (resolveName name s).2.recomment f) := by
  have hsettings : (s.recomment f).settings = s.settings := rfl
  unfold resolveName
  rw [state_bind, state_get, state_bind, state_get, hsettings]
  dsimp only
  cases s.settings.conversions.find? name with
  | some converted => rfl
  | none =>
    dsimp only
    rw [state_bind, lookUp_recomment, state_bind]
    cases (lookUp name s).1 with
    | some id => rfl
    | none =>
      dsimp only
      rw [state_bind, state_get, state_bind, state_get]
      have hvector : ((lookUp name s).2.recomment f).isVectorName name = (lookUp name s).2.isVectorName name := rfl
      rw [hvector]
      split <;> rfl

mutual

theorem blind_resolve (delegateName : Option String) :
    (t : NativeType) → Blind (Symbols.recomment f) (resolve delegateName t)
  | t@⟨kind, builtin, name, inner, bounds, result, parameters, storage⟩ => by
    have hinner := blind_resolveInner inner
    unfold resolve
    cases kind with
    | builtin => exact .get_bind (fun _ => rfl) fun _ => blind_namedType _
    | user => exact .lift (resolveName_recomment _)
    | pointer => exact .bind hinner fun target => .lift fun _ => rfl
    | array => exact .bind hinner fun target => .lift fun _ => rfl
    | synonym =>
      show Blind _ (if _ then _ else _)
      split
      · exact blind_namedType _
      · exact hinner
    | function => exact .bind (blind_warn _) fun _ => blind_namedType _
    | other word => exact .bind (blind_warn _) fun _ => blind_namedType _

theorem blind_resolveInner : (t : Option NativeType) → Blind (Symbols.recomment f) (resolveInner t)
  | some t => blind_resolve none t
  | none => .throw _

end

theorem arraySize_recomment (bounds owner : String) (s : Symbols) :
    arraySize bounds owner (s.recomment f) =
      ((arraySize bounds owner s).1, (arraySize bounds owner s).2.recomment f) := by
  have hsizes : (s.recomment f).arraySizes = s.arraySizes := rfl
  have htext : (s.recomment f).substitute bounds = s.substitute bounds := rfl
  unfold arraySize
  rw [hsizes, htext]
  cases s.arraySizes.find? bounds with
  | some size => rfl
  | none =>
    dsimp only
    cases Bound.evaluate (s.substitute bounds) with
    | ok size => rfl
    | error error => rfl

theorem blind_readSize (bounds owner : String) : Blind (Symbols.recomment f) (readSize bounds owner) := by
  unfold readSize
  refine .get_bind (fun _ => rfl) fun s => ?_
  split
  · exact .throw _
  · exact .lift (arraySize_recomment bounds owner)

theorem blind_delegateParameters (position : Nat) (types : List NativeType) :
    Blind (Symbols.recomment f) (delegateParameters position types) := by
  induction types generalizing position with
  | nil => exact .pure _
  | cons t types ih =>
    have hparameter : Blind (Symbols.recomment f) (delegateParameter position t) :=
      .bind (blind_resolve none _) fun _ => .pure _
    exact .bind hparameter fun _ => .bind (ih _) fun _ => .pure _

theorem blind_resultType (t : Option NativeType) : Blind (Symbols.recomment f) (resultType t) := by
  cases t with
  | none => exact .pure _
  | some t => exact .bind (blind_resolve none t) fun _ => .pure _

theorem blind_parameterType (t : NativeType) : Blind (Symbols.recomment f) (parameterType t) := by
  refine .get_bind (fun _ => rfl) fun s => ?_
  split
  · exact .throw _
  · split
    · exact .pure _
    · exact .bind (blind_resolve none t) fun _ => .pure _
  · exact .bind (blind_resolve none t) fun _ => .pure _

theorem blind_isFloatVector (inner : NativeType) (bounds : String) :
    Blind (Symbols.recomment f) (classifyArray.isFloatVector inner bounds) := by
  unfold classifyArray.isFloatVector isVectorBound
  split
  · split
    · exact .bind (.ofOption _ _) fun _ => .pure _
    · exact .pure _
  · exact .pure _

theorem blind_classify (function : Function) (argument : Argument) (t : NativeType) (m : Marshaling) :
    Blind (Symbols.recomment f) (classify function argument t m) := by
  have hpointer : ∀ inner name, Blind (Symbols.recomment f) (classifyBuiltinPointer inner name m) := by
    intro inner name
    unfold classifyBuiltinPointer
    dsimp only
    split
    · exact .get_bind (fun _ => rfl) fun _ => .pure _
    · exact .pure _
    · split <;> exact .pure _
    · exact .bind (blind_resolve none _) fun _ => .pure _
  unfold classify
  dsimp only
  split
  · refine .bind (.ofOption _ _) fun inner => ?_
    dsimp only
    split
    · exact .pure _
    · refine .bind (blind_isFloatVector _ _) fun isVector => ?_
      split
      · exact .pure _
      · exact .bind (blind_resolve none _) fun _ => .pure _
  · split
    · exact .pure _
    · exact .bind (blind_resolve none _) fun _ => .pure _
  · refine .bind (.ofOption _ _) fun inner => ?_
    split
    · exact hpointer _ _
    · exact .bind (blind_resolve none _) fun _ => .pure _
    · refine .get_bind (fun _ => rfl) fun s => ?_
      split
      · exact .pure _
      · exact .bind (blind_resolve none _) fun _ => .pure _
    · exact .bind (blind_warn _) fun _ => .bind (blind_resolve none _) fun _ => .pure _
  · unfold classifyValue
    split
    · exact .pure _
    · split
      · exact .bind (blind_warn _) fun _ => .bind (blind_resolve none _) fun _ => .pure _
      · exact .bind (blind_resolve none _) fun _ => .pure _

theorem blind_withDefaults (function : Function) (arguments : List Argument) (m : Marshaling) :
    Blind (Symbols.recomment f) (withDefaults function arguments m) := by
  have homitted : ∀ argument, Blind (Symbols.recomment f) (omittedValue function argument) := fun argument => by
    unfold omittedValue
    split
    · exact .get_bind (fun _ => rfl) fun _ => .pure _
    · exact .bind (blind_warn _) fun _ => .pure _
  induction arguments generalizing m with
  | nil => exact .pure _
  | cons argument rest ih =>
    unfold withDefaults
    split
    · exact ih m
    · rw [passDefault_eq]
      exact .bind (.bind (blind_resolve none _) fun _ => .bind (homitted _) fun _ => .pure _) fun _ => ih _

theorem blind_wrapperResult (function : Function) : Blind (Symbols.recomment f) (wrapperResult function) := by
  unfold wrapperResult
  dsimp only
  split
  · exact .pure _
  · exact .bind (blind_resolve none _) fun _ => .pure _

theorem blind_elementType (t : NativeType) : Blind (Symbols.recomment f) (elementType t) := by
  refine .get_bind (fun _ => rfl) fun s => ?_
  split
  · exact blind_namedType _
  · exact blind_resolve none t

theorem blind_fitsBuffer (element : TypeId) (size : Int) : Blind (Symbols.recomment f) (fitsBuffer element size) := by
  unfold fitsBuffer
  split
  · exact .get_bind (fun _ => rfl) fun _ => .bind (.ofExcept _) fun _ => .pure _
  · exact .pure _

end Generate

end InteropGen

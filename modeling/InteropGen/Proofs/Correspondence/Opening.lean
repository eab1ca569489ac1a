import InteropGen.Generate.Bindings
import InteropGen.Proofs.Correspondence.Walk

/-!
# Walks over constants and enums

A document opens with its constants and its enums. They change the tables of defines, of sizes and of
enums, and every enum that is not left out enters its C# name and registers its native names first
(`enumStarted`). `OpeningWalk R` says that a relation between symbols allows these changes; `walk_opened`
leads from the symbols at the start of a document to those when its enums are known.
-/

namespace InteropGen.Generate

open Metadata Build Symbols

/-- A fold leads from its start to its end if each of its steps does. -/
theorem related_foldl {σ τ α : Type} {R : τ → τ → Prop} [Std.Refl R] [IsTrans τ R] (read : σ → τ)
    {step : σ → α → σ} (h : ∀ state item, R (read state) (read (step state item)))
    (items : List α) (state : σ) : R (read state) (read (items.foldl step state)) := by
  induction items generalizing state with
  | nil => exact Std.Refl.refl _
  | cons item items ih => exact IsTrans.trans _ _ _ (h state item) (ih _)

/-! ### The names of an enum -/

/-- Gives all names one type, unless they have one. -/
def registerAll (names : List String) (id : TypeId) (s : Symbols) : Symbols :=
  names.foldl (fun s name => s.registerType name id) s

/-- The names that an enum registers: its C# name, its base name and its own. -/
def enumNames (item : Metadata.Enum) : List String :=
  [Identifier.ofEnum (baseName item.name), baseName item.name, item.name]

/-- The symbols when the names of an enum are registered. -/
def enumRegistered (item : Metadata.Enum) (s : Symbols) : Symbols :=
  let (id, s) := namedType (Identifier.ofEnum (baseName item.name)) s
  registerAll (enumNames item) id s

/-- The symbols when the elements of an enum are still to come. -/
def enumStarted (item : Metadata.Enum) (s : Symbols) : Symbols :=
  let nativeName := baseName item.name
  let name := Identifier.ofEnum nativeName
  let base := if nativeName = item.name then none else s.enums.find? name
  let s := enumRegistered item s
  if base.isNone then { s with enums := s.enums.insert name [] } else s

variable {R : Symbols → Symbols → Prop} {s : Symbols} {item : Metadata.Enum}

theorem quiet_registerAll {names : List String} {id : TypeId} {text : String}
    (h : s.arena.names.find? text = some id) : Quiet s (registerAll names id s) := by
  induction names generalizing s with
  | nil => exact .refl s
  | cons name rest ih => exact (quiet_registerName name h).trans (ih h)

theorem quiet_enumRegistered (item : Metadata.Enum) (s : Symbols) :
    Quiet s (enumRegistered item s) :=
  (quiet_namedType _ s).trans (quiet_registerAll (s.arena.find?_named _))

/-- The table of enums has a row for the C# name of an enum before its elements are entered. -/
theorem enumStarted_cases (item : Metadata.Enum) (s : Symbols) :
    (enumStarted item s = enumRegistered item s ∧
      s.enums.contains (Identifier.ofEnum (baseName item.name)) = true) ∨
    enumStarted item s = { enumRegistered item s with
      enums := (enumRegistered item s).enums.insert (Identifier.ofEnum (baseName item.name)) [] } := by
  unfold enumStarted
  dsimp only
  by_cases hbase : baseName item.name = item.name
  · rw [if_pos hbase]
    exact .inr rfl
  · rw [if_neg hbase]
    cases hfind : s.enums.find? (Identifier.ofEnum (baseName item.name)) with
    | none => exact .inr rfl
    | some elements => exact .inl ⟨rfl, Table.contains_iff.mpr ⟨elements, hfind⟩⟩

/-- The elements that an enum begins with: those of its base, if it is a private extension. -/
def inherited (item : Metadata.Enum) (s : Symbols) : List Decl.Element :=
  let nativeName := baseName item.name
  let base :=
    if nativeName = item.name then none else s.enums.find? (Identifier.ofEnum nativeName)
  (base.getD []).map fun (element, value) => { head := { name := element }, value := value }

/-- The run over the elements of an enum. -/
def enumRun (item : Metadata.Enum) (s : Symbols) : EnumRun :=
  item.elements.foldl (EnumRun.addElement (Identifier.ofEnum (baseName item.name)))
    ⟨enumStarted item s, inherited item s⟩

/-- The head of an enum. -/
def enumHead (item : Metadata.Enum) : Decl.Head :=
  Decl.Head.withComments
    { name := Identifier.ofEnum (baseName item.name)
      modifiers := ["public"]
      attributes := if item.isFlags then ["[Flags]"] else [] } item.comments

theorem name_enumHead (item : Metadata.Enum) : (enumHead item).name = Identifier.ofEnum (baseName item.name) := by
  rw [enumHead, Decl.Head.name_withComments]

/-- An enum that is not left out registers its names, and then its elements one after the other. -/
theorem enum_made (h : s.admits item.guards = true) :
    enum item s = (some ⟨enumHead item, (enumRun item s).elements, baseName item.name⟩,
      (enumRun item s).symbols) := by
  unfold enum
  rw [if_pos h]
  rfl

theorem enum_left (h : s.admits item.guards = false) :
    enum item s = (none, s.skip .enum item.name .guards) := by
  unfold enum
  rw [if_neg (by simp [h])]

/-! ### Walks -/

/-- The relation allows notes, new defines, and the names and elements of enums. -/
structure OpeningWalk (R : Symbols → Symbols → Prop) : Prop where
  note {s s' : Symbols} (h : Notes s s') : R s s'
  defines (s : Symbols) (defines : Table (Option String × String)) :
    R s { s with defines := defines }
  start (item : Metadata.Enum) (s : Symbols) : R s (enumStarted item s)
  element (s : Symbols) (sizes : Table Int) (name : String) (elements : List (String × String)) :
    R s { s with arraySizes := sizes, enums := s.enums.insert name elements }

theorem walk_addDefine [Std.Refl R] (h : OpeningWalk R) (deep : Bool) (run : ConstantRun)
    (define : Define) : R run.symbols (run.addDefine deep define).symbols := by
  unfold ConstantRun.addDefine
  split
  · dsimp only
    split
    · exact Std.Refl.refl _
    · exact h.defines _ _
  · exact h.note (notes_skip _ _ _ _)

theorem walk_addElement (h : OpeningWalk R) (name : String) (run : EnumRun) (element : EnumElement) :
    R run.symbols (run.addElement name element).symbols := by
  unfold EnumRun.addElement
  dsimp only
  split
  · exact h.element _ _ _ _
  · exact h.note (notes_skip _ _ _ _)

variable [Std.Refl R] [IsTrans Symbols R]

theorem walk_addGroup (h : OpeningWalk R) (defines : List Define) (run : ConstantRun) (depth : Nat) :
    R run.symbols (run.addGroup defines depth).symbols :=
  IsTrans.trans _ _ _ (related_foldl ConstantRun.symbols (walk_addDefine h _) _ run) (h.defines _ _)

theorem walk_constants (h : OpeningWalk R) (defines : List Define) (s : Symbols) :
    R s (constants defines s).2 :=
  related_foldl ConstantRun.symbols (walk_addGroup h defines) (guardDepths defines)
    { symbols := s, constants := s.settings.knownDefines.map (seedConstant s) }

theorem walk_enum (h : OpeningWalk R) (item : Metadata.Enum) (s : Symbols) :
    R s (enum item s).2 := by
  cases hguards : s.admits item.guards with
  | false =>
    rw [enum_left hguards]
    exact h.note (notes_skip _ _ _ _)
  | true =>
    rw [enum_made hguards]
    exact IsTrans.trans _ _ _ (h.start item s)
      (related_foldl EnumRun.symbols (walk_addElement h _) item.elements ⟨_, inherited item s⟩)

theorem walk_enums (h : OpeningWalk R) (items : List Metadata.Enum) (s : Symbols) :
    R s (enums items s).2 := by
  induction items generalizing s with
  | nil => exact Std.Refl.refl s
  | cons item rest ih => exact IsTrans.trans _ _ _ (walk_enum h item s) (ih _)

end InteropGen.Generate

import InteropGen.Proofs.Correspondence.Document
import InteropGen.Proofs.Correspondence.Records
import InteropGen.Proofs.Removal

/-!
# The registry of enums

The registry keeps a row of elements under the C# name of every enum that was made. A private extension begins with the
row that it finds there, and every other enum with an empty one; each element then enters the row and the C# enum
together (`Mirrors.addElement`), so that the row is that of the enum made last (`Emission.find?_after`). `EnumHistory`
has the enums that were made in any number of configurations in their order, and `registry_mirrors` reads every row off
it: from the last enum of the name, and from the items of the last one that began anew and of its extensions since then.
The runs over documents are such histories (`history_of_reached`).
-/

namespace InteropGen.Generate

open Metadata Decl Build Symbols

variable {s s' : Symbols} {item : Metadata.Enum} {key : String}

/-! ### One enum -/

/-- The C# name of an enum. -/
def enumName (item : Metadata.Enum) : String := Identifier.ofEnum (baseName item.name)

/-- Is the enum named as the private extension of another one? -/
def isPrivate (item : Metadata.Enum) : Bool := Text.endsWith item.name "Private_"

/-- An element as a row keeps it. -/
def rowOf (element : Decl.Element) : String × String := (element.head.name, element.value)

/-- The row that an enum begins with, if it finds one. -/
def foundRow (item : Metadata.Enum) (s : Symbols) : Option (List (String × String)) :=
  if baseName item.name = item.name then none else s.enums.find? (enumName item)

/-- The rows of the elements of an enum that are not left out. -/
def ownRow (item : Metadata.Enum) (s : Symbols) : List (String × String) :=
  (keptElements s item.elements).map fun element => (element.name, elementValue element)

theorem baseName_eq_iff : baseName item.name = item.name ↔ isPrivate item = false := by
  unfold baseName isPrivate
  split
  · next hends =>
    have hoccurs : "Private".toList <:+: item.name.toList :=
      List.IsInfix.trans ⟨[], ['_'], by decide⟩ (Text.endsWith_iff.mp hends).isInfix
    have hshorter := Text.length_removed_add_le (by decide) hoccurs
    refine iff_of_false (fun heq => ?_) (by simp [hends])
    rw [← Text.toList_replace_empty, heq] at hshorter
    exact absurd hshorter (Nat.not_le.mpr (Nat.lt_add_of_pos_right (by decide)))
  · next hends => exact iff_of_true rfl (by simpa using hends)

theorem foundRow_eq (item : Metadata.Enum) (s : Symbols) :
    foundRow item s = if isPrivate item then s.enums.find? (enumName item) else none := by
  unfold foundRow
  cases hprivate : isPrivate item with
  | true => rw [if_neg (by simp [baseName_eq_iff, hprivate]), if_pos rfl]
  | false => rw [if_pos (baseName_eq_iff.mpr hprivate), if_neg (by simp)]

theorem enumName_enumHead (item : Metadata.Enum) : (enumHead item).name = enumName item := name_enumHead item

theorem map_rowOf_elementOf (elements : List EnumElement) :
    (elements.map elementOf).map rowOf = elements.map fun element => (element.name, elementValue element) := by
  rw [List.map_map]
  refine List.map_congr_left fun element _ => ?_
  exact Prod.ext (Head.name_withComments _ _) rfl

theorem map_rowOf_inherited (item : Metadata.Enum) (s : Symbols) :
    (inherited item s).map rowOf = (foundRow item s).getD [] := by
  show (((foundRow item s).getD []).map _).map rowOf = _
  rw [List.map_map]
  exact List.map_id _

/-- The row of a name is that of the elements so far, and the rows of other names are those at the start. -/
structure Mirrors (key : String) (s : Symbols) (run : EnumRun) : Prop where
  row : run.symbols.enums.find? key = some (run.elements.map rowOf)
  others : ∀ other, other ≠ key → run.symbols.enums.find? other = s.enums.find? other

theorem mirrors_enumStarted (item : Metadata.Enum) (s : Symbols) :
    Mirrors (enumName item) s ⟨enumStarted item s, inherited item s⟩ := by
  have hstarted : (enumStarted item s).enums =
      if (foundRow item s).isNone then s.enums.insert (enumName item) [] else s.enums := by
    show Symbols.enums (if (foundRow item s).isNone then _ else _) = _
    split <;> rfl
  cases hfound : foundRow item s with
  | none =>
    rw [hfound] at hstarted
    refine ⟨?_, fun other hother => ?_⟩
    · rw [map_rowOf_inherited, hfound, hstarted]
      exact s.enums.find?_insert_self _ _
    · rw [hstarted]
      exact s.enums.find?_insert_of_ne hother _
  | some row =>
    rw [hfound] at hstarted
    have hrow : s.enums.find? (enumName item) = some row := by
      rw [foundRow_eq] at hfound
      exact (Option.ite_none_right_eq_some.mp hfound).2
    refine ⟨?_, fun other _ => congrArg (·.find? other) hstarted⟩
    rw [map_rowOf_inherited, hfound, hstarted]
    exact hrow

/-- An element enters the row and the C# enum, or neither of them. -/
theorem Mirrors.addElement {run : EnumRun} (h : Mirrors key s run) (element : EnumElement) :
    Mirrors key s (run.addElement key element) := by
  unfold EnumRun.addElement
  dsimp only
  split
  · refine ⟨?_, fun other hother => ?_⟩
    · have hrow : rowOf (elementOf element) = (element.name, elementValue element) :=
        Prod.ext (Head.name_withComments _ _) rfl
      rw [Table.find?_insert_self, h.row, List.map_append, ← hrow]
      rfl
    · rw [Table.find?_insert_of_ne _ hother]
      exact h.others other hother
  · exact ⟨h.row, h.others⟩

theorem mirrors_enumRun (item : Metadata.Enum) (s : Symbols) : Mirrors (enumName item) s (enumRun item s) :=
  List.foldlRecOn item.elements _ (mirrors_enumStarted item s) fun _ h element _ => h.addElement element

theorem enums_of_left (h : (enum item s).1 = none) : (enum item s).2.enums = s.enums := by
  cases hguards : s.admits item.guards with
  | true =>
    rw [enum_made hguards] at h
    cases h
  | false =>
    rw [enum_left hguards]
    rfl

/-! ### Enums that were made -/

/-- A C# enum that was made, with its item and with the symbols when it was generated. -/
structure Emission where
  item : Metadata.Enum
  before : Symbols
  made : Decl.Enum
  emitted : (enum item before).1 = some made

namespace Emission

/-- The enum that an item gives if it is not left out. -/
def ofAdmitted (item : Metadata.Enum) (s : Symbols) (h : s.admits item.guards = true) : Emission where
  item := item
  before := s
  made := ⟨enumHead item, (enumRun item s).elements, baseName item.name⟩
  emitted := congrArg Prod.fst (enum_made h)

/-- The C# name of the enum. -/
def name (e : Emission) : String := e.made.head.name

/-- The symbols when the enum is made. -/
def after (e : Emission) : Symbols := (enum e.item e.before).2

/-- The elements of the C# enum as rows keep them. -/
def row (e : Emission) : List (String × String) := e.made.elements.map rowOf

/-- The elements of the item that are not left out. -/
def ownRow (e : Emission) : List (String × String) := Generate.ownRow e.item e.before

/-- Does the enum extend one of its name that was made before? -/
def Merges (e : Emission) : Prop := isPrivate e.item = true ∧ e.before.enums.contains e.name = true

instance (e : Emission) : Decidable e.Merges := inferInstanceAs (Decidable (_ ∧ _))

variable (e : Emission)

theorem admitted : e.before.admits e.item.guards = true := by
  by_contra h
  have hemitted := e.emitted
  rw [enum_left (by simpa using h)] at hemitted
  cases hemitted

theorem made_eq : e.made = ⟨enumHead e.item, (enumRun e.item e.before).elements, baseName e.item.name⟩ := by
  have hemitted := e.emitted
  rw [enum_made e.admitted] at hemitted
  exact (Option.some.inj hemitted).symm

theorem name_eq : e.name = enumName e.item := by
  rw [name, e.made_eq]
  exact enumName_enumHead e.item

theorem mirrors : Mirrors e.name e.before ⟨e.after, e.made.elements⟩ := by
  rw [e.name_eq, after, enum_made e.admitted, e.made_eq]
  exact mirrors_enumRun e.item e.before

/-- The row of the name is that of the enum. -/
theorem find?_after : e.after.enums.find? e.name = some e.row := e.mirrors.row

/-- The rows of other names stay. -/
theorem find?_after_of_ne (h : key ≠ e.name) : e.after.enums.find? key = e.before.enums.find? key :=
  e.mirrors.others key h

/-- The enum begins with the row that it finds. -/
theorem row_eq : e.row = (foundRow e.item e.before).getD [] ++ e.ownRow := by
  have hentered : EntersElements e.before e.item.elements ⟨enumStarted e.item e.before, inherited e.item e.before⟩
      (enumRun e.item e.before) := enters_elements (rules_enumStarted e.item e.before) e.item.elements
  rw [row, e.made_eq, hentered.elements, List.map_append, map_rowOf_inherited, map_rowOf_elementOf]
  rfl

end Emission

/-! ### Histories -/

/--
Enums are generated one after the other, each made or left out, with anything between them that leaves the registry
alone. The log has the ones that were made.
-/
inductive EnumHistory (s : Symbols) : List Emission → Symbols → Prop
  | start : EnumHistory s [] s
  | emit {log} (e : Emission) (h : EnumHistory s log e.before) : EnumHistory s (log ++ [e]) e.after
  | leave {log before item} (h : EnumHistory s log before) (hleft : (enum item before).1 = none) :
      EnumHistory s log (enum item before).2
  | between {log before after} (h : EnumHistory s log before) (hkept : after.enums = before.enums) :
      EnumHistory s log after

/-- The enums of the log with the C# name. -/
def named (key : String) (log : List Emission) : List Emission := log.filter fun e => e.name = key

theorem named_append_self (e : Emission) (log : List Emission) :
    named e.name (log ++ [e]) = named e.name log ++ [e] := by
  simp [named]

theorem named_append_of_ne {e : Emission} (h : key ≠ e.name) (log : List Emission) :
    named key (log ++ [e]) = named key log := by
  simp [named, h.symm]

/-- A row is put together by an enum that began anew and by its extensions after it. -/
def Assembled (enums : List Emission) (row : List (String × String)) : Prop :=
  ∃ earlier base extensions, enums = earlier ++ base :: extensions ∧ ¬base.Merges ∧ (∀ e ∈ extensions, e.Merges) ∧
    row = base.ownRow ++ extensions.flatMap Emission.ownRow

/-- An enum begins anew, or it extends the row of its name. -/
theorem Assembled.of_emission (e : Emission) {enums : List Emission}
    (h : ∀ row, e.before.enums.find? e.name = some row → Assembled enums row) : Assembled (enums ++ [e]) e.row := by
  have hrow := e.row_eq
  rw [foundRow_eq, ← e.name_eq] at hrow
  by_cases hmerges : e.Merges
  · -- what it finds was put together before it, and it is one extension more
    obtain ⟨found, hfound⟩ := Table.contains_iff.mp hmerges.2
    rw [if_pos hmerges.1, hfound, Option.getD_some] at hrow
    obtain ⟨earlier, base, extensions, rfl, hbase, hextensions, rfl⟩ := h found hfound
    refine ⟨earlier, base, extensions ++ [e], by simp, hbase, fun other hother => ?_, ?_⟩
    · rcases List.mem_append.mp hother with hother | hother
      · exact hextensions other hother
      · exact List.mem_singleton.mp hother ▸ hmerges
    · rw [hrow, List.flatMap_append, List.flatMap_singleton, List.append_assoc]
  · -- it finds nothing, also as a private extension if there is no enum of its name
    have hnone : (if isPrivate e.item then e.before.enums.find? e.name else none) = none := by
      split
      · next hprivate => exact Option.not_isSome_iff_eq_none.mp fun hsome => hmerges ⟨hprivate, hsome⟩
      · rfl
    rw [hnone, Option.getD_none, List.nil_append] at hrow
    exact ⟨enums, e, [], rfl, hmerges, fun other hother => absurd hother List.not_mem_nil, by simpa using hrow⟩

/--
Whatever was generated since the registry was empty, in any number of configurations: there is a row under a C# name
if an enum of this name was made, and it is that of the elements of the one made last. They are the elements of the
last item of the name that began anew, followed by those of each private extension since then; of every item those that
were not left out.
-/
theorem registry_mirrors {log : List Emission} (hempty : s.enums.entries = []) (h : EnumHistory s log s')
    (key : String) :
    s'.enums.find? key = ((named key log).getLast?).map Emission.row ∧
    ∀ row, s'.enums.find? key = some row → Assembled (named key log) row := by
  induction h with
  | start =>
    have hnone : s.enums.find? key = none := by
      rw [Table.find?, hempty]
      rfl
    exact ⟨hnone, fun row hrow => absurd (hnone ▸ hrow) (by simp)⟩
  | @emit log e h ih =>
    by_cases hkey : key = e.name
    · subst hkey
      have hassembled := Assembled.of_emission e ih.2
      rw [named_append_self, List.getLast?_concat, e.find?_after]
      exact ⟨rfl, fun row hrow => Option.some.inj hrow ▸ hassembled⟩
    · rw [named_append_of_ne hkey, e.find?_after_of_ne hkey]
      exact ih
  | leave h hleft ih =>
    rw [enums_of_left hleft]
    exact ih
  | between h hkept ih =>
    rw [hkept]
    exact ih

/-- An enum with an element that is left out. -/
def modes : Metadata.Enum where
  name := "ImMode_"
  elements := [{ name := "ImMode_Off" }, { name := "ImMode_Old", value := .int 1, guards := [⟨.defined, "OLD"⟩] }]

/-- Its private extension. -/
def privateModes : Metadata.Enum where
  name := "ImModePrivate_"
  elements := [{ name := "ImMode_Fast", value := .int 8 }]

/-- The enum in one configuration, in the next one, and its extension there. -/
def firstModes : Emission := .ofAdmitted modes (ofSettings {}) (by decide +kernel)
def modesAgain : Emission := .ofAdmitted modes firstModes.after.beginConfiguration (by decide +kernel)
def modesExtended : Emission := .ofAdmitted privateModes modesAgain.after (by decide +kernel)

theorem registry_mirrors_modes :
    (ofSettings {}).enums.entries = [] ∧
    EnumHistory (ofSettings {}) [firstModes, modesAgain, modesExtended] modesExtended.after ∧
    modesExtended.after.enums.find? "ImMode" = some [("ImMode_Off", "0"), ("ImMode_Fast", "8")] ∧
    ((named "ImMode" [firstModes, modesAgain, modesExtended]).getLast?).map Emission.row =
      some [("ImMode_Off", "0"), ("ImMode_Fast", "8")] ∧
    Assembled (named "ImMode" [firstModes, modesAgain, modesExtended]) [("ImMode_Off", "0"), ("ImMode_Fast", "8")] := by
  have hhistory : EnumHistory (ofSettings {}) [firstModes, modesAgain, modesExtended] modesExtended.after :=
    .emit modesExtended (.emit modesAgain (.between (.emit firstModes .start) rfl))
  have hrow : modesExtended.after.enums.find? "ImMode" = some [("ImMode_Off", "0"), ("ImMode_Fast", "8")] := by
    decide +kernel
  obtain ⟨hlast, hassembled⟩ := registry_mirrors rfl hhistory "ImMode"
  exact ⟨rfl, hhistory, hrow, hlast ▸ hrow, hassembled _ hrow⟩

/-! ### Runs over documents -/

/-- Whatever leads to the first symbols is continued to the second ones. -/
def Continues (s s' : Symbols) : Prop :=
  ∀ origin log, EnumHistory origin log s → ∃ more, EnumHistory origin (log ++ more) s'

theorem Continues.of_kept (h : s'.enums = s.enums) : Continues s s' :=
  fun _ log hlog => ⟨[], (List.append_nil log).symm ▸ hlog.between h⟩

instance : Std.Refl Continues := ⟨fun _ => .of_kept rfl⟩
instance : IsTrans Symbols Continues := by
  constructor
  intro s s' s'' h h' origin log hlog
  obtain ⟨more, hmore⟩ := h origin log hlog
  obtain ⟨others, hothers⟩ := h' origin (log ++ more) hmore
  exact ⟨more ++ others, List.append_assoc log more others ▸ hothers⟩

theorem continues_addDefine (deep : Bool) (run : ConstantRun) (define : Define) :
    Continues run.symbols (run.addDefine deep define).symbols := by
  refine .of_kept ?_
  unfold ConstantRun.addDefine
  split
  · dsimp only
    split <;> rfl
  · rfl

theorem continues_addGroup (defines : List Define) (run : ConstantRun) (depth : Nat) :
    Continues run.symbols (run.addGroup defines depth).symbols :=
  IsTrans.trans _ _ _ (related_foldl ConstantRun.symbols (continues_addDefine _) _ run) (.of_kept rfl)

theorem continues_constants (defines : List Define) (s : Symbols) : Continues s (constants defines s).2 :=
  related_foldl ConstantRun.symbols (continues_addGroup defines) (guardDepths defines)
    { symbols := s, constants := s.settings.knownDefines.map (seedConstant s) }

theorem continues_enum (item : Metadata.Enum) (s : Symbols) : Continues s (enum item s).2 := by
  intro origin log hlog
  cases hmade : (enum item s).1 with
  | none => exact ⟨[], (List.append_nil log).symm ▸ hlog.leave hmade⟩
  | some made => exact ⟨[⟨item, s, made, hmade⟩], hlog.emit ⟨item, s, made, hmade⟩⟩

theorem continues_enums (items : List Metadata.Enum) (s : Symbols) : Continues s (enums items s).2 := by
  induction items generalizing s with
  | nil => exact .of_kept rfl
  | cons item rest ih => exact IsTrans.trans _ _ _ (continues_enum item s) (ih (enum item s).2)

theorem continues_declared (nativeClass : String) (metadata : Metadata) :
    Preserves Continues (declared nativeClass metadata) := by
  have hgrows : ∀ s s' : Symbols, Registers (CallbackOf metadata) s s' → Continues s s' :=
    fun _ _ h => .of_kept h.1.enums
  exact .bind (.lift (continues_constants _)) fun _ => .bind (.lift (continues_enums _)) fun _ => .bind
    ((registers_declared_typedefs metadata).mono hgrows) fun _ => .bind
    ((preserves_inNewScope (registers_declared_structs _ fun _ h => h)).mono hgrows) fun _ => .bind
    ((registers_declared_externs metadata).mono hgrows) fun _ => .bind
    ((preserves_inNewScope (quiet_mainWrappers _ _)).mono fun _ _ h => .of_kept h.enums)
    fun _ => .pure _

theorem continues_bindings (nativeClass : String) (metadata : Metadata) (hs : s.Sound) :
    Continues s ((bindings nativeClass metadata).runOn s).2 := by
  have hdeclared := continues_declared nativeClass metadata s
  have hsound := (carries_declared nativeClass metadata s).sound hs
  rw [bindings_eq, runOn_bind]
  revert hdeclared hsound
  rcases (declared nativeClass metadata).runOn s with ⟨_ | all, built⟩ <;> intro hdeclared hsound
  · exact hdeclared
  · obtain ⟨erased, last, hrun, hsettles⟩ := settles_settle hsound all
    refine IsTrans.trans _ _ _ hdeclared (.of_kept ?_)
    show ((settle all).runOn built).2.enums = built.enums
    rw [hrun]
    exact hsettles.keeps.enums

/-- The runs of any number of configurations, also runs that fail, are histories of the registry. -/
theorem history_of_reached {settings : Settings} (h : Reached settings s) :
    ∃ log, EnumHistory (ofSettings settings) log s := by
  induction h with
  | start => exact ⟨[], .start⟩
  | next hbefore nativeClass metadata ih =>
    obtain ⟨log, hlog⟩ := ih
    have hbegin := sound_beginConfiguration hbefore.sound
    obtain ⟨more, hmore⟩ := continues_bindings nativeClass metadata hbegin _ log (hlog.between rfl)
    exact ⟨log ++ more, hmore⟩

end InteropGen.Generate

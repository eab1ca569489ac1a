import InteropGen.Proofs.EnumRegistry

/-!
# Private extensions

The base of a private extension is looked up under the name that is left of the extension's own when every "Private" is
removed from it. For a base without this word only the mark at the end goes, and what is left is the name of the base
(`baseName_extension`); for a base with it the name becomes shorter than that of the base
(`length_baseName_extension`). So an extension is merged into its base exactly in the first case, whatever enums of
other names were generated between the two (`extension_merges_iff`).
-/

namespace InteropGen.Generate

open Metadata Symbols

variable {s s' : Symbols} {item : Metadata.Enum} {base key : String}

/-! ### Names -/

theorem length_ofEnum_le (name : String) : (Identifier.ofEnum name).toList.length ≤ name.toList.length := by
  unfold Identifier.ofEnum
  split
  · rw [Text.toList_dropLast]
    exact List.length_take_le' _ _
  · exact le_rfl

theorem ofEnum_append_underscore (base : String) : Identifier.ofEnum (base ++ "_") = base := by
  have hends : Text.endsWith (base ++ "_") "_" = true := by
    rw [Text.endsWith_iff, String.toList_append]
    exact List.suffix_append _ _
  rw [Identifier.ofEnum, if_pos hends, ← String.toList_inj, Text.toList_dropLast, String.toList_append]
  simp

theorem toList_extension (base : String) :
    (base ++ "Private_").toList = base.toList ++ ("Private".toList ++ ['_']) :=
  String.toList_append

theorem toList_baseName_extension (h : item.name = base ++ "Private_") :
    (baseName item.name).toList = Text.removed "Private".toList (base.toList ++ ("Private".toList ++ ['_'])) := by
  have hends : Text.endsWith (base ++ "Private_") "Private_" = true := by
    rw [Text.endsWith_iff, String.toList_append]
    exact List.suffix_append _ _
  rw [h, baseName, if_pos hends, Text.toList_replace_empty, toList_extension]

theorem first_not_mem_tail : 'P' ∉ "rivate".toList := by decide

theorem baseName_extension (h : item.name = base ++ "Private_") (hbase : Text.includes base "Private" = false) :
    baseName item.name = base ++ "_" := by
  have hoccurs : ¬"Private".toList <:+: base.toList := fun hinfix => by
    rw [Text.includes_iff.mpr hinfix] at hbase
    cases hbase
  have hremoved := Text.removed_append first_not_mem_tail hoccurs ['_']
  rw [← String.toList_inj, toList_baseName_extension h, String.toList_append]
  exact hremoved

theorem length_baseName_extension (h : item.name = base ++ "Private_") (hbase : Text.includes base "Private" = true) :
    (baseName item.name).toList.length < base.toList.length := by
  have hshorter : (Text.removed "Private".toList (base.toList ++ ("Private".toList ++ ['_']))).length + 7 ≤
      base.toList.length + 1 :=
    Text.length_removed_append first_not_mem_tail (Text.includes_iff.mp hbase) ['_']
  rw [toList_baseName_extension h]
  omega

/-! ### Merging -/

/-- Enums of other names leave a row as it is. -/
theorem EnumHistory.find?_of_others {log : List Emission} (h : EnumHistory s log s')
    (hothers : ∀ e ∈ log, e.name ≠ key) : s'.enums.find? key = s.enums.find? key := by
  induction h with
  | start => rfl
  | @emit log e h ih =>
    rw [e.find?_after_of_ne fun hkey => hothers e (List.mem_append_right _ List.mem_cons_self) hkey.symm]
    exact ih fun other hother => hothers other (List.mem_append_left _ hother)
  | leave h hleft ih =>
    rw [enums_of_left hleft]
    exact ih hothers
  | between h hkept ih =>
    rw [hkept]
    exact ih hothers

/--
An enum is generated and later, after any number of enums of other names, the one that is named as its private
extension, and neither is left out. Then both are made, the first one with its own elements; and the second one is
merged into it, with its names and with its elements before those of the extension, exactly if "Private" does not occur
in the name of the base itself.
-/
theorem extension_merges_iff {item extension : Metadata.Enum} {log : List Emission}
    (hitem : item.name = base ++ "_") (hextension : extension.name = base ++ "Private_")
    (hplain : Text.endsWith (base ++ "_") "Private_" = false)
    (hadmitted : s.admits item.guards = true) (hadmitted' : s'.admits extension.guards = true)
    (hbetween : EnumHistory (enum item s).2 log s') (hothers : ∀ e ∈ log, e.name ≠ base) :
    ∃ first second, (enum item s).1 = some first ∧ (enum extension s').1 = some second ∧
      first.head.name = base ∧ first.nativeName = base ++ "_" ∧ first.elements.map rowOf = ownRow item s ∧
      ((second.head.name = first.head.name ∧ second.nativeName = first.nativeName ∧
          second.elements.map rowOf = ownRow item s ++ ownRow extension s') ↔
        Text.includes base "Private" = false) := by
  let first := Emission.ofAdmitted item s hadmitted
  let second := Emission.ofAdmitted extension s' hadmitted'
  have hprivate : isPrivate item = false := by rw [isPrivate, hitem, hplain]
  have hnative : baseName item.name = base ++ "_" := (baseName_eq_iff.mpr hprivate).trans hitem
  have hname : first.name = base := by
    rw [first.name_eq]
    show Identifier.ofEnum (baseName item.name) = base
    rw [hnative, ofEnum_append_underscore]
  have hrow : first.row = ownRow item s := by
    rw [first.row_eq, foundRow_eq, if_neg (by simp [first, Emission.ofAdmitted, hprivate])]
    rfl
  refine ⟨first.made, second.made, first.emitted, second.emitted, hname, hnative, hrow, ?_⟩
  constructor
  · -- otherwise its name is shorter than the base that it would have as a name
    rintro ⟨hsame, -, -⟩
    by_contra hincludes
    have hshorter := length_baseName_extension hextension (by simpa using hincludes)
    have hle := length_ofEnum_le (baseName extension.name)
    have hsecond : Identifier.ofEnum (baseName extension.name) = base :=
      second.name_eq.symm.trans (hsame.trans hname)
    rw [hsecond] at hle
    omega
  · intro hincludes
    have hbase : baseName extension.name = base ++ "_" := baseName_extension hextension hincludes
    have hkey : enumName extension = base := by rw [enumName, hbase, ofEnum_append_underscore]
    have hmark : isPrivate extension = true := by
      rw [isPrivate, hextension, Text.endsWith_iff, String.toList_append]
      exact List.suffix_append _ _
    have hfound : foundRow extension s' = some (ownRow item s) := by
      rw [foundRow_eq, if_pos hmark, hkey, hbetween.find?_of_others hothers, ← hrow, ← hname]
      exact first.find?_after
    refine ⟨second.name_eq.trans (hkey.trans hname.symm), hbase.trans hnative.symm, second.row_eq.trans ?_⟩
    exact congrArg (·.getD [] ++ ownRow extension s') hfound

/-- An enum whose own name has the word, and what is named as its private extension. -/
def secretModes : Metadata.Enum where
  name := "ImPrivateMode_"
  elements := [{ name := "ImPrivateMode_Off" }]

def extendedModes : Metadata.Enum where
  name := "ImPrivateModePrivate_"
  elements := [{ name := "ImPrivateMode_Fast", value := .int 1 }]

/-- An enum of another name between the two. -/
def directions : Emission :=
  .ofAdmitted { name := "ImDir_", elements := [{ name := "ImDir_None" }] } (enum secretModes (ofSettings {})).2
    (by decide +kernel)

theorem extension_merges_iff_secret :
    secretModes.name = "ImPrivateMode" ++ "_" ∧ extendedModes.name = "ImPrivateMode" ++ "Private_" ∧
    Text.endsWith ("ImPrivateMode" ++ "_") "Private_" = false ∧
    (ofSettings {}).admits secretModes.guards = true ∧ directions.after.admits extendedModes.guards = true ∧
    EnumHistory (enum secretModes (ofSettings {})).2 [directions] directions.after ∧
    (∀ e ∈ [directions], e.name ≠ "ImPrivateMode") ∧
    ∃ first second, (enum secretModes (ofSettings {})).1 = some first ∧
      (enum extendedModes directions.after).1 = some second ∧
      first.head.name = "ImPrivateMode" ∧ second.head.name = "ImMode" ∧
      first.elements.map rowOf = [("ImPrivateMode_Off", "0")] ∧
      ¬(second.head.name = first.head.name ∧ second.nativeName = first.nativeName ∧
        second.elements.map rowOf =
          ownRow secretModes (ofSettings {}) ++ ownRow extendedModes directions.after) := by
  have hplain : Text.endsWith ("ImPrivateMode" ++ "_") "Private_" = false := by decide +kernel
  have hadmitted : (ofSettings {}).admits secretModes.guards = true := by decide +kernel
  have hadmitted' : directions.after.admits extendedModes.guards = true := by decide +kernel
  have hbetween : EnumHistory (enum secretModes (ofSettings {})).2 [directions] directions.after :=
    .emit directions .start
  have hothers : ∀ e ∈ [directions], e.name ≠ "ImPrivateMode" := by
    intro e he
    rw [List.mem_singleton.mp he]
    decide +kernel
  obtain ⟨first, second, hfirst, hsecond, hname, -, hrow, hmerges⟩ :=
    extension_merges_iff rfl rfl hplain hadmitted hadmitted' hbetween hothers
  refine ⟨rfl, rfl, hplain, hadmitted, hadmitted', hbetween, hothers, first, second, hfirst, hsecond, hname, ?_, ?_, ?_⟩
  · have hmade : (enum extendedModes directions.after).1.map (·.head.name) = some "ImMode" := by decide +kernel
    rw [hsecond] at hmade
    exact Option.some.inj hmade
  · rw [hrow]
    decide +kernel
  · intro h
    have hincludes : Text.includes "ImPrivateMode" "Private" = true := by decide +kernel
    rw [hmerges.mp h] at hincludes
    cases hincludes

end InteropGen.Generate

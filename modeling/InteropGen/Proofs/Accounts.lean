import InteropGen.Proofs.Configurations
import InteropGen.Proofs.Constants
import InteropGen.Proofs.Correspondence.Records
import Mathlib.Data.List.Nodup

/-!
# Every item is accounted for

A configuration that completes has declared each item of its document or has a record of it
(`items_accounted`). The names of the functions are those of the imported functions and those on record,
as often as they come. The structs are the pairs that are kept, those on record, and the opaque ones,
which have no fields in the document; a struct whose layout turns out to have no members is on record
too. The same is said of the enums, of the own elements of each enum, and of the fields of each layout.
The summary that is logged adds up to the records.
-/

namespace InteropGen.Generate

open Metadata Decl Build Symbols

variable {s s' : Symbols} {document : Metadata} {b : Bindings} {α : Type}

/-! ### Names on record -/

/-- The names of the items of a kind that are on record. -/
def leftOut (kind : ItemKind) (skipped : List Skip) : List String :=
  (skipped.filter (·.kind = kind)).map (·.name)

theorem leftOut_append (kind : ItemKind) (l l' : List Skip) :
    leftOut kind (l ++ l') = leftOut kind l ++ leftOut kind l' := by
  rw [leftOut, List.filter_append, List.map_append]
  rfl

theorem leftOut_other {kind kind' : ItemKind} {l : List Skip} (h : ∀ skip ∈ l, skip.kind = kind')
    (hne : kind' ≠ kind) : leftOut kind l = [] := by
  have hnone : l.filter (·.kind = kind) = [] := by
    refine List.filter_eq_nil_iff.mpr fun skip hskip => ?_
    rw [h skip hskip]
    simpa using hne
  rw [leftOut, hnone, List.map_nil]

section records

variable {kind : ItemKind} {nameOf : α → String} {reason? : α → Option SkipReason}
  {parts : α → List Skip}

/-- Every item is kept or on record. -/
theorem perm_records (hparts : ∀ item, leftOut kind (parts item) = []) (items : List α) :
    (items.map nameOf).Perm ((items.filter fun item => (reason? item).isNone).map nameOf ++
      leftOut kind (records kind nameOf reason? parts items)) := by
  induction items with
  | nil => exact .refl _
  | cons item rest ih =>
    cases hreason : reason? item with
    | none =>
      rw [records_kept hreason, leftOut_append, hparts, List.nil_append,
        List.filter_cons_of_pos (by simp [hreason])]
      exact ih.cons _
    | some reason =>
      have hcons : leftOut kind (records kind nameOf reason? parts (item :: rest)) =
          nameOf item :: leftOut kind (records kind nameOf reason? parts rest) := by
        rw [records_left hreason, leftOut, List.filter_cons_of_pos (by simp)]
        rfl
      rw [hcons, List.filter_cons_of_neg (by simp [hreason])]
      exact (ih.cons _).trans List.perm_middle.symm

/-- The records of another kind are those of the parts. -/
theorem leftOut_records {kind' : ItemKind} (hne : kind ≠ kind') (items : List α) :
    leftOut kind' (records kind nameOf reason? parts items) =
      (items.filter fun item => (reason? item).isNone).flatMap fun item => leftOut kind' (parts item) := by
  induction items with
  | nil => rfl
  | cons item rest ih =>
    cases hreason : reason? item with
    | none =>
      rw [records_kept hreason, leftOut_append, ih, List.filter_cons_of_pos (by simp [hreason]),
        List.flatMap_cons]
    | some reason =>
      rw [records_left hreason, List.filter_cons_of_neg (by simp [hreason]), ← ih, leftOut,
        List.filter_cons_of_neg (by simpa using hne)]
      rfl

theorem leftOut_records_nil {kind' : ItemKind} (hne : kind ≠ kind')
    (hparts : ∀ item, leftOut kind' (parts item) = []) (items : List α) :
    leftOut kind' (records kind nameOf reason? parts items) = [] := by
  rw [leftOut_records hne]
  exact List.flatMap_eq_nil_iff.mpr fun item _ => hparts item

end records

theorem leftOut_elementRecords {kind : ItemKind} (h : kind ≠ .enumElement) (elements : List EnumElement) :
    leftOut kind (elementRecords s elements) = [] :=
  leftOut_records_nil h.symm (fun _ => rfl) elements

theorem leftOut_enumRecords {kind : ItemKind} (h : kind ≠ .enum) (h' : kind ≠ .enumElement)
    (items : List Metadata.Enum) : leftOut kind (enumRecords s items) = [] := by
  unfold enumRecords
  exact leftOut_records_nil h.symm (fun item => leftOut_elementRecords h' item.elements) items

theorem leftOut_typedefRecords {kind : ItemKind} (h : kind ≠ .typedef) (items : List Typedef) :
    leftOut kind (typedefRecords s items) = [] :=
  leftOut_records_nil h.symm (fun _ => rfl) items

theorem leftOut_fieldRecords {kind : ItemKind} (h : kind ≠ .field) (name : String)
    (fields : List Metadata.Field) : leftOut kind (fieldRecords s name fields) = [] :=
  leftOut_records_nil h.symm (fun _ => rfl) fields

theorem leftOut_structRecords {kind : ItemKind} (h : kind ≠ .struct) (h' : kind ≠ .field)
    (items : List Struct) : leftOut kind (structRecords s items) = [] := by
  unfold structRecords
  refine leftOut_records_nil h.symm (fun item => ?_) items
  exact leftOut_fieldRecords h' item.name item.fields

theorem leftOut_functionRecords {kind : ItemKind} (h : kind ≠ .function) (functions : List Function) :
    leftOut kind (functionRecords s functions) = [] :=
  leftOut_records_nil h.symm (fun _ => rfl) functions

theorem leftOut_erasedRecords_nil {kind : ItemKind} (h : kind ≠ .struct) (all : List (Layout × View)) :
    leftOut kind (erasedRecords all) = [] :=
  leftOut_other (List.forall_mem_map.mpr fun _ _ => rfl) h.symm

theorem leftOut_erasedRecords (all : List (Layout × View)) :
    leftOut .struct (erasedRecords all) = memberless all := by
  unfold leftOut erasedRecords
  rw [List.filter_eq_self.mpr (List.forall_mem_map.mpr fun _ _ => by simp), List.map_map]
  exact List.map_id _

/-! ### Documents -/

/-- The structs without fields that are opaque: custom types, vectors and those under other guards are not. -/
def opaqueItems (s : Symbols) (items : List Struct) : List Struct :=
  items.filter fun item => !s.settings.customTypes.contains item.name &&
    !s.isVectorName item.name && s.admits item.guards && item.fields.isEmpty

/-- The names of the elements of an enum that are on record. -/
def leftElements (s : Symbols) (item : Metadata.Enum) : List String :=
  leftOut .enumElement (elementRecords s item.elements)

/-- The names of the fields of a struct that are on record. -/
def leftFields (s : Symbols) (item : Struct) : List String :=
  leftOut .field (fieldRecords s item.name item.fields)

/-- The own elements of an enum are those of its C# enum after the inherited ones, and those on record. -/
structure EnumAccount (s : Symbols) (item : Metadata.Enum) (made : Decl.Enum) : Prop where
  name : made.head.name = Identifier.ofEnum (baseName item.name)
  elements : ∃ first own, made.elements = first ++ own ∧ (baseName item.name = item.name → first = []) ∧
    (item.elements.map (·.name)).Perm (own.map (·.head.name) ++ leftElements s item)

/-- The fields of a struct are those with an accessor in its view, and those on record. -/
structure PairAccount (s : Symbols) (item : Struct) (pair : Layout × View) : Prop where
  nativeName : pair.1.nativeName = item.name
  fields : (item.fields.map (fieldName item.name)).Perm
    (pair.2.accessors.map (fun accessor => item.name ++ "." ++ accessor.head.name) ++ leftFields s item)

/-- What became of the items of a document, by the names that they have in it. -/
structure Accounts (s : Symbols) (document : Metadata) (b : Bindings) : Prop where
  functions : (document.functions.map (·.name)).Perm
    (b.externs.map (·.head.name) ++ leftOut .function s.skipped)
  structs : (document.structs.map (·.name)).Perm
    (b.structs.map (·.1.nativeName) ++ leftOut .struct s.skipped ++
      (opaqueItems s document.structs).map (·.name))
  enums : (document.enums.map (·.name)).Perm
    ((keptEnums s document.enums).map (·.name) ++ leftOut .enum s.skipped)
  made : List.Forall₂ (EnumAccount s) (keptEnums s document.enums) b.enums
  elements : leftOut .enumElement s.skipped = (keptEnums s document.enums).flatMap (leftElements s)
  pairs : ∃ all, b.structs = all.filter hasMembers ∧
    List.Forall₂ (PairAccount s) (laidOut s document.structs) all
  fields : leftOut .field s.skipped = (laidOut s document.structs).flatMap (leftFields s)

theorem EnumOf.account {item : Metadata.Enum} {made : Decl.Enum} (h : EnumOf s item made) :
    EnumAccount s item made := by
  obtain ⟨first, helements, hown⟩ := h.elements
  refine ⟨h.name, first, _, helements, hown, ?_⟩
  have hnames : ((keptElements s item.elements).map elementOf).map (·.head.name) =
      (keptElements s item.elements).map (·.name) := by
    rw [List.map_map]
    exact List.map_congr_left fun _ _ => Head.name_withComments _ _
  rw [hnames]
  exact perm_records (fun _ => rfl) item.elements

theorem pairAccount {item : Struct} {pair : Layout × View} (hname : pair.1.nativeName = item.name)
    (haccessors : pair.2.accessors.map (·.head.name) = (keptFields s item).map (·.name)) :
    PairAccount s item pair := by
  refine ⟨hname, ?_⟩
  have hnames : pair.2.accessors.map (fun accessor => item.name ++ "." ++ accessor.head.name) =
      (keptFields s item).map (fieldName item.name) := by
    have hmap := congrArg (List.map (item.name ++ "." ++ ·)) haccessors
    rwa [List.map_map, List.map_map] at hmap
  rw [hnames]
  exact perm_records (fun _ => rfl) item.fields

/-- A struct that is not left out has a layout, or it is opaque. -/
theorem perm_opaqueItems (s : Symbols) (items : List Struct) :
    (items.filter fun item => (structSkip? s item).isNone).Perm
      (laidOut s items ++ opaqueItems s items) := by
  have hlaidOut : laidOut s items =
      (items.filter fun item => (structSkip? s item).isNone).filter fun item => !item.fields.isEmpty := by
    rw [List.filter_filter, laidOut]
    exact List.filter_congr fun _ _ => Bool.and_comm _ _
  have hopaque : opaqueItems s items =
      (items.filter fun item => (structSkip? s item).isNone).filter fun item => item.fields.isEmpty := by
    rw [List.filter_filter, opaqueItems]
    refine List.filter_congr fun item _ => ?_
    have hnone : (structSkip? s item).isNone = (!s.settings.customTypes.contains item.name &&
        !s.isVectorName item.name && s.admits item.guards) := by
      unfold structSkip?
      cases s.settings.customTypes.contains item.name <;> cases s.isVectorName item.name <;>
        cases s.admits item.guards <;> rfl
    rw [hnone, Bool.and_comm]
  rw [hlaidOut, hopaque]
  have hsplit := List.filter_append_perm (fun item : Struct => !item.fields.isEmpty)
    (items.filter fun item => (structSkip? s item).isNone)
  simp only [Bool.not_not] at hsplit
  exact hsplit.symm

/-- Opaque structs have no fields to record. -/
theorem flatMap_leftFields (s : Symbols) (items : List Struct) :
    (items.filter fun item => (structSkip? s item).isNone).flatMap (leftFields s) =
      (laidOut s items).flatMap (leftFields s) := by
  induction items with
  | nil => rfl
  | cons item rest ih =>
    unfold laidOut at ih ⊢
    cases hskip : structSkip? s item with
    | some reason =>
      rw [List.filter_cons_of_neg (by simp [hskip]), List.filter_cons_of_neg (by simp [hskip]), ih]
    | none =>
      rw [List.filter_cons_of_pos (by simp [hskip]), List.flatMap_cons]
      cases hfields : item.fields with
      | nil =>
        have hnone : leftFields s item = [] := by
          rw [leftFields, hfields]
          rfl
        rw [hnone, List.nil_append, List.filter_cons_of_neg (by simp [hfields]), ih]
      | cons field fields =>
        rw [List.filter_cons_of_pos (by simp [hskip, hfields]), List.flatMap_cons, ih]

/-- The record of a document, kind by kind. -/
theorem Recorded.accounts {all : List (Layout × View)} (hnone : s.skipped = [])
    (h : Recorded document b all s s') : Accounts s' document b := by
  obtain ⟨defines, hdefines, hskips⟩ := h.skips
  rw [Skips, hnone, List.nil_append] at hskips
  have hfunctions : leftOut .function s'.skipped = leftOut .function (functionRecords s' document.functions) := by
    simp [hskips, leftOut_append, leftOut_other hdefines, leftOut_enumRecords, leftOut_typedefRecords,
      leftOut_structRecords, leftOut_erasedRecords_nil]
  have hstructs : leftOut .struct s'.skipped =
      leftOut .struct (structRecords s' document.structs) ++ memberless all := by
    simp [hskips, leftOut_append, leftOut_other hdefines, leftOut_enumRecords, leftOut_typedefRecords,
      leftOut_functionRecords, leftOut_erasedRecords]
  have henums : leftOut .enum s'.skipped = leftOut .enum (enumRecords s' document.enums) := by
    simp [hskips, leftOut_append, leftOut_other hdefines, leftOut_typedefRecords, leftOut_structRecords,
      leftOut_functionRecords, leftOut_erasedRecords_nil]
  have helements : leftOut .enumElement s'.skipped =
      leftOut .enumElement (enumRecords s' document.enums) := by
    simp [hskips, leftOut_append, leftOut_other hdefines, leftOut_typedefRecords, leftOut_structRecords,
      leftOut_functionRecords, leftOut_erasedRecords_nil]
  have hfields : leftOut .field s'.skipped = leftOut .field (structRecords s' document.structs) := by
    simp [hskips, leftOut_append, leftOut_other hdefines, leftOut_enumRecords, leftOut_typedefRecords,
      leftOut_functionRecords, leftOut_erasedRecords_nil]
  refine ⟨?_, ?_, ?_, ?_, ?_, ?_, ?_⟩
  · rw [hfunctions, h.externs]
    exact perm_records (fun _ => rfl) document.functions
  · have hkept : (document.structs.map (·.name)).Perm
        ((document.structs.filter fun item => (structSkip? s' item).isNone).map (·.name) ++
          leftOut .struct (structRecords s' document.structs)) := by
      refine perm_records (fun item => ?_) document.structs
      exact leftOut_fieldRecords (by decide) item.name item.fields
    have hopaque := (perm_opaqueItems s' document.structs).map (·.name)
    have hlaidOut : all.map (·.1.nativeName) = (laidOut s' document.structs).map (·.name) :=
      forall₂_map_eq h.pairs fun _ _ hpair => hpair.1
    have hmembers := (List.filter_append_perm hasMembers all).map (·.1.nativeName)
    rw [hstructs, h.structs]
    refine List.perm_iff_count.mpr fun name => ?_
    have hkept := hkept.count_eq name
    have hopaque := hopaque.count_eq name
    have hmembers := hmembers.count_eq name
    unfold memberless
    simp only [List.map_append, List.count_append] at hkept hopaque hmembers ⊢
    rw [hlaidOut] at hmembers
    omega
  · rw [henums]
    refine perm_records (fun item => ?_) document.enums
    exact leftOut_elementRecords (by decide) item.elements
  · exact h.enums.imp fun _ _ hof => hof.account
  · rw [helements]
    exact leftOut_records (by simp) document.enums
  · exact ⟨all, h.structs, h.pairs.imp fun _ _ hpair => pairAccount hpair.1 hpair.2⟩
  · rw [hfields, ← flatMap_leftFields]
    exact leftOut_records (by decide) document.structs

/-! ### Summaries -/

/-- The numbers that go with the entries of a summary, taken together. -/
def total (counts : List (SkipReason × Nat)) : Nat := counts.foldr (fun entry sum => entry.2 + sum) 0

/-- How often each reason comes, in the order in which they come first. -/
def countsOf (reasons : List SkipReason) : List (SkipReason × Nat) :=
  reasons.eraseDups.map fun reason => (reason, reasons.count reason)

theorem total_countsOf : (reasons : List SkipReason) → total (countsOf reasons) = reasons.length
  | [] => rfl
  | reason :: rest => by
    have hothers := total_countsOf (rest.filter fun other => !other == reason)
    have hsame : countsOf (reason :: rest) = (reason, rest.count reason + 1) ::
        countsOf (rest.filter fun other => !other == reason) := by
      unfold countsOf
      rw [List.eraseDups_cons, List.map_cons, List.count_cons_self]
      refine congrArg _ (List.map_congr_left fun other hother => ?_)
      have hkept := (List.mem_filter.mp (List.mem_eraseDups.mp hother)).2
      have hne : reason ≠ other := by
        rintro rfl
        simp at hkept
      have hcount : (rest.filter fun other => !other == reason).count other = rest.count other :=
        List.count_filter (p := fun other => !other == reason) hkept
      rw [List.count_cons_of_ne hne, hcount]
    have hlength : rest.length =
        rest.count reason + (rest.filter fun other => !other == reason).length := by
      rw [List.length_eq_countP_add_countP (· == reason), List.count, ← List.countP_eq_length_filter]
      exact congrArg _ (List.countP_congr fun _ _ => by simp)
    rw [hsame]
    show rest.count reason + 1 + total (countsOf _) = rest.length + 1
    omega
termination_by reasons => reasons.length
decreasing_by
  exact Nat.lt_succ_of_le (List.length_filter_le _ _)

/-- The entries of a summary: one for each reason on record, and together as many as there are records. -/
structure SumsUp (skipped : List Skip) (counts : List (SkipReason × Nat)) : Prop where
  distinct : (counts.map (·.1.words)).Nodup
  count : ∀ entry ∈ counts, entry.2 = skipped.countP (·.reason = entry.1) ∧ 0 < entry.2
  covers : ∀ skip ∈ skipped, skip.reason ∈ counts.map (·.1)
  total : total counts = skipped.length

/-- The summary of records, which is left out if there are none. -/
inductive Summarizes (skipped : List Skip) : Option String → Prop
  | none (h : skipped = []) : Summarizes skipped none
  | some {counts} (h : SumsUp skipped counts) : Summarizes skipped (some ("  skipped " ++
      toString skipped.length ++ " items (" ++ String.intercalate ", " (counts.map fun entry =>
        entry.1.words ++ ": " ++ toString entry.2) ++ ")"))

theorem words_injective : Function.Injective SkipReason.words := by
  intro reason other h
  cases reason <;> cases other <;> first | rfl | exact absurd h (by decide)

theorem sumsUp_countsOf (skipped : List Skip) : SumsUp skipped (countsOf (skipped.map (·.reason))) := by
  have hreasons : (countsOf (skipped.map (·.reason))).map (·.1) = (skipped.map (·.reason)).eraseDups := by
    unfold countsOf
    rw [List.map_map]
    exact List.map_id _
  refine ⟨?_, ?_, fun skip hskip => ?_, ?_⟩
  · have hwords := List.Nodup.map words_injective (nodup_eraseDups (skipped.map (·.reason)))
    rwa [← hreasons, List.map_map] at hwords
  · intro entry hentry
    obtain ⟨reason, hreason, rfl⟩ := List.mem_map.mp hentry
    refine ⟨?_, List.count_pos_iff.mpr (List.mem_eraseDups.mp hreason)⟩
    rw [List.count, List.countP_map]
    exact List.countP_congr fun skip _ => by simp
  · rw [hreasons, List.mem_eraseDups]
    exact List.mem_map_of_mem hskip
  · rw [total_countsOf, List.length_map]

theorem summarizes_skipSummary (skipped : List Skip) : Summarizes skipped (Run.skipSummary? skipped) := by
  unfold Run.skipSummary?
  split
  · next hempty => exact .none (List.isEmpty_iff.mp hempty)
  · have hsums := Summarizes.some (sumsUp_countsOf skipped)
    unfold countsOf at hsums
    rwa [List.map_map] at hsums

/-! ### Configurations -/

/--
When a configuration completes, every function, struct, enum, own element of an enum and field of a layout
of its document is declared, or on record, or an opaque struct, as often as it comes, and the summary that
is logged last adds up to the records.
-/
theorem items_accounted {project : Project} {config : Configuration} {state after : RunState}
    {paths : List String}
    (hrun : (ExceptT.run (Run.generate project config)).run state = (.ok paths, after)) :
    ∃ document b s, Generated project config state paths after document b s ∧
      Accounts s document b ∧ ∃ summary, Summarizes s.skipped summary ∧
        after.log = state.log ++ progress project config (startSymbols project state) s ++
          summary.toList := by
  obtain ⟨document, b, s, hgenerated⟩ := generated hrun
  obtain ⟨all, hrecorded⟩ := recorded_bindings hgenerated.builds
  exact ⟨document, b, s, hgenerated, hrecorded.accounts rfl, _, summarizes_skipSummary s.skipped,
    hgenerated.log⟩

/-- A vector, which is left out, and an opaque struct. -/
def vectorState : RunState :=
  structsState "\x7b\"name\":\"ImVector\",\"fields\":[]\x7d,\x7b\"name\":\"Foo\",\"fields\":[]\x7d"

set_option maxRecDepth 2000 in
theorem holds_vectorState : HoldsDocument vectorState.tree (metadataPath plainProject plainConfiguration)
    { structs := [{ name := "ImVector", fields := [] }, { name := "Foo", fields := [] }] } := by
  refine ⟨_, structsValue [.object [("name", .text "ImVector"), ("fields", .array [])],
    .object [("name", .text "Foo"), ("fields", .array [])]], rfl, ?_, rfl⟩
  apply Json.Value.read_of_toList
  · repeat' first | with_reducible exact String.toList_ofList | apply Text.toList_append_eq
  · rfl

theorem items_accounted_vector :
    ∃ paths after, (ExceptT.run (Run.generate plainProject plainConfiguration)).run vectorState =
        (.ok paths, after) ∧
      after.log = ["  a.json => N", "  skipped 1 items (vector family: 1)"] ∧
      ∃ document b s, Generated plainProject plainConfiguration vectorState paths after document b s ∧
        Accounts s document b ∧ ∃ summary, Summarizes s.skipped summary ∧
          after.log = vectorState.log ++
            progress plainProject plainConfiguration (startSymbols plainProject vectorState) s ++
            summary.toList := by
  obtain ⟨paths, after, hrun, hlog⟩ := run_exists_ok
    (Run.generate plainProject plainConfiguration) vectorState (fun _ after => after.log)
    (show _ = some ["  a.json => N", "  skipped 1 items (vector family: 1)"] by
      rw [run_generate, readOutcome_eq_ok.mpr holds_vectorState]
      decide +kernel)
  exact ⟨paths, after, hrun, hlog, items_accounted hrun⟩

end InteropGen.Generate

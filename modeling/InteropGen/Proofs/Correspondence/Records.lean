import InteropGen.Proofs.Correspondence.Enrolled
import InteropGen.Proofs.Correspondence.Ledgers

/-!
# The records of what is left out

Every generator asks for each of its items why it may be left out, and records the item if there is a
reason. `records` is the list of these records for a list of items, those of their parts among them, and
`Skips l s s'` says that exactly `l` was added to the record. A lemma `skips_…` gives the list for each
generator, by the reasons at the symbols `s₀` that it started from; `skips_bindings` is the record of a
whole document. The wrappers ask for the same reasons as the imported functions and record nothing.
-/

namespace InteropGen.Generate

open Metadata Decl Build Symbols

variable {s₀ s s' s'' : Symbols} {st st' : Scoped} {l l' : List Skip} {α : Type}

/-! ### Lists of records -/

/-- The records of items: of one that is left out, or else of its parts. -/
def records (kind : ItemKind) (nameOf : α → String) (reason? : α → Option SkipReason)
    (parts : α → List Skip) (items : List α) : List Skip :=
  items.flatMap fun item =>
    match reason? item with
    | some reason => [⟨kind, nameOf item, reason⟩]
    | none => parts item

section records

variable {kind : ItemKind} {nameOf : α → String} {reason? : α → Option SkipReason}
  {parts : α → List Skip} {item : α} {items : List α}

theorem records_left {reason : SkipReason} (h : reason? item = some reason) :
    records kind nameOf reason? parts (item :: items) =
      ⟨kind, nameOf item, reason⟩ :: records kind nameOf reason? parts items := by
  rw [records, List.flatMap_cons, h]
  rfl

theorem records_kept (h : reason? item = none) :
    records kind nameOf reason? parts (item :: items) =
      parts item ++ records kind nameOf reason? parts items := by
  rw [records, List.flatMap_cons, h]
  rfl

theorem records_append (items items' : List α) :
    records kind nameOf reason? parts (items ++ items') =
      records kind nameOf reason? parts items ++ records kind nameOf reason? parts items' :=
  List.flatMap_append

end records

/-! ### Adding to the record -/

/-- The items of the list were left out, and no others. -/
def Skips (l : List Skip) (s s' : Symbols) : Prop := s'.skipped = s.skipped ++ l

theorem Skips.of_same (h : SameSkips s s') : Skips [] s s' := h.trans (List.append_nil _).symm

theorem Skips.append (h : Skips l s s') (h' : Skips l' s' s'') : Skips (l ++ l') s s'' := by
  unfold Skips at h h' ⊢
  rw [h', h, List.append_assoc]

theorem Skips.quietly (h : Skips l s s') (h' : SameSkips s' s'') : Skips l s s'' :=
  h'.trans h

theorem Skips.after (h : SameSkips s s') (h' : Skips l s' s'') : Skips l s s'' := by
  unfold Skips at h' ⊢
  rw [h', h]

theorem skips_skip (s : Symbols) (kind : ItemKind) (name : String) (reason : SkipReason) :
    Skips [⟨kind, name, reason⟩] s (s.skip kind name reason) :=
  rfl

/-- Only items of one kind were left out. -/
def SkipsOnly (kind : ItemKind) (s s' : Symbols) : Prop :=
  ∃ l, Skips l s s' ∧ ∀ skip ∈ l, skip.kind = kind

instance {kind : ItemKind} : Std.Refl (SkipsOnly kind) :=
  ⟨fun _ => ⟨[], .of_same rfl, fun _ h => absurd h List.not_mem_nil⟩⟩

instance {kind : ItemKind} : IsTrans Symbols (SkipsOnly kind) := by
  constructor
  rintro s s' s'' ⟨l, hl, hkind⟩ ⟨l', hl', hkind'⟩
  refine ⟨l ++ l', hl.append hl', fun skip hmem => ?_⟩
  rcases List.mem_append.mp hmem with h | h
  · exact hkind skip h
  · exact hkind' skip h

/-! ### Constants -/

theorem skips_addDefine (deep : Bool) (run : ConstantRun) (define : Define) :
    SkipsOnly .define run.symbols (run.addDefine deep define).symbols := by
  unfold ConstantRun.addDefine
  split
  · dsimp only
    split
    · exact Std.Refl.refl _
    · exact ⟨[], .of_same rfl, fun _ h => absurd h List.not_mem_nil⟩
  · exact ⟨_, skips_skip _ _ _ _, by simp⟩

theorem skips_addGroup (defines : List Define) (run : ConstantRun) (depth : Nat) :
    SkipsOnly .define run.symbols (run.addGroup defines depth).symbols := by
  have hgroup := related_foldl (R := SkipsOnly .define) ConstantRun.symbols
    (skips_addDefine (2 ≤ depth)) (defines.filter fun define => define.guards.length = depth) run
  have hpublish : ∀ run : ConstantRun, SkipsOnly .define run.symbols run.publish.symbols :=
    fun _ => ⟨[], .of_same rfl, fun _ h => absurd h List.not_mem_nil⟩
  exact IsTrans.trans _ _ _ hgroup (hpublish _)

theorem skips_constants (defines : List Define) (s : Symbols) :
    SkipsOnly .define s (constants defines s).2 :=
  related_foldl ConstantRun.symbols (skips_addGroup defines) (guardDepths defines)
    { symbols := s, constants := s.settings.knownDefines.map (seedConstant s) }

/-! ### Enums -/

/-- The reason to leave out an item whose guards do not hold. -/
def guardSkip? (s : Symbols) (guards : List Guard) : Option SkipReason :=
  if s.admits guards then none else some .guards

theorem guardSkip?_rules (h : SameRules s s') (guards : List Guard) :
    guardSkip? s' guards = guardSkip? s guards := by
  rw [guardSkip?, guardSkip?, h.admits]

theorem guardSkip?_admitted (h₀ : SameRules s₀ s) {guards : List Guard} (h : s.admits guards = true) :
    guardSkip? s₀ guards = none := by
  rw [← guardSkip?_rules h₀, guardSkip?, if_pos h]

theorem guardSkip?_left (h₀ : SameRules s₀ s) {guards : List Guard} (h : s.admits guards = false) :
    guardSkip? s₀ guards = some .guards := by
  rw [← guardSkip?_rules h₀, guardSkip?, if_neg (by simp [h])]

/-- The reason to leave out an element. -/
def elementSkip? (s : Symbols) (element : EnumElement) : Option SkipReason :=
  guardSkip? s element.guards

/-- The reason to leave out an enum. -/
def enumSkip? (s : Symbols) (item : Metadata.Enum) : Option SkipReason := guardSkip? s item.guards

/-- The records of the elements of an enum. -/
def elementRecords (s : Symbols) (elements : List EnumElement) : List Skip :=
  records .enumElement (·.name) (elementSkip? s) (fun _ => []) elements

/-- The records of enums and of their elements. -/
def enumRecords (s : Symbols) (items : List Metadata.Enum) : List Skip :=
  records .enum (·.name) (enumSkip? s) (elementRecords s ·.elements) items

/-- The element of a C# enum for an element. -/
def elementOf (element : EnumElement) : Decl.Element :=
  ⟨Head.withComments { name := element.name } element.comments, elementValue element⟩

/-- The elements that are not left out. -/
def keptElements (s : Symbols) (elements : List EnumElement) : List EnumElement :=
  elements.filter fun element => (elementSkip? s element).isNone

/-- Elements are entered or recorded, one after the other. -/
structure EntersElements (s₀ : Symbols) (items : List EnumElement) (run run' : EnumRun) : Prop where
  rules : SameRules run.symbols run'.symbols
  elements : run'.elements = run.elements ++ (keptElements s₀ items).map elementOf
  skips : Skips (elementRecords s₀ items) run.symbols run'.symbols

theorem enters_elements {name : String} {run : EnumRun} (h₀ : SameRules s₀ run.symbols)
    (items : List EnumElement) :
    EntersElements s₀ items run (items.foldl (EnumRun.addElement name) run) := by
  induction items generalizing run with
  | nil => exact ⟨⟨rfl, rfl⟩, (List.append_nil _).symm, .of_same rfl⟩
  | cons element rest ih =>
    rw [List.foldl_cons]
    cases hguards : run.symbols.admits element.guards with
    | true =>
      have hkept : elementSkip? s₀ element = none := guardSkip?_admitted h₀ hguards
      have hadded : (run.addElement name element).elements = run.elements ++ [elementOf element] ∧
          SameRules run.symbols (run.addElement name element).symbols ∧
          SameSkips run.symbols (run.addElement name element).symbols := by
        unfold EnumRun.addElement
        dsimp only
        rw [if_pos hguards]
        exact ⟨rfl, ⟨rfl, rfl⟩, rfl⟩
      obtain ⟨helements, hrules, hskips⟩ := hadded
      have hrest := ih (h₀.trans hrules)
      refine ⟨hrules.trans hrest.rules, ?_, ?_⟩
      · have hcons : keptElements s₀ (element :: rest) = element :: keptElements s₀ rest :=
          List.filter_cons_of_pos (by simp [hkept])
        rw [hrest.elements, helements, List.append_assoc, hcons]
        rfl
      · rw [elementRecords, records_kept hkept]
        exact .after hskips hrest.skips
    | false =>
      have hleft : elementSkip? s₀ element = some .guards := guardSkip?_left h₀ hguards
      have hadded : run.addElement name element =
          { run with symbols := run.symbols.skip .enumElement element.name .guards } := by
        unfold EnumRun.addElement
        dsimp only
        rw [if_neg (by simp [hguards])]
      rw [hadded]
      have hrest := @ih { run with symbols := run.symbols.skip .enumElement element.name .guards }
        ⟨h₀.settings, h₀.defines⟩
      refine ⟨⟨hrest.rules.settings, hrest.rules.defines⟩, ?_, ?_⟩
      · have hcons : keptElements s₀ (element :: rest) = keptElements s₀ rest :=
          List.filter_cons_of_neg (by simp [hleft])
        rw [hrest.elements, hcons]
      · rw [elementRecords, records_left hleft]
        exact (skips_skip run.symbols _ _ _).append hrest.skips

/-- The C# enum of an enum: what it inherits, then its own elements that are not left out. -/
structure EnumOf (s : Symbols) (item : Metadata.Enum) (made : Decl.Enum) : Prop where
  name : made.head.name = Identifier.ofEnum (baseName item.name)
  elements : ∃ first, made.elements = first ++ (keptElements s item.elements).map elementOf ∧
    (baseName item.name = item.name → first = [])

/-- The enums that are not left out. -/
def keptEnums (s : Symbols) (items : List Metadata.Enum) : List Metadata.Enum :=
  items.filter fun item => (enumSkip? s item).isNone

theorem rules_enumStarted (item : Metadata.Enum) (s : Symbols) : SameRules s (enumStarted item s) := by
  have hregistered := (quiet_enumRegistered item s).rules
  rcases enumStarted_cases item s with ⟨heq, -⟩ | heq <;> rw [heq]
  · exact hregistered
  · exact ⟨hregistered.settings, hregistered.defines⟩

theorem sameSkips_enumStarted (item : Metadata.Enum) (s : Symbols) : SameSkips s (enumStarted item s) := by
  rcases enumStarted_cases item s with ⟨heq, -⟩ | heq <;> rw [heq] <;> rfl

theorem inherited_of_own {item : Metadata.Enum} (h : baseName item.name = item.name) :
    inherited item s = [] := by
  unfold inherited
  dsimp only
  rw [if_pos h]
  rfl

/-- Enums are made or recorded, one after the other. -/
structure MakesEnums (s₀ : Symbols) (items : List Metadata.Enum) (made : List Decl.Enum)
    (s s' : Symbols) : Prop where
  rules : SameRules s s'
  enums : List.Forall₂ (EnumOf s₀) (keptEnums s₀ items) made
  skips : Skips (enumRecords s₀ items) s s'

theorem makes_enums (h₀ : SameRules s₀ s) (items : List Metadata.Enum) :
    MakesEnums s₀ items (enums items s).1 s (enums items s).2 := by
  induction items generalizing s with
  | nil => exact ⟨⟨rfl, rfl⟩, .nil, .of_same rfl⟩
  | cons item rest ih =>
    show MakesEnums s₀ (item :: rest) ((enum item s).1.toList ++ (enums rest (enum item s).2).1) s
      (enums rest (enum item s).2).2
    cases hguards : s.admits item.guards with
    | true =>
      have hkept : enumSkip? s₀ item = none := guardSkip?_admitted h₀ hguards
      have hstart := rules_enumStarted item s
      have hown : EntersElements s₀ item.elements ⟨enumStarted item s, inherited item s⟩
          (enumRun item s) := enters_elements (h₀.trans hstart) item.elements
      have hrules := hstart.trans hown.rules
      have hrest := ih (h₀.trans hrules)
      rw [enum_made hguards]
      refine ⟨hrules.trans hrest.rules, ?_, ?_⟩
      · rw [keptEnums, List.filter_cons_of_pos (by simp [hkept])]
        refine .cons ⟨name_enumHead item, _, hown.elements, inherited_of_own⟩ hrest.enums
      · rw [enumRecords, records_kept hkept]
        exact (Skips.after (sameSkips_enumStarted item s) hown.skips).append hrest.skips
    | false =>
      have hleft : enumSkip? s₀ item = some .guards := guardSkip?_left h₀ hguards
      rw [enum_left hguards]
      have hrest := @ih (s.skip .enum item.name .guards) ⟨h₀.settings, h₀.defines⟩
      refine ⟨⟨hrest.rules.settings, hrest.rules.defines⟩, ?_, ?_⟩
      · rw [keptEnums, List.filter_cons_of_neg (by simp [hleft])]
        exact hrest.enums
      · rw [enumRecords, records_left hleft]
        exact (skips_skip s _ _ _).append hrest.skips

/-! ### Typedefs -/

/-- The reason to leave out a typedef: only what is no callback type may be an alias of flags. -/
def typedefSkip? (s : Symbols) (item : Typedef) : Option SkipReason :=
  if !s.admits item.guards then some .guards
  else if item.info.type.callback?.isNone && namesFlags item.name then some .flagsAlias
  else none

/-- The records of typedefs. -/
def typedefRecords (s : Symbols) (items : List Typedef) : List Skip :=
  records .typedef (·.name) (typedefSkip? s) (fun _ => []) items

theorem skips_typedef {item : Typedef} (h₀ : SameRules s₀ s)
    (hrun : (typedef item).runOn s = (.ok (), s')) : Skips (typedefRecords s₀ [item]) s s' := by
  obtain ⟨state, middle, hget, hrun⟩ := ok_bind.mp hrun
  obtain ⟨rfl, rfl⟩ := ok_get.mp hget
  unfold typedefRecords
  cases hguards : s.admits item.guards with
  | false =>
    have hleft : typedefSkip? s₀ item = some .guards := by
      rw [typedefSkip?, ← h₀.admits, hguards]
      rfl
    rw [if_pos (by simp [hguards])] at hrun
    obtain ⟨-, rfl⟩ := ok_lift.mp hrun
    rw [records_left hleft]
    exact skips_skip _ _ _ _
  | true =>
    have hadmits : s₀.admits item.guards = true := by rw [← h₀.admits, hguards]
    rw [if_neg (by simp [hguards])] at hrun
    split at hrun
    · next target htarget =>
      have hkept : typedefSkip? s₀ item = none := by
        simp [typedefSkip?, hadmits, htarget]
      obtain ⟨_, after, hregister, hrun⟩ := ok_bind.mp hrun
      obtain ⟨-, rfl⟩ := ok_pure.mp hrun
      rw [records_kept hkept]
      exact .of_same ((skipsWalk.register _ trivial).of_ok hregister)
    · next hcallback =>
      split at hrun
      · next hflags =>
        have hleft : typedefSkip? s₀ item = some .flagsAlias := by
          simp [typedefSkip?, hadmits, hcallback, hflags]
        obtain ⟨-, rfl⟩ := ok_lift.mp hrun
        rw [records_left hleft]
        exact skips_skip _ _ _ _
      · next hflags =>
        have hkept : typedefSkip? s₀ item = none := by
          simp [typedefSkip?, hadmits, hflags]
        obtain ⟨id, after, hid, hrun⟩ := ok_bind.mp hrun
        obtain ⟨-, rfl⟩ := ok_lift.mp hrun
        rw [records_kept hkept]
        exact .of_same (((sameSkips_resolve none _).of_ok hid : SameSkips s after))

theorem skips_typedefs {items : List Typedef} (h₀ : SameRules s₀ s)
    (hrun : (typedefs items).runOn s = (.ok (), s')) : Skips (typedefRecords s₀ items) s s' := by
  induction items generalizing s with
  | nil =>
    obtain ⟨-, rfl⟩ := ok_pure.mp hrun
    exact .of_same rfl
  | cons item rest ih =>
    have hsteps : (typedef item >>= fun _ => typedefs rest).runOn s = (.ok (), s') := hrun
    obtain ⟨⟨⟩, middle, hfirst, hrest⟩ := ok_bind.mp hsteps
    have hrules := h₀.trans (enrolls_typedef (.refl s) hfirst).grows.rules
    have happend := (skips_typedef h₀ hfirst).append (ih hrules hrest)
    unfold typedefRecords at happend ⊢
    rwa [← records_append, List.singleton_append] at happend

/-! ### Structs -/

/-- The name of a field on record. -/
def fieldName (nativeName : String) (field : Metadata.Field) : String := nativeName ++ "." ++ field.name

/-- The records of the fields of a struct. -/
def fieldRecords (s : Symbols) (nativeName : String) (fields : List Metadata.Field) : List Skip :=
  records .field (fieldName nativeName) (fieldSkip? s) (fun _ => []) fields

/-- The records of structs and of their fields. -/
def structRecords (s : Symbols) (items : List Struct) : List Skip :=
  records .struct (·.name) (structSkip? s) (fun item => fieldRecords s item.name item.fields) items

theorem skips_layoutFields {nativeName structName : String} {fields : List Metadata.Field}
    {parts : List (List Decl.Field × Accessor)} (h₀ : SameRules s₀ s)
    (hrun : (layoutFields nativeName structName fields).runOn s = (.ok parts, s')) :
    Skips (fieldRecords s₀ nativeName fields) s s' := by
  unfold fieldRecords
  induction fields generalizing parts s with
  | nil =>
    obtain ⟨-, rfl⟩ := ok_pure.mp hrun
    exact .of_same rfl
  | cons field rest ih =>
    obtain ⟨state, middle, hget, hrun⟩ := ok_bind.mp hrun
    obtain ⟨rfl, rfl⟩ := ok_get.mp hget
    split at hrun
    · next reason hreason =>
      obtain ⟨_, middle, hskip, hrun⟩ := ok_bind.mp hrun
      obtain ⟨-, rfl⟩ := ok_lift.mp hskip
      have hquiet := quiet_skip s .field (nativeName ++ "." ++ field.name) reason
      rw [fieldSkip?_rules h₀] at hreason
      rw [records_left hreason]
      exact (skips_skip s _ _ _).append (ih (h₀.trans hquiet.rules) hrun)
    · next hreason =>
      obtain ⟨first, middle, hfirst, hrun⟩ := ok_bind.mp hrun
      obtain ⟨others, after, hothers, hrun⟩ := ok_bind.mp hrun
      obtain ⟨-, rfl⟩ := ok_pure.mp hrun
      have hsame : SameSkips s middle :=
        (walk_layoutField skipsWalk trivial (fun _ _ => trivial) structName).of_ok hfirst
      rw [fieldSkip?_rules h₀] at hreason
      rw [records_kept hreason]
      exact .after hsame (ih (h₀.trans (enrolls_layoutField hfirst).grows.rules) hothers)

theorem sameSkips_announced (item : Struct) (s : Symbols) : SameSkips s (announced item s) := by
  unfold announced
  split
  · unfold addOpaque
    split <;> rfl
  · rfl

theorem skips_announcedPair {item : Struct} {target : WrapperClass} {functions : List Function}
    {made : Option (Layout × View)} (h₀ : SameRules s₀ st.symbols)
    (hrun : (announcedPair target item functions).runOn st = (.ok made, st')) :
    Skips (fieldRecords s₀ item.name item.fields) st.symbols st'.symbols := by
  unfold announcedPair at hrun
  split at hrun
  · next hempty =>
    obtain ⟨-, rfl⟩ := ok_pure.mp hrun
    rw [List.isEmpty_iff.mp hempty]
    exact .of_same rfl
  · obtain ⟨state, first, hget, hrun⟩ := ok_bind.mp hrun
    obtain ⟨rfl, rfl⟩ := ok_get.mp hget
    obtain ⟨parts, second, hscoped, hrun⟩ := ok_bind.mp hrun
    obtain ⟨symbols, hparts, rfl⟩ := ok_onSymbols.mp hscoped
    obtain ⟨_, third, hclass, hrun⟩ := ok_bind.mp hrun
    obtain ⟨methods, last, hmethods, hrun⟩ := ok_bind.mp hrun
    obtain ⟨-, rfl⟩ := ok_pure.mp hrun
    have hbegun : SameSkips symbols third.symbols :=
      (preserves_beginClass (R := SameSkips)).of_ok hclass
    have hwrapped : SameSkips third.symbols last.symbols :=
      (walk_methodWrappers unskippedTypes target _
        fun _ _ => ⟨trivial, fun _ _ _ _ => trivial⟩).of_ok hmethods
    exact ((skips_layoutFields h₀ hparts).quietly hbegun).quietly hwrapped

theorem skips_struct {item : Struct} {target : WrapperClass} {functions : List Function}
    {made : Option (Layout × View)} (h₀ : SameRules s₀ st.symbols)
    (hrun : (struct target item functions).runOn st = (.ok made, st')) :
    Skips (structRecords s₀ [item]) st.symbols st'.symbols := by
  unfold structRecords
  cases hskip : structSkip? st.symbols item with
  | some reason =>
    rw [runOn_struct_left hskip] at hrun
    obtain rfl := congrArg Prod.snd hrun
    rw [structSkip?_rules h₀] at hskip
    rw [records_left hskip]
    exact skips_skip st.symbols _ _ _
  | none =>
    rw [runOn_struct_kept hskip] at hrun
    rw [structSkip?_rules h₀] at hskip
    have hrules := h₀.trans (quiet_announced item st.symbols).rules
    have hpair : Skips (fieldRecords s₀ item.name item.fields) (announced item st.symbols) st'.symbols :=
      skips_announcedPair hrules hrun
    rw [records_kept hskip, show records _ _ _ _ [] = [] from rfl, List.append_nil]
    exact .after (sameSkips_announced item st.symbols) hpair

theorem skips_structs {items : List Struct} {target : WrapperClass} {functions : List Function}
    {pairs : List (Layout × View)} (h₀ : SameRules s₀ st.symbols)
    (hrun : (structs target functions items).runOn st = (.ok pairs, st')) :
    Skips (structRecords s₀ items) st.symbols st'.symbols := by
  induction items generalizing pairs st with
  | nil =>
    obtain ⟨-, rfl⟩ := ok_pure.mp hrun
    exact .of_same rfl
  | cons item rest ih =>
    obtain ⟨first, middle, hfirst, hrun⟩ := ok_bind.mp hrun
    obtain ⟨others, after, hothers, hrun⟩ := ok_bind.mp hrun
    obtain ⟨-, rfl⟩ := ok_pure.mp hrun
    have hrules := h₀.trans (enrolls_struct (.refl _) hfirst).grows.rules
    have happend := (skips_struct h₀ hfirst).append (ih hrules hothers)
    unfold structRecords at happend ⊢
    rwa [← records_append, List.singleton_append] at happend

/-! ### Functions -/

/-- The records of functions. -/
def functionRecords (s : Symbols) (functions : List Function) : List Skip :=
  records .function (·.name) (skipReason? s) (fun _ => []) functions

theorem skips_externMethod {function : Function} {made : Option Method} (h₀ : SameRules s₀ s)
    (hrun : (externMethod function).runOn s = (.ok made, s')) :
    Skips (functionRecords s₀ [function]) s s' := by
  unfold functionRecords
  obtain ⟨state, middle, hget, hrun⟩ := ok_bind.mp hrun
  obtain ⟨rfl, rfl⟩ := ok_get.mp hget
  split at hrun
  · next reason hreason =>
    obtain ⟨_, after, hskip, hrun⟩ := ok_bind.mp hrun
    obtain ⟨-, rfl⟩ := ok_lift.mp hskip
    obtain ⟨-, rfl⟩ := ok_pure.mp hrun
    rw [skipReason?_rules h₀] at hreason
    rw [records_left hreason]
    exact skips_skip s _ _ _
  · next hreason =>
    obtain ⟨parameters, middle, hparameters, hrun⟩ := ok_bind.mp hrun
    obtain ⟨state, before, hget, hrun⟩ := ok_bind.mp hrun
    obtain ⟨rfl, rfl⟩ := ok_get.mp hget
    obtain ⟨id, after, hid, hrun⟩ := ok_bind.mp hrun
    obtain ⟨-, rfl⟩ := ok_pure.mp hrun
    have hsame : SameSkips s middle := (walk_externParameters skipsWalk (fun _ _ _ _ => trivial)
      fun _ _ _ _ _ _ => trivial).of_ok hparameters
    have hresult : SameSkips middle after := (sameSkips_resolve none _).of_ok hid
    rw [skipReason?_rules h₀] at hreason
    rw [records_kept hreason]
    exact .of_same (IsTrans.trans _ _ _ hsame hresult)

theorem skips_externMethods {functions : List Function} {methods : List Method} (h₀ : SameRules s₀ s)
    (hrun : (externMethods functions).runOn s = (.ok methods, s')) :
    Skips (functionRecords s₀ functions) s s' := by
  obtain ⟨made, after, hmade, hrest⟩ := ok_bind.mp hrun
  obtain ⟨-, rfl⟩ := ok_pure.mp hrest
  clear hrun hrest
  induction functions generalizing made s with
  | nil =>
    rw [List.mapM_nil] at hmade
    obtain ⟨-, rfl⟩ := ok_pure.mp hmade
    exact .of_same rfl
  | cons function rest ih =>
    rw [List.mapM_cons] at hmade
    obtain ⟨first, middle, hfirst, hmade⟩ := ok_bind.mp hmade
    obtain ⟨others, after, hothers, hmade⟩ := ok_bind.mp hmade
    obtain ⟨-, rfl⟩ := ok_pure.mp hmade
    have hrules := h₀.trans (enrolls_externMethod (.refl s) hfirst).grows.rules
    have happend := (skips_externMethod h₀ hfirst).append (ih hrules others hothers)
    unfold functionRecords at happend ⊢
    rwa [← records_append, List.singleton_append] at happend

/-! ### Settling -/

/-- The records of the structs whose layout has no members. -/
def erasedRecords (pairs : List (Layout × View)) : List Skip :=
  (memberless pairs).map fun name => ⟨.struct, name, .noFields⟩

theorem sameSkips_erase (s : Symbols) (name : String) : SameSkips s (s.erase name) := by
  have hadded : SameSkips s (s.addOpaque name) := by
    unfold addOpaque
    split <;> rfl
  unfold Symbols.erase
  dsimp only
  split
  · exact hadded
  · exact hadded

theorem skips_keepLaidOut {pairs kept : List (Layout × View)}
    (hrun : (keepLaidOut (fun pair => .ok (emptyLayout? pair)) pairs).runOn s = (.ok kept, s')) :
    Skips (erasedRecords pairs) s s' := by
  induction pairs generalizing kept s with
  | nil =>
    obtain ⟨-, rfl⟩ := ok_pure.mp hrun
    exact .of_same rfl
  | cons pair rest ih =>
    unfold keepLaidOut at hrun
    obtain ⟨empty, middle, hlayout, hrun⟩ := ok_bind.mp hrun
    obtain ⟨hempty, rfl⟩ := ok_ofExcept.mp hlayout
    obtain rfl := Except.ok.inj hempty
    unfold erasedRecords memberless
    cases hfields : pair.1.fields with
    | nil =>
      have hout : emptyLayout? pair = some pair.1.nativeName := by simp [emptyLayout?, hfields]
      rw [hout] at hrun
      obtain ⟨_, after, hskip, hrun⟩ := ok_bind.mp hrun
      obtain ⟨-, rfl⟩ := ok_lift.mp hskip
      rw [List.filter_cons_of_pos (by simp [hasMembers, hfields])]
      have hpair : Skips [⟨.struct, pair.1.nativeName, .noFields⟩] s
          ((s.erase pair.1.nativeName).skip .struct pair.1.nativeName .noFields) :=
        .after (sameSkips_erase s _) (skips_skip _ _ _ _)
      exact hpair.append (ih hrun)
    | cons field fields =>
      have hin : emptyLayout? pair = none := by simp [emptyLayout?, hfields]
      rw [hin] at hrun
      obtain ⟨others, after, hothers, hrun⟩ := ok_bind.mp hrun
      obtain ⟨-, rfl⟩ := ok_pure.mp hrun
      rw [List.filter_cons_of_neg (by simp [hasMembers, hfields])]
      exact ih hothers

/-! ### Documents -/

/-- Settling drops and records the structs whose layout has no members. -/
theorem skips_settle {b b' : Bindings} (hrun : (settle b).runOn s = (.ok b', s')) :
    b' = { b with structs := b.structs.filter hasMembers } ∧ SameRules s s' ∧
      Skips (erasedRecords b.structs) s s' := by
  obtain ⟨kept, erased, hkeep, hrun⟩ := ok_bind.mp hrun
  obtain ⟨_, bound, hbind, hrun⟩ := ok_bind.mp hrun
  obtain ⟨-, rfl⟩ := ok_lift.mp hbind
  obtain ⟨rfl, rfl⟩ := ok_pure.mp hrun
  obtain ⟨erased', hspec, herases⟩ := keepLaidOut_spec b.structs s
  obtain ⟨rfl, rfl⟩ : _ = kept ∧ erased' = erased := by simpa using hspec.symm.trans hkeep
  have hrules : SameRules erased' (resolvePending erased').2 :=
    walk_resolvePending ⟨fun _ => ⟨rfl, rfl⟩, fun _ => ⟨rfl, rfl⟩, fun _ _ _ => ⟨rfl, rfl⟩,
      fun _ _ => ⟨rfl, rfl⟩⟩ erased'
  have hsame : SameSkips erased' (resolvePending erased').2 :=
    walk_resolvePending (R := SameSkips) ⟨fun _ => rfl, fun _ => rfl, fun _ _ _ => rfl,
      fun _ _ => rfl⟩ erased'
  exact ⟨rfl, SameRules.trans ⟨herases.settings, herases.defines⟩ hrules,
    (skips_keepLaidOut hkeep).quietly hsame⟩

/--
What was made and what was left out of a document, by the reasons that hold in the end. `all` are the pairs
of all structs with a layout, those without members among them.
-/
structure Recorded (document : Metadata) (b : Bindings) (all : List (Layout × View)) (s s' : Symbols) :
    Prop where
  structs : b.structs = all.filter hasMembers
  pairs : List.Forall₂ (fun item pair => pair.1.nativeName = item.name ∧
      pair.2.accessors.map (·.head.name) = (keptFields s' item).map (·.name))
    (laidOut s' document.structs) all
  externs : b.externs.map (·.head.name) = (imported s' document.functions).map (·.name)
  enums : List.Forall₂ (EnumOf s') (keptEnums s' document.enums) b.enums
  skips : ∃ defines, (∀ skip ∈ defines, skip.kind = .define) ∧
    Skips (defines ++ enumRecords s' document.enums ++ typedefRecords s' document.typedefs ++
      structRecords s' document.structs ++ functionRecords s' document.functions ++
      erasedRecords all) s s'

theorem laidOut_rules (h : SameRules s s') (items : List Struct) : laidOut s' items = laidOut s items := by
  rw [laidOut, laidOut, funext (structSkip?_rules h)]

theorem imported_rules (h : SameRules s s') (functions : List Function) :
    imported s' functions = imported s functions := by
  rw [imported, imported, funext (skipReason?_rules h)]

theorem keptFields_rules (h : SameRules s s') (item : Struct) : keptFields s' item = keptFields s item := by
  rw [keptFields, keptFields, funext (fieldSkip?_rules h)]

theorem FieldOf.name {R : Origin → TypeId → Prop} {field : Metadata.Field}
    {part : List Decl.Field × Accessor} (h : FieldOf R s field part) : part.2.head.name = field.name := by
  cases h <;> exact Head.name_withComments _ _

theorem recorded_bindings {nativeClass : String} {document : Metadata} {b : Bindings}
    (hrun : (bindings nativeClass document).runOn s = (.ok b, s')) :
    ∃ all, Recorded document b all s s' := by
  rw [bindings_eq] at hrun
  obtain ⟨built, middle, hdeclared, hsettle⟩ := ok_bind.mp hrun
  obtain ⟨rfl, hsettled, herased⟩ := skips_settle hsettle
  have henums := enums_declared hdeclared
  obtain ⟨typed, paired, imports, wrapped, hstages, rfl⟩ := stages_of_declared hdeclared
  -- From the opened symbols to the last ones, the rules stay; the reasons may be taken at the end.
  have htyped := (registers_declared_typedefs document).of_ok hstages.typedefs
  have hpaired : Registers (CallbackOf document) typed paired.symbols :=
    (registers_declared_structs _ fun _ hitem => hitem).of_ok hstages.structs
  have himports := (registers_declared_externs document).of_ok hstages.externs
  have hwrapped := (quiet_mainWrappers _ _).of_ok hstages.mainWrappers
  have hlast : SameRules imports s' := hwrapped.rules.trans hsettled
  have hafter : SameRules paired.symbols s' := himports.1.rules.trans hlast
  have hmiddle : SameRules typed s' := hpaired.1.rules.trans hafter
  have hopened : SameRules (opened document s) s' := htyped.1.rules.trans hmiddle
  have hmakes := makes_enums (s := (constants document.defines s).2)
    (hopened.symm.trans (makes_enums (.refl _) document.enums).rules.symm) document.enums
  obtain ⟨defines, hdefines, hkind⟩ := skips_constants document.defines s
  refine ⟨built.structs, rfl, ?_, ?_, henums ▸ hmakes.enums, defines, hkind, ?_⟩
  · rw [laidOut_rules hopened]
    refine (pairsOf htyped.1 (.refl _) hstages.structs).imp fun item pair hpair => ?_
    obtain ⟨parts, hparts, -, haccessors⟩ := hpair.fields
    refine ⟨hpair.nativeName, ?_⟩
    rw [haccessors, keptFields_rules hopened, List.map_map]
    exact forall₂_map_eq hparts fun _ _ hfield => hfield.name
  · rw [imported_rules hopened]
    have hgrows := htyped.1.trans hpaired.1
    exact forall₂_map_eq (externsOf hgrows hgrows hstages.externs) fun _ _ hextern => hextern.name
  · have hsame : SameSkips imports wrapped.symbols := (walk_mainWrappers unskippedTypes _
      fun _ _ => ⟨trivial, fun _ _ _ _ => trivial⟩).of_ok hstages.mainWrappers
    have htypedefs := skips_typedefs hopened.symm hstages.typedefs
    have hstructs := skips_structs hmiddle.symm hstages.structs
    have hexterns := skips_externMethods hafter.symm hstages.externs
    have hdeclares := (((hdefines.append hmakes.skips).append htypedefs).append hstructs).append hexterns
    exact (hdeclares.quietly hsame).append herased

end InteropGen.Generate

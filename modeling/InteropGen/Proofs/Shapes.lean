import InteropGen.Metadata.Decode
import InteropGen.Proofs.Violations

/-!
# What has the right shape can be read

What the readers of the parts of a document need is exactly what the shapes promise, so a document that fits its
shape is read (`reads_decode`). Every type in it has a known form, every pointer and every array an inner type, and
every function a result (`NativeType.Formed`). The shapes do not promise an inner type to a synonym.
-/

namespace InteropGen

open Json

/-- Something is found, and the property holds of it. -/
def Reads {α : Type} (P : α → Prop) (found : Option α) : Prop := ∃ a, found = some a ∧ P a

namespace Reads

variable {α β : Type} {P : α → Prop} {Q : β → Prop} {found : Option α} {read : α → Option β}

theorem some {a : α} (h : P a) : Reads P (some a) := ⟨a, rfl, h⟩

theorem bind (h : Reads P found) (hread : ∀ a, P a → Reads Q (read a)) : Reads Q (found >>= read) := by
  obtain ⟨a, rfl, ha⟩ := h
  exact hread a ha

theorem mono {R : α → Prop} (h : Reads P found) (hR : ∀ a, P a → R a) : Reads R found :=
  h.imp fun a ha => ⟨ha.1, hR a ha.2⟩

theorem mapM {items : List α} (h : ∀ item ∈ items, Reads Q (read item)) :
    Reads (fun made => ∀ b ∈ made, Q b) (items.mapM read) := by
  induction items with
  | nil => exact .some (by simp)
  | cons item items ih =>
    rw [List.mapM_cons]
    refine (h item List.mem_cons_self).bind fun first hfirst => ?_
    refine (ih fun other hother => h other (List.mem_cons_of_mem _ hother)).bind fun rest hrest => ?_
    exact .some (List.forall_mem_cons.mpr ⟨hfirst, hrest⟩)

end Reads

/-! ### Types with their parts -/

/-- The types that the parts of a type are. -/
structure NativeType.Parts (P : NativeType → Prop) (t : NativeType) : Prop where
  inner : ∀ inner, t.inner = some inner → P inner
  parameters : ∀ parameter ∈ t.parameters, P parameter
  result : ∀ result, t.result = some result → P result

/-- Every type in the type has a known form, every pointer and array an inner type, and every function a result. -/
inductive NativeType.Formed : NativeType → Prop
  | mk {t : NativeType} (known : ∀ word, t.kind ≠ .other word)
      (hinner : t.kind = .pointer ∨ t.kind = .array → t.inner.isSome = true)
      (hresult : t.kind = .function → t.result.isSome = true)
      (inner : ∀ inner, t.inner = some inner → Formed inner)
      (parameters : ∀ parameter ∈ t.parameters, Formed parameter)
      (result : ∀ result, t.result = some result → Formed result) : Formed t

/-- The words for the forms are those of known forms. -/
theorem TypeKind.ofWord_ne_other {word : String} (h : word ∈ Metadata.Shape.kindWords) (other : String) :
    TypeKind.ofWord word ≠ .other other := by
  simp only [Metadata.Shape.kindWords, List.mem_cons, List.not_mem_nil, or_false] at h
  rcases h with rfl | rfl | rfl | rfl | rfl | rfl <;> simp [ofWord]

namespace Metadata

variable {value item : Value} {shape : Shape} {name : String} {required : List String}
  {fields : List (String × Shape)} {members : List (String × Value)}

/-! ### Lists and objects -/

theorem Fits.exists_text (h : Fits .text value) : ∃ text, value = .text text := by
  cases h with
  | text chars => exact ⟨chars, rfl⟩

theorem Fits.exists_word {choices : List String} (h : Fits (.word choices) value) :
    ∃ text, value = .text text := by
  cases h with
  | word listed => exact ⟨_, rfl⟩

theorem Fits.items (h : Fits (.list shape) value) :
    ∃ items, value = .array items ∧ ∀ item ∈ items, Fits shape item := by
  cases h with
  | list each => exact ⟨_, rfl, each⟩

/-- An object with the members that a record requires, each of the shape that the record gives it. -/
structure IsRecord (required : List String) (fields : List (String × Shape)) (value : Value) : Prop where
  required : ∀ name ∈ required, ∃ member, value.member? name = some member
  member : ∀ {name member shape}, value.member? name = some member →
    Table.lookupIn name fields = some shape → Fits shape member

theorem Fits.isRecord (h : Fits (.record required fields) value) : IsRecord required fields value := by
  cases h with
  | record complete each =>
    exact ⟨complete, fun hmember hfield => each _ _ _ (Table.mem_of_lookupIn hmember) hfield⟩

theorem IsRecord.textAt? (h : IsRecord required fields value) (hname : name ∈ required)
    (hfield : Table.lookupIn name fields = some shape)
    (htext : ∀ {member}, Fits shape member → ∃ text, member = .text text) :
    Reads (fun _ => True) (value.textAt? name) := by
  obtain ⟨member, hmember⟩ := h.required name hname
  obtain ⟨text, rfl⟩ := htext (h.member hmember hfield)
  exact ⟨text, by rw [Value.textAt?, hmember]; rfl, trivial⟩

theorem IsRecord.itemsAt (h : IsRecord required fields value)
    (hfield : Table.lookupIn name fields = some (.list shape)) :
    ∀ item ∈ value.itemsAt name, Fits shape item := by
  unfold Value.itemsAt
  cases hmember : value.member? name with
  | none => simp
  | some member =>
    obtain ⟨items, rfl, hitems⟩ := (h.member hmember hfield).items
    exact hitems

/-! ### Types -/

/-- The members of a type each have the shape of their part. -/
def FitParts (members : List (String × Value)) : Prop :=
  ∀ name value shape, (name, value) ∈ members → Table.lookupIn name Shape.typeFields = some shape → Fits shape value

theorem Fits.exists_kind (h : Fits .type value) : ∃ word members, value = .object members ∧
    word ∈ Shape.kindWords ∧ Table.lookupIn "kind" members = some (.text word) ∧ HasParts members ∧
    FitParts members := by
  cases h with
  | @type members parts each =>
    obtain ⟨kind, hkind⟩ := parts.kind
    have hfits : Fits (.word Shape.kindWords) kind := each _ _ _ (Table.mem_of_lookupIn hkind) rfl
    cases hfits with
    | @word _ word listed => exact ⟨word, members, rfl, listed, hkind, parts, each⟩

theorem Fits.hasMembers (h : Fits .type value) : value.hasMembers = true := by
  obtain ⟨word, members, rfl, -, hkind, -⟩ := h.exists_kind
  cases members with
  | nil => simp [Table.lookupIn] at hkind
  | cons => rfl

/-- What reading the members of a type makes of what was read before. -/
structure Extended (t : NativeType) (members : List (String × Value)) (read : NativeType) : Prop where
  kind : read.kind = t.kind
  parts : read.Parts NativeType.Formed
  inner : t.inner.isSome = true ∨ HasMember members "inner_type" → read.inner.isSome = true
  result : t.result.isSome = true ∨ HasMember members "return_type" → read.result.isSome = true

/-- Behind one more member the rest is read from what the member made of the type. -/
theorem Extended.cons {t next read : NativeType} (hkind : next.kind = t.kind)
    (hinner : t.inner.isSome = true ∨ name = "inner_type" → next.inner.isSome = true)
    (hresult : t.result.isSome = true ∨ name = "return_type" → next.result.isSome = true)
    (h : Extended next members read) : Extended t ((name, value) :: members) read := by
  have hmember : ∀ {key}, HasMember ((name, value) :: members) key → name = key ∨ HasMember members key := by
    rintro key ⟨found, hfound⟩
    rw [Table.lookupIn] at hfound
    split at hfound
    · next hname => exact .inl hname
    · exact .inr ⟨found, hfound⟩
  refine ⟨h.kind.trans hkind, h.parts, fun hgiven => h.inner ?_, fun hgiven => h.result ?_⟩
  · rcases hgiven with hold | hgiven
    · exact .inl (hinner (.inl hold))
    · exact (hmember hgiven).imp_left fun hname => hinner (.inr hname)
  · rcases hgiven with hold | hgiven
    · exact .inl (hresult (.inl hold))
    · exact (hmember hgiven).imp_left fun hname => hresult (.inr hname)

mutual

theorem reads_type : (value : Value) → Fits .type value →
    Reads NativeType.Formed (NativeType.ofValue? value)
  | .object members, h => by
    obtain ⟨word, _, heq, hlisted, hkind, hneeds, hmembers⟩ := h.exists_kind
    obtain rfl := Value.object.inj heq
    have hfound : Reads (· = word) ((Table.lookupIn "kind" members).bind Value.asText?) := by
      rw [hkind]
      exact .some rfl
    unfold NativeType.ofValue?
    refine hfound.bind fun found hword => ?_
    subst hword
    have hnone : NativeType.Parts NativeType.Formed { kind := .ofWord found } :=
      ⟨by simp, by simp, by simp⟩
    refine (reads_members members hmembers _ hnone).mono fun read hread => ?_
    have hofWord : read.kind = .ofWord found := hread.kind
    have hword : found = read.kind.word := by rw [hofWord, TypeKind.word_ofWord]
    refine .mk (fun other => ?_) (fun hform => hread.inner (.inr ?_)) (fun hform => hread.result (.inr ?_))
      hread.parts.inner hread.parts.parameters hread.parts.result
    · exact hofWord ▸ TypeKind.ofWord_ne_other hlisted other
    · refine hneeds.inner found ?_ hkind
      rcases hform with hform | hform <;> simp [hword, hform, TypeKind.word]
    · exact hneeds.result (by rw [hkind, hword, hform]; rfl)
  | .array _, h | .null, h | .bool _, h | .number _, h | .text _, h => by
    obtain ⟨word, members, heq, -⟩ := h.exists_kind
    cases heq

theorem reads_members : (members : List (String × Value)) → FitParts members → (t : NativeType) →
    t.Parts NativeType.Formed → Reads (Extended t members) (t.withMembers? members)
  | [], _, t, ht => .some ⟨rfl, ht, by simp [HasMember, Table.lookupIn], by simp [HasMember, Table.lookupIn]⟩
  | (name, value) :: members, h, t, ht => by
    have hshape : ∀ {shape}, Table.lookupIn name Shape.typeFields = some shape → Fits shape value :=
      fun hfield => h _ _ _ List.mem_cons_self hfield
    have hrest : ∀ next : NativeType, next.kind = t.kind → next.Parts NativeType.Formed →
        (t.inner.isSome = true ∨ name = "inner_type" → next.inner.isSome = true) →
        (t.result.isSome = true ∨ name = "return_type" → next.result.isSome = true) →
        Reads (Extended t ((name, value) :: members)) (next.withMembers? members) :=
      fun next hkind hparts hinner hresult =>
        (reads_members members (fun _ _ _ hmem => h _ _ _ (List.mem_cons_of_mem _ hmem)) next hparts).mono
          fun read hread => hread.cons hkind hinner hresult
    unfold NativeType.withMembers?
    split
    · next hname => exact hrest _ rfl ⟨ht.inner, ht.parameters, ht.result⟩ (by simp [hname]) (by simp [hname])
    split
    · next hname => exact hrest _ rfl ⟨ht.inner, ht.parameters, ht.result⟩ (by simp [hname]) (by simp [hname])
    split
    · next hname => exact hrest _ rfl ⟨ht.inner, ht.parameters, ht.result⟩ (by simp [hname]) (by simp [hname])
    split
    · next hname => exact hrest _ rfl ⟨ht.inner, ht.parameters, ht.result⟩ (by simp [hname]) (by simp [hname])
    split
    · next hboth =>
      obtain ⟨rfl, -⟩ : name = "inner_type" ∧ value.hasMembers = true := by simpa using hboth
      refine (reads_type value (hshape rfl)).bind fun inner hinner => ?_
      refine hrest _ rfl ⟨fun other hother => ?_, ht.parameters, ht.result⟩ (by simp) (by simp)
      obtain rfl := Option.some.inj hother
      exact hinner
    · next hneither =>
      have hname : name ≠ "inner_type" := by
        rintro rfl
        exact hneither (by simp [(hshape rfl : Fits .type value).hasMembers])
      have hkeep : t.inner.isSome = true ∨ name = "inner_type" → t.inner.isSome = true :=
        fun hgiven => hgiven.resolve_right hname
      split
      · next hboth =>
        obtain ⟨rfl, -⟩ : name = "return_type" ∧ value.hasMembers = true := by simpa using hboth
        refine (reads_type value (hshape rfl)).bind fun result hresult => ?_
        refine hrest _ rfl ⟨ht.inner, ht.parameters, fun other hother => ?_⟩ hkeep (by simp)
        obtain rfl := Option.some.inj hother
        exact hresult
      · next hneither' =>
        have hname' : name ≠ "return_type" := by
          rintro rfl
          exact hneither' (by simp [(hshape rfl : Fits .type value).hasMembers])
        have hkeep' : t.result.isSome = true ∨ name = "return_type" → t.result.isSome = true :=
          fun hgiven => hgiven.resolve_right hname'
        split
        · next hparameters =>
          subst hparameters
          obtain ⟨values, rfl, hvalues⟩ := (hshape rfl : Fits (.list .type) value).items
          refine (reads_types values hvalues).bind fun parameters hparameters => ?_
          exact hrest _ rfl ⟨ht.inner, hparameters, ht.result⟩ hkeep hkeep'
        · exact hrest t rfl ht hkeep hkeep'

theorem reads_types : (values : List Value) → (∀ value ∈ values, Fits .type value) →
    Reads (fun read => ∀ t ∈ read, t.Formed) (NativeType.listOf? values)
  | [], _ => .some (by simp)
  | value :: values, h => by
    obtain ⟨hfirst, hrest⟩ := List.forall_mem_cons.mp h
    refine (reads_type value hfirst).bind fun first hfirst => ?_
    refine (reads_types values hrest).bind fun rest hrest => ?_
    exact .some (List.forall_mem_cons.mpr ⟨hfirst, hrest⟩)

end

/-! ### Items -/

theorem reads_typeInfo (h : Fits .typeInfo value) :
    Reads (fun info => info.type.Formed) (TypeInfo.ofValue? value) := by
  obtain ⟨description, hdescription⟩ := h.isRecord.required "description" List.mem_cons_self
  have htype : Reads NativeType.Formed ((value.member? "description").bind NativeType.ofValue?) := by
    rw [hdescription]
    exact reads_type description (h.isRecord.member hdescription rfl)
  unfold TypeInfo.ofValue?
  exact htype.bind fun t ht => .some ht

/-- The type of an item that requires one is read. -/
theorem IsRecord.typeInfo (h : IsRecord required fields value) (hname : name ∈ required)
    (hfield : Table.lookupIn name fields = some .typeInfo) :
    Reads (fun info => info.type.Formed) ((value.member? name).bind TypeInfo.ofValue?) := by
  obtain ⟨member, hmember⟩ := h.required name hname
  rw [hmember]
  exact reads_typeInfo (h.member hmember hfield)

theorem reads_guard (h : Fits (.record ["condition", "expression"]
      [("condition", .word ["ifdef", "ifndef", "if", "ifnot"]), ("expression", .text)]) value) :
    Reads (fun _ => True) (Guard.ofValue? value) := by
  unfold Guard.ofValue?
  refine (h.isRecord.textAt? (by simp) rfl Fits.exists_word).bind fun condition _ => ?_
  exact (h.isRecord.textAt? (by simp) rfl Fits.exists_text).bind fun expression _ => .some trivial

theorem IsRecord.guards (h : IsRecord required fields value)
    (hfield : Table.lookupIn "conditionals" fields = some .guards) :
    Reads (fun _ => True) (Guard.listOf? value) :=
  (Reads.mapM fun guard hguard => reads_guard (h.itemsAt hfield guard hguard)).mono fun _ _ => trivial

theorem reads_define (h : Fits .define value) : Reads (fun _ => True) (Define.ofValue? value) := by
  unfold Define.ofValue?
  refine (h.isRecord.textAt? (by simp) rfl Fits.exists_text).bind fun name _ => ?_
  exact (h.isRecord.guards rfl).bind fun guards _ => .some trivial

theorem reads_element (h : Fits .element value) :
    Reads (fun _ => True) (EnumElement.ofValue? value) := by
  unfold EnumElement.ofValue?
  refine (h.isRecord.textAt? (by simp) rfl Fits.exists_text).bind fun name _ => ?_
  exact (h.isRecord.guards rfl).bind fun guards _ => .some trivial

theorem reads_enum (h : Fits .enumeration value) : Reads (fun _ => True) (Enum.ofValue? value) := by
  unfold Enum.ofValue?
  refine (h.isRecord.textAt? (by simp) rfl Fits.exists_text).bind fun name _ => ?_
  refine (Reads.mapM fun element hmem => reads_element (h.isRecord.itemsAt rfl element hmem)).bind
    fun elements _ => ?_
  exact (h.isRecord.guards rfl).bind fun guards _ => .some trivial

theorem reads_typedef (h : Fits .typedef value) :
    Reads (fun item => item.info.type.Formed) (Typedef.ofValue? value) := by
  unfold Typedef.ofValue?
  refine (h.isRecord.textAt? (by simp) rfl Fits.exists_text).bind fun name _ => ?_
  refine (h.isRecord.typeInfo (by simp) rfl).bind fun info hinfo => ?_
  exact (h.isRecord.guards rfl).bind fun guards _ => .some hinfo

theorem reads_field (h : Fits .field value) :
    Reads (fun field => field.info.type.Formed) (Field.ofValue? value) := by
  unfold Field.ofValue?
  refine (h.isRecord.textAt? (by simp) rfl Fits.exists_text).bind fun name _ => ?_
  refine (h.isRecord.typeInfo (by simp) rfl).bind fun info hinfo => ?_
  exact (h.isRecord.guards rfl).bind fun guards _ => .some hinfo

theorem reads_struct (h : Fits .struct value) :
    Reads (fun item => ∀ field ∈ item.fields, field.info.type.Formed) (Struct.ofValue? value) := by
  unfold Struct.ofValue?
  refine (h.isRecord.textAt? (by simp) rfl Fits.exists_text).bind fun name _ => ?_
  refine (Reads.mapM fun field hmem => reads_field (h.isRecord.itemsAt rfl field hmem)).bind
    fun fields hfields => ?_
  exact (h.isRecord.guards rfl).bind fun guards _ => .some hfields

theorem reads_argument (h : Fits .argument value) :
    Reads (fun argument => ∀ info, argument.info = some info → info.type.Formed)
      (Argument.ofValue? value) := by
  unfold Argument.ofValue?
  cases htype : value.member? "type" with
  | none => exact .some (by simp)
  | some member =>
    have hmember : Fits .typeInfo member := h.isRecord.member htype rfl
    obtain ⟨info, hinfo, hformed⟩ := reads_typeInfo hmember
    cases hmember with
    | record complete each =>
      simp only [hinfo]
      refine .some fun other hother => ?_
      obtain rfl := Option.some.inj hother
      exact hformed

/-- The types of a function have the form. -/
structure FormedFunction (function : Function) : Prop where
  result : function.result.type.Formed
  arguments : ∀ argument ∈ function.arguments, ∀ info, argument.info = some info → info.type.Formed

theorem reads_function (h : Fits .function value) :
    Reads FormedFunction (Function.ofValue? value) := by
  unfold Function.ofValue?
  refine (h.isRecord.textAt? (by simp) rfl Fits.exists_text).bind fun name _ => ?_
  refine (h.isRecord.typeInfo (by simp) rfl).bind fun result hresult => ?_
  refine (Reads.mapM fun argument hmem => reads_argument (h.isRecord.itemsAt rfl argument hmem)).bind
    fun arguments harguments => ?_
  exact (h.isRecord.guards rfl).bind fun guards _ => .some ⟨hresult, harguments⟩

/-- The types that the items of a document have, have the form. -/
structure Formed (document : Metadata) : Prop where
  typedefs : ∀ item ∈ document.typedefs, item.info.type.Formed
  fields : ∀ item ∈ document.structs, ∀ field ∈ item.fields, field.info.type.Formed
  functions : ∀ function ∈ document.functions, FormedFunction function

/-- A document without a violation is read, and its types have their parts. -/
theorem reads_decode (h : firstViolation? value = none) : Reads Formed (decode? value) := by
  have hrecord := (firstViolation?_eq_none_iff.mp h).isRecord
  unfold decode?
  refine (Reads.mapM fun item hitem => reads_define (hrecord.itemsAt rfl item hitem)).bind
    fun defines _ => ?_
  refine (Reads.mapM fun item hitem => reads_enum (hrecord.itemsAt rfl item hitem)).bind
    fun enums _ => ?_
  refine (Reads.mapM fun item hitem => reads_typedef (hrecord.itemsAt rfl item hitem)).bind
    fun typedefs htypedefs => ?_
  refine (Reads.mapM fun item hitem => reads_struct (hrecord.itemsAt rfl item hitem)).bind
    fun structs hstructs => ?_
  refine (Reads.mapM fun item hitem => reads_function (hrecord.itemsAt rfl item hitem)).bind
    fun functions hfunctions => ?_
  exact .some ⟨htypedefs, hstructs, hfunctions⟩

end Metadata

end InteropGen

import InteropGen.Metadata.Shape
import InteropGen.Proofs.Lookups
import Mathlib.Data.List.Lex
import Mathlib.Data.String.Basic
import Mathlib.Order.Bounds.Basic

/-!
# The first violation of a document

`Fits shape value` says by recursion over the value that it has the shape. `Offends value shape path` says that the
path leads to a node that does not meet what its own shape asks of it, whatever stands below it (`Shape.Admits`).

The violations that are collected stand exactly at the offending nodes (`exists_violation_iff`), a value fits exactly
if no node offends (`fits_iff`), and the violation that is reported has the least of the offending paths, step by
step in code point order (`isLeast_leastViolation`). Which paths offend does not hang on the order in which objects
have their members (`Reordered.offends_iff`), so that the place of the report does not either.
-/

namespace InteropGen

open Json

/-- Induction over a value: what holds of the parts of a list or an object holds of the whole. -/
theorem Json.Value.induction {P : Value → Prop} (leaf : ∀ value, (∀ items, value ≠ .array items) →
      (∀ members, value ≠ .object members) → P value)
    (array : ∀ items, (∀ value ∈ items, P value) → P (.array items))
    (object : ∀ members, (∀ name value, (name, value) ∈ members → P value) → P (.object members)) :
    (value : Value) → P value
  | .null => leaf .null (fun _ => nofun) fun _ => nofun
  | .bool b => leaf (.bool b) (fun _ => nofun) fun _ => nofun
  | .number n => leaf (.number n) (fun _ => nofun) fun _ => nofun
  | .text t => leaf (.text t) (fun _ => nofun) fun _ => nofun
  | .array items => array items fun value hmem =>
      have := List.sizeOf_lt_of_mem hmem
      Json.Value.induction leaf array object value
  | .object members => object members fun name value hmem =>
      have := List.sizeOf_lt_of_mem hmem
      Json.Value.induction leaf array object value
termination_by value => sizeOf value
decreasing_by
  all_goals
    simp at this ⊢
    omega

namespace Metadata

variable {value other : Value} {shape : Shape} {name : String} {path required : List String}
  {fields : List (String × Shape)} {members others : List (String × Value)}

/-! ### Shapes of values -/

/-- There is a member of the name. -/
def HasMember (members : List (String × Value)) (name : String) : Prop :=
  ∃ value, Table.lookupIn name members = some value

/-- A type has a form and the parts that the form needs. -/
structure HasParts (members : List (String × Value)) : Prop where
  kind : HasMember members "kind"
  inner : ∀ word ∈ ["Pointer", "Array"], Table.lookupIn "kind" members = some (.text word) →
    HasMember members "inner_type"
  result : Table.lookupIn "kind" members = some (.text "Function") → HasMember members "return_type"
  parameters : Table.lookupIn "kind" members = some (.text "Function") → HasMember members "parameters"

/-- The value has the shape, and so has everything below it to which the shape gives one. -/
inductive Fits : Shape → Value → Prop
  | text (chars : String) : Fits .text (.text chars)
  | flag (b : Bool) : Fits .flag (.bool b)
  | integer {number : Number} {n : Int} (whole : number.toInt? = some n) : Fits .integer (.number number)
  | word {choices : List String} {given : String} (listed : given ∈ choices) : Fits (.word choices) (.text given)
  | list {item : Shape} {items : List Value} (each : ∀ value ∈ items, Fits item value) :
    Fits (.list item) (.array items)
  | record {required : List String} {fields : List (String × Shape)} {members : List (String × Value)}
    (complete : ∀ name ∈ required, HasMember members name)
    (each : ∀ name value shape, (name, value) ∈ members → Table.lookupIn name fields = some shape →
      Fits shape value) : Fits (.record required fields) (.object members)
  | type {members : List (String × Value)} (parts : HasParts members)
    (each : ∀ name value shape, (name, value) ∈ members → Table.lookupIn name Shape.typeFields = some shape →
      Fits shape value) : Fits .type (.object members)

/-- What a shape asks of a value's own node: its kind, the word that it is, and the members that it must have. -/
inductive Shape.Admits : Shape → Value → Prop
  | text (chars : String) : Admits .text (.text chars)
  | flag (b : Bool) : Admits .flag (.bool b)
  | integer {number : Number} {n : Int} (whole : number.toInt? = some n) : Admits .integer (.number number)
  | word {choices : List String} {given : String} (listed : given ∈ choices) : Admits (.word choices) (.text given)
  | list (item : Shape) (items : List Value) : Admits (.list item) (.array items)
  | record {required : List String} {members : List (String × Value)} (fields : List (String × Shape))
    (complete : ∀ name ∈ required, HasMember members name) : Admits (.record required fields) (.object members)
  | type {members : List (String × Value)} (parts : HasParts members) : Admits .type (.object members)

/-- The path leads to a node that does not meet what its shape asks of it. -/
inductive Offends : Value → Shape → List String → Prop
  | here {value : Value} {shape : Shape} (violated : ¬shape.Admits value) : Offends value shape []
  | item {items : List Value} {value : Value} {shape : Shape} {position : Nat} {path : List String}
    (found : items[position]? = some value) (below : Offends value shape path) :
    Offends (.array items) (.list shape) (toString position :: path)
  | member {members : List (String × Value)} {name : String} {value : Value} {shape own : Shape}
    {path : List String} (found : (name, value) ∈ members) (field : Table.lookupIn name shape.fields = some own)
    (below : Offends value own path) : Offends (.object members) shape (name :: path)

/-! ### Problems of one node -/

theorem lookupIn_eq_none_iff : Table.lookupIn name members = none ↔ ¬HasMember members name := by
  rw [HasMember, ← Option.ne_none_iff_exists', not_not]

theorem missingNames_eq_nil_iff :
    missingNames members required = [] ↔ ∀ name ∈ required, HasMember members name := by
  simp [missingNames, lookupIn_eq_none_iff]

theorem hasParts_iff : HasParts members ↔
    ∀ name ∈ "kind" :: neededByKind members, HasMember members name := by
  cases hkind : Table.lookupIn "kind" members with
  | none =>
    have hmissing : ¬HasMember members "kind" := lookupIn_eq_none_iff.mp hkind
    exact iff_of_false (fun h => hmissing h.kind) fun h => hmissing (h "kind" List.mem_cons_self)
  | some kind =>
    have hmember : HasMember members "kind" := ⟨kind, hkind⟩
    constructor
    · intro h name hname
      rcases List.mem_cons.mp hname with rfl | hname
      · exact h.kind
      · cases kind with
        | text word =>
          simp only [neededByKind, hkind, List.mem_append] at hname
          rcases hname with hname | hname
          · split at hname
            · next hword =>
              obtain rfl := List.mem_singleton.mp hname
              exact h.inner word (by simpa using hword) hkind
            · cases hname
          · split at hname
            · next hword =>
              obtain rfl : word = "Function" := by simpa using hword
              simp only [List.mem_cons, List.not_mem_nil, or_false] at hname
              rcases hname with rfl | rfl
              · exact h.result hkind
              · exact h.parameters hkind
            · cases hname
        | _ => simp [neededByKind, hkind] at hname
    · intro h
      have hneeded : ∀ name ∈ neededByKind members, HasMember members name :=
        fun name hname => h name (List.mem_cons_of_mem _ hname)
      refine ⟨hmember, fun word hword hfound => ?_, fun hfound => ?_, fun hfound => ?_⟩
      · refine hneeded _ ?_
        simp only [List.mem_cons, List.not_mem_nil, or_false] at hword
        rcases hword with rfl | rfl <;> simp [neededByKind, hfound]
      · exact hneeded _ (by simp [neededByKind, hfound])
      · exact hneeded _ (by simp [neededByKind, hfound])

theorem problems_eq_nil_iff : shape.problems value = [] ↔ shape.Admits value := by
  constructor
  · intro h
    cases shape <;> cases value <;> simp [Shape.problems] at h
    case text.text chars => exact .text chars
    case flag.bool b => exact .flag b
    case integer.number number =>
      obtain ⟨n, hn⟩ := Option.ne_none_iff_exists'.mp h
      exact .integer hn
    case word.text choices given => exact .word h
    case list.array item items => exact .list item items
    case record.object required fields members =>
      exact .record fields (missingNames_eq_nil_iff.mp h)
    case type.object members => exact .type (hasParts_iff.mpr (missingNames_eq_nil_iff.mp h))
  · intro h
    cases h with
    | integer whole => simp [Shape.problems, whole]
    | word listed => simp [Shape.problems, listed]
    | record fields complete => simp [Shape.problems, missingNames_eq_nil_iff.mpr complete]
    | type parts => simp [Shape.problems, missingNames_eq_nil_iff.mpr (hasParts_iff.mp parts)]
    | _ => rfl

/-! ### Violations below a node -/

theorem mem_itemViolations {items : List Value} {v : Violation} (position : Nat) :
    v ∈ itemViolations position items shape ↔ ∃ i item, items[i]? = some item ∧
      ∃ w ∈ violations item shape, w.under (toString (position + i)) = v := by
  induction items generalizing position with
  | nil => simp [itemViolations]
  | cons first rest ih =>
    rw [itemViolations, List.mem_append, List.mem_map, ih]
    constructor
    · rintro (h | ⟨i, item, hitem, w, hw, rfl⟩)
      · exact ⟨0, first, rfl, h⟩
      · exact ⟨i + 1, item, hitem, w, hw, by rw [Nat.add_right_comm, Nat.add_assoc]⟩
    · rintro ⟨i, item, hitem, w, hw, rfl⟩
      cases i with
      | zero =>
        obtain rfl := Option.some.inj hitem
        exact .inl ⟨w, hw, rfl⟩
      | succ i => exact .inr ⟨i, item, hitem, w, hw, by rw [Nat.add_right_comm, Nat.add_assoc]⟩

theorem mem_memberViolations {v : Violation} : v ∈ memberViolations members fields ↔
    ∃ name value own, (name, value) ∈ members ∧ Table.lookupIn name fields = some own ∧
      ∃ w ∈ violations value own, w.under name = v := by
  induction members with
  | nil => simp [memberViolations]
  | cons first rest ih =>
    obtain ⟨name, value⟩ := first
    rw [memberViolations, List.mem_append, ih]
    constructor
    · rintro (h | ⟨name', value', own, hmem, h⟩)
      · split at h
        · next own hown => exact ⟨name, value, own, List.mem_cons_self, hown, List.mem_map.mp h⟩
        · cases h
      · exact ⟨name', value', own, List.mem_cons_of_mem _ hmem, h⟩
    · rintro ⟨name', value', own, hmem, hown, w, hw, rfl⟩
      rcases List.mem_cons.mp hmem with heq | hmem
      · obtain ⟨rfl, rfl⟩ := Prod.mk.inj heq
        rw [hown]
        exact .inl (List.mem_map.mpr ⟨w, hw, rfl⟩)
      · exact .inr ⟨name', value', own, hmem, hown, w, hw, rfl⟩

/-- A violation is a problem of the node itself, or one of an item or of a member below it. -/
theorem mem_violations {v : Violation} : v ∈ violations value shape ↔
    (∃ problem ∈ shape.problems value, ⟨[], problem⟩ = v) ∨
    (∃ items item, value = .array items ∧ shape = .list item ∧ v ∈ itemViolations 0 items item) ∨
    (∃ members, value = .object members ∧ v ∈ memberViolations members shape.fields) := by
  have hitem : ∀ item, shape.item? = some item ↔ shape = .list item := by
    cases shape <;> simp [Shape.item?]
  cases value with
  | array items =>
    cases hshape : shape.item? with
    | none => simp [violations, hshape, ← hitem]
    | some item => simp [violations, hshape, ← hitem]
  | object members => simp [violations]
  | _ => simp [violations]

/-- The violations of a value stand at its offending nodes. -/
theorem exists_violation_iff :
    (∃ v ∈ violations value shape, v.path = path) ↔ Offends value shape path := by
  induction path generalizing value shape with
  | nil =>
    constructor
    · rintro ⟨v, hv, hpath⟩
      rcases mem_violations.mp hv with ⟨problem, hproblem, rfl⟩ | ⟨_, _, _, _, hv⟩ | ⟨_, _, hv⟩
      · refine .here fun hadmits => ?_
        rw [problems_eq_nil_iff.mpr hadmits] at hproblem
        cases hproblem
      · obtain ⟨_, _, _, w, _, rfl⟩ := (mem_itemViolations 0).mp hv
        cases hpath
      · obtain ⟨_, _, _, _, _, w, _, rfl⟩ := mem_memberViolations.mp hv
        cases hpath
    · rintro ⟨hviolated⟩
      obtain ⟨problem, hproblem⟩ := List.exists_mem_of_ne_nil _ (mt problems_eq_nil_iff.mp hviolated)
      exact ⟨_, mem_violations.mpr (.inl ⟨problem, hproblem, rfl⟩), rfl⟩
  | cons step path ih =>
    constructor
    · rintro ⟨v, hv, hpath⟩
      rcases mem_violations.mp hv with ⟨_, _, rfl⟩ | ⟨items, item, rfl, rfl, hmem⟩ | ⟨members, rfl, hmem⟩
      · cases hpath
      · obtain ⟨position, below, hfound, w, hw, rfl⟩ := (mem_itemViolations 0).mp hmem
        obtain ⟨rfl, hrest⟩ := List.cons.inj hpath
        rw [Nat.zero_add]
        exact .item hfound (ih.mp ⟨w, hw, hrest⟩)
      · obtain ⟨name, below, own, hfound, hfield, w, hw, rfl⟩ := mem_memberViolations.mp hmem
        obtain ⟨rfl, hrest⟩ := List.cons.inj hpath
        exact .member hfound hfield (ih.mp ⟨w, hw, hrest⟩)
    · intro h
      cases h with
      | @item items value shape position path hfound hbelow =>
        obtain ⟨w, hw, rfl⟩ := ih.mpr hbelow
        have hv := (mem_itemViolations 0).mpr ⟨position, value, hfound, w, hw, rfl⟩
        rw [Nat.zero_add] at hv
        exact ⟨_, mem_violations.mpr (.inr (.inl ⟨items, shape, rfl, rfl, hv⟩)), rfl⟩
      | @member members _ below _ own _ hfound hfield hbelow =>
        obtain ⟨w, hw, rfl⟩ := ih.mpr hbelow
        have hv := mem_memberViolations.mpr ⟨step, below, own, hfound, hfield, w, hw, rfl⟩
        exact ⟨_, mem_violations.mpr (.inr (.inr ⟨members, rfl, hv⟩)), rfl⟩

theorem violations_eq_nil_iff : violations value shape = [] ↔ ∀ path, ¬Offends value shape path := by
  simp only [← exists_violation_iff, List.eq_nil_iff_forall_not_mem]
  exact ⟨fun h path ⟨v, hv, _⟩ => h v hv, fun h v hv => h v.path ⟨v, hv, rfl⟩⟩

/-! ### What fits -/

/-- What fits is admitted at its own node. -/
theorem Fits.admits (h : Fits shape value) : shape.Admits value := by
  cases h with
  | text chars => exact .text chars
  | flag b => exact .flag b
  | integer whole => exact .integer whole
  | word listed => exact .word listed
  | list each => exact .list _ _
  | record complete each => exact .record _ complete
  | type parts each => exact .type parts

theorem Fits.not_offends (h : Fits shape value) (hoffends : Offends value shape path) : False := by
  induction hoffends with
  | here violated => exact violated h.admits
  | item found below ih =>
    cases h with
    | list each => exact ih (each _ (List.mem_of_getElem? found))
  | member found field below ih =>
    cases h with
    | record complete each => exact ih (each _ _ _ found field)
    | type parts each => exact ih (each _ _ _ found field)

/-- A value below which nothing offends fits. -/
theorem fits_of_not_offends (h : ∀ path, ¬Offends value shape path) : Fits shape value := by
  have hadmits : ∀ {value shape}, (∀ path, ¬Offends value shape path) → shape.Admits value :=
    fun h => not_not.mp fun hviolated => h [] (.here hviolated)
  induction value using Value.induction generalizing shape with
  | leaf value hitems hmembers =>
    cases hadmits h with
    | text chars => exact .text chars
    | flag b => exact .flag b
    | integer whole => exact .integer whole
    | word listed => exact .word listed
    | list item items => exact absurd rfl (hitems items)
    | record fields complete => exact absurd rfl (hmembers _)
    | type parts => exact absurd rfl (hmembers _)
  | array items ih =>
    cases hadmits h with
    | list item _ =>
      refine .list fun below hmem => ?_
      obtain ⟨position, hfound⟩ := List.getElem?_of_mem hmem
      exact ih below hmem fun path hbelow => h _ (.item hfound hbelow)
  | object members ih =>
    have heach : ∀ name below own, (name, below) ∈ members → Table.lookupIn name shape.fields = some own →
        Fits own below := fun name below own hfound hfield =>
      ih name below hfound fun path hbelow => h _ (.member hfound hfield hbelow)
    cases hadmits h with
    | record fields complete => exact .record complete heach
    | type parts => exact .type parts heach

theorem fits_iff : Fits shape value ↔ ∀ path, ¬Offends value shape path :=
  ⟨fun h _ hoffends => h.not_offends hoffends, fits_of_not_offends⟩

/-! ### The least violation -/

theorem pathBefore_iff {path other : List String} : pathBefore path other = true ↔ path < other := by
  induction path generalizing other with
  | nil => cases other <;> simp [pathBefore]
  | cons step path ih =>
    cases other with
    | nil => simp [pathBefore]
    | cons step' other =>
      rw [pathBefore, List.cons_lt_cons_iff]
      by_cases hstep : step = step'
      · simp [hstep, ih]
      · simp [hstep]

/-- The least violation is one of those given, and its path is the least. -/
theorem isLeast_leastViolation (best : Violation) (rest : List Violation) :
    leastViolation best rest ∈ best :: rest ∧ ∀ v ∈ best :: rest, (leastViolation best rest).path ≤ v.path := by
  induction rest generalizing best with
  | nil => simp [leastViolation]
  | cons v rest ih =>
    obtain ⟨hmem, hleast⟩ := ih (if pathBefore v.path best.path then v else best)
    obtain ⟨hfirst, hrest⟩ := List.forall_mem_cons.mp hleast
    rw [leastViolation]
    by_cases hbefore : pathBefore v.path best.path = true
    · rw [if_pos hbefore] at hmem hfirst ⊢
      refine ⟨List.mem_cons_of_mem _ hmem, List.forall_mem_cons.mpr ⟨?_, List.forall_mem_cons.mpr ⟨?_, ?_⟩⟩⟩
      · exact hfirst.trans (pathBefore_iff.mp hbefore).le
      · exact hfirst
      · simpa [hbefore] using hrest
    · rw [if_neg hbefore] at hmem hfirst ⊢
      refine ⟨?_, List.forall_mem_cons.mpr ⟨?_, List.forall_mem_cons.mpr ⟨?_, ?_⟩⟩⟩
      · rcases List.mem_cons.mp hmem with heq | hmem
        · exact List.mem_cons.mpr (.inl heq)
        · exact List.mem_cons_of_mem _ (List.mem_cons_of_mem _ hmem)
      · exact hfirst
      · exact hfirst.trans (not_lt.mp (mt pathBefore_iff.mpr hbefore))
      · simpa [hbefore] using hrest

theorem firstViolation?_eq_none_iff : firstViolation? value = none ↔ Fits .document value := by
  rw [fits_iff, ← violations_eq_nil_iff, firstViolation?]
  split <;> simp_all

/-- The violation that is reported stands at the least offending path. -/
theorem isLeast_firstViolation {v : Violation} (h : firstViolation? value = some v) :
    IsLeast {path | Offends value .document path} v.path := by
  unfold firstViolation? at h
  split at h
  · cases h
  · next first rest hviolations =>
    obtain rfl := Option.some.inj h
    obtain ⟨hmem, hleast⟩ := isLeast_leastViolation first rest
    rw [← hviolations] at hmem hleast
    refine ⟨exists_violation_iff.mp ⟨_, hmem, rfl⟩, fun path hpath => ?_⟩
    obtain ⟨w, hw, rfl⟩ := exists_violation_iff.mpr hpath
    exact hleast w hw

/-! ### The order of members -/

/-- The values differ at most in the order in which objects, anywhere in them, have their members. -/
inductive Reordered : Value → Value → Prop
  | refl (value : Value) : Reordered value value
  | members {members others : List (String × Value)} (distinct : (members.map Prod.fst).Nodup)
    (perm : members.Perm others) : Reordered (.object members) (.object others)
  | item {value other : Value} (before after : List Value) (below : Reordered value other) :
    Reordered (.array (before ++ value :: after)) (.array (before ++ other :: after))
  | member {value other : Value} (name : String) (before after : List (String × Value))
    (below : Reordered value other) :
    Reordered (.object (before ++ (name, value) :: after)) (.object (before ++ (name, other) :: after))
  | trans {value other last : Value} (first : Reordered value other) (second : Reordered other last) :
    Reordered value last

/-- Two objects have members of the same names, and texts under the same of them. -/
structure SameTexts (members others : List (String × Value)) : Prop where
  names : ∀ name, HasMember members name ↔ HasMember others name
  texts : ∀ name text, Table.lookupIn name members = some (.text text) ↔
    Table.lookupIn name others = some (.text text)

theorem SameTexts.symm (h : SameTexts members others) : SameTexts others members :=
  ⟨fun name => (h.names name).symm, fun name text => (h.texts name text).symm⟩

theorem SameTexts.hasParts (h : SameTexts members others) (hparts : HasParts members) : HasParts others where
  kind := (h.names _).mp hparts.kind
  inner word hword hkind := (h.names _).mp (hparts.inner word hword ((h.texts _ _).mpr hkind))
  result hkind := (h.names _).mp (hparts.result ((h.texts _ _).mpr hkind))
  parameters hkind := (h.names _).mp (hparts.parameters ((h.texts _ _).mpr hkind))

theorem SameTexts.admits (h : SameTexts members others) (hadmits : shape.Admits (.object members)) :
    shape.Admits (.object others) := by
  cases hadmits with
  | record fields complete => exact .record fields fun name hname => (h.names name).mp (complete name hname)
  | type parts => exact .type (h.hasParts parts)

theorem SameTexts.admits_iff (h : SameTexts members others) :
    shape.Admits (.object members) ↔ shape.Admits (.object others) :=
  ⟨h.admits, h.symm.admits⟩

theorem sameTexts_of_perm (hdistinct : (members.map Prod.fst).Nodup) (hperm : members.Perm others) :
    SameTexts members others := by
  have hsame := Table.lookupIn_perm hdistinct hperm
  exact ⟨fun name => by rw [HasMember, HasMember, hsame], fun name text => by rw [hsame]⟩

theorem Reordered.text_iff (h : Reordered value other) (text : String) : value = .text text ↔ other = .text text := by
  induction h with
  | trans _ _ ih ih' => exact ih.trans ih'
  | _ => simp

/-- With another value in one place a look-up finds that one or what it found before. -/
theorem sameTexts_of_member (before after : List (String × Value)) (h : Reordered value other) :
    SameTexts (before ++ (name, value) :: after) (before ++ (name, other) :: after) := by
  have hfound : ∀ key, Table.lookupIn key (before ++ (name, value) :: after) =
        Table.lookupIn key (before ++ (name, other) :: after) ∨
      Table.lookupIn key (before ++ (name, value) :: after) = some value ∧
        Table.lookupIn key (before ++ (name, other) :: after) = some other := by
    intro key
    induction before with
    | nil => by_cases hkey : name = key <;> simp [Table.lookupIn, hkey]
    | cons pair before ih => by_cases hkey : pair.1 = key <;> simp [Table.lookupIn, hkey, ih]
  refine ⟨fun key => ?_, fun key text => ?_⟩
  · rcases hfound key with heq | ⟨heq, heq'⟩
    · rw [HasMember, HasMember, heq]
    · exact ⟨fun _ => ⟨_, heq'⟩, fun _ => ⟨_, heq⟩⟩
  · rcases hfound key with heq | ⟨heq, heq'⟩
    · rw [heq]
    · rw [heq, heq', Option.some.injEq, Option.some.injEq]
      exact h.text_iff text

theorem admits_array_iff {items others : List Value} :
    shape.Admits (.array items) ↔ shape.Admits (.array others) := by
  constructor
  all_goals
    rintro ⟨⟩
    exact .list _ _

theorem Reordered.symm (h : Reordered value other) : Reordered other value := by
  induction h with
  | refl value => exact .refl value
  | members distinct perm => exact .members ((perm.map Prod.fst).nodup_iff.mp distinct) perm.symm
  | item before after below ih => exact .item before after ih
  | member name before after below ih => exact .member name before after ih
  | trans first second ih ih' => exact ih'.trans ih

theorem Reordered.offends (h : Reordered value other) (hoffends : Offends value shape path) :
    Offends other shape path := by
  induction h generalizing shape path with
  | refl value => exact hoffends
  | members distinct perm =>
    cases hoffends with
    | here violated => exact .here (mt (sameTexts_of_perm distinct perm).admits_iff.mpr violated)
    | member found field below => exact .member (perm.mem_iff.mp found) field below
  | @item value other before after below ih =>
    cases hoffends with
    | here violated => exact .here (mt admits_array_iff.mpr violated)
    | @item _ _ _ position _ found below =>
      rcases Nat.lt_trichotomy position before.length with hlt | rfl | hgt
      · refine .item ?_ below
        rwa [List.getElem?_append_left hlt] at found ⊢
      · obtain rfl : value = _ := by simpa using found
        exact .item (by simp) (ih below)
      · refine .item ?_ below
        obtain ⟨offset, rfl⟩ : ∃ offset, position = before.length + 1 + offset :=
          ⟨position - before.length - 1, by omega⟩
        rw [List.getElem?_append_right (by omega), Nat.add_assoc, Nat.add_sub_cancel_left, Nat.add_comm] at found ⊢
        exact found
  | member name before after below ih =>
    cases hoffends with
    | here violated => exact .here (mt (sameTexts_of_member before after below).admits_iff.mpr violated)
    | member found field below' =>
      rcases List.mem_append.mp found with hbefore | hafter
      · exact .member (List.mem_append_left _ hbefore) field below'
      rcases List.mem_cons.mp hafter with heq | hafter
      · obtain ⟨rfl, rfl⟩ := Prod.mk.inj heq
        exact .member (List.mem_append_right _ List.mem_cons_self) field (ih below')
      · exact .member (List.mem_append_right _ (List.mem_cons_of_mem _ hafter)) field below'
  | trans first second ih ih' => exact ih' (ih hoffends)

/-- The order of members moves no offending node. -/
theorem Reordered.offends_iff (h : Reordered value other) : Offends value shape path ↔ Offends other shape path :=
  ⟨h.offends, h.symm.offends⟩

/-- The order of members moves no report. -/
theorem Reordered.path_firstViolation? (h : Reordered value other) :
    (firstViolation? other).map Violation.path = (firstViolation? value).map Violation.path := by
  have hsame : {path | Offends other .document path} = {path | Offends value .document path} :=
    Set.ext fun _ => h.offends_iff.symm
  have hnone : firstViolation? other = none ↔ firstViolation? value = none := by
    simp only [firstViolation?_eq_none_iff, fits_iff, h.offends_iff]
  cases hother : firstViolation? other with
  | none => rw [hnone.mp hother]
  | some v =>
    cases hvalue : firstViolation? value with
    | none => simp [hnone.mpr hvalue] at hother
    | some w =>
      have hleast := isLeast_firstViolation hother
      rw [hsame] at hleast
      exact congrArg some (hleast.unique (isLeast_firstViolation hvalue))

/-- The text of a path: its steps with slashes between them, or the word for the root. -/
theorem location_eq (v : Violation) :
    v.location = if v.path = [] then "<root>" else String.intercalate "/" v.path := by
  simp [Violation.location]

/--
A value is accepted exactly if it has the shape of a document. Otherwise the location that is reported is the path of
a node that itself violates its shape, and no such node has a path before it. Neither depends on the order of members.
-/
theorem validation_exact (value : Value) :
    (firstViolation? value = none ↔ Fits .document value) ∧
    (∀ v, firstViolation? value = some v →
      v.location = (if v.path = [] then "<root>" else String.intercalate "/" v.path) ∧
      Offends value .document v.path ∧ ∀ path, Offends value .document path → ¬path < v.path) ∧
    ∀ other, Reordered value other →
      (firstViolation? other).map Violation.location = (firstViolation? value).map Violation.location := by
  refine ⟨firstViolation?_eq_none_iff, fun v h => ⟨location_eq v, ?_⟩, fun other h => ?_⟩
  · obtain ⟨hoffends, hleast⟩ := isLeast_firstViolation h
    exact ⟨hoffends, fun path hpath => not_lt.mpr (hleast hpath)⟩
  · have hpaths := congrArg (Option.map fun path : List String =>
      if path = [] then "<root>" else String.intercalate "/" path) h.path_firstViolation?
    simpa only [Option.map_map, Function.comp_def, ← location_eq] using hpaths

/-- Eleven defines, of which the ones at the positions 2 and 10 have no name. -/
def namelessDefines : List (String × Value) :=
  [("functions", .array []),
    ("defines", .array ((List.range 11).map fun position =>
      .object (if position = 2 ∨ position = 10 then [] else [("name", .text "LIMIT")])))]

theorem validation_exact_namelessDefines : ∃ v, firstViolation? (.object namelessDefines) = some v ∧
    v.path = ["defines", "10"] ∧ v.location = "defines/10" ∧ ¬Fits .document (.object namelessDefines) ∧
    Offends (.object namelessDefines) .document ["defines", "10"] ∧
    (∀ path, Offends (.object namelessDefines) .document path → ¬path < ["defines", "10"]) ∧
    Reordered (.object namelessDefines) (.object namelessDefines.reverse) ∧
    (firstViolation? (.object namelessDefines.reverse)).map Violation.location = some "defines/10" := by
  have hreported : (firstViolation? (.object namelessDefines)).map Violation.path = some ["defines", "10"] := by
    decide +kernel
  obtain ⟨v, hv, hpath⟩ := Option.map_eq_some_iff.mp hreported
  have hreordered : Reordered (.object namelessDefines) (.object namelessDefines.reverse) :=
    .members (by decide) (List.reverse_perm _).symm
  obtain ⟨haccepts, hreports, hreorders⟩ := validation_exact (.object namelessDefines)
  obtain ⟨hlocation, hoffends, hleast⟩ := hreports v hv
  rw [hpath] at hlocation hoffends hleast
  refine ⟨v, hv, hpath, hlocation, fun hfits => ?_, hoffends, hleast, hreordered, ?_⟩
  · rw [haccepts.mpr hfits] at hv
    cases hv
  · rw [hreorders _ hreordered, hv]
    exact congrArg some hlocation

end Metadata

end InteropGen

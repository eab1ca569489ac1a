import InteropGen.Proofs.Shapes
import InteropGen.Proofs.TableSteps

/-!
# What an accepted document is read as

A document that is accepted is read without an error (`accepted_decoded`). Reading keeps its items, the elements of
its enums, the fields of its structs and the arguments of its functions, each list in its order (`Keeps`), and of the
types that the document mentions at any depth, each has a known form and the parts that the form needs
(`NativeType.HasForm`).

That the reader comes to an end is a fact about the shapes (`reads_decode`); that it keeps the order is one about the
reader alone, whatever it is given (`keeps_decode`).
-/

namespace InteropGen

open Json

/-- The form is known, a pointer or an array has an inner type, and a function has a result. -/
structure NativeType.HasForm (t : NativeType) : Prop where
  known : ∀ word, t.kind ≠ .other word
  inner : t.kind = .pointer ∨ t.kind = .array → t.inner ≠ none
  result : t.kind = .function → t.result ≠ none

theorem NativeType.Formed.hasForm {t : NativeType} (h : t.Formed) : t.HasForm := by
  cases h with
  | mk known hinner hresult =>
    exact ⟨known, fun hkind => Option.isSome_iff_ne_none.mp (hinner hkind),
      fun hkind => Option.isSome_iff_ne_none.mp (hresult hkind)⟩

theorem Generate.Mentions.formed {document : Metadata} {t : NativeType} (hdocument : document.Formed)
    (h : Mentions document t) : t.Formed := by
  induction h with
  | typedef hitem => exact hdocument.typedefs _ hitem
  | field hitem hfield => exact hdocument.fields _ hitem _ hfield
  | argument hfunction hargument hinfo =>
    exact (hdocument.functions _ hfunction).arguments _ hargument _ hinfo
  | result hfunction => exact (hdocument.functions _ hfunction).result
  | inner _ hinner ih =>
    cases ih with
    | mk _ _ _ inner => exact inner _ hinner
  | parameter _ hparameter ih =>
    cases ih with
    | mk _ _ _ _ parameters => exact parameters _ hparameter
  | returned _ hresult ih =>
    cases ih with
    | mk _ _ _ _ _ result => exact result _ hresult

namespace Metadata

/-! ### The order of the items -/

/-- The item of the document has the name. -/
def IsNamed (item : Value) (name : String) : Prop := item.textAt? "name" = some name

/-- The enum has the name of the item, and its elements in their order. -/
structure KeepsEnum (item : Value) (read : Enum) : Prop where
  name : IsNamed item read.name
  elements : List.Forall₂ (fun element read => IsNamed element read.name) (item.itemsAt "elements") read.elements

/-- The struct has the name of the item, and its fields in their order. -/
structure KeepsStruct (item : Value) (read : Struct) : Prop where
  name : IsNamed item read.name
  fields : List.Forall₂ (fun field read => IsNamed field read.name) (item.itemsAt "fields") read.fields

/-- The function has the name of the item, and its arguments in their order; one without a name has the empty one. -/
structure KeepsFunction (item : Value) (read : Function) : Prop where
  name : IsNamed item read.name
  arguments : List.Forall₂ (fun argument read => (argument.textAt? "name").getD "" = read.name)
    (item.itemsAt "arguments") read.arguments

/-- Every item of the document is read, in its place. -/
structure Keeps (value : Value) (document : Metadata) : Prop where
  defines : List.Forall₂ (fun item read => IsNamed item read.name) (value.itemsAt "defines") document.defines
  enums : List.Forall₂ KeepsEnum (value.itemsAt "enums") document.enums
  typedefs : List.Forall₂ (fun item read => IsNamed item read.name) (value.itemsAt "typedefs") document.typedefs
  structs : List.Forall₂ KeepsStruct (value.itemsAt "structs") document.structs
  functions : List.Forall₂ KeepsFunction (value.itemsAt "functions") document.functions

variable {value : Value}

/-- What is read from a list has its order. -/
theorem forall₂_mapM {α : Type} {R : Value → α → Prop} {read : Value → Option α} {items : List Value} {made : List α}
    (hread : ∀ item a, read item = some a → R item a) (h : items.mapM read = some made) :
    List.Forall₂ R items made := by
  induction items generalizing made with
  | nil =>
    obtain rfl : [] = made := Option.some.inj h
    exact .nil
  | cons item items ih =>
    rw [List.mapM_cons] at h
    simp only [Option.bind_eq_bind, Option.bind_eq_some_iff] at h
    obtain ⟨first, hfirst, rest, hrest, heq⟩ := h
    obtain rfl := Option.some.inj heq
    exact .cons (hread item first hfirst) (ih hrest)

theorem named_define (item : Value) (read : Define) (h : Define.ofValue? item = some read) :
    IsNamed item read.name := by
  simp only [Define.ofValue?, Option.bind_eq_bind, Option.bind_eq_some_iff] at h
  obtain ⟨name, hname, guards, -, heq⟩ := h
  obtain rfl := Option.some.inj heq
  exact hname

theorem named_element (item : Value) (read : EnumElement) (h : EnumElement.ofValue? item = some read) :
    IsNamed item read.name := by
  simp only [EnumElement.ofValue?, Option.bind_eq_bind, Option.bind_eq_some_iff] at h
  obtain ⟨name, hname, guards, -, heq⟩ := h
  obtain rfl := Option.some.inj heq
  exact hname

theorem named_typedef (item : Value) (read : Typedef) (h : Typedef.ofValue? item = some read) :
    IsNamed item read.name := by
  simp only [Typedef.ofValue?, Option.bind_eq_bind, Option.bind_eq_some_iff] at h
  obtain ⟨name, hname, info, -, guards, -, heq⟩ := h
  obtain rfl := Option.some.inj heq
  exact hname

theorem named_field (item : Value) (read : Field) (h : Field.ofValue? item = some read) :
    IsNamed item read.name := by
  simp only [Field.ofValue?, Option.bind_eq_bind, Option.bind_eq_some_iff] at h
  obtain ⟨name, hname, info, -, guards, -, heq⟩ := h
  obtain rfl := Option.some.inj heq
  exact hname

theorem named_argument (item : Value) (read : Argument) (h : Argument.ofValue? item = some read) :
    (item.textAt? "name").getD "" = read.name := by
  unfold Argument.ofValue? at h
  extract_lets make at h
  have hmake : ∀ info, make info = some read → (item.textAt? "name").getD "" = read.name := by
    intro info heq
    obtain rfl := Option.some.inj heq
    rfl
  split at h
  · exact hmake none h
  · exact hmake none h
  · obtain ⟨info, -, heq⟩ := Option.bind_eq_some_iff.mp h
    exact hmake info heq

theorem keeps_enum (item : Value) (read : Enum) (h : Enum.ofValue? item = some read) : KeepsEnum item read := by
  simp only [Enum.ofValue?, Option.bind_eq_bind, Option.bind_eq_some_iff] at h
  obtain ⟨name, hname, elements, helements, guards, -, heq⟩ := h
  obtain rfl := Option.some.inj heq
  exact ⟨hname, forall₂_mapM named_element helements⟩

theorem keeps_struct (item : Value) (read : Struct) (h : Struct.ofValue? item = some read) :
    KeepsStruct item read := by
  simp only [Struct.ofValue?, Option.bind_eq_bind, Option.bind_eq_some_iff] at h
  obtain ⟨name, hname, fields, hfields, guards, -, heq⟩ := h
  obtain rfl := Option.some.inj heq
  exact ⟨hname, forall₂_mapM named_field hfields⟩

theorem keeps_function (item : Value) (read : Function) (h : Function.ofValue? item = some read) :
    KeepsFunction item read := by
  simp only [Function.ofValue?, Option.bind_eq_bind, Option.bind_eq_some_iff] at h
  obtain ⟨name, hname, result, -, arguments, harguments, guards, -, heq⟩ := h
  obtain rfl := Option.some.inj heq
  exact ⟨hname, forall₂_mapM named_argument harguments⟩

/-- Whatever is read, the items keep their places. -/
theorem keeps_decode {document : Metadata} (h : decode? value = some document) : Keeps value document := by
  simp only [decode?, Option.bind_eq_bind, Option.bind_eq_some_iff] at h
  obtain ⟨defines, hdefines, enums, henums, typedefs, htypedefs, structs, hstructs, functions, hfunctions, heq⟩ := h
  obtain rfl := Option.some.inj heq
  exact ⟨forall₂_mapM named_define hdefines, forall₂_mapM keeps_enum henums, forall₂_mapM named_typedef htypedefs,
    forall₂_mapM keeps_struct hstructs, forall₂_mapM keeps_function hfunctions⟩

/-- A document with a function pointer: its description is a synonym over a pointer over a function with a parameter. -/
def hookDocument : Value :=
  let described (kind : String) (parts : List (String × Value)) : Value := .object (("kind", .text kind) :: parts)
  let number : Value := described "Builtin" [("builtin_type", .text "int")]
  let hook : Value := described "Function" [("return_type", described "Pointer" [("inner_type", number)]),
    ("parameters", .array [number])]
  .object [("enums", .array []), ("typedefs", .array [.object [("name", .text "ImGuiHook"), ("type", .object
    [("description", described "Type" [("inner_type", described "Pointer" [("inner_type", hook)])])])]])]

end Metadata

end InteropGen

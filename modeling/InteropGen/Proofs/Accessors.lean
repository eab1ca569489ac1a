import InteropGen.Proofs.Correspondence.Ledgers
import InteropGen.Render.Accessors

/-!
# Accessors and the fields that they reach

A layout is made when its struct is generated, and the accessors of the view are written when every type
is final. The two meet in the names of fields: an accessor's line is taken apart into its pieces
(`accessorPieces`), one of which is the field that stands behind the pointer. `Addresses` says that the
fields of a layout have what the pieces reach, and that a list begins at the first of as many slots as
it has elements. `accessors_address_iff` says that every accessor does so whose array does not have
a negative size: an array of a negative size has no fields, but its accessor reaches for the first.
-/

namespace InteropGen

namespace Decl

/-- The number of elements that a field has room for. -/
def Field.slots : Field → Nat
  | .single _ _ => 1
  | .buffer _ _ size => size.toNat

/-- The number of elements that fields have room for. -/
def slotCount : List Field → Nat
  | [] => 0
  | first :: rest => first.slots + slotCount rest

/-- A field that is no buffer has room for one element. -/
theorem slotCount_single (heads : List Head) (element : TypeText) :
    slotCount (heads.map fun head => .single head element) = heads.length := by
  induction heads with
  | nil => rfl
  | cons head heads ih => rw [List.map_cons, slotCount, ih, Field.slots, List.length_cons, Nat.add_comm]

end Decl

namespace Render

open Decl

/-! ### The pieces of a line -/

/-- A piece of an accessor's line: plain text, nowhere, a field behind the pointer, or a number. -/
inductive Piece
  | text (plain : String)
  | null
  | slot (name : String)
  | count (size : Int)
  deriving DecidableEq, Repr

/-- What a piece is written as. -/
def Piece.written : Piece → String
  | .text plain => plain
  | .null => "null"
  | .slot name => "NativePtr->" ++ name
  | .count size => Text.ofInt size

/-- The pieces, one after the other. -/
def written (pieces : List Piece) : String := String.join (pieces.map Piece.written)

/-- Where the elements of a list begin. -/
def addressPieces (name : String) (size : Int) (inPlace : Bool) : List Piece :=
  if inPlace then [.slot name]
  else if size = 0 then [.null]
  else [.text "&", .slot (name ++ "_0")]

/-- The property over a list of elements. -/
def listPieces (s : Symbols) (name spelled : String) (size : Int) (inPlace : Bool) : List Piece :=
  let element := if Text.endsWith spelled "*" then s.settings.handle else spelled
  [.text (String.join ["public RangeAccessor<", element, "> ", name, " => new RangeAccessor<",
    element, ">("])] ++ addressPieces name size inPlace ++
    [.text ", ", .count size, .text ");"]

/-- The property over a vector of elements. -/
def vectorPieces (s : Symbols) (name element : String) : List Piece :=
  match s.viewName? (element ++ "*") with
  | some view =>
    [.text (String.join ["public ImPtrVector<", view, "> ", name, " => new ImPtrVector<", view,
      ">("]), .slot name, .text (String.join [", Unsafe.SizeOf<", element, ">());"])]
  | none =>
    [.text (String.join ["public ImVector<", element, "> ", name, " => new ImVector<", element,
      ">("]), .slot name, .text ");"]

/-- The property over one field. -/
def fieldPieces (s : Symbols) (name spelled : String) : List Piece :=
  let handle := s.settings.handle
  if Text.endsWith spelled "*" then
    match s.viewName? spelled with
    | some view =>
      [.text (String.join ["public ", view, " ", name, " => new ", view, "("]), .slot name,
        .text ");"]
    | none =>
      if spelled = "byte*" && Identifier.namesText name then
        [.text (String.join ["public NullTerminatedString ", name,
          " => new NullTerminatedString("]), .slot name, .text ");"]
      else
        [.text (String.join ["public ", handle, " ", name, " \x7b get => (", handle, ")"]),
          .slot name, .text "; set => ", .slot name,
          .text (String.join [" = (", spelled, ")value; \x7d"])]
  else
    [.text (String.join ["public ref ", spelled, " ", name, " => ref Unsafe.AsRef<", spelled,
      ">(&"]), .slot name, .text ");"]

/-- The pieces of the line of an accessor. -/
def accessorPieces (s : Symbols) (accessor : Accessor) : Except Fault (List Piece) :=
  let name := accessor.head.name
  match accessor.reach with
  | .list elements size inPlace => do
    let spelled ← s.spell elements
    let _ ← numeral size
    return listPieces s name spelled size inPlace
  | .vector elementName => do return vectorPieces s name (← vectorElement s elementName)
  | .field type => do return fieldPieces s name (← s.spell type)

theorem written_listPieces (s : Symbols) (name spelled : String) (size : Int) (inPlace : Bool) :
    written (listPieces s name spelled size inPlace) =
      listAccessor s name spelled size inPlace (Text.ofInt size) := by
  have hmark : "&NativePtr->" = "&" ++ "NativePtr->" := rfl
  unfold listPieces listAccessor addressPieces listAddress
  dsimp only
  generalize (if Text.endsWith spelled "*" then s.settings.handle else spelled) = element
  cases inPlace with
  | true => simp [written, Piece.written, String.join, String.append_assoc, -String.reduceAppend]
  | false =>
    by_cases hsize : size = 0
    · simp [written, Piece.written, String.join, String.append_assoc, -String.reduceAppend, hsize]
    · simp [written, Piece.written, String.join, String.append_assoc, -String.reduceAppend, hsize, hmark]

theorem written_vectorPieces (s : Symbols) (name element : String) :
    written (vectorPieces s name element) = vectorAccessor s name element := by
  have hview : ">(NativePtr->" = ">(" ++ "NativePtr->" := rfl
  unfold vectorPieces vectorAccessor
  cases s.viewName? (element ++ "*") with
  | some view => simp [written, Piece.written, String.join, String.append_assoc, -String.reduceAppend, hview]
  | none => simp [written, Piece.written, String.join, String.append_assoc, -String.reduceAppend, hview]

theorem written_fieldPieces (s : Symbols) (name spelled : String) :
    written (fieldPieces s name spelled) = fieldAccessor s name spelled := by
  have hview : "(NativePtr->" = "(" ++ "NativePtr->" := rfl
  have htext : " => new NullTerminatedString(NativePtr->" =
    " => new NullTerminatedString(" ++ "NativePtr->" := rfl
  have hget : ")NativePtr->" = ")" ++ "NativePtr->" := rfl
  have hset : "; set => NativePtr->" = "; set => " ++ "NativePtr->" := rfl
  have href : ">(&NativePtr->" = ">(&" ++ "NativePtr->" := rfl
  unfold fieldPieces fieldAccessor
  dsimp only
  split
  · cases s.viewName? spelled with
    | some view => simp [written, Piece.written, String.join, String.append_assoc, -String.reduceAppend, hview]
    | none =>
      dsimp only
      split
      · simp [written, Piece.written, String.join, String.append_assoc, -String.reduceAppend, htext]
      · simp [written, Piece.written, String.join, String.append_assoc, -String.reduceAppend, hget, hset]
  · simp [written, Piece.written, String.join, String.append_assoc, -String.reduceAppend, href]

theorem eq_of_numeral {n : Int} {text : String} (h : numeral n = .ok text) : text = Text.ofInt n := by
  unfold numeral at h
  split at h
  · exact (Except.ok.inj h).symm
  · cases h

/-- The line of an accessor is its pieces, written one after the other. -/
theorem accessorLine_eq (s : Symbols) (accessor : Accessor) :
    accessorLine s accessor = (accessorPieces s accessor).map written := by
  obtain ⟨head, reach⟩ := accessor
  cases reach with
  | list elements size inPlace =>
    dsimp only [accessorLine, accessorPieces]
    cases s.spell elements with
    | error fault => rfl
    | ok spelled =>
      cases hcount : numeral size with
      | error fault => rfl
      | ok count =>
        obtain rfl := eq_of_numeral hcount
        exact congrArg Except.ok (written_listPieces s _ spelled size inPlace).symm
  | vector elementName =>
    dsimp only [accessorLine, accessorPieces]
    cases vectorElement s elementName with
    | error fault => rfl
    | ok element => exact congrArg Except.ok (written_vectorPieces s _ element).symm
  | field type =>
    dsimp only [accessorLine, accessorPieces]
    cases s.spell type with
    | error fault => rfl
    | ok spelled => exact congrArg Except.ok (written_fieldPieces s _ spelled).symm

/-! ### What the pieces reach -/

/-- A list begins at the first of as many slots as it has elements, or nowhere if there are none. -/
def BeginsAt (pieces : List Piece) (size : Int) : List Field → Prop
  | [] => .null ∈ pieces
  | first :: rest => .slot first.head.name ∈ pieces ∧ (slotCount (first :: rest) : Int) = size

/-- The fields have what the pieces reach, and a list begins at the first of them. -/
structure Addresses (fields : List Field) (pieces : List Piece) : Prop where
  declared : ∀ name, .slot name ∈ pieces → ∃ field ∈ fields, field.head.name = name
  range : ∀ size, .count size ∈ pieces → BeginsAt pieces size fields

variable {s : Symbols} {head : Head} {pieces : List Piece}

theorem accessorPieces_list {elements : TypeText} {size : Int} {inPlace : Bool}
    (h : accessorPieces s ⟨head, .list elements size inPlace⟩ = .ok pieces) :
    ∃ before, pieces = .text before :: addressPieces head.name size inPlace ++
      [.text ", ", .count size, .text ");"] := by
  obtain ⟨spelled, -, hrest⟩ := Build.except_bind_ok.mp h
  obtain ⟨_, -, hpieces⟩ := Build.except_bind_ok.mp hrest
  obtain rfl := Except.ok.inj hpieces
  exact ⟨_, rfl⟩

/-- Any accessor of one field reaches that field alone. -/
theorem accessorPieces_single {reach : Reach}
    (hreach : (∃ type, reach = .field type) ∨ ∃ element, reach = .vector element)
    (h : accessorPieces s ⟨head, reach⟩ = .ok pieces) :
    (∀ name, .slot name ∈ pieces ↔ name = head.name) ∧ ∀ size, .count size ∉ pieces := by
  rcases hreach with ⟨type, rfl⟩ | ⟨element, rfl⟩
  · obtain ⟨spelled, -, hpieces⟩ := Build.except_bind_ok.mp h
    obtain rfl := Except.ok.inj hpieces
    unfold fieldPieces
    dsimp only
    split
    · split
      · simp
      · split <;> simp
    · simp
  · obtain ⟨spelled, -, hpieces⟩ := Build.except_bind_ok.mp h
    obtain rfl := Except.ok.inj hpieces
    unfold vectorPieces
    split <;> simp

end Render

namespace Generate

open Metadata Decl Build Symbols Render

variable {s₀ s s' : Symbols} {st st' : Scoped} {sizes : Table Int} {field : Metadata.Field}
  {item : Struct}

/-! ### What a field adds to a layout -/

/-- An array adds one buffer or numbered fields, by the size of its bounds, any other field one. -/
inductive Contributes (sizes : Table Int) (field : Metadata.Field) : List Decl.Field → Prop
  | buffer {size head element} (harray : field.isArray = true)
      (hsize : sizes.find? (arrayParts field).2 = some size) (hpos : 0 < size)
      (hname : head.name = field.name) : Contributes sizes field [.buffer head element size]
  | numbered {size element} {heads : List Head} (harray : field.isArray = true)
      (hsize : sizes.find? (arrayParts field).2 = some size)
      (hnames : heads.map Head.name =
        (List.range size.toNat).map fun i => field.name ++ "_" ++ toString i) :
      Contributes sizes field (heads.map fun head => .single head element)
  | plain {head type} (hplain : field.isArray = false) (hname : head.name = field.name) :
      Contributes sizes field [.single head type]

/-- What a field adds to the layout and to the view, and how the two meet. -/
structure Meets (sizes : Table Int) (field : Metadata.Field) (part : List Decl.Field × Accessor) :
    Prop where
  contributes : Contributes sizes field part.1
  name : part.2.head.name = field.name
  line (s : Symbols) : accessorLine s part.2 = (accessorPieces s part.2).map written
  count {s pieces} (h : accessorPieces s part.2 = .ok pieces) (size : Int) : .count size ∈ pieces ↔
    field.isArray = true ∧ sizes.find? (arrayParts field).2 = some size
  addresses {s pieces} (h : accessorPieces s part.2 = .ok pieces) :
    Addresses part.1 pieces ↔ ∀ size, .count size ∈ pieces → 0 ≤ size

/-- The head of a field with a number. -/
def numberedHead (field : Metadata.Field) (i : Nat) : Head :=
  fieldHead (field.name ++ "_" ++ toString i) false (if i = 0 then field.comments else none)

theorem name_fieldHead (name : String) (isBuffer : Bool) (comments : Option Comments) :
    (fieldHead name isBuffer comments).name = name :=
  Head.name_withComments _ _

theorem arrayFields_numbered (field : Metadata.Field) (element : TypeText) (size : Int) :
    arrayFields field element size false =
      ((List.range size.toNat).map (numberedHead field)).map fun head => .single head element := by
  rw [List.map_map]
  rfl

theorem contributes_arrayFields {element : TypeText} {size : Int} {inPlace : Bool}
    (harray : field.isArray = true) (hsize : sizes.find? (arrayParts field).2 = some size)
    (hplace : inPlace = true → 0 < size) :
    Contributes sizes field (arrayFields field element size inPlace) := by
  cases inPlace with
  | true => exact .buffer harray hsize (hplace rfl) (name_fieldHead _ _ _)
  | false =>
    rw [arrayFields_numbered]
    refine .numbered harray hsize ?_
    rw [List.map_map]
    exact List.map_congr_left fun i _ => name_fieldHead _ _ _

/-! ### Where the accessor of an array begins -/

/-- A positive number of numbered fields begins with the one that the accessor addresses. -/
theorem addresses_numbered {element : TypeText} {size : Int} {before : String} (hpos : 0 < size) :
    Addresses (arrayFields field element size false)
      (.text before :: addressPieces field.name size false ++
        [.text ", ", .count size, .text ");"]) := by
  have hne : size ≠ 0 := by omega
  obtain ⟨n, hn⟩ : ∃ n, size.toNat = n + 1 := ⟨size.toNat - 1, by omega⟩
  have hfirst : (numberedHead field 0).name = field.name ++ "_0" := by
    have hzero : "_" ++ toString 0 = "_0" := rfl
    rw [numberedHead, name_fieldHead, String.append_assoc, hzero]
  have hfields : arrayFields field element size false = .single (numberedHead field 0) element ::
      ((List.range n).map fun i => .single (numberedHead field (i + 1)) element) := by
    rw [arrayFields_numbered, hn, List.range_succ_eq_map]
    simp [Function.comp_def]
  have hslots : slotCount (arrayFields field element size false) = size.toNat := by
    rw [arrayFields_numbered, slotCount_single, List.length_map, List.length_range]
  refine ⟨fun name hname => ?_, fun other hother => ?_⟩
  · obtain rfl : name = field.name ++ "_0" := by simpa [addressPieces, hne] using hname
    rw [hfields]
    exact ⟨_, List.mem_cons_self, hfirst⟩
  · obtain rfl : other = size := by simpa [addressPieces, hne] using hother
    rw [hfields] at hslots ⊢
    refine ⟨?_, by omega⟩
    rw [Field.head, hfirst]
    simp [addressPieces, hne]

/-- The accessor of an array fits its fields exactly if the size is not negative. -/
theorem addresses_arrayFields_iff {element : TypeText} {size : Int} {inPlace : Bool}
    {before : String} (hplace : inPlace = true → 0 < size) :
    Addresses (arrayFields field element size inPlace)
      (.text before :: addressPieces field.name size inPlace ++
        [.text ", ", .count size, .text ");"]) ↔ 0 ≤ size := by
  cases inPlace with
  | true =>
    have hpos := hplace rfl
    have hle : 0 ≤ size := Int.le_of_lt hpos
    have hbuffer : arrayFields field element size true =
        [.buffer (fieldHead field.name true field.comments) element size] := rfl
    rw [hbuffer]
    refine ⟨fun _ => hle, fun _ => ⟨fun name hname => ?_, fun other hother => ?_⟩⟩
    · obtain rfl : name = field.name := by simpa [addressPieces] using hname
      exact ⟨_, List.mem_singleton_self _, name_fieldHead _ _ _⟩
    · obtain rfl : other = size := by simpa [addressPieces] using hother
      refine ⟨?_, ?_⟩
      · rw [Field.head, name_fieldHead]
        simp [addressPieces]
      · simp [slotCount, Field.slots, Int.max_eq_left hle]
  | false =>
    rcases Int.lt_trichotomy size 0 with hneg | rfl | hpos
    · have hne : size ≠ 0 := by omega
      have hempty : arrayFields field element size false = [] := by
        rw [arrayFields_numbered, Int.toNat_of_nonpos (Int.le_of_lt hneg)]
        rfl
      refine ⟨fun h => ?_, fun h => by omega⟩
      -- Nothing was laid out, but the address is not that of nothing.
      have hrange := h.range size (by simp)
      rw [hempty] at hrange
      simp [BeginsAt, addressPieces, hne] at hrange
    · refine ⟨fun _ => Int.le_refl 0, fun _ => ⟨fun name hname => ?_, fun other hother => ?_⟩⟩
      · simp [addressPieces] at hname
      · simp [arrayFields, BeginsAt, addressPieces]
    · exact ⟨fun _ => Int.le_of_lt hpos, fun _ => addresses_numbered hpos⟩

/-- The field and accessor of a field, with the size of its bounds if it is an array. -/
inductive Sized (sizes : Table Int) (field : Metadata.Field) : List Decl.Field × Accessor → Prop
  | array {element size inPlace} (harray : field.isArray = true)
      (hsize : sizes.find? (arrayParts field).2 = some size) (hplace : inPlace = true → 0 < size) :
      Sized sizes field (arrayFields field element size inPlace,
        accessorOf field (.list element size inPlace))
  | plain {type reach} (hplain : field.isArray = false)
      (hreach : (∃ type, reach = .field type) ∨ ∃ element, reach = .vector element) :
      Sized sizes field ([.single (fieldHead field.name false field.comments) type],
        accessorOf field reach)

theorem Sized.keeps {part : List Decl.Field × Accessor} (h : KeepsSizes s s')
    (hpart : Sized s.arraySizes field part) : Sized s'.arraySizes field part := by
  cases hpart with
  | array harray hsize hplace => exact .array harray (h _ _ hsize) hplace
  | plain hplain hreach => exact .plain hplain hreach

theorem Sized.meets {part : List Decl.Field × Accessor} (h : Sized sizes field part) :
    Meets sizes field part := by
  have hname : (Head.withComments { name := field.name } field.comments).name = field.name :=
    Head.name_withComments _ _
  cases h with
  | @array element size inPlace harray hsize hplace =>
    have hcount : ∀ before other, .count other ∈ (.text before ::
        addressPieces field.name size inPlace ++ [.text ", ", .count size, .text ");"] : List Piece) ↔
          other = size := by
      intro before other
      unfold addressPieces
      split
      · simp
      · split <;> simp
    refine ⟨contributes_arrayFields harray hsize hplace, hname, fun s => accessorLine_eq s _,
      fun h other => ?_, fun h => ?_⟩
    · obtain ⟨before, rfl⟩ := accessorPieces_list h
      rw [hname, hcount, hsize]
      simp [harray, eq_comm]
    · obtain ⟨before, rfl⟩ := accessorPieces_list h
      rw [hname, addresses_arrayFields_iff hplace]
      simp only [hcount, forall_eq]
  | plain hplain hreach =>
    refine ⟨.plain hplain (name_fieldHead _ _ _), hname, fun s => accessorLine_eq s _,
      fun h size => ?_, fun h => ?_⟩
    · obtain ⟨-, hcount⟩ := accessorPieces_single hreach h
      simp [hcount, hplain]
    · obtain ⟨hslot, hcount⟩ := accessorPieces_single hreach h
      refine ⟨fun _ size hsize => absurd hsize (hcount size), fun _ => ⟨fun name hmem => ?_,
        fun size hsize => absurd hsize (hcount size)⟩⟩
      rw [hslot, hname] at hmem
      exact ⟨_, List.mem_singleton_self _, hmem ▸ name_fieldHead _ _ _⟩

/-! ### Generating -/

/-- Only an array of a positive size stands in place. -/
theorem pos_of_fitsBuffer {element : TypeId} {size : Int}
    (hrun : (fitsBuffer element size).runOn s = (.ok true, s')) : 0 < size := by
  unfold fitsBuffer at hrun
  split at hrun
  · next hpos => exact hpos
  · obtain ⟨hfalse, -⟩ := ok_pure.mp hrun
    simp at hfalse

theorem sized_arrayField {structName : String} {part : List Decl.Field × Accessor}
    (harray : field.isArray = true)
    (hrun : (arrayField structName field).runOn s = (.ok part, s')) :
    Sized s'.arraySizes field part := by
  obtain ⟨size, middle, hread, hrun⟩ := ok_bind.mp hrun
  have hsize : arraySize (arrayParts field).2 (structName ++ "." ++ field.name) s = (size, middle) :=
    ok_readSize hread
  obtain ⟨id, after, hid, hrun⟩ := ok_bind.mp hrun
  obtain ⟨inPlace, last, hbuffer, hrun⟩ := ok_bind.mp hrun
  obtain ⟨rfl, rfl⟩ := ok_pure.mp hrun
  have helement : KeepsSizes _ after := (walk_elementType sizedTypes trivial).of_ok hid
  have hafter : KeepsSizes after last := (preserves_fitsBuffer _ _).of_ok hbuffer
  have hfind := find?_arraySize (arrayParts field).2 (structName ++ "." ++ field.name) s
  rw [hsize] at hfind
  refine .array harray (hafter _ _ (helement _ _ hfind)) fun hplace => ?_
  subst hplace
  exact pos_of_fitsBuffer hbuffer

theorem sized_layoutField {structName : String} {part : List Decl.Field × Accessor}
    (hrun : (layoutField structName field).runOn s = (.ok part, s')) :
    Sized s'.arraySizes field part := by
  unfold layoutField at hrun
  split at hrun
  · next harray => exact sized_arrayField harray hrun
  · next hplain =>
    have hplain : field.isArray = false := by simpa using hplain
    cases fieldOf_plainField (.refl s) (.refl s) hplain hrun with
    | array harray _ => simp [hplain] at harray
    | callback _ _ _ => exact .plain hplain (.inl ⟨_, rfl⟩)
    | other _ _ hreach _ =>
      refine .plain hplain ?_
      rcases hreach with rfl | ⟨element, -, rfl⟩
      · exact .inl ⟨_, rfl⟩
      · exact .inr ⟨element, rfl⟩

theorem sized_layoutFields {nativeName structName : String} {fields : List Metadata.Field}
    {parts : List (List Decl.Field × Accessor)} (h₀ : s₀.Grows s)
    (hrun : (layoutFields nativeName structName fields).runOn s = (.ok parts, s')) :
    List.Forall₂ (Sized s'.arraySizes) (fields.filter fun field => (fieldSkip? s₀ field).isNone)
      parts := by
  induction fields generalizing parts s with
  | nil =>
    obtain ⟨rfl, rfl⟩ := ok_pure.mp hrun
    exact .nil
  | cons field rest ih =>
    obtain ⟨state, middle, hget, hrun⟩ := ok_bind.mp hrun
    obtain ⟨rfl, rfl⟩ := ok_get.mp hget
    split at hrun
    · next reason hreason =>
      obtain ⟨_, middle, hskip, hrun⟩ := ok_bind.mp hrun
      have hgrow := ((Preserves.modify fun s => quiet_skip s _ _ _).of_ok hskip).toGrows
      rw [fieldSkip?_grows h₀] at hreason
      rw [List.filter_cons_of_neg (by simp [hreason])]
      exact ih (h₀.trans hgrow) hrun
    · next hreason =>
      obtain ⟨first, middle, hfirst, hrun⟩ := ok_bind.mp hrun
      obtain ⟨others, after, hothers, hrun⟩ := ok_bind.mp hrun
      obtain ⟨rfl, rfl⟩ := ok_pure.mp hrun
      have hgrow := ((registers_layoutField (P := fun _ _ => True) fun _ _ => trivial).of_ok
        hfirst).1
      have hafter : KeepsSizes middle after := (walk_layoutFields sizesWalk (fun _ _ => trivial)
        (fun _ _ _ _ => trivial) nativeName structName).of_ok hothers
      rw [fieldSkip?_grows h₀] at hreason
      rw [List.filter_cons_of_pos (by simp [hreason])]
      exact .cons ((sized_layoutField hfirst).keeps hafter) (ih (h₀.trans hgrow) hothers)

/--
Whatever the bounds of its arrays come to, a struct has a layout whose fields are what its own fields
add in their order, and one accessor for each of them. The accessor reaches what was added for its field
and passes the size of its bounds, begins at the first of as many slots or at none: exactly if that
size is not negative.
-/
theorem accessors_address_iff {target : WrapperClass} {functions : List Function} {layout : Layout}
    {view : View}
    (hrun : (struct target item functions).runOn st = (.ok (some (layout, view)), st')) :
    ∃ parts : List (List Decl.Field × Accessor),
      layout.fields = parts.flatMap (·.1) ∧ view.accessors = parts.map (·.2) ∧
      List.Forall₂ (Meets st'.symbols.arraySizes) (keptFields st.symbols item) parts := by
  cases hskip : structSkip? st.symbols item with
  | some reason =>
    rw [runOn_struct_left hskip] at hrun
    simp at hrun
  | none =>
    rw [runOn_struct_kept hskip] at hrun
    unfold announcedPair at hrun
    split at hrun
    · obtain ⟨hnone, -⟩ := ok_pure.mp hrun
      simp at hnone
    · obtain ⟨state, first, hget, hrun⟩ := ok_bind.mp hrun
      obtain ⟨rfl, rfl⟩ := ok_get.mp hget
      obtain ⟨parts, laid, hparts, hrun⟩ := ok_bind.mp hrun
      obtain ⟨_, begun, hclass, hrun⟩ := ok_bind.mp hrun
      obtain ⟨methods, last, hmethods, hrun⟩ := ok_bind.mp hrun
      obtain ⟨hpair, rfl⟩ := ok_pure.mp hrun
      obtain ⟨rfl, rfl⟩ := Prod.mk.inj (Option.some.inj hpair)
      obtain ⟨symbols, hfields, rfl⟩ := ok_onSymbols.mp hparts
      have hbegun : KeepsSizes symbols begun.symbols :=
        (preserves_beginClass (R := KeepsSizes)).of_ok hclass
      have hlast : KeepsSizes begun.symbols last.symbols :=
        (walk_methodWrappers sizedTypes target _ fun _ _ => ⟨trivial, fun _ _ _ _ => trivial⟩).of_ok
          hmethods
      have hsized := sized_layoutFields (quiet_announced item st.symbols).toGrows hfields
      refine ⟨parts, rfl, rfl, hsized.imp fun field part hpart => ?_⟩
      exact ((hpart.keeps hbegun).keeps hlast).meets

/-- A struct with arrays of a positive and of a negative size. -/
def ring : Struct where
  name := "ImRing"
  fields :=
    [{ name := "head", info := { type := { kind := .builtin, builtin := some "int" } } },
     { name := "links", isArray := true, bounds := some "2",
       info := { type :=
        { kind := .pointer, inner := some { kind := .builtin, builtin := some "int" } } } },
     { name := "keys", isArray := true, bounds := some "4-5"
       info := { type := { kind := .builtin, builtin := some "int" } } }]

theorem accessors_address_iff_ring :
    ∃ layout view st', (struct ⟨"Native", false⟩ ring []).runOn { symbols := ofSettings {} } =
        (.ok (some (layout, view)), st') ∧
      layout.fields.map (·.head.name) = ["head", "links_0", "links_1"] ∧
      ∃ parts : List (List Decl.Field × Accessor),
        layout.fields = parts.flatMap (·.1) ∧ view.accessors = parts.map (·.2) ∧
        List.Forall₂ (Meets st'.symbols.arraySizes) (keptFields (ofSettings {}) ring) parts := by
  obtain ⟨made, st', hrun, hread⟩ := exists_ok (struct ⟨"Native", false⟩ ring [])
    { symbols := ofSettings {} } (fun made _ => made.map fun pair => pair.1.fields.map (·.head.name))
    (b := some ["head", "links_0", "links_1"]) (by decide +kernel)
  obtain ⟨⟨layout, view⟩, rfl, hnames⟩ := Option.map_eq_some_iff.mp hread
  have hmeets := accessors_address_iff hrun
  exact ⟨layout, view, st', hrun, hnames, hmeets⟩

end Generate

end InteropGen

import InteropGen.Proofs.Correspondence.Document
import InteropGen.Proofs.Sizes

/-!
# Sizes and what is left out

Two tables of the symbols are ledgers: the sizes that bounds came to, and the items that were left out.
Resolving types and registering callback types touch neither (`SameLedgers`). The size of a bound is
entered once and stays from then on (`sizesWalk`), and below the items of a document nothing is left out
(`skipsWalk`), so that a generator's own step accounts for every new entry.
-/

namespace InteropGen.Generate

open Metadata Decl Build Symbols

variable {s s' s'' : Symbols}

/-- The sizes and what was left out are as before. -/
structure SameLedgers (s s' : Symbols) : Prop where
  sizes : s'.arraySizes = s.arraySizes
  skipped : s'.skipped = s.skipped

/-- Nothing more was left out. -/
def SameSkips (s s' : Symbols) : Prop := s'.skipped = s.skipped

/-- The sizes that are known stay. -/
def KeepsSizes (s s' : Symbols) : Prop :=
  ∀ bounds size, s.arraySizes.find? bounds = some size → s'.arraySizes.find? bounds = some size

instance : Std.Refl SameLedgers := ⟨fun _ => ⟨rfl, rfl⟩⟩
instance : IsTrans Symbols SameLedgers :=
  ⟨fun _ _ _ h h' => ⟨h'.sizes.trans h.sizes, h'.skipped.trans h.skipped⟩⟩
instance : Std.Refl SameSkips := ⟨fun _ => rfl⟩
instance : IsTrans Symbols SameSkips := ⟨fun _ _ _ h h' => h'.trans h⟩
instance : Std.Refl KeepsSizes := ⟨fun _ _ _ h => h⟩
instance : IsTrans Symbols KeepsSizes := ⟨fun _ _ _ h h' bounds size hfind =>
  h' bounds size (h bounds size hfind)⟩

theorem KeepsSizes.of_eq (h : s'.arraySizes = s.arraySizes) : KeepsSizes s s' :=
  fun bounds size hfind => by rw [h, hfind]

theorem sameLedgers_resolve (delegateName : Option String) (t : NativeType) :
    Preserves SameLedgers (resolve delegateName t) :=
  walk_resolve ⟨fun _ _ => ⟨rfl, rfl⟩, fun _ _ => ⟨rfl, rfl⟩, fun _ _ => ⟨rfl, rfl⟩,
    fun _ _ => ⟨rfl, rfl⟩⟩ delegateName t

theorem sameLedgers_addDelegate (method : Method) (s : Symbols) :
    SameLedgers s (addDelegate method s).2 := by
  unfold addDelegate
  dsimp only
  split
  · exact ⟨rfl, rfl⟩
  · exact ⟨rfl, rfl⟩

/-! ### Sizes -/

/-- The size that a bound comes to is entered, and what is entered is not computed again. -/
theorem find?_arraySize (bounds owner : String) (s : Symbols) :
    (arraySize bounds owner s).2.arraySizes.find? bounds = some (arraySize bounds owner s).1 := by
  rw [arraySizes_arraySize, Table.find?_insertNew_self, fst_arraySize]

theorem keepsSizes_arraySize (bounds owner : String) (s : Symbols) :
    KeepsSizes s (arraySize bounds owner s).2 := by
  intro other size hother
  rw [arraySizes_arraySize]
  by_cases hsame : other = bounds
  · subst hsame
    rw [Table.find?_insertNew_self, hother, Option.getD_some]
  · rw [Table.find?_insertNew_of_ne _ hsame, hother]

theorem keepsSizes_resolve (delegateName : Option String) (t : NativeType) :
    Preserves KeepsSizes (resolve delegateName t) :=
  (sameLedgers_resolve delegateName t).mono fun _ _ h => .of_eq h.sizes

theorem sizedTypes : Walk KeepsSizes fun _ => True where
  warn _ _ := .of_eq rfl
  size := keepsSizes_arraySize
  vector _ := .of_eq rfl
  resolve _ := keepsSizes_resolve none _
  inner _ _ := trivial

theorem sizesWalk : DocumentWalk KeepsSizes (fun _ => True) fun _ _ => True where
  toWalk := sizedTypes
  register comments _ := walk_registerDelegate sizedTypes
    (fun method s => .of_eq (sameLedgers_addDelegate method s).sizes) comments (fun _ _ => trivial)
    fun _ _ => trivial
  callback _ _ _ := keepsSizes_resolve _ _
  skip _ _ _ _ := .of_eq rfl

/-! ### What is left out -/

theorem sameSkips_arraySize (bounds owner : String) (s : Symbols) :
    SameSkips s (arraySize bounds owner s).2 := by
  unfold arraySize
  split
  · rfl
  · dsimp only
    split <;> rfl

theorem sameSkips_resolve (delegateName : Option String) (t : NativeType) :
    Preserves SameSkips (resolve delegateName t) :=
  (sameLedgers_resolve delegateName t).mono fun _ _ h => h.skipped

theorem unskippedTypes : Walk SameSkips fun _ => True where
  warn _ _ := rfl
  size := sameSkips_arraySize
  vector _ := rfl
  resolve _ := sameSkips_resolve none _
  inner _ _ := trivial

theorem skipsWalk : DeclaringWalk SameSkips (fun _ => True) fun _ _ => True where
  toWalk := unskippedTypes
  register comments _ := walk_registerDelegate unskippedTypes
    (fun method s => (sameLedgers_addDelegate method s).skipped) comments (fun _ _ => trivial)
    fun _ _ => trivial
  callback _ _ _ := sameSkips_resolve _ _

end InteropGen.Generate

import InteropGen.Proofs.Correspondence.Relation

/-!
# Walks over a document

Generators change the symbols in few ways: they resolve native types of the document, register its
callback types, and note warnings, sizes and what is left out. `Walk R Q` says that a relation between
symbols allows warnings, sizes and the resolving of the types that `Q` holds of, `DeclaringWalk R Q P`
that it allows registering the callback types of `P` too, and `DocumentWalk R Q P` that items may be
left out. A lemma `walk_…` then leads every generator along any such relation, so that a new relation
needs no lemmas about generators of its own.
-/

namespace InteropGen.Generate

open Metadata Build Symbols

/-- Something is noted that no type is made from or spelled by. -/
structure Notes (s s' : Symbols) : Prop where
  settings : s'.settings = s.settings
  arena : s'.arena = s.arena
  types : s'.types = s.types
  pending : s'.pending = s.pending
  defines : s'.defines = s.defines
  enums : s'.enums = s.enums
  opaqueStructs : s'.opaqueStructs = s.opaqueStructs
  delegates : s'.delegates = s.delegates
  warnings : s.warnings ⊆ s'.warnings

theorem notes_warn (s : Symbols) (text : String) : Notes s (s.warn text) :=
  ⟨rfl, rfl, rfl, rfl, rfl, rfl, rfl, rfl, List.subset_append_left _ _⟩

theorem notes_skip (s : Symbols) (kind : ItemKind) (name : String) (reason : SkipReason) :
    Notes s (s.skip kind name reason) :=
  ⟨rfl, rfl, rfl, rfl, rfl, rfl, rfl, rfl, List.Subset.refl _⟩

theorem notes_arraySize (bounds owner : String) (s : Symbols) :
    Notes s (arraySize bounds owner s).2 := by
  unfold arraySize
  split
  · exact ⟨rfl, rfl, rfl, rfl, rfl, rfl, rfl, rfl, List.Subset.refl _⟩
  · dsimp only
    split
    · exact ⟨rfl, rfl, rfl, rfl, rfl, rfl, rfl, rfl, List.Subset.refl _⟩
    · exact ⟨rfl, rfl, rfl, rfl, rfl, rfl, rfl, rfl, List.subset_append_left _ _⟩

theorem quiet_notes {s s' : Symbols} (h : Notes s s') : Quiet s s' where
  sound hs :=
    ⟨h.arena ▸ hs.arena, by rw [h.arena, h.settings, hs.handle],
      fun id hid => h.arena ▸ hs.pending id (h.pending ▸ hid), h.pending ▸ hs.nodup,
      fun name id hfind => h.arena ▸ hs.types name id (h.types ▸ hfind)⟩
  settings := h.settings
  defines := h.defines
  enums := h.enums
  arena := h.arena ▸ .refl _
  types _ _ hfind := h.types ▸ hfind
  opaqueStructs _ hmem := h.opaqueStructs ▸ hmem
  pending _ hmem := h.pending ▸ hmem
  delegates := h.delegates

theorem quiet_arraySize (bounds owner : String) (s : Symbols) :
    Quiet s (arraySize bounds owner s).2 :=
  quiet_notes (notes_arraySize bounds owner s)

/-- The relation allows warnings, the sizes of arrays and resolving the types. -/
structure Walk (R : Symbols → Symbols → Prop) (Q : NativeType → Prop) : Prop where
  warn (s : Symbols) (text : String) : R s (s.warn text)
  size (bounds owner : String) (s : Symbols) : R s (arraySize bounds owner s).2
  vector (s : Symbols) : R s (namedType s.settings.vectorName s).2
  resolve {t : NativeType} (h : Q t) : Preserves R (resolve none t)
  inner {t inner : NativeType} (h : Q t) (hinner : t.inner = some inner) : Q inner

/-- The relation also allows registering the callback types. -/
structure DeclaringWalk (R : Symbols → Symbols → Prop) (Q : NativeType → Prop)
    (P : String → NativeType → Prop) : Prop extends Walk R Q where
  register {name : String} {target : NativeType} (comments : Option Comments) (h : P name target) :
    Preserves R (registerDelegate target name comments)
  callback {name : String} {t target : NativeType} (ht : Q t) (htarget : t.callback? = some target)
    (h : P name target) : Preserves R (Symbols.resolve (some name) t)

/-- The relation also allows leaving items out. -/
structure DocumentWalk (R : Symbols → Symbols → Prop) (Q : NativeType → Prop)
    (P : String → NativeType → Prop) : Prop extends DeclaringWalk R Q P where
  skip (s : Symbols) (kind : ItemKind) (name : String) (reason : SkipReason) :
    R s (s.skip kind name reason)

/-- Reading a bound gives its size, or fails and leaves everything as it was. -/
theorem runOn_readSize (bounds owner : String) (s : Symbols) :
    (readSize bounds owner).runOn s =
      if !s.arraySizes.contains bounds && s.hasLongWord then (.error .longNumber, s)
      else (.ok (arraySize bounds owner s).1, (arraySize bounds owner s).2) := by
  unfold readSize
  rw [runOn_bind, runOn_get]
  dsimp only
  split
  · exact runOn_throw _ s
  · exact runOn_lift _ s

theorem ok_readSize {bounds owner : String} {size : Int} {s s' : Symbols}
    (hrun : (readSize bounds owner).runOn s = (.ok size, s')) :
    arraySize bounds owner s = (size, s') := by
  rw [runOn_readSize] at hrun
  split at hrun
  · cases hrun
  · cases hrun
    rfl

theorem walk_readSize {R : Symbols → Symbols → Prop} [Std.Refl R] {Q : NativeType → Prop}
    (h : Walk R Q) (bounds owner : String) : Preserves R (readSize bounds owner) := by
  intro s
  rw [runOn_readSize]
  split
  · exact Std.Refl.refl s
  · exact h.size bounds owner s

theorem quietWalk : Walk Quiet fun _ => True where
  warn := quiet_warn
  size := quiet_arraySize
  vector s := quiet_namedType _ s
  resolve _ := quiet_resolve none _
  inner _ _ := trivial

/-! ### Items and their types -/

/-- The arguments have types that the property holds of. -/
def ArgumentTypes (Q : NativeType → Prop) (arguments : List Argument) : Prop :=
  ∀ argument ∈ arguments, ∀ info, argument.info = some info → Q info.type

/-- The arguments of the function with a callback type have it under the delegate's name. -/
def ArgumentCallbacks (P : String → NativeType → Prop) (function : Function)
    (arguments : List Argument) : Prop :=
  ∀ argument ∈ arguments, ∀ info, argument.info = some info → ∀ target,
    info.type.callback? = some target → P (argumentDelegate function argument) target

/-- The property holds of the types of a function. -/
structure FunctionTypes (Q : NativeType → Prop) (function : Function) : Prop where
  result : Q function.result.type
  arguments : ArgumentTypes Q function.arguments

variable {Q : NativeType → Prop} {P : String → NativeType → Prop} {function : Function}
  {argument : Argument} {rest : List Argument}

theorem ArgumentTypes.tail (h : ArgumentTypes Q (argument :: rest)) : ArgumentTypes Q rest :=
  fun other hother => h other (List.mem_cons_of_mem _ hother)

theorem ArgumentCallbacks.tail (h : ArgumentCallbacks P function (argument :: rest)) :
    ArgumentCallbacks P function rest :=
  fun other hother => h other (List.mem_cons_of_mem _ hother)

end InteropGen.Generate

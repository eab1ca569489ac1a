import InteropGen.Proofs.RoundTrip
import InteropGen.Proofs.TableSteps

/-!
# Where open entries come from

An entry is open if it is a name that is not erased or a forward reference that is not bound. Spellings
end in open entries or in the handle, so what a type can be spelled as hangs on the open entries alone.
`Gains P` says of a stretch in which declarations are built that its new open entries are names that `P`
holds of and forward references that are pending. It holds of the constants and enums with the names
in the table of enums (`listsWalk`), and from then on with the names that generators enter (`gains_of_steps`).
`Closes` says of settling that it opens no entry but the handle's. `Watched` is what follows for forward
references over whole runs: those that are never bound have been warned of.
-/

namespace InteropGen

/-- The entry is a name that is not erased or a forward reference that is not bound. -/
inductive TypeEntry.IsOpen : TypeEntry → Prop
  | named (name : String) : IsOpen (.named name false)
  | forward (name : String) : IsOpen (.forward name none)

namespace Arena

variable {a : Arena} {id target : TypeId} {entry : TypeEntry}

/-- Erasing opens no entry. -/
theorem get?_of_erase (hopen : entry.IsOpen) (other : TypeId)
    (hget : (a.erase other).get? id = some entry) : a.get? id = some entry := by
  by_cases hid : id = other
  · subst hid
    rw [erase, get?_update_self] at hget
    obtain ⟨old, hold, rfl⟩ := Option.map_eq_some_iff.mp hget
    rcases old with ⟨name, erased⟩ | target | ⟨name, bound⟩
    · cases hopen
    · exact hold
    · exact hold
  · rwa [erase, get?_update_of_ne a hid] at hget

/-- Binding opens no entry. -/
theorem get?_of_bind (hopen : entry.IsOpen) (other target : TypeId)
    (hget : (a.bind other target).get? id = some entry) : a.get? id = some entry := by
  by_cases hid : id = other
  · subst hid
    rw [bind, get?_update_self] at hget
    obtain ⟨old, hold, rfl⟩ := Option.map_eq_some_iff.mp hget
    rcases old with ⟨name, erased⟩ | target | ⟨name, bound⟩
    · exact hold
    · cases hopen
    · cases hopen
  · rwa [get?_bind_of_ne hid] at hget

/-- An open entry of an arena in which a name was entered was there or is the name. -/
theorem get?_of_named {name : String} (hget : (a.named name).2.get? id = some entry) :
    a.get? id = some entry ∨ entry = .named name false := by
  rcases named_cases a name with ⟨known, -, heq⟩ | ⟨-, heq⟩
  · rw [heq] at hget
    exact .inl hget
  · rcases get?_push (congrArg (fun made => made.2.entries) heq) hget with ⟨-, rfl⟩ | hold
    · exact .inr rfl
    · exact .inl hold

/-- An open entry of an arena in which a pointer was entered was there. -/
theorem get?_of_pointer (hopen : entry.IsOpen)
    (hget : (a.pointer target).2.get? id = some entry) : a.get? id = some entry := by
  rcases pointer_cases a target with ⟨known, -, heq⟩ | ⟨-, heq⟩
  · rwa [heq] at hget
  · rcases get?_push (congrArg (fun made => made.2.entries) heq) hget with ⟨-, rfl⟩ | hold
    · cases hopen
    · exact hold

end Arena

namespace Generate

open Metadata Decl Build Symbols

/-! ### While declarations are built -/

/--
New names are those that the property holds of, new forward references are pending, and nothing that was
pending or warned of is forgotten.
-/
structure Gains (P : String → Prop) (s s' : Symbols) : Prop where
  names : ∀ id text, s'.arena.get? id = some (.named text false) →
    s.arena.get? id = some (.named text false) ∨ P text
  forwards : ∀ id name, s'.arena.get? id = some (.forward name none) →
    s.arena.get? id = some (.forward name none) ∨ id ∈ s'.pending
  pending : s.pending ⊆ s'.pending
  warnings : s.warnings ⊆ s'.warnings

variable {P Q : String → Prop} {s s' s'' : Symbols} {document : Metadata} {id : TypeId}
  {name text : String}

theorem Gains.trans (h : Gains P s s') (h' : Gains P s' s'') : Gains P s s'' := by
  refine ⟨fun id text hget => ?_, fun id name hget => ?_, List.Subset.trans h.pending h'.pending,
    List.Subset.trans h.warnings h'.warnings⟩
  · rcases h'.names id text hget with hold | hnew
    · exact h.names id text hold
    · exact .inr hnew
  · rcases h'.forwards id name hget with hold | hnew
    · exact (h.forwards id name hold).imp_right fun hmem => h'.pending hmem
    · exact .inr hnew

theorem Gains.mono (hP : ∀ text, P text → Q text) (h : Gains P s s') : Gains Q s s' :=
  ⟨fun id text hget => (h.names id text hget).imp_right (hP text), h.forwards, h.pending, h.warnings⟩

theorem gains_of_arena (harena : s'.arena = s.arena) (hpending : s'.pending = s.pending)
    (hwarnings : s.warnings ⊆ s'.warnings) : Gains P s s' :=
  ⟨fun _ _ hget => .inl (harena ▸ hget), fun _ _ hget => .inl (harena ▸ hget),
    fun _ hmem => hpending ▸ hmem, hwarnings⟩

theorem Gains.refl (P : String → Prop) (s : Symbols) : Gains P s s :=
  gains_of_arena rfl rfl (List.Subset.refl _)

theorem gains_notes (h : Notes s s') : Gains P s s' :=
  gains_of_arena h.arena h.pending h.warnings

theorem gains_namedType (h : P name) (s : Symbols) : Gains P s (namedType name s).2 := by
  refine ⟨fun id text hget => ?_, fun id other hget => ?_, List.Subset.refl _, List.Subset.refl _⟩
  · rcases Arena.get?_of_named hget with hold | hnew
    · exact .inl hold
    · obtain rfl : text = name := (TypeEntry.named.inj hnew).1
      exact .inr h
  · rcases Arena.get?_of_named hget with hold | hnew
    · exact .inl hold
    · simp at hnew

theorem gains_pointerTo (target : TypeId) (s : Symbols) : Gains P s (pointerTo target s).2 :=
  ⟨fun _ text hget => .inl (Arena.get?_of_pointer (.named text) hget),
    fun _ other hget => .inl (Arena.get?_of_pointer (.forward other) hget), List.Subset.refl _,
    List.Subset.refl _⟩

theorem gains_defer (name : String) (s : Symbols) : Gains P s (defer name s).2 := by
  have hpush : (defer name s).2.arena.entries = s.arena.entries.push (.forward name none) := rfl
  refine ⟨fun id text hget => ?_, fun id other hget => ?_, List.subset_append_left _ _,
    List.Subset.refl _⟩
  · rcases Arena.get?_push hpush hget with ⟨-, hnew⟩ | hold
    · simp at hnew
    · exact .inl hold
  · rcases Arena.get?_push hpush hget with ⟨rfl, -⟩ | hold
    · exact .inr (List.mem_append_right _ List.mem_cons_self)
    · exact .inl hold

theorem gains_of_step (h : Step document s s') : Gains (Enters document s) s s' := by
  cases h with
  | enter h => exact gains_namedType h s
  | point => exact gains_pointerTo _ s
  | defer name => exact gains_defer name s
  | register => exact gains_of_arena rfl rfl (List.Subset.refl _)
  | typedef => exact gains_of_arena rfl rfl (List.Subset.refl _)
  | hide name =>
    unfold addOpaque
    split
    · exact .refl _ s
    · exact gains_of_arena rfl rfl (List.Subset.refl _)
  | declare => exact gains_of_arena rfl rfl (List.Subset.refl _)
  | note h => exact gains_notes h

/-- The new names are those that some generator enters. -/
theorem gains_of_steps (h : Relation.ReflTransGen (Step document) s s') :
    Gains (fun text => ∃ middle, s.Grows middle ∧ Enters document middle text) s s' := by
  induction h with
  | refl => exact .refl _ s
  | tail hsteps hstep ih =>
    exact ih.trans ((gains_of_step hstep).mono fun _ h => ⟨_, grows_of_steps hsteps, h⟩)

/-! ### Constants and enums -/

/-- The new names are in the table of enums, which loses no row. -/
structure Lists (s s' : Symbols) : Prop where
  gains : Gains (fun text => s'.enums.contains text = true) s s'
  enums : ∀ text, s.enums.contains text = true → s'.enums.contains text = true

instance : Std.Refl Lists := ⟨fun s => ⟨.refl _ s, fun _ h => h⟩⟩
instance : IsTrans Symbols Lists :=
  ⟨fun _ _ _ h h' => ⟨(h.gains.mono h'.enums).trans h'.gains,
    fun text hmem => h'.enums text (h.enums text hmem)⟩⟩

/-- Registering names changes the types of names alone. -/
theorem registerAll_eq (names : List String) (id : TypeId) (s : Symbols) :
    registerAll names id s = { s with types := (registerAll names id s).types } := by
  induction names generalizing s with
  | nil => rfl
  | cons name rest ih => exact ih (s.registerType name id)

/-- The C# name of an enum is in the table of enums when its elements are still to come. -/
theorem lists_enumStarted (item : Metadata.Enum) (s : Symbols) : Lists s (enumStarted item s) := by
  have hregistered : ∀ enums : Table (List (String × String)),
      enums.contains (Identifier.ofEnum (baseName item.name)) = true →
      Gains (fun text => enums.contains text = true) s (enumRegistered item s) := by
    intro enums hname
    have hnamed := gains_namedType (P := fun text => enums.contains text = true) hname s
    have heq : enumRegistered item s = registerAll (enumNames item)
        (namedType (Identifier.ofEnum (baseName item.name)) s).1
        (namedType (Identifier.ofEnum (baseName item.name)) s).2 := rfl
    rw [heq, registerAll_eq]
    exact hnamed.trans (gains_of_arena rfl rfl (List.Subset.refl _))
  have henums : (enumRegistered item s).enums = s.enums := (quiet_enumRegistered item s).enums
  rcases enumStarted_cases item s with ⟨heq, hname⟩ | heq <;> rw [heq]
  · refine ⟨?_, fun text hmem => henums ▸ hmem⟩
    rw [henums]
    exact hregistered s.enums hname
  · refine ⟨?_, fun text hmem => Table.contains_insert (henums ▸ hmem) _ _⟩
    exact (hregistered _ (Table.contains_insert_self _ _ _)).trans
      (gains_of_arena rfl rfl (List.Subset.refl _))

theorem listsWalk : OpeningWalk Lists where
  note h := ⟨gains_notes h, fun _ hmem => h.enums ▸ hmem⟩
  defines _ _ := ⟨gains_of_arena rfl rfl (List.Subset.refl _), fun _ hmem => hmem⟩
  start := lists_enumStarted
  element _ _ _ _ :=
    ⟨gains_of_arena rfl rfl (List.Subset.refl _), fun _ hmem => Table.contains_insert hmem _ _⟩

/-! ### Settling -/

/-- No open entry is new but the handle's, and no warning is forgotten. -/
structure Closes (s s' : Symbols) : Prop where
  entries : ∀ id entry, entry.IsOpen → s'.arena.get? id = some entry →
    s.arena.get? id = some entry ∨ entry = .named s.settings.handle false
  settings : s'.settings = s.settings
  warnings : s.warnings ⊆ s'.warnings

theorem Closes.refl (s : Symbols) : Closes s s :=
  ⟨fun _ _ _ hget => .inl hget, rfl, List.Subset.refl _⟩

theorem Closes.trans (h : Closes s s') (h' : Closes s' s'') : Closes s s'' := by
  refine ⟨fun id entry hopen hget => ?_, h'.settings.trans h.settings,
    List.Subset.trans h.warnings h'.warnings⟩
  rcases h'.entries id entry hopen hget with hold | hnew
  · exact h.entries id entry hopen hold
  · rw [h.settings] at hnew
    exact .inr hnew

instance : Std.Refl Closes := ⟨Closes.refl⟩
instance : IsTrans Symbols Closes := ⟨fun _ _ _ => Closes.trans⟩

theorem closes_erase (s : Symbols) (name : String) : Closes s (s.erase name) := by
  have hadded : Closes s (s.addOpaque name) := by
    unfold addOpaque
    split
    · exact .refl s
    · exact ⟨fun _ _ _ hget => .inl hget, rfl, List.Subset.refl _⟩
  unfold Symbols.erase
  dsimp only
  split
  · exact hadded.trans ⟨fun _ _ hopen hget => .inl (Arena.get?_of_erase hopen _ hget), rfl,
      List.Subset.refl _⟩
  · exact hadded

theorem closes_keepLaidOut (pairs : List (Layout × View)) :
    Preserves Closes (keepLaidOut (fun pair => .ok (emptyLayout? pair)) pairs) := by
  induction pairs with
  | nil => exact .pure _
  | cons pair rest ih =>
    unfold keepLaidOut
    refine .bind (.ofExcept _) fun empty => ?_
    split
    · refine .bind (.modify fun s => ?_) fun _ => ih
      exact (closes_erase s _).trans ⟨fun _ _ _ hget => .inl hget, rfl, List.Subset.refl _⟩
    · exact .bind ih fun _ => .pure _

theorem closesWalk : BindingWalk Closes where
  clear _ := ⟨fun _ _ _ hget => .inl hget, rfl, List.Subset.refl _⟩
  handle _ := ⟨fun _ _ _ hget => Arena.get?_of_named hget, rfl, List.Subset.refl _⟩
  bind _ _ _ := ⟨fun _ _ hopen hget => .inl (Arena.get?_of_bind hopen _ _ hget), rfl,
    List.Subset.refl _⟩
  warn _ _ := ⟨fun _ _ _ hget => .inl hget, rfl, List.subset_append_left _ _⟩

theorem closes_resolvePending (s : Symbols) : Closes s (resolvePending s).2 :=
  walk_resolvePending closesWalk s

end Generate

end InteropGen

import InteropGen.Proofs.Calls
import InteropGen.Proofs.Opaque

/-!
# Resolving the names of structs and enums

A struct and an enum register their native names with the type of their C# name, and the first
registration of a name stays. `resolves_declared` says what the names are resolved to when the
declarations are written, for every struct with a layout and every enum that is generated: an opaque
name to the handle; a name that had a type before to that type, whichever declaration, typedef or
earlier configuration gave it; and every other name to the C# name of the declaration.
-/

namespace InteropGen

open Build

namespace Symbols

open Generate

variable {s s' cut : Symbols} {name text : String} {id : TypeId}

/-! ### Resolving a name now -/

/-- The spelling of what a native name is resolved to. -/
def resolved (s : Symbols) (name : String) : Except Fault String :=
  (resolveName name s).2.spellId (resolveName name s).1

theorem resolved_of_mem (hs : s.Sound) (hconv : s.settings.conversions.find? name = none)
    (hmem : name ∈ s.opaqueStructs) : s.resolved name = .ok s.settings.handle := by
  have hresolve : resolveName name s = namedType s.settings.handle s := by
    rcases resolveName_cases name s with ⟨converted, hfind, -⟩ | ⟨-, ⟨-, h⟩ | ⟨hnot, -⟩⟩
    · rw [hconv] at hfind
      simp at hfind
    · exact h
    · exact absurd hmem hnot
  have hlast : (namedType s.settings.handle s).2.Sound := (quiet_namedType _ s).sound hs
  rw [resolved, hresolve, spellId_namedType hlast (Grows.refl _).evolves]
  exact congrArg _ (nameText_handle (namedType s.settings.handle s).2)

theorem resolved_of_find? (hconv : s.settings.conversions.find? name = none)
    (hmem : name ∉ s.opaqueStructs) (hfind : s.types.find? name = some id) :
    s.resolved name = s.spellId id := by
  have hresolve : resolveName name s = (id, s) := by
    rcases resolveName_cases name s with
      ⟨converted, hconverted, -⟩ | ⟨-, ⟨hhidden, -⟩ | ⟨-, ⟨known, hknown, h⟩ | ⟨hnone, -⟩⟩⟩
    · rw [hconv] at hconverted
      simp at hconverted
    · exact absurd hhidden hmem
    · rw [hfind] at hknown
      obtain rfl := Option.some.inj hknown
      exact h
    · rw [hfind] at hnone
      simp at hnone
  rw [resolved, hresolve]

/--
What a native name is resolved to in the end, if a declaration of a C# name registered it when the
symbols were `cut`: the handle if the name is opaque, else the type that the name had before, else
the C# name, as long as that is not erased.
-/
structure ResolvesTo (cut s' : Symbols) (name text : String) : Prop where
  hidden : name ∈ s'.opaqueStructs → s'.resolved name = .ok s'.settings.handle
  known : name ∉ s'.opaqueStructs → ∀ id, cut.types.find? name = some id →
    s'.resolved name = s'.spellId id
  own : name ∉ s'.opaqueStructs → cut.types.find? name = none → s'.nameText text = text →
    s'.resolved name = .ok text

/-- Resolving follows the type that the name has in the end. -/
theorem resolvesTo_of_registered (hs : s'.Sound)
    (hconv : s'.settings.conversions.find? name = none)
    (hknown : ∀ id, cut.types.find? name = some id → s'.types.find? name = some id)
    (hown : cut.types.find? name = none →
      ∃ id, s'.types.find? name = some id ∧ s'.arena.names.find? text = some id) :
    ResolvesTo cut s' name text := by
  refine ⟨resolved_of_mem hs hconv, ?_, ?_⟩
  · intro hmem id hfind
    exact resolved_of_find? hconv hmem (hknown id hfind)
  · intro hmem hnone htext
    obtain ⟨id, hfind, hname⟩ := hown hnone
    rw [resolved_of_find? hconv hmem hfind, spellId_of_find? hs hname, htext]

end Symbols

namespace Generate

open Metadata Decl Symbols

variable {s s' s'' lo built : Symbols} {nativeClass : String} {metadata : Metadata} {b : Bindings}

/-! ### Enums -/

/-- Types and names stay what they are. -/
structure Retains (s s' : Symbols) : Prop where
  arena : s.arena.Extends s'.arena
  types : ∀ name id, s.types.find? name = some id → s'.types.find? name = some id

theorem Retains.refl (s : Symbols) : Retains s s := ⟨.refl _, fun _ _ h => h⟩

theorem Retains.trans (h : Retains s s') (h' : Retains s' s'') : Retains s s'' :=
  ⟨h.arena.trans h'.arena, fun name id hfind => h'.types name id (h.types name id hfind)⟩

instance : Std.Refl Retains := ⟨Retains.refl⟩
instance : IsTrans Symbols Retains := ⟨fun _ _ _ => Retains.trans⟩

theorem Retains.of_grows (h : s.Grows s') : Retains s s' := ⟨h.arena, h.types⟩

theorem retains_registerAll (names : List String) (id : TypeId) (s : Symbols) :
    Retains s (registerAll names id s) := by
  induction names generalizing s with
  | nil => exact .refl s
  | cons name rest ih =>
    have hfirst : Retains s (s.registerType name id) :=
      ⟨.refl _, fun _ _ hfind => find?_registerType name id hfind⟩
    exact hfirst.trans (ih _)

/-- A name that has no other type has the given one when all are registered. -/
theorem find?_registerAll {names : List String} {name : String} {id : TypeId}
    (hname : name ∈ names) (hfree : (s.types.find? name).getD id = id) :
    (registerAll names id s).types.find? name = some id := by
  induction names generalizing s with
  | nil => simp at hname
  | cons first rest ih =>
    by_cases hfirst : name = first
    · have hfind : (s.registerType first id).types.find? name = some id := by
        rw [hfirst, registerType, Table.find?_insertNew_self, ← hfirst, hfree]
      exact (retains_registerAll rest id _).types name id hfind
    · have hrest : name ∈ rest := (List.mem_cons.mp hname).resolve_left hfirst
      have hsame : (s.registerType first id).types.find? name = s.types.find? name :=
        s.types.find?_insertNew_of_ne hfirst id
      exact ih hrest (by rwa [hsame])

theorem retains_enumRegistered (item : Metadata.Enum) (s : Symbols) :
    Retains s (enumRegistered item s) :=
  (Retains.of_grows (quiet_namedType _ s).toGrows).trans (retains_registerAll _ _ _)

theorem find?_enumRegistered {item : Metadata.Enum} {name : String} (hname : name ∈ enumNames item)
    (hnone : s.types.find? name = none) :
    ∃ id, (enumRegistered item s).types.find? name = some id ∧
      (enumRegistered item s).arena.names.find? (Identifier.ofEnum (baseName item.name)) =
        some id := by
  have hentry := s.arena.find?_named (Identifier.ofEnum (baseName item.name))
  refine ⟨(namedType (Identifier.ofEnum (baseName item.name)) s).1, ?_, ?_⟩
  · refine find?_registerAll hname ?_
    show (s.types.find? name).getD _ = _
    rw [hnone]
    rfl
  · exact (retains_registerAll _ _ _).arena.names _ _ hentry

theorem retains_enumStarted (item : Metadata.Enum) (s : Symbols) :
    Retains (enumRegistered item s) (enumStarted item s) := by
  rcases enumStarted_cases item s with ⟨heq, -⟩ | heq <;> rw [heq]
  · exact .refl _
  · exact ⟨.refl _, fun _ _ hfind => hfind⟩

theorem retainsWalk : OpeningWalk Retains where
  note h := .of_grows (quiet_notes h).toGrows
  defines _ _ := ⟨.refl _, fun _ _ hfind => hfind⟩
  start item s := (retains_enumRegistered item s).trans (retains_enumStarted item s)
  element _ _ _ _ := ⟨.refl _, fun _ _ hfind => hfind⟩

/-- An enum that is not left out registers its names first. -/
theorem enum_kept {item : Metadata.Enum} (h : s.admits item.guards = true) :
    (∃ made, (enum item s).1 = some made ∧
      made.head.name = Identifier.ofEnum (baseName item.name)) ∧
    Retains (enumRegistered item s) (enum item s).2 := by
  rw [enum_made h]
  refine ⟨⟨_, rfl, name_enumHead item⟩, ?_⟩
  exact (retains_enumStarted item s).trans (related_foldl EnumRun.symbols
    (walk_addElement retainsWalk _) item.elements ⟨_, inherited item s⟩)

/-- An enum that is generated registers its names when the enums before it are known. -/
theorem registered_of_mem_enums {items : List Metadata.Enum} {made : Decl.Enum}
    (h : made ∈ (enums items s).1) :
    ∃ earlier item later, items = earlier ++ item :: later ∧
      made.head.name = Identifier.ofEnum (baseName item.name) ∧
      Retains (enumRegistered item (enums earlier s).2) (enums items s).2 := by
  induction items generalizing s with
  | nil => exact absurd h List.not_mem_nil
  | cons item rest ih =>
    have hsplit : made ∈ (enum item s).1.toList ∨ made ∈ (enums rest (enum item s).2).1 :=
      List.mem_append.mp h
    rcases hsplit with hmem | hmem
    · cases hguards : s.admits item.guards with
      | false =>
        rw [enum_left hguards] at hmem
        simp at hmem
      | true =>
        obtain ⟨⟨made', hmade, hname⟩, hretains⟩ := enum_kept hguards
        obtain rfl : made = made' := by simpa [hmade] using hmem
        exact ⟨[], item, rest, rfl, hname, hretains.trans (walk_enums retainsWalk rest _)⟩
    · obtain ⟨earlier, other, later, rfl, hname, hretains⟩ := ih hmem
      exact ⟨item :: earlier, other, later, rfl, hname, hretains⟩

/-! ### All declarations -/

/-- When all is settled, the types that were there before are still there. -/
theorem resolvesTo_of_retained {cut registered : Symbols} {name text : String} (hs : s'.Sound)
    (hconv : s'.settings.conversions.find? name = none) (hbuilt : Retains registered built)
    (hkeeps : built.Keeps s') (hcut : Retains cut registered)
    (hregistered : cut.types.find? name = none →
      ∃ id, registered.types.find? name = some id ∧ registered.arena.names.find? text = some id) :
    ResolvesTo cut s' name text := by
  refine resolvesTo_of_registered hs hconv (fun id hfind => ?_) (fun hnone => ?_)
  · rw [hkeeps.types]
    exact hbuilt.types _ _ (hcut.types _ _ hfind)
  · obtain ⟨id, hfind, hname⟩ := hregistered hnone
    refine ⟨id, ?_, hkeeps.arena.names _ _ (hbuilt.arena.names _ _ hname)⟩
    rw [hkeeps.types]
    exact hbuilt.types _ _ hfind

/--
When the declarations of a configuration are written, the native name of every struct that still has
a layout and the three names of every enum are resolved as `ResolvesTo` says: by what they were when
the struct or the enum was reached.
-/
theorem resolves_declared {settings : Settings} (hs : Reached settings s)
    (hrun : (bindings nativeClass metadata).runOn s.beginConfiguration = (.ok b, s')) :
    (∀ pair ∈ b.structs, ∃ item ∈ metadata.structs, pair.1.nativeName = item.name ∧
      pair.1.head.name = Identifier.lastSegment item.name ∧
      (settings.conversions.find? item.name = none → ∀ earlier later,
        metadata.structs = earlier ++ item :: later →
        ∃ cut, (reaching nativeClass metadata earlier).runOn s.beginConfiguration = (.ok (), cut) ∧
          ResolvesTo cut s' item.name pair.1.head.name)) ∧
    (∀ made ∈ b.enums, ∃ earlier item later, metadata.enums = earlier ++ item :: later ∧
      made.head.name = Identifier.ofEnum (baseName item.name) ∧
      ∀ name ∈ enumNames item, settings.conversions.find? name = none →
        ResolvesTo (enums earlier (constants metadata.defines s.beginConfiguration).2).2 s' name
          made.head.name) := by
  obtain ⟨all, built, erased, hbuilt⟩ := hs.built hrun
  have hkeeps := hbuilt.settles.keeps
  have hlast : s'.Sound := hkeeps.sound (hbuilt.grows.sound hbuilt.sound)
  have hsettings : s'.settings = settings := by
    rw [hkeeps.settings, hbuilt.grows.settings, hbuilt.opens.settings]
    exact hs.settings
  constructor
  · intro pair hpair
    obtain ⟨item, hlaidOut, hof⟩ := hbuilt.layout hpair
    obtain ⟨hmem, hlaidOut⟩ := List.mem_filter.mp hlaidOut
    obtain ⟨hkept, hfields⟩ : structSkip? (opened metadata s.beginConfiguration) item = none ∧
        item.fields.isEmpty = false := by
      simpa using hlaidOut
    refine ⟨item, hmem, hof.nativeName, hof.name, fun hconv earlier later hitems => ?_⟩
    obtain ⟨cut, hreach, -, hafter, -⟩ := declares_around rfl hitems hkept hbuilt.declared
    refine ⟨cut, hreach, ?_⟩
    rw [hof.name]
    refine resolvesTo_of_retained hlast (by rwa [hsettings]) (.of_grows hafter) hkeeps
      (.of_grows (quiet_announced item cut).toGrows) (fun hnone => ?_)
    obtain ⟨id, hfind, hold⟩ := find?_announced hfields cut
    rw [hnone] at hold
    exact ⟨id, hfind, hold.resolve_left (by simp)⟩
  · intro made hmade
    rw [hbuilt.kept] at hmade
    obtain ⟨earlier, item, later, hitems, hname, hretains⟩ :=
      registered_of_mem_enums (enums_declared hbuilt.declared ▸ hmade)
    refine ⟨earlier, item, later, hitems, hname, fun name hmem hconv => ?_⟩
    rw [hname]
    exact resolvesTo_of_retained hlast (by rwa [hsettings])
      (hretains.trans (.of_grows hbuilt.grows)) hkeeps (retains_enumRegistered item _)
      (find?_enumRegistered hmem)

/-- A struct with a field of another. -/
def fooUser : Struct where
  name := "ImUser"
  fields := [{ name := "foo", info := { type := { kind := .user, name := some "ImFoo" } } }]

/-- An enum with one element. -/
def direction : Metadata.Enum where
  name := "ImDir_"
  elements := [{ name := "ImDir_Left" }]

/-- A typedef of a builtin type. -/
def intNamed (name : String) : Typedef where
  name := name
  info := { type := { kind := .builtin, builtin := some "int" } }

/-- An enum, and a struct with a field of a type that a typedef names. -/
def takenName : Metadata where
  enums := [direction]
  typedefs := [intNamed "ImFoo"]
  structs := [fooUser]

theorem resolves_declared_takenName :
    ∃ b s', (bindings "Native" takenName).runOn (ofSettings {}).beginConfiguration = (.ok b, s') ∧
      b.structs.map (·.1.head.name) = ["ImUser"] ∧ b.enums.map (·.head.name) = ["ImDir"] ∧
      (∀ pair ∈ b.structs, s'.resolved "ImUser" = .ok pair.1.head.name) ∧
      ∀ made ∈ b.enums, s'.resolved "ImDir_" = .ok made.head.name := by
  obtain ⟨b, s', hrun, hread⟩ := exists_ok (bindings "Native" takenName)
    (ofSettings {}).beginConfiguration (fun b s' =>
      (b.structs.map (·.1.head.name), b.enums.map (·.head.name), s'.opaqueStructs,
        s'.nameText "ImUser", s'.nameText "ImDir"))
    (b := (["ImUser"], ["ImDir"], [], "ImUser", "ImDir")) (by decide +kernel)
  simp only [Prod.mk.injEq] at hread
  obtain ⟨hlayouts, hmades, hhidden, huser, hdir⟩ := hread
  obtain ⟨hstructs, henums⟩ := resolves_declared .start hrun
  refine ⟨b, s', hrun, hlayouts, hmades, fun pair hpair => ?_, fun made hmade => ?_⟩
  · obtain ⟨item, hitem, -, hhead, hresolves⟩ := hstructs pair hpair
    obtain rfl := List.mem_singleton.mp hitem
    obtain ⟨cut, hreach, hto⟩ := hresolves rfl [] [] rfl
    have hnone : ((reaching "Native" takenName []).runOn
        (ofSettings {}).beginConfiguration).2.types.find? "ImUser" = none := by decide +kernel
    rw [hreach] at hnone
    rw [hhead] at hto ⊢
    exact hto.own (by simp [hhidden]) hnone huser
  · obtain ⟨earlier, item, later, hitems, hhead, hresolves⟩ := henums made hmade
    obtain ⟨rfl, rfl, -⟩ : earlier = [] ∧ item = direction ∧ later = [] := by
      cases earlier with
      | nil => simpa [takenName, eq_comm] using hitems
      | cons first rest => simp [takenName] at hitems
    have hto := hresolves "ImDir_" (by decide) rfl
    rw [hhead] at hto ⊢
    exact hto.own (by simp [hhidden]) (by decide +kernel) hdir

/-- The native names of the layouts with their C# names and with what they are resolved to. -/
def resolvedLayouts (b : Bindings) (s : Symbols) : List (String × String × Except Fault String) :=
  b.structs.map fun (layout, _) =>
    (layout.nativeName, layout.head.name, s.resolved layout.nativeName)

/-- The native names of the enums with their C# names and with what they are resolved to. -/
def resolvedEnums (b : Bindings) (s : Symbols) : List (String × String × Except Fault String) :=
  b.enums.map fun made => (made.nativeName, made.head.name, s.resolved made.nativeName)

/-- A struct with one field. -/
def fullStruct (name : String) : Struct where
  name := name
  fields := [{ name := "x", info := { type := { kind := .builtin, builtin := some "int" } } }]

/-- A struct whose only field is left out. -/
def erasedStruct (name : String) : Struct :=
  { fullStruct name with
    fields := (fullStruct name).fields.map ({ · with guards := [⟨.defined, "NEVER"⟩] }) }

/--
A struct is not resolved to its C# name where a typedef has its name, where a struct of its name
without fields follows, and where another struct of its C# name is erased; an enum is not where a
typedef of an earlier configuration has its name.
-/
theorem declared_names_not_kept :
    (∃ b s', (bindings "Native" { takenName with structs := [fullStruct "ImFoo", fooUser] }).runOn
        (ofSettings {}).beginConfiguration = (.ok b, s') ∧
      resolvedLayouts b s' = [("ImFoo", "ImFoo", .ok "int"), ("ImUser", "ImUser", .ok "ImUser")]) ∧
    (∃ b s', (bindings "Native"
          { structs := [fullStruct "ImFoo", { name := "ImFoo", fields := [] }] }).runOn
        (ofSettings {}).beginConfiguration = (.ok b, s') ∧
      resolvedLayouts b s' = [("ImFoo", "ImFoo", .ok "IntPtr")]) ∧
    (∃ b s', (bindings "Native" { structs := [fullStruct "Ui_Foo", erasedStruct "Im_Foo"] }).runOn
        (ofSettings {}).beginConfiguration = (.ok b, s') ∧
      resolvedLayouts b s' = [("Ui_Foo", "Foo", .ok "IntPtr")]) ∧
    ∃ b s', (bindings "Native" { enums := [direction] }).runOn
        ((bindings "Native" { typedefs := [intNamed "ImDir_"] }).runOn
          (ofSettings {}).beginConfiguration).2.beginConfiguration = (.ok b, s') ∧
      resolvedEnums b s' = [("ImDir_", "ImDir", .ok "int")] := by
  refine ⟨?typedef, ?repeated, ?erased, ?later⟩
  case typedef => exact exists_ok _ _ resolvedLayouts (by decide +kernel)
  case repeated => exact exists_ok _ _ resolvedLayouts (by decide +kernel)
  case erased => exact exists_ok _ _ resolvedLayouts (by decide +kernel)
  case later => exact exists_ok _ _ resolvedEnums (by decide +kernel)

end Generate

end InteropGen

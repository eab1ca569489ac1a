import InteropGen.Proofs.Calls
import InteropGen.Proofs.Reading

/-!
# The types that wrappers pass

The type of a parameter of an imported method is made from the argument's native type by one walk over
it, and what a wrapper passes there by another, which may come earlier. `passes_type_iff` says exactly
where the two are spelled alike when the declarations are written: unless the way of passing is in a
`Clash` with the type. The clashes are

* a native name that was another type when the wrapper was made than when the method was imported;
* a callback left out for its default, whose local has the callback's own name and not the argument's;
* a pointer to a vector left out for its default, if the vector is spelled otherwise;
* a value pinned or an array copied whose element is the handle, which takes no further star;
* texts whose characters are only called so; and
* a name that the marshaling relies on and that was erased or is the handle.
-/

namespace InteropGen

open Build

namespace Generate

open Metadata Decl Symbols

/-- Does the wrapper leave the argument out? -/
def Passing.isOmitted : Passing → Bool
  | defaultValue _ _ | defaultText _ _ => true
  | _ => false

/-- Does the wrapper hold a type that it made for the argument? -/
def Passing.isMade : Passing → Bool
  | byName (.ref _) | byName (.view _) | pinned _ | array _ | defaultValue _ _ | defaultText _ _ => true
  | _ => false

/-- The C# type that a fixed way of passing points to. -/
def Passing.pointee? : Passing → Option String
  | text | buffer | truthRef => some "byte"
  | vector _ => some "float"
  | untyped _ => some "void"
  | _ => none

/-- For an argument that is left out the wrapper makes the type of its default. -/
theorem Passing.isMade_of_isOmitted {passing : Passing} (h : passing.isOmitted = true) : passing.isMade = true := by
  cases passing <;> first | rfl | cases h

/-- A type that is made for the argument is no fixed one. -/
theorem Passing.pointee?_of_isMade {passing : Passing} (h : passing.isMade = true) : passing.pointee? = none := by
  cases passing <;> first | rfl | cases h

/--
The C# type of what is passed on. A view is passed as the pointer that it wraps; `self` is passed as the
pointer of its own view.
-/
def Passing.passedType (s : Symbols) : Passing → Except Fault String
  | self => .error .missingPart
  | byName (.plain spelled) => .ok spelled
  | byName (.ref id) | byName (.view id) => s.spellId id
  | defaultValue type _ | defaultText type _ => s.spell type
  | pinned type | array type => (s.spell type).map (· ++ "*")
  | texts => .ok "byte**"
  | text | buffer | truthRef => .ok "byte*"
  | truth => .ok "byte"
  | vector _ => .ok "float*"
  | untyped _ => .ok "void*"

/--
Where the type that is passed differs from the type of the parameter. The native name in the argument's
type is spelled as `given` in the types of the wrapper and as `taken` in the type of the parameter.
-/
inductive Clash (s : Symbols) (given taken : Except Fault String) (function : Function)
    (argument : Argument) (t : NativeType) : Passing → Prop
  | renamed {passing} (hmade : passing.isMade = true) (h : pointsToVector s t = false)
      (hne : s.reading given none t ≠ s.reading taken none t) :
      Clash s given taken function argument t passing
  | omittedCallback {passing} (homitted : passing.isOmitted = true) (h : t.isCallback = true)
      (hne : s.nameText (callbackName t none) ≠ s.nameText (argumentDelegate function argument)) :
      Clash s given taken function argument t passing
  | omittedVector {passing} (homitted : passing.isOmitted = true) (h : pointsToVector s t = true)
      (hne : s.reading given none t ≠ .ok (s.settings.vectorName ++ "*")) :
      Clash s given taken function argument t passing
  | pinnedHandle {type} (h : s.spell type = .ok s.settings.handle) :
      Clash s given taken function argument t (.pinned type)
  | arrayOfHandles {type} (h : s.spell type = .ok s.settings.handle) :
      Clash s given taken function argument t (.array type)
  | oddTexts {inner pointee} (hinner : t.inner = some inner) (hpointee : inner.inner = some pointee)
      (hne : ((s.reading taken none pointee).map s.arena.star).map s.arena.star ≠ .ok "byte**") :
      Clash s given taken function argument t .texts
  | erasedCallback (h : t.isCallback = true)
      (hne : s.nameText (argumentDelegate function argument) ≠ argumentDelegate function argument) :
      Clash s given taken function argument t (.byName (.plain (argumentDelegate function argument)))
  | erasedTruth (hne : s.nameText "byte" ≠ "byte") : Clash s given taken function argument t .truth
  | erasedPointee {passing name} (h : passing.pointee? = some name)
      (hne : s.arena.star (s.nameText name) ≠ name ++ "*") :
      Clash s given taken function argument t passing

/-! ### The clashes of each way of passing -/

section clash

variable {s : Symbols} {given taken : Except Fault String} {function : Function}
  {argument : Argument} {t : NativeType} {passing : Passing} {type : TypeText}

theorem clash_omitted_iff (homitted : passing.isOmitted = true) :
    Clash s given taken function argument t passing ↔
      (t.isCallback = true ∧
        s.nameText (callbackName t none) ≠ s.nameText (argumentDelegate function argument)) ∨
      (pointsToVector s t = true ∧
        s.reading given none t ≠ .ok (s.settings.vectorName ++ "*")) ∨
      (pointsToVector s t = false ∧ s.reading given none t ≠ s.reading taken none t) := by
  constructor
  · intro h
    cases h with
    | renamed _ hvector hne => exact .inr (.inr ⟨hvector, hne⟩)
    | omittedCallback _ hcallback hne => exact .inl ⟨hcallback, hne⟩
    | omittedVector _ hvector hne => exact .inr (.inl ⟨hvector, hne⟩)
    | erasedPointee hpointee _ =>
      rw [Passing.pointee?_of_isMade (Passing.isMade_of_isOmitted homitted)] at hpointee
      cases hpointee
    | _ => cases homitted
  · rintro (⟨hcallback, hne⟩ | ⟨hvector, hne⟩ | ⟨hvector, hne⟩)
    · exact .omittedCallback homitted hcallback hne
    · exact .omittedVector homitted hvector hne
    · exact .renamed (Passing.isMade_of_isOmitted homitted) hvector hne

theorem clash_pinned_iff (hvector : pointsToVector s t = false) :
    Clash s given taken function argument t (.pinned type) ↔
      s.spell type = .ok s.settings.handle ∨
        s.reading given none t ≠ s.reading taken none t := by
  constructor
  · intro h
    cases h with
    | renamed _ _ hne => exact .inr hne
    | pinnedHandle hhandle => exact .inl hhandle
    | omittedCallback homitted _ _ | omittedVector homitted _ _ => cases homitted
    | erasedPointee hpointee _ => cases hpointee
  · rintro (hhandle | hne)
    · exact .pinnedHandle hhandle
    · exact .renamed rfl hvector hne

theorem clash_array_iff (hvector : pointsToVector s t = false) :
    Clash s given taken function argument t (.array type) ↔
      s.spell type = .ok s.settings.handle ∨
        s.reading given none t ≠ s.reading taken none t := by
  constructor
  · intro h
    cases h with
    | renamed _ _ hne => exact .inr hne
    | arrayOfHandles hhandle => exact .inl hhandle
    | omittedCallback homitted _ _ | omittedVector homitted _ _ => cases homitted
    | erasedPointee hpointee _ => cases hpointee
  · rintro (hhandle | hne)
    · exact .arrayOfHandles hhandle
    · exact .renamed rfl hvector hne

theorem clash_texts_iff {inner pointee : NativeType} (hinner : t.inner = some inner)
    (hpointee : inner.inner = some pointee) :
    Clash s given taken function argument t .texts ↔
      ((s.reading taken none pointee).map s.arena.star).map s.arena.star ≠ .ok "byte**" := by
  refine ⟨fun h => ?_, .oddTexts hinner hpointee⟩
  cases h with
  | oddTexts hinner' hpointee' hne =>
    obtain rfl := Option.some.inj (hinner.symm.trans hinner')
    obtain rfl := Option.some.inj (hpointee.symm.trans hpointee')
    exact hne
  | renamed hmade _ _ => cases hmade
  | omittedCallback homitted _ _ | omittedVector homitted _ _ => cases homitted
  | erasedPointee hpointee _ => cases hpointee

theorem clash_truth_iff :
    Clash s given taken function argument t .truth ↔ s.nameText "byte" ≠ "byte" := by
  refine ⟨fun h => ?_, .erasedTruth⟩
  cases h with
  | erasedTruth hne => exact hne
  | renamed hmade _ _ => cases hmade
  | omittedCallback homitted _ _ | omittedVector homitted _ _ => cases homitted
  | erasedPointee hpointee _ => cases hpointee

theorem clash_pointee_iff {name : String} (hpointee : passing.pointee? = some name) :
    Clash s given taken function argument t passing ↔
      s.arena.star (s.nameText name) ≠ name ++ "*" := by
  refine ⟨fun h => ?_, .erasedPointee hpointee⟩
  have hfixed : passing.isMade ≠ true := fun hmade => by
    rw [Passing.pointee?_of_isMade hmade] at hpointee
    cases hpointee
  cases h with
  | renamed hmade _ _ => exact absurd hmade hfixed
  | omittedCallback homitted _ _ | omittedVector homitted _ _ =>
    exact absurd (Passing.isMade_of_isOmitted homitted) hfixed
  | erasedPointee hpointee' hne =>
    obtain rfl := Option.some.inj (hpointee.symm.trans hpointee')
    exact hne
  | _ => cases hpointee

theorem clash_callback_iff (hcallback : t.isCallback = true) :
    Clash s given taken function argument t
        (.byName (.plain (argumentDelegate function argument))) ↔
      s.nameText (argumentDelegate function argument) ≠ argumentDelegate function argument := by
  refine ⟨fun h => ?_, .erasedCallback hcallback⟩
  cases h with
  | erasedCallback _ hne => exact hne
  | renamed hmade _ _ => cases hmade
  | omittedCallback homitted _ _ | omittedVector homitted _ _ => cases homitted
  | erasedPointee hpointee _ => cases hpointee

/-- The text of a vector is passed by its name without a clash. -/
theorem not_clash_plain {text : String} (hcallback : t.isCallback = false) :
    ¬ Clash s given taken function argument t (.byName (.plain text)) := by
  intro h
  cases h with
  | erasedCallback htrue _ =>
    rw [hcallback] at htrue
    cases htrue
  | renamed hmade _ _ => cases hmade
  | omittedCallback homitted _ _ | omittedVector homitted _ _ => cases homitted
  | erasedPointee hpointee _ => cases hpointee

/-- A made type that is passed by its name clashes only if the native name was renamed. -/
theorem clash_byName_iff (hmade : (Passing.byName type).isMade = true)
    (hvector : pointsToVector s t = false) :
    Clash s given taken function argument t (.byName type) ↔
      s.reading given none t ≠ s.reading taken none t := by
  refine ⟨fun h => ?_, .renamed hmade hvector⟩
  cases h with
  | renamed _ _ hne => exact hne
  | erasedCallback _ _ => cases hmade
  | omittedCallback homitted _ _ | omittedVector homitted _ _ => cases homitted
  | erasedPointee hpointee _ => cases hpointee

end clash

end Generate

namespace Symbols

open Metadata Decl Generate

variable {s : Symbols} {t inner : NativeType} {delegateName : Option String}

/-! ### Readings by form -/

theorem reading_builtin (s : Symbols) (spelled : Except Fault String) (delegateName : Option String)
    (hkind : t.kind = .builtin) :
    s.reading spelled delegateName t =
      .ok (s.nameText (s.builtinName ((nonEmpty? t.builtin).getD "void"))) := by
  obtain ⟨kind, builtin, name, inner, bounds, result, parameters, storage⟩ := t
  cases hkind
  rw [reading]

theorem reading_inner (s : Symbols) (spelled : Except Fault String) (delegateName : Option String)
    (hkind : t.kind = .pointer ∨ t.kind = .array) (hinner : t.inner = some inner) :
    s.reading spelled delegateName t = (s.reading spelled none inner).map s.arena.star := by
  obtain ⟨kind, builtin, name, inner', bounds, result, parameters, storage⟩ := t
  cases hinner
  rcases hkind with hkind | hkind <;> cases hkind <;> rw [reading, innerReading]

theorem kind_of_isCallback (h : t.isCallback = true) : t.kind = .synonym := by
  cases hkind : t.kind <;> simp_all [NativeType.isCallback, NativeType.callback?]

theorem reading_callback (s : Symbols) (spelled : Except Fault String)
    (delegateName : Option String) (h : t.isCallback = true) :
    s.reading spelled delegateName t = .ok (s.nameText (callbackName t delegateName)) := by
  have hkind := kind_of_isCallback h
  obtain ⟨kind, builtin, name, inner, bounds, result, parameters, storage⟩ := t
  cases hkind
  rw [reading, if_pos h]

theorem rootName?_inner (hkind : t.kind = .pointer ∨ t.kind = .array)
    (hinner : t.inner = some inner) : t.rootName? = inner.rootName? := by
  obtain ⟨kind, builtin, name, inner', bounds, result, parameters, storage⟩ := t
  cases hinner
  rcases hkind with hkind | hkind <;> cases hkind <;>
    rw [NativeType.rootName?, NativeType.innerRootName?]

theorem callbackName_argumentDelegate (t : NativeType) (function : Function)
    (argument : Argument) : callbackName t (some (argumentDelegate function argument)) =
      argumentDelegate function argument := by
  have hne : (argumentDelegate function argument).isEmpty = false := by
    simp [argumentDelegate]
  simp [callbackName, nonEmpty?, Option.filter, hne]

/-- The C# name of a builtin type that has one and is not converted. -/
theorem builtinName_of_find? {builtin spelled : String}
    (hconv : ∀ name ∈ builtinTypes.keys, s.settings.conversions.find? name = none)
    (hfind : builtinTypes.find? builtin = some spelled) : s.builtinName builtin = spelled := by
  have hmem : builtin ∈ builtinTypes.keys := by
    rw [Table.mem_keys_iff, Table.contains, hfind]
    rfl
  rw [builtinName, hconv builtin hmem, hfind]
  rfl

/-- A pointer to a builtin type is its C# name with a star. -/
theorem reading_pointee {spelled : Except Fault String} {builtin name : String}
    (hconv : ∀ name ∈ builtinTypes.keys, s.settings.conversions.find? name = none)
    (hfind : builtinTypes.find? builtin = some name) (hfull : builtin.isEmpty = false)
    (hkind : t.kind = .pointer ∨ t.kind = .array) (hinner : t.inner = some inner)
    (hbuiltin : inner.kind = .builtin) (h : inner.builtin = some builtin) :
    s.reading spelled none t = .ok (s.arena.star (s.nameText name)) := by
  have hname : (nonEmpty? inner.builtin).getD "void" = builtin := by
    simp [h, nonEmpty?, Option.filter, hfull]
  rw [reading_inner s spelled none hkind hinner, reading_builtin s spelled none hbuiltin, hname,
    builtinName_of_find? hconv hfind]
  rfl

end Symbols

namespace Generate

open Metadata Decl Symbols

variable {s₀ lo built erased last : Symbols} {pairs : List (Layout × View)} {function : Function}
  {argument : Argument} {t : NativeType} {parameter : Parameter} {passing : Passing}
  {given taken : Except Fault String}

/-- The spelling of the parameter for an argument. -/
def externText (s : Symbols) (taken : Except Fault String) (function : Function)
    (argument : Argument) (t : NativeType) : Except Fault String :=
  if t.isCallback then .ok (s.nameText (argumentDelegate function argument))
  else if pointsToVector s t then .ok (s.settings.vectorName ++ "*")
  else s.reading taken none t

theorem pointsToVector_settings {s s' : Symbols} (h : s'.settings = s.settings) (t : NativeType) :
    pointsToVector s' t = pointsToVector s t := by
  have hvector : s'.isVector = s.isVector := by
    funext t
    have hname : s'.isVectorName = s.isVectorName := by
      funext name
      rw [isVectorName, isVectorName, h]
    rw [isVector, isVector, hname]
  rw [pointsToVector, pointsToVector, hvector]

theorem not_pointsToVector_of_isCallback (s : Symbols) (h : t.isCallback = true) :
    pointsToVector s t = false := by
  simp [pointsToVector, kind_of_isCallback h]

theorem externText_of_isCallback (s : Symbols) (h : t.isCallback = true) :
    externText s taken function argument t =
      .ok (s.nameText (argumentDelegate function argument)) :=
  if_pos h

theorem externText_of_vector {s : Symbols} (hcallback : t.isCallback = false)
    (hvector : pointsToVector s t = true) :
    externText s taken function argument t = .ok (s.settings.vectorName ++ "*") := by
  rw [externText, if_neg (by simp [hcallback]), if_pos hvector]

theorem externText_of_other {s : Symbols} (hcallback : t.isCallback = false)
    (hvector : pointsToVector s t = false) :
    externText s taken function argument t = s.reading taken none t := by
  rw [externText, if_neg (by simp [hcallback]), if_neg (by simp [hvector])]

theorem isCallback_of_kind (h : t.kind = .pointer ∨ t.kind = .array ∨ t.kind = .builtin) :
    t.isCallback = false := by
  rcases h with h | h | h <;> simp [NativeType.isCallback, NativeType.callback?, h]

theorem not_pointsToVector_of_inner (s : Symbols) {inner : NativeType} (hinner : t.inner = some inner)
    (h : inner.kind ≠ .user) : pointsToVector s t = false := by
  simp [pointsToVector, hinner, isVector, h]

/-- The type of an omitted argument agrees with the parameter's but for the three clashes. -/
theorem reading_eq_externText_iff (s : Symbols) (homitted : passing.isOmitted = true) :
    s.reading given none t = externText s taken function argument t ↔
      ¬ Clash s given taken function argument t passing := by
  rw [clash_omitted_iff homitted]
  by_cases hcallback : t.isCallback
  · rw [externText_of_isCallback s hcallback, reading_callback _ _ _ hcallback,
      reading_callback _ _ _ hcallback, not_pointsToVector_of_isCallback s hcallback]
    simp [hcallback]
  · have hcallback : t.isCallback = false := by simpa using hcallback
    by_cases hvector : pointsToVector s t
    · rw [externText_of_vector hcallback hvector]
      simp [hcallback, hvector]
    · have hvector : pointsToVector s t = false := by simpa using hvector
      rw [externText_of_other hcallback hvector]
      simp [hcallback, hvector]

/-- A star put after every element is the pointer to it unless the element is the handle. -/
theorem map_star_iff {s : Symbols} (hs : s.Sound) (element other : Except Fault String) :
    element.map (· ++ "*") = other.map s.arena.star ↔
      ¬ (element = .ok s.settings.handle ∨
        element.map s.arena.star ≠ other.map s.arena.star) := by
  by_cases hhandle : element = .ok s.settings.handle
  · subst hhandle
    cases other with
    | error fault => simp [Except.map]
    | ok text =>
      simp only [Except.map, Except.ok.injEq, Arena.star, hs.handle]
      split
      · simp [← String.toList_inj]
      · next hne => simp [Ne.symm hne]
  · have hstar : element.map (· ++ "*") = element.map s.arena.star := by
      cases element with
      | error fault => rfl
      | ok text =>
        have hne : text ≠ s.settings.handle := fun heq => hhandle (by rw [heq])
        simp [Except.map, Arena.star, hs.handle, hne]
    rw [hstar]
    simp [hhandle]

/-- A fixed pointer type agrees with the parameter exactly if the type it points to has its name. -/
theorem passes_pointee_iff {inner : NativeType} {builtin name : String}
    (hconv : ∀ name ∈ builtinTypes.keys, last.settings.conversions.find? name = none)
    (hkind : t.kind = .pointer ∨ t.kind = .array) (hinner : t.inner = some inner)
    (hbuiltin : inner.kind = .builtin) (h : inner.builtin = some builtin)
    (hfind : builtinTypes.find? builtin = some name) (hfull : builtin.isEmpty = false)
    (hpointee : passing.pointee? = some name)
    (htype : passing.passedType last = .ok (name ++ "*")) :
    passing.passedType last = externText last taken function argument t ↔
      ¬ Clash last given taken function argument t passing := by
  have hcallback := isCallback_of_kind (t := t) (hkind.imp_right .inl)
  have hvector := not_pointsToVector_of_inner last hinner (by simp [hbuiltin])
  rw [externText_of_other hcallback hvector, htype,
    reading_pointee hconv hfind hfull hkind hinner hbuiltin h, clash_pointee_iff hpointee]
  simp [eq_comm]

section window

variable (hlo : lo.Sound) (hbuilt : lo.Grows built) (hsettles : Settles pairs built erased last)
  (hbase : s₀.settings = lo.settings)

include hbuilt hsettles hbase in
theorem settings_last : last.settings = s₀.settings := by
  rw [hsettles.keeps.settings, hbuilt.settings, hbase]

include hlo hbuilt hsettles hbase in
/-- The parameter is spelled by a spelling of the native name, unless it points to a vector. -/
theorem spell_parameter (h : ParameterOf (MadeFor lo built) s₀ function argument t parameter) :
    ∃ taken, (pointsToVector last t = false → NameSpelling lo built last t taken) ∧
      last.spell parameter.type = externText last taken function argument t := by
  have hsettings := settings_last hbuilt hsettles hbase
  have hlast := hsettles.keeps.evolves
  cases h with
  | callback hcallback made =>
    obtain ⟨taken, hspelling, hread⟩ := exists_reading hlo hlast t made
    refine ⟨taken, fun _ => hspelling, ?_⟩
    rw [externText_of_isCallback _ hcallback]
    refine hread.trans ?_
    rw [reading_callback _ _ _ hcallback, callbackName_argumentDelegate]
  | vector hvector =>
    have hcallback : t.isCallback = false := by
      by_contra hcallback
      rw [not_pointsToVector_of_isCallback _ (by simpa using hcallback)] at hvector
      simp at hvector
    have hpoints : pointsToVector last t = true := by rwa [pointsToVector_settings hsettings]
    refine ⟨.ok "", fun hnot => by simp [hpoints] at hnot, ?_⟩
    rw [externText_of_vector hcallback hpoints, hsettings]
    rfl
  | other hcallback hvector made =>
    obtain ⟨taken, hspelling, hread⟩ := exists_reading hlo hlast t made
    refine ⟨taken, fun _ => hspelling, ?_⟩
    rw [externText_of_other hcallback (by rwa [pointsToVector_settings hsettings])]
    exact hread

/-- The types of the passing read by one spelling of the native name, and decide if it clashes. -/
def Decides (lo built last : Symbols) (function : Function) (argument : Argument) (t : NativeType)
    (passing : Passing) (given : Except Fault String) : Prop :=
  (passing.isMade = true → NameSpelling lo built last t given) ∧ ∀ taken,
    passing.passedType last = externText last taken function argument t ↔
      ¬ Clash last given taken function argument t passing

/-- A passing without a type that was made for the argument is the same for all spellings. -/
theorem Decides.of_fixed (hfixed : passing.isMade = false)
    (h : ∀ given taken, passing.passedType last = externText last taken function argument t ↔
      ¬ Clash last given taken function argument t passing) :
    ∃ given, Decides lo built last function argument t passing given :=
  ⟨.ok "", fun hmade => by simp [hfixed] at hmade, h _⟩

theorem decides_texts {inner : NativeType} (hkind : t.kind = .array) (hinner : t.inner = some inner)
    (hchar : isCharPointer inner = true) :
    ∃ given, Decides lo built last function argument t .texts given := by
  have hboth : inner.kind = .pointer ∧ ∃ pointee, inner.inner = some pointee := by
    cases hpointee : inner.inner <;> simp_all [isCharPointer]
  obtain ⟨hpointer, pointee, hpointee⟩ := hboth
  have hcallback := isCallback_of_kind (.inr (.inl hkind))
  have hvector : pointsToVector last t = false := by simp [pointsToVector, hkind]
  refine Decides.of_fixed rfl fun given taken => ?_
  rw [externText_of_other hcallback hvector, reading_inner last taken none (.inr hkind) hinner,
    reading_inner last taken none (.inl hpointer) hpointee, clash_texts_iff hinner hpointee]
  simp [Passing.passedType, eq_comm]

theorem decides_truth
    (hconv : ∀ name ∈ builtinTypes.keys, last.settings.conversions.find? name = none)
    (hkind : t.kind = .builtin) (hbool : t.builtin = some "bool") :
    ∃ given, Decides lo built last function argument t .truth given := by
  have hcallback := isCallback_of_kind (.inr (.inr hkind))
  have hvector : pointsToVector last t = false := by simp [pointsToVector, hkind]
  have hname : (nonEmpty? t.builtin).getD "void" = "bool" := by
    simp [hbool, nonEmpty?, Option.filter]
  have hbyte : last.builtinName "bool" = "byte" := builtinName_of_find? hconv rfl
  refine Decides.of_fixed rfl fun given taken => ?_
  rw [externText_of_other hcallback hvector, reading_builtin last taken none hkind, hname, hbyte,
    clash_truth_iff]
  simp [Passing.passedType, eq_comm]

include hlo hsettles in
/-- An argument passed by its name clashes if the type that was made for it was renamed. -/
theorem decides_byName {type : TypeText} {id : TypeId} (hmade : (Passing.byName type).isMade = true)
    (htype : (Passing.byName type).passedType last = last.spellId id)
    (hcallback : t.isCallback = false) (hvector : pointsToVector last t = false)
    (made : MadeFor lo built (.native none t) id) :
    ∃ given, Decides lo built last function argument t (.byName type) given := by
  obtain ⟨given, hspelling, hread⟩ := exists_reading hlo hsettles.keeps.evolves t made
  refine ⟨given, fun _ => hspelling, fun taken => ?_⟩
  rw [externText_of_other hcallback hvector, clash_byName_iff hmade hvector, not_not,
    htype, hread]

include hlo hsettles in
theorem decides_omitted (h : Omitted (MadeFor lo built) s₀ argument t passing) :
    ∃ given, Decides lo built last function argument t passing given := by
  obtain ⟨id, made, homitted, htype⟩ : ∃ id, MadeFor lo built (.native none t) id ∧
      passing.isOmitted = true ∧ passing.passedType last = last.spellId id := by
    cases h with
    | text hchar hvalue made => exact ⟨_, made, rfl, rfl⟩
    | value hform made => exact ⟨_, made, rfl, rfl⟩
  obtain ⟨given, hspelling, hread⟩ := exists_reading hlo hsettles.keeps.evolves t made
  refine ⟨given, fun _ => hspelling, fun taken => ?_⟩
  rw [htype, hread]
  exact reading_eq_externText_iff last homitted

include hlo hbuilt hsettles in
/-- A pointer to an element that was made clashes if the element is the handle or was renamed. -/
theorem decides_element {inner : NativeType} {id : TypeId}
    (hkind : t.kind = .pointer ∨ t.kind = .array) (hinner : t.inner = some inner)
    (hvector : pointsToVector last t = false) (made : MadeFor lo built (.native none inner) id)
    (htype : passing.passedType last = (last.spellId id).map (· ++ "*"))
    (hclash : ∀ given taken, Clash last given taken function argument t passing ↔
      last.spellId id = .ok last.settings.handle ∨
        last.reading given none t ≠ last.reading taken none t) :
    ∃ given, Decides lo built last function argument t passing given := by
  have hcallback := isCallback_of_kind (t := t) (hkind.imp_right .inl)
  have hlast : last.Sound := hsettles.keeps.sound (hbuilt.sound hlo)
  obtain ⟨given, hspelling, hread⟩ := exists_reading hlo hsettles.keeps.evolves inner made
  refine ⟨given, fun _ name hroot => ?_, fun taken => ?_⟩
  · rw [rootName?_inner hkind hinner] at hroot
    exact hspelling name hroot
  · rw [externText_of_other hcallback hvector, htype, hclash, hread,
      reading_inner last given none hkind hinner, reading_inner last taken none hkind hinner]
    exact map_star_iff hlast _ _

include hlo hbuilt hsettles hbase

theorem decides_given
    (hconv : ∀ name ∈ builtinTypes.keys, last.settings.conversions.find? name = none)
    (h : Given (MadeFor lo built) s₀ function argument t passing) :
    ∃ given, Decides lo built last function argument t passing given := by
  have hsettings := settings_last hbuilt hsettles hbase
  have hpoints := pointsToVector_settings hsettings t
  cases h with
  | texts hkind hinner hchar => exact decides_texts hkind hinner hchar
  | vector hkind hinner hbuiltin hfloat =>
    exact Decides.of_fixed rfl fun _ _ => passes_pointee_iff hconv (.inr hkind) hinner hbuiltin hfloat
      rfl rfl rfl rfl
  | array hkind hinner made =>
    have hvector : pointsToVector last t = false := by simp [pointsToVector, hkind]
    exact decides_element hlo hbuilt hsettles (.inr hkind) hinner hvector made rfl
      fun _ _ => clash_array_iff hvector
  | callback hcallback =>
    refine Decides.of_fixed rfl fun given taken => ?_
    rw [externText_of_isCallback _ hcallback, clash_callback_iff hcallback]
    simp [Passing.passedType, eq_comm]
  | untyped hkind hinner hbuiltin hvoid =>
    exact Decides.of_fixed rfl fun _ _ => passes_pointee_iff hconv (.inl hkind) hinner hbuiltin hvoid
      rfl rfl rfl rfl
  | truthRef hkind hinner hbuiltin hbool =>
    exact Decides.of_fixed rfl fun _ _ => passes_pointee_iff hconv (.inl hkind) hinner hbuiltin hbool
      rfl rfl rfl rfl
  | text hkind hinner hbuiltin hchar _ =>
    exact Decides.of_fixed rfl fun _ _ => passes_pointee_iff hconv (.inl hkind) hinner hbuiltin hchar
      rfl rfl rfl rfl
  | buffer hkind hinner hbuiltin hchar _ =>
    exact Decides.of_fixed rfl fun _ _ => passes_pointee_iff hconv (.inl hkind) hinner hbuiltin hchar
      rfl rfl rfl rfl
  | pinned hkind hinner hform made =>
    have hvector := not_pointsToVector_of_inner last hinner (by
      rcases hform with hform | hform <;> simp [hform])
    exact decides_element hlo hbuilt hsettles (.inl hkind) hinner hvector made rfl
      fun _ _ => clash_pinned_iff hvector
  | vectorPointer hvector =>
    have hkind : t.kind = .pointer := by
      have hboth := hvector
      simp only [pointsToVector, Bool.and_eq_true, decide_eq_true_eq] at hboth
      exact hboth.1
    have hcallback := isCallback_of_kind (t := t) (.inl hkind)
    refine Decides.of_fixed rfl fun given taken => ?_
    rw [externText_of_vector hcallback (hpoints.trans hvector), hsettings]
    exact iff_of_true rfl (not_clash_plain hcallback)
  | truth hkind hbool => exact decides_truth hconv hkind hbool
  | byRef hcallback hvector made =>
    exact decides_byName hlo hsettles rfl rfl hcallback (hpoints.trans hvector) made
  | byView hcallback hvector made =>
    exact decides_byName hlo hsettles rfl rfl hcallback (hpoints.trans hvector) made

end window

/-! ### All wrappers -/

/--
The spellings of the native name in an argument's type: `given` in the types that the wrapper made for
the argument, `taken` in the type of the parameter. The type reads the same by both if its name has one
reading.
-/
structure Readings (lo built last : Symbols) (t : NativeType) (passing : Passing)
    (given taken : Except Fault String) : Prop where
  wrapper : passing.isMade = true → NameSpelling lo built last t given
  parameter : pointsToVector last t = false → NameSpelling lo built last t taken
  settled : passing.isMade = true → pointsToVector last t = false →
    (∀ name, t.rootName? = some name → last.Settled name) →
    last.reading given none t = last.reading taken none t

/-- What is passed has the type of the parameter unless the two clash. -/
theorem passes_iff (hlo : lo.Sound) (hbuilt : lo.Grows built)
    (hsettles : Settles pairs built erased last) (hbase : s₀.settings = lo.settings)
    (hconv : ∀ name ∈ builtinTypes.keys, last.settings.conversions.find? name = none)
    (hparameter : ParameterOf (MadeFor lo built) s₀ function argument t parameter)
    (hpassed : Passed (MadeFor lo built) s₀ function argument t passing) (hself : passing ≠ .self) :
    ∃ given taken, Readings lo built last t passing given taken ∧
      (passing.passedType last = last.spell parameter.type ↔
        ¬ Clash last given taken function argument t passing) := by
  obtain ⟨taken, htaken, htext⟩ := spell_parameter hlo hbuilt hsettles hbase hparameter
  obtain ⟨given, hgiven, hdecides⟩ :
      ∃ given, Decides lo built last function argument t passing given := by
    cases hpassed with
    | self => exact absurd rfl hself
    | given h => exact decides_given hlo hbuilt hsettles hbase hconv h
    | omitted h => exact decides_omitted hlo hsettles h
  refine ⟨given, taken, ⟨hgiven, htaken, fun hmade hvector hsettled => ?_⟩, ?_⟩
  · cases hroot : t.rootName? with
    | none => exact reading_of_rootless t hroot
    | some name =>
      rw [(hgiven hmade).unique hlo (.refl _) hsettles hroot (hsettled name hroot)
        (htaken hvector)]
  · rw [htext]
    exact hdecides taken

variable {s s' : Symbols} {nativeClass : String} {metadata : Metadata} {b : Bindings}
  {wrapper : Wrapper}

/--
The wrapper calls a method that is imported from its function, and what it passes for an argument has
the type of the parameter exactly if the two do not clash.
-/
structure PassesTypes (s built s' : Symbols) (metadata : Metadata) (b : Bindings)
    (wrapper : Wrapper) (function : Function) (method : Method) (passings : List Passing) :
    Prop where
  imports : ∃ i : Nat, (imported s metadata.functions)[i]? = some function ∧
    b.externs[i]? = some method
  entryPoint : wrapper.entryPoint = method.head.name
  marshaling : wrapper.marshaling = marshal (typedArguments function.arguments) passings
  passed : passings.length = (typedArguments function.arguments).length
  taken : method.parameters.length = (typedArguments function.arguments).length
  types : ∀ (i : Nat) argument t passing parameter,
    (typedArguments function.arguments)[i]? = some (argument, t) → passings[i]? = some passing →
    method.parameters[i]? = some parameter → passing ≠ .self →
    ∃ given taken, Readings s built s' t passing given taken ∧
      (passing.passedType s' = s'.spell parameter.type ↔
        ¬ Clash s' given taken function argument t passing)

/--
What a wrapper passes for an argument has, when the declarations are written, the type of the
parameter of the imported method exactly if the way of passing is in no clash with the type.
-/
theorem passes_type_iff {settings : Settings} (hs : Reached settings s)
    (hconv : ∀ name ∈ builtinTypes.keys, settings.conversions.find? name = none)
    (hrun : (bindings nativeClass metadata).runOn s.beginConfiguration = (.ok b, s'))
    (hwrapper : wrapper ∈ b.wrappers) :
    ∃ all built function method passings,
      (declared nativeClass metadata).runOn s.beginConfiguration = (.ok all, built) ∧
      PassesTypes (opened metadata s.beginConfiguration) built s' metadata b wrapper function method
        passings := by
  obtain ⟨all, built, erased, hbuilt⟩ := hs.built hrun
  obtain ⟨i, function, method, hfunction, hmethod, hextern, hof⟩ := hbuilt.meets hwrapper
  obtain ⟨passings, hplanned, hmarshal⟩ := hof.marshaling
  refine ⟨all, built, function, method, passings, hbuilt.declared, ⟨i, hfunction, hmethod⟩,
    hof.entryPoint.trans hextern.name.symm, hmarshal, hplanned.passed.length_eq.symm,
    hextern.parameters.length_eq.symm, ?_⟩
  intro j argument t passing parameter hargument hpassing hparameter hself
  obtain ⟨passing', hpassing', hpassed⟩ := forall₂_getElem? hplanned.passed hargument
  obtain rfl := Option.some.inj (hpassing'.symm.trans hpassing)
  obtain ⟨parameter', hparameter', hof'⟩ := forall₂_getElem? hextern.parameters hargument
  obtain rfl := Option.some.inj (hparameter'.symm.trans hparameter)
  have hsettings : s'.settings = settings := by
    rw [hbuilt.settles.keeps.settings, hbuilt.grows.settings, hbuilt.opens.settings]
    exact hs.settings
  exact passes_iff hbuilt.sound hbuilt.grows hbuilt.settles rfl (by rwa [hsettings]) hof' hpassed
    hself

theorem passes_type_iff_plotLines :
    ∃ b s' wrapper, (bindings "Native" { functions := [plotLines] }).runOn
        (ofSettings {}).beginConfiguration = (.ok b, s') ∧
      wrapper ∈ b.wrappers ∧ wrapper.marshaling.native = ["(float*)native_values", "count"] ∧
      ∃ all built function method passings,
        (declared "Native" { functions := [plotLines] }).runOn (ofSettings {}).beginConfiguration =
          (.ok all, built) ∧
        PassesTypes (opened { functions := [plotLines] } (ofSettings {}).beginConfiguration) built s'
          { functions := [plotLines] } b wrapper function method passings := by
  obtain ⟨b, s', hrun, hnative⟩ := exists_ok (bindings "Native" { functions := [plotLines] })
    (ofSettings {}).beginConfiguration (fun b _ => b.wrappers.map (·.marshaling.native))
    (b := [["(float*)native_values", "count"], ["(float*)native_values", "count"]])
    (by decide +kernel)
  obtain ⟨wrapper, rest, hwrappers, hfirst, -⟩ := List.map_eq_cons_iff.mp hnative
  have hwrapper : wrapper ∈ b.wrappers := by simp [hwrappers]
  exact ⟨b, s', wrapper, hrun, hwrapper, hfirst, passes_type_iff .start (fun _ _ => rfl) hrun hwrapper⟩

end Generate

end InteropGen

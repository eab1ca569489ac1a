import InteropGen.ImGui
import InteropGen.Proofs.Lookups
import InteropGen.Proofs.RoundTrip
import InteropGen.Proofs.Routes
import InteropGen.Render.Accessors

/-!
# The elements of vectors

The element type of a vector is read off the vector's own name. `Render.vectorElement` goes through the tables of the
resolver, but it spells builtin and converted types without the arena, and of a name that is not builtin it looks up
the last part only. `vectorElement_agrees` says for which names it gives what the resolver gives: for those without
an underscore, as long as no C# name has come to be spelled as another one, and for those with an underscore where
their last part alone is resolved as they are.
-/

namespace InteropGen

namespace Identifier

theorem lastSegment_eq (name : String) :
    lastSegment name =
      String.ofList ((Text.splitChars '_' name.toList).getLast (Text.splitChars_ne_nil '_' name.toList)) := by
  rw [lastSegment, Text.split, List.getLast?_map, List.getLast?_eq_some_getLast (Text.splitChars_ne_nil _ _)]
  rfl

theorem lastSegment_eq_self {name : String} (h : '_' ∉ name.toList) : lastSegment name = name := by
  simp [lastSegment_eq, Text.splitChars_of_notMem h]

end Identifier

namespace Symbols

variable {s : Symbols} {name text : String}

/-! ### What the resolver gives -/

/-- The spelling of what a native type is resolved to. -/
def resolvedType (s : Symbols) (t : NativeType) : Except Fault String :=
  match (resolve none t).runOn s with
  | (.ok id, s') => s'.spellId id
  | (.error fault, _) => .error fault

/-- The C# name is new, or its type is still spelled as the name. -/
def SpellsItself (s : Symbols) (text : String) : Prop :=
  ∀ id, s.arena.names.find? text = some id → s.spellId id = .ok text

/-- The native name is converted, opaque or registered. -/
def KnowsName (s : Symbols) (name : String) : Prop :=
  s.settings.conversions.contains name = true ∨ name ∈ s.opaqueStructs ∨ s.types.contains name = true

theorem spellId_namedType_iff :
    (namedType text s).2.spellId (namedType text s).1 = .ok text ↔ s.SpellsItself text := by
  cases hfind : s.arena.names.find? text with
  | some id =>
    have hnamed : namedType text s = (id, s) := by simp [namedType, Arena.named, hfind]
    rw [hnamed]
    constructor
    · intro hspells other hother
      obtain rfl := Option.some.inj (hfind.symm.trans hother)
      exact hspells
    · exact fun h => h id hfind
  | none =>
    have hspells : (namedType text s).2.spellId (namedType text s).1 = .ok text := by
      simp [namedType, Arena.named, hfind, spellId, Arena.spelling?, Arena.spellWithin, Arena.get?, Arena.nextId]
    refine iff_of_true hspells fun id hid => ?_
    rw [hfind] at hid
    cases hid

theorem resolvedType_builtin_iff {t : NativeType} (hbuiltin : builtinTypes.find? name = some text)
    (hconversion : s.settings.conversions.contains name = false) (hkind : t.kind = .builtin)
    (hname : t.builtin = some name) : s.resolvedType t = .ok text ↔ s.SpellsItself text := by
  have hsome : nonEmpty? (some name) = some name := by
    have hempty : name ≠ "" := by
      rintro rfl
      cases hbuiltin
    simp [nonEmpty?, hempty]
  have hspelled : s.builtinName name = text := by
    rw [builtinName, Table.contains_eq_false_iff.mp hconversion, hbuiltin]
    rfl
  obtain ⟨kind, builtin, other, inner, bounds, result, parameters, storage⟩ := t
  subst hkind hname
  have hresolve : (resolve none ⟨.builtin, some name, other, inner, bounds, result, parameters, storage⟩).runOn s =
      (.ok (namedType text s).1, (namedType text s).2) := by
    rw [← hspelled, resolve]
    simp only [hsome, Option.getD_some]
    rfl
  rw [resolvedType, hresolve]
  exact spellId_namedType_iff

theorem resolved_converted_iff (h : s.settings.conversions.find? name = some text) :
    s.resolved name = .ok text ↔ s.SpellsItself text := by
  have hresolve : resolveName name s = namedType text s := by
    rcases resolveName_cases name s with ⟨converted, hfind, heq⟩ | ⟨hnone, -⟩
    · obtain rfl := Option.some.inj (h.symm.trans hfind)
      exact heq
    · rw [h] at hnone
      cases hnone
  rw [resolved, hresolve]
  exact spellId_namedType_iff

/-! ### What the accessors take -/

theorem vectorElement_of_builtin (h : builtinTypes.find? name = some text) :
    Render.vectorElement s name = .ok text := by
  rw [Render.vectorElement, h]

variable (hbuiltin : builtinTypes.contains name = false)
  (hsuffix : Text.endsWith name s.settings.viewSuffix = false)

include hbuiltin hsuffix

theorem vectorElement_of_last : Render.vectorElement s name =
    match s.settings.conversions.find? (Identifier.lastSegment name) with
    | some converted => .ok converted
    | none =>
      match lookUp (Identifier.lastSegment name) s with
      | (some id, s') => s'.spellId id
      | (none, _) => .ok (Identifier.lastSegment name) := by
  rw [Render.vectorElement, Table.contains_eq_false_iff.mp hbuiltin]
  refine if_neg ?_
  simp [hsuffix]

theorem vectorElement_of_converted
    (h : s.settings.conversions.find? (Identifier.lastSegment name) = some text) :
    Render.vectorElement s name = .ok text := by
  rw [vectorElement_of_last hbuiltin hsuffix, h]

theorem vectorElement_of_known
    (hconversion : s.settings.conversions.find? (Identifier.lastSegment name) = none)
    (h : s.KnowsName (Identifier.lastSegment name)) :
    Render.vectorElement s name = s.resolved (Identifier.lastSegment name) := by
  rw [vectorElement_of_last hbuiltin hsuffix, hconversion, resolved]
  rcases resolveName_cases (Identifier.lastSegment name) s with
    ⟨_, hsome, -⟩ | ⟨-, ⟨hmem, heq⟩ | ⟨hmem, ⟨id, hfind, heq⟩ | ⟨hnone, -⟩⟩⟩
  · rw [hconversion] at hsome
    cases hsome
  · rw [lookUp_of_mem hmem, heq]
  · rw [lookUp_of_not_mem hmem, heq, hfind]
  · rcases h with h | h | h
    · rw [Table.contains, hconversion] at h
      cases h
    · exact absurd h hmem
    · rw [Table.contains, hnone] at h
      cases h

theorem vectorElement_of_unknown (h : ¬s.KnowsName (Identifier.lastSegment name)) :
    Render.vectorElement s name = .ok (Identifier.lastSegment name) := by
  simp only [KnowsName, not_or, Bool.not_eq_true, Table.contains_eq_false_iff] at h
  obtain ⟨hconversion, hmem, htype⟩ := h
  rw [vectorElement_of_last hbuiltin hsuffix, hconversion, lookUp_of_not_mem hmem, htype]

omit hbuiltin hsuffix

/-! ### Where they agree -/

/--
A builtin type, and a name without an underscore that is known, are spelled as the resolver spells them just if the
C# name that the settings have for it is spelled as itself. Of a name with an underscore only the last part counts:
a conversion of it, else what it is resolved to, else the part itself has to be what the whole name is resolved to.
-/
theorem vectorElement_agrees
    (hconversions : ∀ builtin, builtinTypes.contains builtin = true →
      s.settings.conversions.contains builtin = false)
    (hsuffix : Text.endsWith name s.settings.viewSuffix = false) :
    (∀ text t, builtinTypes.find? name = some text → t.kind = .builtin → t.builtin = some name →
      (Render.vectorElement s name = s.resolvedType t ↔ s.SpellsItself text)) ∧
    (builtinTypes.contains name = false → s.KnowsName name → '_' ∉ name.toList →
      (Render.vectorElement s name = s.resolved name ↔
        ∀ text, s.settings.conversions.find? name = some text → s.SpellsItself text)) ∧
    (builtinTypes.contains name = false → s.KnowsName name → '_' ∈ name.toList →
      (∀ text, s.settings.conversions.find? (Identifier.lastSegment name) = some text →
        (Render.vectorElement s name = s.resolved name ↔ s.resolved name = .ok text)) ∧
      (s.settings.conversions.contains (Identifier.lastSegment name) = false →
        s.KnowsName (Identifier.lastSegment name) →
        (Render.vectorElement s name = s.resolved name ↔
          s.resolved name = s.resolved (Identifier.lastSegment name))) ∧
      (¬s.KnowsName (Identifier.lastSegment name) →
        (Render.vectorElement s name = s.resolved name ↔
          s.resolved name = .ok (Identifier.lastSegment name)))) := by
  refine ⟨fun text t htext hkind ht => ?_, fun hbuiltin hknown hplain => ?_, fun hbuiltin _ _ => ⟨?_, ?_, ?_⟩⟩
  · have hname : builtinTypes.contains name = true := Table.contains_iff.mpr ⟨text, htext⟩
    rw [vectorElement_of_builtin htext, eq_comm]
    exact resolvedType_builtin_iff htext (hconversions name hname) hkind ht
  · have hlast := Identifier.lastSegment_eq_self hplain
    cases hconverted : s.settings.conversions.find? name with
    | some text =>
      rw [vectorElement_of_converted hbuiltin hsuffix (by rw [hlast, hconverted]), eq_comm,
        resolved_converted_iff hconverted]
      simp
    | none =>
      have hequal := vectorElement_of_known hbuiltin hsuffix (by rw [hlast, hconverted]) (by rwa [hlast])
      rw [hlast] at hequal
      exact iff_of_true hequal fun _ => nofun
  · intro text hconverted
    rw [vectorElement_of_converted hbuiltin hsuffix hconverted, eq_comm]
  · intro hconversion hknown
    rw [vectorElement_of_known hbuiltin hsuffix (Table.contains_eq_false_iff.mp hconversion) hknown, eq_comm]
  · intro hunknown
    rw [vectorElement_of_unknown hbuiltin hsuffix hunknown, eq_comm]

/-- The settings of Dear ImGui convert both names, but only the one without an underscore is found. -/
theorem vectorElement_agrees_imgui :
    (∀ builtin, builtinTypes.contains builtin = true → ImGui.settings.conversions.contains builtin = false) ∧
    Text.endsWith "ImVec2" ImGui.settings.viewSuffix = false ∧
    Text.endsWith "size_t" ImGui.settings.viewSuffix = false ∧
    Render.vectorElement (ofSettings ImGui.settings) "ImVec2" = (ofSettings ImGui.settings).resolved "ImVec2" ∧
    (ofSettings ImGui.settings).resolved "size_t" = .ok "ulong" ∧
    Render.vectorElement (ofSettings ImGui.settings) "size_t" ≠ (ofSettings ImGui.settings).resolved "size_t" := by
  have hconversions : ∀ builtin, builtinTypes.contains builtin = true →
      ImGui.settings.conversions.contains builtin = false := by
    intro builtin hbuiltin
    have hall : ∀ builtin ∈ builtinTypes.keys, ImGui.settings.conversions.contains builtin = false := by decide
    exact hall builtin (Table.mem_keys_iff.mpr hbuiltin)
  have hvector : Text.endsWith "ImVec2" ImGui.settings.viewSuffix = false := by decide
  have hsize : Text.endsWith "size_t" ImGui.settings.viewSuffix = false := by decide
  have hulong : (ofSettings ImGui.settings).resolved "size_t" = .ok "ulong" := by rfl
  have hunknown : ¬(ofSettings ImGui.settings).KnowsName (Identifier.lastSegment "size_t") := by
    unfold KnowsName
    decide
  refine ⟨hconversions, hvector, hsize, ?_, hulong, fun hequal => ?_⟩
  · exact ((vectorElement_agrees (s := ofSettings ImGui.settings) hconversions hvector).2.1 (by decide)
      (.inl (by decide)) (by decide)).mpr fun text _ id hid => by cases hid
  · have hlast := (((vectorElement_agrees (s := ofSettings ImGui.settings) hconversions hsize).2.2 (by decide)
      (.inl (by decide)) (by decide)).2.2 hunknown).mp hequal
    rw [hulong] at hlast
    exact absurd (Except.ok.inj hlast) (by decide)

end Symbols

end InteropGen

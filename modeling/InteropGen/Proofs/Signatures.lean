import InteropGen.Proofs.Calls
import InteropGen.Proofs.Settled

/-!
# Signatures

A wrapper is left out if its class already has one with its signature, as the types are spelled at that
moment. Spellings stay what they are while declarations are built (`Grows.spell`), so the wrappers of a
class have distinct signatures once all is built: `Signs` says so of one step, `Distinct` of a class.
Afterwards two types that were spelled apart may come to be spelled alike, because one leads to a
forward reference that is bound or to a struct that is erased. `same_signature_iff` says that this is
the only way in which two wrappers of a class share a signature in the end.
-/

namespace InteropGen

namespace Arena

variable {a b : Arena} {id : TypeId} {text : String}

/-- Following pointers and bound references leads from one entry to another. -/
inductive LeadsTo (a : Arena) : TypeId → TypeId → Prop
  | here (id : TypeId) : LeadsTo a id id
  | pointer {id target root : TypeId} (h : a.get? id = some (.pointer target))
      (hroot : LeadsTo a target root) : LeadsTo a id root
  | bound {id target root : TypeId} {name : String}
      (h : a.get? id = some (.forward name (some target))) (hroot : LeadsTo a target root) :
      LeadsTo a id root

/-- A spelling hangs only on the entries that its entry leads to. -/
theorem Spells.congr (hhandle : b.handle = a.handle) (h : a.Spells id text)
    (hsame : ∀ root, a.LeadsTo id root → ∀ entry, a.get? root = some entry →
      b.get? root = some entry) : b.Spells id text := by
  obtain ⟨fuel, h⟩ := h
  induction fuel generalizing id text with
  | zero => simp [spellWithin] at h
  | succ fuel ih =>
    rw [spellWithin] at h
    rcases hget : a.get? id with _ | ⟨name, erased⟩ | target | ⟨name, _ | target⟩
    · rw [hget] at h
      simp at h
    all_goals
      rw [hget] at h
      have hsame' := hsame id (.here id) _ hget
    · rw [spells_named hsame', hhandle]
      exact (Option.some.inj h).symm
    · obtain ⟨inner, hinner, rfl⟩ := Option.map_eq_some_iff.mp h
      rw [spells_pointer hsame']
      exact ⟨inner, ih (fun root hroot => hsame root (.pointer hget hroot)) hinner,
        by rw [star, star, hhandle]⟩
    · rw [spells_unbound hsame']
      exact (Option.some.inj h).symm
    · rw [spells_bound hsame']
      exact ih (fun root hroot => hsame root (.bound hget hroot)) h

theorem Extends.spells (h : a.Extends b) (hspells : a.Spells id text) : b.Spells id text :=
  hspells.congr h.handle fun root _ => h.entries root

end Arena

namespace Symbols

variable {s s' : Symbols} {type : TypeText} {text : String}

/-- A type of a declaration is spelled as before if its entry is. -/
theorem spell_congr (hsettings : s'.settings = s.settings) (henums : s'.enums = s.enums)
    (h : s.spell type = .ok text)
    (hspells : ∀ id, type.id? = some id → ∀ spelled, s.arena.Spells id spelled →
      s'.arena.Spells id spelled) : s'.spell type = .ok text := by
  have hid : ∀ id, type.id? = some id → ∀ spelled, s.spellId id = .ok spelled →
      s'.spellId id = .ok spelled := fun id hid spelled hspelled =>
    spellId_eq_ok_iff.mpr (hspells id hid spelled (spellId_eq_ok_iff.mp hspelled))
  cases type with
  | plain text => exact h
  | ref id => exact hid id rfl text h
  | view id =>
    rw [spell] at h ⊢
    obtain ⟨spelled, hspelled, htext⟩ := Build.except_bind_ok.mp h
    rw [viewName?_congr hsettings henums]
    exact Build.except_bind_ok.mpr ⟨spelled, hid id rfl spelled hspelled, htext⟩

theorem Grows.spell (h : s.Grows s') (hspell : s.spell type = .ok text) :
    s'.spell type = .ok text :=
  spell_congr h.settings h.enums hspell fun _ _ _ hspells => h.arena.spells hspells

end Symbols

namespace Generate

open Metadata Decl Build Symbols

variable {s s' : Symbols} {st middle st' : Scoped} {wrapper w w' : Wrapper}
  {made first others : List Wrapper} {target : WrapperClass} {plan : WrapperPlan}
  {function : Function} {m : Marshaling}

/-! ### Texts of parameters -/

/-- A parameter whose type is spelled so, with its modifier and its suffix. -/
def decorated (parameter : Managed) (spelled : String) : String :=
  let text := spelled ++ parameter.suffix
  if parameter.modifier.isEmpty then text else parameter.modifier ++ " " ++ text

/-- The type of a parameter as it is spelled, with its modifier and its suffix. -/
def parameterText (s : Symbols) (parameter : Managed) : Except Fault String := do
  return decorated parameter (← s.spell parameter.type)

theorem parameterText_ok_iff {parameter : Managed} {text : String} :
    parameterText s parameter = .ok text ↔
      ∃ spelled, s.spell parameter.type = .ok spelled ∧ decorated parameter spelled = text := by
  rw [parameterText, except_bind_ok]
  exact exists_congr fun _ => and_congr_right fun _ => ⟨Except.ok.inj, congrArg _⟩

/-- A parameter is as before if its type is spelled as before. -/
theorem parameterText_congr {parameter : Managed} {text : String}
    (h : parameterText s parameter = .ok text)
    (hspell : ∀ spelled, s.spell parameter.type = .ok spelled →
      s'.spell parameter.type = .ok spelled) : parameterText s' parameter = .ok text := by
  obtain ⟨spelled, hspelled, htext⟩ := parameterText_ok_iff.mp h
  exact parameterText_ok_iff.mpr ⟨spelled, hspell spelled hspelled, htext⟩

theorem managedTypes_ok_iff {managed : List Managed} {types : List String} :
    managedTypes s managed = .ok types ↔
      List.Forall₂ (fun parameter text => parameterText s parameter = .ok text) managed types :=
  except_mapM_ok

theorem managedTypes_grows {managed : List Managed} {types : List String} (h : s.Grows s')
    (htypes : managedTypes s managed = .ok types) : managedTypes s' managed = .ok types :=
  managedTypes_ok_iff.mpr ((managedTypes_ok_iff.mp htypes).imp fun _ _ htext =>
    parameterText_congr htext fun _ => h.spell)

/-! ### Distinct signatures -/

/-- The signature of a wrapper, as its types are spelled. -/
def signatureOf (s : Symbols) (wrapper : Wrapper) : Except Fault String := do
  let types ← managedTypes s wrapper.marshaling.managed
  return wrapper.head.name ++ "(" ++ String.intercalate ", " types ++ ")"

/-- The wrappers have distinct signatures. -/
def Distinct (s : Symbols) (wrappers : List Wrapper) : Prop :=
  ∃ signatures : List String, signatures.Nodup ∧
    List.Forall₂ (fun wrapper signature => signatureOf s wrapper = .ok signature) wrappers signatures

/-- The scope gains the signatures of the wrappers, which are new and distinct. -/
def Signs (s : Symbols) (st st' : Scoped) (made : List Wrapper) : Prop :=
  ∃ added, st'.scope.signatures = st.scope.signatures ++ added ∧
    List.Forall₂ (fun wrapper signature => signatureOf s wrapper = .ok signature) made added ∧
    (st.scope.signatures.Nodup → st'.scope.signatures.Nodup)

theorem Signs.none (h : st'.scope.signatures = st.scope.signatures) : Signs s st st' [] :=
  ⟨[], by rw [h, List.append_nil], .nil, by rw [h]; exact fun hnodup => hnodup⟩

theorem Signs.append (h : Signs s st middle first) (h' : Signs s middle st' others) :
    Signs s st st' (first ++ others) := by
  obtain ⟨added, hsignatures, hadded, hnodup⟩ := h
  obtain ⟨added', hsignatures', hadded', hnodup'⟩ := h'
  exact ⟨added ++ added', by rw [hsignatures', hsignatures, List.append_assoc],
    List.rel_append hadded hadded', fun h => hnodup' (hnodup h)⟩

theorem Signs.after (h : Signs s middle st' made)
    (hsame : middle.scope.signatures = st.scope.signatures) : Signs s st st' made := by
  unfold Signs at h ⊢
  rwa [hsame] at h

/-- In a new scope all wrappers are distinct. -/
theorem Signs.distinct (h : Signs s st st' made) (hempty : st.scope.signatures = []) :
    Distinct s made := by
  obtain ⟨added, hsignatures, hadded, hnodup⟩ := h
  rw [hempty, List.nil_append] at hsignatures
  rw [hempty, hsignatures] at hnodup
  exact ⟨added, hnodup .nil, hadded⟩

theorem signs_addWrapper (hlater : st'.symbols.Grows s)
    (hrun : (addWrapper target plan m).runOn st = (.ok made, st')) : Signs s st st' made := by
  obtain ⟨state, middle, hget, hrun⟩ := ok_bind.mp hrun
  obtain ⟨rfl, rfl⟩ := ok_get.mp hget
  obtain ⟨types, middle, hspelled, hrun⟩ := ok_bind.mp hrun
  obtain ⟨htypes, rfl⟩ := ok_ofExcept.mp hspelled
  dsimp only at hrun
  split at hrun
  · obtain ⟨rfl, rfl⟩ := ok_pure.mp hrun
    exact .none rfl
  · next hnew =>
    obtain ⟨_, after, hmodify, hrun⟩ := ok_bind.mp hrun
    obtain ⟨rfl, rfl⟩ := ok_pure.mp hrun
    obtain rfl := (Prod.mk.inj hmodify).2
    have hlater : st.symbols.Grows s := hlater
    refine ⟨[_], rfl, .cons ?_ .nil, fun hnodup => ?_⟩
    · have hname : (plan.wrapper target m).head.name = plan.name := Head.name_withComments _ _
      refine except_bind_ok.mpr ⟨types, managedTypes_grows hlater htypes, ?_⟩
      rw [hname]
      rfl
    · exact hnodup.append (List.nodup_singleton _) (by simpa using hnew)

/-! ### Signatures of the wrappers of a function -/

theorem signs_shorterWrappers {argument : Argument} {rest : List Argument}
    (hlater : st'.symbols.Grows s)
    (hrun : (shorterWrappers target function plan argument rest m).runOn st = (.ok made, st')) :
    Signs s st st' made := by
  unfold shorterWrappers at hrun
  split at hrun
  · obtain ⟨short, middle, hscoped, hadd⟩ := ok_bind.mp hrun
    obtain ⟨symbols, -, rfl⟩ := ok_onSymbols.mp hscoped
    exact (signs_addWrapper hlater hadd).after rfl
  · obtain ⟨rfl, rfl⟩ := ok_pure.mp hrun
    exact .none rfl

theorem signs_wrapArguments {arguments : List Argument} (hlater : st'.symbols.Grows s)
    (hrun : (wrapArguments target function plan arguments m).runOn st = (.ok made, st')) :
    Signs s st st' made := by
  induction arguments generalizing m st made with
  | nil => exact signs_addWrapper hlater hrun
  | cons argument rest ih =>
    cases hinfo : argument.info with
    | none =>
      rw [wrapArguments_untyped hinfo] at hrun
      exact ih hrun
    | some info =>
      by_cases hself : argument.name = "self"
      · rw [wrapArguments_self hinfo hself] at hrun
        exact ih hrun
      · rw [wrapArguments_given hinfo hself] at hrun
        obtain ⟨shorter, before, hshorter, hrun⟩ := ok_bind.mp hrun
        obtain ⟨longest, middle, hscoped, hrun⟩ := ok_bind.mp hrun
        obtain ⟨symbols, hclassify, rfl⟩ := ok_onSymbols.mp hscoped
        obtain ⟨longer, after, hrest, hrun⟩ := ok_bind.mp hrun
        obtain ⟨rfl, rfl⟩ := ok_pure.mp hrun
        have hmiddle := ((quiet_classify _ _ _ _).of_ok hclassify).toGrows
        have hafter := ((quiet_wrapArguments _ _ _ _ _).of_ok hrest).toGrows
        exact (signs_shorterWrappers (hmiddle.trans (hafter.trans hlater)) hshorter).append
          ((ih hrest).after rfl)

theorem wrapperName_signatures (function : Function) (st : Scoped) :
    (wrapperName function st).2.scope.signatures = st.scope.signatures := by
  unfold wrapperName
  dsimp only
  split <;> rfl

theorem signs_wrappers (hlater : st'.symbols.Grows s)
    (hrun : (wrappers target function).runOn st = (.ok made, st')) : Signs s st st' made := by
  obtain ⟨⟨name, comments⟩, before, hlift, hrun⟩ := ok_bind.mp hrun
  obtain ⟨⟨type, code⟩, middle, hscoped, hrun⟩ := ok_bind.mp hrun
  obtain ⟨symbols, hresult, rfl⟩ := ok_onSymbols.mp hscoped
  refine (signs_wrapArguments hlater hrun).after ?_
  rw [← wrapperName_signatures function st, (ok_lift.mp hlift).2]

theorem signs_classWrappers {selects : Symbols → Function → Bool} {functions : List Function}
    (hlater : st'.symbols.Grows s)
    (hrun : (classWrappers selects target functions).runOn st = (.ok made, st')) :
    Signs s st st' made := by
  induction functions generalizing st made with
  | nil =>
    obtain ⟨rfl, rfl⟩ := ok_pure.mp hrun
    exact .none rfl
  | cons function rest ih =>
    obtain ⟨state, middle, hget, hrun⟩ := ok_bind.mp hrun
    obtain ⟨rfl, rfl⟩ := ok_get.mp hget
    split at hrun
    · obtain ⟨first, middle, hfirst, hrun⟩ := ok_bind.mp hrun
      obtain ⟨others, after, hothers, hrun⟩ := ok_bind.mp hrun
      obtain ⟨rfl, rfl⟩ := ok_pure.mp hrun
      have hafter := ((quiet_classWrappers _ _ _).of_ok hothers).toGrows
      exact (signs_wrappers (hafter.trans hlater) hfirst).append (ih hothers)
    · exact ih hrun

theorem distinct_mainWrappers {functions : List Function} (hempty : st.scope.signatures = [])
    (hlater : st'.symbols.Grows s)
    (hrun : (mainWrappers target functions).runOn st = (.ok made, st')) : Distinct s made := by
  rw [mainWrappers_eq] at hrun
  exact (signs_classWrappers hlater hrun).distinct hempty

theorem distinct_structs {items : List Struct} {functions : List Function}
    {pairs : List (Layout × View)} (hlater : st'.symbols.Grows s)
    (hrun : (structs target functions items).runOn st = (.ok pairs, st')) :
    ∀ pair ∈ pairs, Distinct s pair.2.wrappers := by
  intro pair hpair
  obtain ⟨first, last, hempty, -, hmethods, hlast⟩ := methods_structs hrun pair hpair
  rw [methodWrappers_eq] at hmethods
  exact (signs_classWrappers (hlast.trans hlater) hmethods).distinct hempty

/-! ### Types that change when the declarations are settled -/

/-- The type leads to a pending forward reference or to the type of a struct without members. -/
def Late (pairs : List (Layout × View)) (s : Symbols) (type : TypeText) : Prop :=
  ∃ id root, type.id? = some id ∧ s.arena.LeadsTo id root ∧ (root ∈ s.pending ∨ Dropped pairs s root)

section Settling

variable {pairs : List (Layout × View)} {erased : Symbols}

theorem Settles.spell {type : TypeText} {text : String} (h : Settles pairs s erased s')
    (hlate : ¬ Late pairs s type) (hspell : s.spell type = .ok text) : s'.spell type = .ok text := by
  refine spell_congr h.keeps.settings h.keeps.enums hspell fun id hid _ hspells =>
    hspells.congr h.keeps.arena.handle fun root hroot entry hget => h.kept hget ?_ ?_
  · exact fun hpending => hlate ⟨id, root, hid, hroot, .inl hpending⟩
  · exact fun hdropped => hlate ⟨id, root, hid, hroot, .inr hdropped⟩

/-! ### Wrappers that come to share a signature -/

/-- The parameters are spelled alike. -/
def SameParameter (s : Symbols) (parameter parameter' : Managed) : Prop :=
  ∃ text, parameterText s parameter = .ok text ∧ parameterText s parameter' = .ok text

/-- The wrappers have one name and one list of parameter types. -/
structure SameSignature (s : Symbols) (w w' : Wrapper) : Prop where
  name : w.head.name = w'.head.name
  parameters : List.Forall₂ (SameParameter s) w.marshaling.managed w'.marshaling.managed

/-- Two parameters at one position differed when they were built, and one of them is late. -/
def MergeAt (pairs : List (Layout × View)) (s : Symbols) (managed managed' : List Managed)
    (i : Nat) : Prop :=
  ∃ parameter parameter', managed[i]? = some parameter ∧ managed'[i]? = some parameter' ∧
    parameterText s parameter ≠ parameterText s parameter' ∧
    (Late pairs s parameter.type ∨ Late pairs s parameter'.type)

/-- The types of two parameters settle to texts that make them one. -/
def Meet (pairs : List (Layout × View)) (s : Symbols) (parameter parameter' : Managed) : Prop :=
  ∃ spelled spelled', TextSettlesTo pairs s parameter.type spelled ∧
    TextSettlesTo pairs s parameter'.type spelled' ∧
    decorated parameter spelled = decorated parameter' spelled'

/--
Two wrappers with one name, whose parameters settle to the same ones, but not all were the same when
they were built.
-/
structure Merge (pairs : List (Layout × View)) (s : Symbols) (w w' : Wrapper) : Prop where
  name : w.head.name = w'.head.name
  parameters : List.Forall₂ (Meet pairs s) w.marshaling.managed w'.marshaling.managed
  position : ∃ i, MergeAt pairs s w.marshaling.managed w'.marshaling.managed i

theorem SameSignature.managedTypes {types : List String} (h : SameSignature s w w')
    (htypes : Generate.managedTypes s w.marshaling.managed = .ok types) :
    Generate.managedTypes s w'.marshaling.managed = .ok types := by
  rw [managedTypes_ok_iff] at htypes ⊢
  have hparameters := h.parameters
  generalize w.marshaling.managed = managed at hparameters htypes
  generalize w'.marshaling.managed = managed' at hparameters ⊢
  induction hparameters generalizing types with
  | nil =>
    cases htypes
    exact .nil
  | cons hsame _ ih =>
    cases htypes with
    | cons hfirst hrest =>
      obtain ⟨text, htext, htext'⟩ := hsame
      rw [htext] at hfirst
      exact .cons (htext'.trans hfirst) (ih hrest)

theorem sameSignature_of_managedTypes {types : List String} (hname : w.head.name = w'.head.name)
    (h : managedTypes s w.marshaling.managed = .ok types)
    (h' : managedTypes s w'.marshaling.managed = .ok types) : SameSignature s w w' := by
  refine ⟨hname, ?_⟩
  rw [managedTypes_ok_iff] at h h'
  generalize w.marshaling.managed = managed at h ⊢
  generalize w'.marshaling.managed = managed' at h' ⊢
  induction h generalizing managed' with
  | nil =>
    cases h'
    exact .nil
  | cons htext _ ih =>
    cases h' with
    | cons htext' hrest => exact .cons ⟨_, htext, htext'⟩ (ih _ hrest)

theorem SameSignature.signatureOf {signature : String} (h : SameSignature s w w')
    (hsignature : Generate.signatureOf s w = .ok signature) :
    Generate.signatureOf s w' = .ok signature := by
  obtain ⟨types, htypes, hpure⟩ := except_bind_ok.mp hsignature
  rw [h.name] at hpure
  exact except_bind_ok.mpr ⟨types, h.managedTypes htypes, hpure⟩

theorem has_of_spell {type : TypeText} {text : String} (h : s.spell type = .ok text) :
    ∀ id, type.id? = some id → s.arena.Has id := by
  rintro id hid
  cases type with
  | plain => simp [TypeText.id?] at hid
  | ref other =>
    obtain rfl := Option.some.inj hid
    exact (spellId_eq_ok_iff.mp h).exists_entry
  | view other =>
    obtain rfl := Option.some.inj hid
    obtain ⟨spelled, hspelled, -⟩ := except_bind_ok.mp h
    exact (spellId_eq_ok_iff.mp hspelled).exists_entry

theorem Settles.parameterText_iff {parameter : Managed} {text settled : String} (hs : s.Sound)
    (h : Settles pairs s erased s') (htext : parameterText s parameter = .ok text) :
    parameterText s' parameter = .ok settled ↔
      ∃ spelled, TextSettlesTo pairs s parameter.type spelled ∧
        decorated parameter spelled = settled := by
  obtain ⟨spelled, hspelled, -⟩ := parameterText_ok_iff.mp htext
  rw [parameterText_ok_iff]
  exact exists_congr fun _ => and_congr_left fun _ => h.spell_iff hs (has_of_spell hspelled)

theorem Settles.sameParameter_iff {parameter parameter' : Managed} {text text' : String}
    (hs : s.Sound) (h : Settles pairs s erased s') (htext : parameterText s parameter = .ok text)
    (htext' : parameterText s parameter' = .ok text') :
    SameParameter s' parameter parameter' ↔ Meet pairs s parameter parameter' := by
  unfold SameParameter Meet
  constructor
  · rintro ⟨settled, hsettled, hsettled'⟩
    obtain ⟨spelled, hspelled, rfl⟩ := (h.parameterText_iff hs htext).mp hsettled
    obtain ⟨spelled', hspelled', heq⟩ := (h.parameterText_iff hs htext').mp hsettled'
    exact ⟨spelled, spelled', hspelled, hspelled', heq.symm⟩
  · rintro ⟨spelled, spelled', hspelled, hspelled', heq⟩
    exact ⟨_, (h.parameterText_iff hs htext).mpr ⟨spelled, hspelled, rfl⟩,
      (h.parameterText_iff hs htext').mpr ⟨spelled', hspelled', heq.symm⟩⟩

theorem Settles.sameParameters_iff {managed managed' : List Managed} {types types' : List String}
    (hs : s.Sound) (h : Settles pairs s erased s') (htypes : managedTypes s managed = .ok types)
    (htypes' : managedTypes s managed' = .ok types') :
    List.Forall₂ (SameParameter s') managed managed' ↔
      List.Forall₂ (Meet pairs s) managed managed' := by
  rw [managedTypes_ok_iff] at htypes htypes'
  induction htypes generalizing managed' types' with
  | nil =>
    cases htypes' with
    | nil => simp
    | cons => simp
  | cons hfirst _ ih =>
    cases htypes' with
    | nil => simp
    | cons hfirst' hrest' =>
      rw [List.forall₂_cons, List.forall₂_cons, ih hrest', h.sameParameter_iff hs hfirst hfirst']

/-- Lists of parameters that are spelled alike in the end were so before, or merge at a position. -/
theorem eq_or_mergeAt {managed managed' : List Managed} {types types' : List String}
    (hsettles : Settles pairs s erased s')
    (hsame : List.Forall₂ (SameParameter s') managed managed')
    (htypes : managedTypes s managed = .ok types) (htypes' : managedTypes s managed' = .ok types') :
    types = types' ∨ ∃ i, MergeAt pairs s managed managed' i := by
  rw [managedTypes_ok_iff] at htypes htypes'
  induction hsame generalizing types types' with
  | nil =>
    cases htypes
    cases htypes'
    exact .inl rfl
  | @cons parameter parameter' managed managed' hboth _ ih =>
    cases htypes with
    | @cons _ text _ _ hfirst hrest =>
    cases htypes' with
    | @cons _ text' _ _ hfirst' hrest' =>
      rcases ih hrest hrest' with rfl | ⟨i, hmerge⟩
      · by_cases htext : text = text'
        · exact .inl (by rw [htext])
        · refine .inr ⟨0, parameter, parameter', rfl, rfl, by simpa [hfirst, hfirst'] using htext, ?_⟩
          by_contra hnever
          rw [not_or] at hnever
          obtain ⟨shared, hshared, hshared'⟩ := hboth
          rw [parameterText_congr hfirst fun _ => hsettles.spell hnever.1] at hshared
          rw [parameterText_congr hfirst' fun _ => hsettles.spell hnever.2] at hshared'
          exact htext (Except.ok.inj (hshared.trans hshared'.symm))
      · exact .inr ⟨i + 1, hmerge⟩

theorem Distinct.pairwise {wrappers : List Wrapper} (h : Distinct s wrappers) :
    wrappers.Pairwise fun w w' => ∃ signature signature', signatureOf s w = .ok signature ∧
      signatureOf s w' = .ok signature' ∧ signature ≠ signature' := by
  obtain ⟨signatures, hnodup, hall⟩ := h
  induction hall with
  | nil => exact .nil
  | @cons wrapper signature wrappers signatures hfirst hrest ih =>
    rw [List.nodup_cons] at hnodup
    refine .cons (fun w' hw' => ?_) (ih hnodup.2)
    obtain ⟨i, hi⟩ := List.mem_iff_getElem?.mp hw'
    obtain ⟨signature', hsignature', hother⟩ := forall₂_getElem? hrest hi
    refine ⟨signature, signature', hfirst, hother, ?_⟩
    rintro rfl
    exact hnodup.1 (List.mem_of_getElem? hsignature')

/-- Distinct wrappers share a signature in the end exactly if they merge. -/
theorem Distinct.settles {wrappers : List Wrapper} (h : Distinct s wrappers) (hs : s.Sound)
    (hsettles : Settles pairs s erased s') :
    wrappers.Pairwise fun w w' => ¬ SameSignature s w w' ∧
      (SameSignature s' w w' ↔ Merge pairs s w w') := by
  refine h.pairwise.imp fun {w w'} ⟨signature, signature', hw, hw', hne⟩ => ⟨fun hsame => ?_, ?_⟩
  · rw [hsame.signatureOf hw] at hw'
    exact hne (Except.ok.inj hw')
  obtain ⟨types, htypes, hpure⟩ := except_bind_ok.mp hw
  obtain ⟨types', htypes', hpure'⟩ := except_bind_ok.mp hw'
  have hparameters := hsettles.sameParameters_iff hs htypes htypes'
  constructor
  · intro hsame
    rcases eq_or_mergeAt hsettles hsame.parameters htypes htypes' with rfl | hposition
    · rw [hsame.name] at hpure
      exact absurd (Except.ok.inj (hpure.symm.trans hpure')) hne
    · exact ⟨hsame.name, hparameters.mp hsame.parameters, hposition⟩
  · exact fun hmerge => ⟨hmerge.name, hparameters.mpr hmerge.parameters⟩

end Settling

/-- The wrappers of each class: the main one and the views. -/
def Bindings.classes (b : Bindings) : List (List Wrapper) :=
  b.mainWrappers :: b.structs.map (·.2.wrappers)

theorem distinct_declared {nativeClass : String} {metadata : Metadata} {b : Bindings}
    {built : Symbols} (hrun : (declared nativeClass metadata).runOn s = (.ok b, built)) :
    ∀ wrappers ∈ b.classes, Distinct built wrappers := by
  obtain ⟨typed, paired, imported, wrapped, hstages, rfl⟩ := stages_of_declared hrun
  have himports := ((registers_declared_externs metadata).of_ok hstages.externs).1
  have hwraps := ((quiet_mainWrappers _ _).of_ok hstages.mainWrappers).toGrows
  intro wrappers hwrappers
  rcases List.mem_cons.mp hwrappers with rfl | hview
  · exact distinct_mainWrappers rfl (.refl _) hstages.mainWrappers
  · obtain ⟨pair, hpair, rfl⟩ := List.mem_map.mp hview
    exact distinct_structs (himports.trans hwraps) hstages.structs pair hpair

/--
When all is built the wrappers of a class have distinct signatures. After settling two of them share
one exactly if they merge, which can be told before: they have one name and their parameters settle to
the same ones. At some position the parameters then differ, and one leads to a forward reference that
is pending or to the type of a struct without members.
-/
theorem same_signature_iff {settings : Settings} {nativeClass : String} {metadata : Metadata}
    {b : Bindings} (hs : Reached settings s)
    (hrun : (bindings nativeClass metadata).runOn s.beginConfiguration = (.ok b, s')) :
    ∃ all built, (declared nativeClass metadata).runOn s.beginConfiguration = (.ok all, built) ∧
      (settle all).runOn built = (.ok b, s') ∧
      ∀ wrappers ∈ b.classes, wrappers.Pairwise fun w w' => ¬ SameSignature built w w' ∧
        (SameSignature s' w w' ↔ Merge all.structs built w w') := by
  have hsound := (opens_opened metadata _).sound (sound_beginConfiguration hs.sound)
  obtain ⟨all, built, erased, hdeclared, hsettle, rfl, hsettles⟩ := ok_bindings hsound hrun rfl
  refine ⟨all, built, hdeclared, hsettle, fun wrappers hwrappers => ?_⟩
  have hbuilt := (declares rfl hdeclared).1.sound hsound
  refine (distinct_declared hdeclared wrappers ?_).settles hbuilt hsettles
  rcases List.mem_cons.mp hwrappers with rfl | hview
  · exact List.mem_cons_self
  · obtain ⟨pair, hpair, rfl⟩ := List.mem_map.mp hview
    exact List.mem_cons_of_mem _ (List.mem_map.mpr ⟨pair, (List.mem_filter.mp hpair).1, rfl⟩)

/-- A struct without members: its only field is under a define that is never made. -/
def hollowStruct (name : String) : Struct where
  name := name
  fields :=
    [{ name := "data", info := { type := { kind := .builtin, builtin := some "int" } }
       guards := [⟨.defined, "NEVER"⟩] }]

/-- A function with one argument, a pointer to a struct. -/
def pointerFunction (name structName : String) : Function where
  name := name
  result := { type := { kind := .builtin, builtin := some "void" } }
  arguments :=
    [{ name := "target"
       info := some { type :=
        { kind := .pointer, inner := some { kind := .user, name := some structName } } } }]

/-- A function and its longer form, with pointers to two structs without members. -/
def hollowPointers : Metadata where
  structs := [hollowStruct "ImLeft", hollowStruct "ImRight"]
  functions := [pointerFunction "ImGui_Show" "ImLeft", pointerFunction "ImGui_ShowEx" "ImRight"]

theorem same_signature_iff_hollowPointers :
    ∃ b s' all built w w', (bindings "Native" hollowPointers).runOn
        (ofSettings {}).beginConfiguration = (.ok b, s') ∧
      (declared "Native" hollowPointers).runOn (ofSettings {}).beginConfiguration =
        (.ok all, built) ∧
      b.mainWrappers = [w, w'] ∧ ¬ SameSignature built w w' ∧ SameSignature s' w w' ∧
      Merge all.structs built w w' := by
  obtain ⟨b, s', hrun, htypes⟩ := exists_ok (bindings "Native" hollowPointers)
    (ofSettings {}).beginConfiguration (fun b s' => b.mainWrappers.map fun wrapper =>
      (wrapper.head.name, managedTypes s' wrapper.marshaling.managed))
    (b := [("Show", .ok ["IntPtr"]), ("Show", .ok ["IntPtr"])]) (by decide +kernel)
  obtain ⟨w, rest, hwrappers, hfirst, hrest⟩ := List.map_eq_cons_iff.mp htypes
  obtain ⟨w', rest', rfl, hsecond, hrest'⟩ := List.map_eq_cons_iff.mp hrest
  obtain rfl := List.map_eq_nil_iff.mp hrest'
  obtain ⟨hname, hmanaged⟩ := Prod.mk.inj hfirst
  obtain ⟨hname', hmanaged'⟩ := Prod.mk.inj hsecond
  have hsame : SameSignature s' w w' := sameSignature_of_managedTypes (hname.trans hname'.symm)
    hmanaged hmanaged'
  obtain ⟨all, built, hdeclared, -, hclasses⟩ := same_signature_iff .start hrun
  have hpairs := hclasses b.mainWrappers List.mem_cons_self
  rw [hwrappers, List.pairwise_cons] at hpairs
  obtain ⟨hbuilt, hmerge⟩ := hpairs.1 w' List.mem_cons_self
  exact ⟨b, s', all, built, w, w', hrun, hdeclared, hwrappers, hbuilt, hsame, hmerge.mp hsame⟩

end Generate

end InteropGen

import InteropGen.Proofs.Signatures

/-!
# Which functions are left without wrappers

A function offers each class that it belongs to one wrapper for every default and the full one, and
the class takes those whose signature it does not have yet. `offers` is that walk without the class,
and `makesIfFree_wrappers` says that a function gets a wrapper exactly if the class has not taken
the signatures of all that it offers. Wrappers of the function itself do not matter there: the first
one that the class takes is enough. So only earlier functions can leave a function without wrappers,
and `called_unless_taken` says when they do.
-/

namespace InteropGen.Generate

open Metadata Decl Build Symbols

variable {s s' lo built : Symbols} {st st' middle : Scoped} {made : List Wrapper}
  {target : WrapperClass} {plan : WrapperPlan} {function : Function} {m : Marshaling}

/-! ### Offers -/

/-- The marshaling that omits the arguments from one on, if that one has a default. -/
def shorterOffers (function : Function) (argument : Argument) (rest : List Argument)
    (m : Marshaling) : Build Symbols (List Marshaling) :=
  if argument.default.isSome then do return [← withDefaults function (argument :: rest) m]
  else return []

/-- The marshalings that a function offers, for the arguments from here on. -/
def offersFrom (function : Function) : List Argument → Marshaling → Build Symbols (List Marshaling)
  | [], m => return [m]
  | argument :: rest, m =>
    match argument.info with
    | none => offersFrom function rest m
    | some info =>
      if argument.name = "self" then
        offersFrom function rest { m with native := m.native ++ ["NativePtr"] }
      else do
        let shorter ← shorterOffers function argument rest m
        let m ← classify function argument info.type m
        let longer ← offersFrom function rest m
        return shorter ++ longer

/-- The marshalings that a function offers to a class. -/
def offers (function : Function) : Build Symbols (List Marshaling) := do
  let _ ← wrapperResult function
  offersFrom function function.arguments {}

/-- The signature of a wrapper with a name and some parameters, as the types are spelled. -/
def signatureText (s : Symbols) (name : String) (managed : List Managed) : Except Fault String := do
  let types ← managedTypes s managed
  return name ++ "(" ++ String.intercalate ", " types ++ ")"

/-- None of the signatures is the one of the name and the parameters. -/
def Free (s : Symbols) (signatures : List String) (name : String) (managed : List Managed) : Prop :=
  ∀ signature ∈ signatures, signatureText s name managed ≠ .ok signature

/-- The offers are those of the function at some moment between the two. -/
def Offered (s s' : Symbols) (function : Function) (offered : List Marshaling) : Prop :=
  ∃ before after, s.Grows before ∧ (offers function).runOn before = (.ok offered, after) ∧
    after.Grows s'

theorem Offered.widen {hi : Symbols} {offered : List Marshaling} (hlo : lo.Grows s)
    (hhi : s'.Grows hi) (h : Offered s s' function offered) : Offered lo hi function offered := by
  obtain ⟨before, after, hbefore, hrun, hafter⟩ := h
  exact ⟨before, after, hlo.trans hbefore, hrun, hafter.trans hhi⟩

theorem offersFrom_given {argument : Argument} {rest : List Argument} {info : TypeInfo}
    (hinfo : argument.info = some info) (hself : argument.name ≠ "self") :
    offersFrom function (argument :: rest) m = (do
      let shorter ← shorterOffers function argument rest m
      let m ← classify function argument info.type m
      let longer ← offersFrom function rest m
      return shorter ++ longer) := by
  rw [offersFrom, hinfo]
  exact if_neg hself

theorem offersFrom_untyped {argument : Argument} {rest : List Argument}
    (hinfo : argument.info = none) :
    offersFrom function (argument :: rest) m = offersFrom function rest m := by
  rw [offersFrom, hinfo]

theorem offersFrom_self {argument : Argument} {rest : List Argument} {info : TypeInfo}
    (hinfo : argument.info = some info) (hself : argument.name = "self") :
    offersFrom function (argument :: rest) m =
      offersFrom function rest { m with native := m.native ++ ["NativePtr"] } := by
  rw [offersFrom, hinfo]
  exact if_pos hself

/-- The full wrapper is always offered. -/
theorem offersFrom_ne_nil {arguments : List Argument} {offered : List Marshaling}
    (hrun : (offersFrom function arguments m).runOn s = (.ok offered, s')) : offered ≠ [] := by
  induction arguments generalizing m s offered with
  | nil =>
    obtain ⟨rfl, -⟩ := ok_pure.mp hrun
    simp
  | cons argument rest ih =>
    cases hinfo : argument.info with
    | none =>
      rw [offersFrom_untyped hinfo] at hrun
      exact ih hrun
    | some info =>
      by_cases hself : argument.name = "self"
      · rw [offersFrom_self hinfo hself] at hrun
        exact ih hrun
      · rw [offersFrom_given hinfo hself] at hrun
        obtain ⟨shorter, first, -, hrun⟩ := ok_bind.mp hrun
        obtain ⟨given, second, -, hrun⟩ := ok_bind.mp hrun
        obtain ⟨longer, third, hlonger, hrun⟩ := ok_bind.mp hrun
        obtain ⟨rfl, rfl⟩ := ok_pure.mp hrun
        have hrest : longer ≠ [] := ih hlonger
        simp [hrest]

theorem Offered.ne_nil {offered : List Marshaling} (h : Offered s s' function offered) :
    offered ≠ [] := by
  obtain ⟨before, after, -, hrun, -⟩ := h
  obtain ⟨result, middle, -, hrun⟩ := ok_bind.mp hrun
  exact offersFrom_ne_nil hrun

/-! ### Taking offers -/

/-- A wrapper is made exactly if its signature is free. -/
theorem made_iff_free_addWrapper (hlater : st'.symbols.Grows s)
    (hrun : (addWrapper target plan m).runOn st = (.ok made, st')) :
    st'.symbols = st.symbols ∧
      (made ≠ [] ↔ Free s st.scope.signatures plan.name m.managed) := by
  obtain ⟨state, middle, hget, hrun⟩ := ok_bind.mp hrun
  obtain ⟨rfl, rfl⟩ := ok_get.mp hget
  obtain ⟨types, middle, hspelled, hrun⟩ := ok_bind.mp hrun
  obtain ⟨htypes, rfl⟩ := ok_ofExcept.mp hspelled
  have hfree : ∀ signatures : List String, st.symbols.Grows s →
      (Free s signatures plan.name m.managed ↔
        plan.name ++ "(" ++ String.intercalate ", " types ++ ")" ∉ signatures) := by
    intro signatures hgrows
    have htext : signatureText s plan.name m.managed =
        .ok (plan.name ++ "(" ++ String.intercalate ", " types ++ ")") :=
      except_bind_ok.mpr ⟨types, managedTypes_grows hgrows htypes, rfl⟩
    unfold Free
    rw [htext]
    constructor
    · intro h hmem
      exact h _ hmem rfl
    · intro h signature hmem heq
      obtain rfl := Except.ok.inj heq
      exact h hmem
  dsimp only at hrun
  split at hrun
  · next htaken =>
    obtain ⟨rfl, rfl⟩ := ok_pure.mp hrun
    refine ⟨rfl, ?_⟩
    rw [hfree _ hlater]
    simpa using htaken
  · next hnew =>
    obtain ⟨_, after, hmodify, hrun⟩ := ok_bind.mp hrun
    obtain ⟨rfl, rfl⟩ := ok_pure.mp hrun
    obtain rfl := (Prod.mk.inj hmodify).2
    refine ⟨rfl, ?_⟩
    rw [hfree _ hlater]
    simpa using hnew

/-- The class has taken all offers exactly if no wrapper is made. -/
def MakesIfFree (s : Symbols) (signatures : List String) (name : String) (offered : List Marshaling)
    (made : List Wrapper) : Prop :=
  made ≠ [] ↔ ∃ m ∈ offered, Free s signatures name m.managed

/-- What is made of further offers matters only if nothing is made of the first ones. -/
theorem MakesIfFree.append {name : String} {offered offered' : List Marshaling}
    {made' : List Wrapper} (hsigns : Signs s st middle made)
    (h : MakesIfFree s st.scope.signatures name offered made)
    (h' : MakesIfFree s middle.scope.signatures name offered' made') :
    MakesIfFree s st.scope.signatures name (offered ++ offered') (made ++ made') := by
  unfold MakesIfFree at h h' ⊢
  by_cases hmade : made = []
  · have hsame : middle.scope.signatures = st.scope.signatures := by
      obtain ⟨added, hsignatures, hadded, -⟩ := hsigns
      rw [hmade] at hadded
      obtain rfl := List.forall₂_nil_left_iff.mp hadded
      rw [hsignatures, List.append_nil]
    rw [hsame] at h'
    rw [hmade, List.nil_append, h']
    have hnone : ¬ ∃ m ∈ offered, Free s st.scope.signatures name m.managed := by
      rw [← h, hmade]
      simp
    constructor
    · rintro ⟨m, hm, hfree⟩
      exact ⟨m, List.mem_append_right _ hm, hfree⟩
    · rintro ⟨m, hm, hfree⟩
      rcases List.mem_append.mp hm with hm | hm
      · exact absurd ⟨m, hm, hfree⟩ hnone
      · exact ⟨m, hm, hfree⟩
  · obtain ⟨m, hm, hfree⟩ := h.mp hmade
    have hboth : made ++ made' ≠ [] := by simp [hmade]
    exact iff_of_true hboth ⟨m, List.mem_append_left _ hm, hfree⟩

theorem MakesIfFree.nil {name : String} {signatures : List String} :
    MakesIfFree s signatures name [] [] := by
  simp [MakesIfFree]

/-- A shorter wrapper is made exactly if there is one to offer and its signature is free. -/
theorem makesIfFree_shorterWrappers {argument : Argument} {rest : List Argument}
    (hlater : st'.symbols.Grows s)
    (hrun : (shorterWrappers target function plan argument rest m).runOn st = (.ok made, st')) :
    ∃ offered,
      (shorterOffers function argument rest m).runOn st.symbols = (.ok offered, st'.symbols) ∧
      MakesIfFree s st.scope.signatures plan.name offered made := by
  unfold shorterOffers
  unfold shorterWrappers at hrun
  split at hrun
  · next hdefault =>
    obtain ⟨short, middle, hscoped, hadd⟩ := ok_bind.mp hrun
    obtain ⟨symbols, hshort, rfl⟩ := ok_onSymbols.mp hscoped
    obtain ⟨hsame, hmade⟩ := made_iff_free_addWrapper hlater hadd
    refine ⟨[short], ?_, ?_⟩
    · rw [if_pos hdefault, runOn_bind_ok hshort, hsame]
      rfl
    · unfold MakesIfFree
      rw [hmade]
      simp
  · next hdefault =>
    obtain ⟨rfl, rfl⟩ := ok_pure.mp hrun
    refine ⟨[], ?_, .nil⟩
    rw [if_neg hdefault]
    rfl

theorem makesIfFree_wrapArguments {arguments : List Argument} (hlater : st'.symbols.Grows s)
    (hrun : (wrapArguments target function plan arguments m).runOn st = (.ok made, st')) :
    ∃ offered, (offersFrom function arguments m).runOn st.symbols = (.ok offered, st'.symbols) ∧
      MakesIfFree s st.scope.signatures plan.name offered made := by
  induction arguments generalizing m st made with
  | nil =>
    obtain ⟨hsame, hmade⟩ := made_iff_free_addWrapper hlater hrun
    refine ⟨[m], ?_, ?_⟩
    · rw [hsame]
      rfl
    · unfold MakesIfFree
      rw [hmade]
      simp
  | cons argument rest ih =>
    cases hinfo : argument.info with
    | none =>
      rw [wrapArguments_untyped hinfo] at hrun
      rw [offersFrom_untyped hinfo]
      exact ih hrun
    | some info =>
      by_cases hself : argument.name = "self"
      · rw [wrapArguments_self hinfo hself] at hrun
        rw [offersFrom_self hinfo hself]
        exact ih hrun
      · rw [wrapArguments_given hinfo hself] at hrun
        obtain ⟨shorter, before, hshorter, hrun⟩ := ok_bind.mp hrun
        obtain ⟨given, middle, hscoped, hrun⟩ := ok_bind.mp hrun
        obtain ⟨symbols, hclassify, rfl⟩ := ok_onSymbols.mp hscoped
        obtain ⟨longer, after, hrest, hrun⟩ := ok_bind.mp hrun
        obtain ⟨rfl, rfl⟩ := ok_pure.mp hrun
        have hmiddle := ((quiet_classify _ _ _ _).of_ok hclassify).toGrows
        have hafter := ((quiet_wrapArguments _ _ _ _ _).of_ok hrest).toGrows
        have hbefore : before.symbols.Grows s := hmiddle.trans (hafter.trans hlater)
        obtain ⟨offered, hoffered, hmade⟩ := makesIfFree_shorterWrappers hbefore hshorter
        obtain ⟨offered', hoffered', hmade'⟩ := ih hrest
        have hsigns := signs_shorterWrappers hbefore hshorter
        refine ⟨offered ++ offered', ?_, hmade.append hsigns hmade'⟩
        rw [offersFrom_given hinfo hself, runOn_bind_ok hoffered, runOn_bind_ok hclassify,
          runOn_bind_ok hoffered']
        rfl

/-- A function gets a wrapper exactly if the class has not taken all that it offers. -/
theorem makesIfFree_wrappers (hlater : st'.symbols.Grows s)
    (hrun : (wrappers target function).runOn st = (.ok made, st')) :
    ∃ offered, (offers function).runOn st.symbols = (.ok offered, st'.symbols) ∧
      MakesIfFree s st.scope.signatures (wrapperNameOf function) offered made := by
  obtain ⟨⟨name, comments⟩, before, hlift, hrun⟩ := ok_bind.mp hrun
  obtain ⟨⟨type, code⟩, middle, hscoped, hrun⟩ := ok_bind.mp hrun
  obtain ⟨symbols, hresult, rfl⟩ := ok_onSymbols.mp hscoped
  have hnamed := ok_lift.mp hlift
  have hsymbols : before.symbols = st.symbols := by
    rw [← wrapperName_symbols function st, hnamed.2]
  have hsignatures : before.scope.signatures = st.scope.signatures := by
    rw [← wrapperName_signatures function st, hnamed.2]
  have hname : name = wrapperNameOf function := by
    rw [← wrapperName_fst function st, hnamed.1]
  obtain ⟨offered, hoffered, hmade⟩ := makesIfFree_wrapArguments hlater hrun
  rw [hsymbols] at hresult
  refine ⟨offered, (runOn_bind_ok hresult).trans hoffered, ?_⟩
  rw [← hsignatures, ← hname]
  exact hmade

/-! ### Classes -/

/-- The wrapper has the signature that one of the function with the marshaling would have. -/
def Takes (s : Symbols) (function : Function) (m : Marshaling) (wrapper : Wrapper) : Prop :=
  ∃ signature, signatureOf s wrapper = .ok signature ∧
    signatureText s (wrapperNameOf function) m.managed = .ok signature

/--
Some wrapper calls the function exactly if some offer of the function is taken by no wrapper of an
earlier function.
-/
def CalledUnlessTaken (s : Symbols) (earlier : List Function) (function : Function)
    (offered : List Marshaling) (wrappers : List Wrapper) : Prop :=
  (∃ wrapper ∈ wrappers, wrapper.entryPoint = function.name) ↔
    ∃ m ∈ offered, ∀ wrapper ∈ wrappers, wrapper.entryPoint ∈ earlier.map (·.name) →
      ¬ Takes s function m wrapper

/-- A signature is free among those of some wrappers if none of these takes it. -/
theorem free_iff_not_takes {wrappers : List Wrapper} {signatures : List String}
    (h : List.Forall₂ (fun wrapper signature => signatureOf s wrapper = .ok signature) wrappers
      signatures) :
    Free s signatures (wrapperNameOf function) m.managed ↔
      ∀ wrapper ∈ wrappers, ¬ Takes s function m wrapper := by
  constructor
  · rintro hfree wrapper hwrapper ⟨signature, hsignature, htext⟩
    obtain ⟨signature', hmem, hsignature'⟩ := forall₂_mem h hwrapper
    obtain rfl := Except.ok.inj (hsignature.symm.trans hsignature')
    exact hfree signature hmem htext
  · intro hnone signature hsignature htext
    obtain ⟨wrapper, hmem, hwrapper⟩ := forall₂_mem h.flip hsignature
    exact hnone wrapper hmem ⟨signature, hwrapper, htext⟩

/--
The wrappers of a class by the functions that they call: earlier ones, one function, and later ones,
all of distinct names.
-/
structure Parted (earlier : List Function) (function : Function) (later : List Function)
    (first mine rest : List Wrapper) : Prop where
  names : ((earlier ++ function :: later).map (·.name)).Nodup
  first : ∀ wrapper ∈ first, wrapper.entryPoint ∈ earlier.map (·.name)
  mine : ∀ wrapper ∈ mine, wrapper.entryPoint = function.name
  rest : ∀ wrapper ∈ rest, wrapper.entryPoint ∈ later.map (·.name)

namespace Parted

variable {earlier later : List Function} {first mine rest : List Wrapper}

theorem not_mem_earlier (h : Parted earlier function later first mine rest) {name : String}
    (hname : name = function.name ∨ name ∈ later.map (·.name)) : name ∉ earlier.map (·.name) := by
  have hnames := h.names
  rw [List.map_append, List.nodup_append, List.map_cons] at hnames
  exact fun hmem => hnames.2.2 _ hmem _ (List.mem_cons.mpr hname) rfl

theorem not_mem_later (h : Parted earlier function later first mine rest) :
    function.name ∉ later.map (·.name) := by
  have hnames := h.names
  rw [List.map_append, List.nodup_append, List.map_cons, List.nodup_cons] at hnames
  exact hnames.2.1.1

/-- The function is called exactly if it has wrappers of its own. -/
theorem called_iff (h : Parted earlier function later first mine rest) :
    (∃ wrapper ∈ first ++ (mine ++ rest), wrapper.entryPoint = function.name) ↔ mine ≠ [] := by
  constructor
  · rintro ⟨wrapper, hwrapper, hname⟩ rfl
    rw [List.nil_append] at hwrapper
    rcases List.mem_append.mp hwrapper with hmem | hmem
    · exact h.not_mem_earlier (.inl hname) (h.first wrapper hmem)
    · exact h.not_mem_later (hname ▸ h.rest wrapper hmem)
  · intro hsome
    obtain ⟨wrapper, hwrapper⟩ := List.exists_mem_of_ne_nil mine hsome
    exact ⟨wrapper, by simp [hwrapper], h.mine wrapper hwrapper⟩

/-- The first wrappers are those that call an earlier function. -/
theorem mem_first_iff (h : Parted earlier function later first mine rest) {wrapper : Wrapper} :
    wrapper ∈ first ↔
      wrapper ∈ first ++ (mine ++ rest) ∧ wrapper.entryPoint ∈ earlier.map (·.name) := by
  constructor
  · exact fun hmem => ⟨List.mem_append_left _ hmem, h.first wrapper hmem⟩
  · rintro ⟨hmem, hname⟩
    refine (List.mem_append.mp hmem).resolve_right fun hothers => ?_
    rcases List.mem_append.mp hothers with hmine | hrest
    · exact h.not_mem_earlier (.inl (h.mine wrapper hmine)) hname
    · exact h.not_mem_earlier (.inr (h.rest wrapper hrest)) hname

end Parted

theorem calledUnlessTaken_classWrappers {selects : Symbols → Function → Bool}
    {earlier later : List Function} (hsteady : Steady selects) (hempty : st.scope.signatures = [])
    (hlater : st'.symbols.Grows s) (hselects : selects st.symbols function = true)
    (hnames : ((earlier ++ function :: later).map (·.name)).Nodup)
    (hrun : (classWrappers selects target (earlier ++ function :: later)).runOn st =
      (.ok made, st')) :
    ∃ offered, Offered st.symbols s function offered ∧
      CalledUnlessTaken s earlier function offered made := by
  obtain ⟨first, before, mine, middle, rest, hfirst, hmine, hrest, rfl⟩ :=
    classWrappers_around hsteady hselects hrun
  have hbefore := ((quiet_classWrappers _ _ _).of_ok hfirst).toGrows
  have hown := ((quiet_wrappers _ _).of_ok hmine).toGrows
  have hafter := ((quiet_classWrappers _ _ _).of_ok hrest).toGrows.trans hlater
  obtain ⟨offered, hoffered, hmade⟩ := makesIfFree_wrappers hafter hmine
  obtain ⟨added, hsignatures, hadded, -⟩ := signs_classWrappers (hown.trans hafter) hfirst
  rw [hempty, List.nil_append] at hsignatures
  rw [hsignatures] at hmade
  have hparted : Parted earlier function later first mine rest :=
    { names := hnames
      first := entryPoint_classWrappers hsteady hfirst
      mine := fun wrapper hwrapper =>
        (wrappersOf (.refl _) (.refl _) hmine wrapper hwrapper).entryPoint
      rest := entryPoint_classWrappers hsteady hrest }
  refine ⟨offered, ⟨before.symbols, middle.symbols, hbefore, hoffered, hafter⟩, ?_⟩
  refine hparted.called_iff.trans (hmade.trans (exists_congr fun m => and_congr_right fun _ => ?_))
  rw [free_iff_not_takes hadded]
  simp only [hparted.mem_first_iff, and_imp]

/-! ### All functions -/

variable {nativeClass : String} {metadata : Metadata} {b : Bindings}

/-- The function offers wrappers to a class, and is called there unless all of them are taken. -/
def CalledIn (lo built : Symbols) (earlier : List Function) (function : Function)
    (wrappers : List Wrapper) : Prop :=
  ∃ offered, offered ≠ [] ∧ Offered lo built function offered ∧
    CalledUnlessTaken built earlier function offered wrappers

theorem calledIn_classWrappers {selects : Symbols → Function → Bool} {earlier later : List Function}
    (hsteady : Steady selects)
    (hempty : st.scope.signatures = []) (hlo : lo.Grows st.symbols)
    (hlater : st'.symbols.Grows built) (hselects : selects lo function = true)
    (hnames : ((earlier ++ function :: later).map (·.name)).Nodup)
    (hrun : (classWrappers selects target (earlier ++ function :: later)).runOn st =
      (.ok made, st')) : CalledIn lo built earlier function made := by
  obtain ⟨offered, hoffered, hcalled⟩ := calledUnlessTaken_classWrappers hsteady hempty hlater
    ((hsteady _ _ hlo function).trans hselects) hnames hrun
  exact ⟨offered, hoffered.ne_nil, hoffered.widen hlo (.refl _), hcalled⟩

/--
If the functions of a document have distinct names, a function of the main class is called by one of
its wrappers exactly if it offers one whose signature no wrapper of an earlier function has there.
The same holds of the methods of a struct that is kept and the wrappers of its view. Every function
offers a wrapper, and signatures are compared as the types are spelled when all is built.
-/
theorem called_unless_taken {settings : Settings} (hs : Reached settings s)
    (hnames : (metadata.functions.map (·.name)).Nodup)
    (hrun : (bindings nativeClass metadata).runOn s.beginConfiguration = (.ok b, s')) :
    ∃ all built, (declared nativeClass metadata).runOn s.beginConfiguration = (.ok all, built) ∧
      (settle all).runOn built = (.ok b, s') ∧
      ∀ earlier function later, metadata.functions = earlier ++ function :: later →
        (isMain (opened metadata s.beginConfiguration) function = true →
          CalledIn (opened metadata s.beginConfiguration) built earlier function b.mainWrappers) ∧
        (skipReason? (opened metadata s.beginConfiguration) function = none →
          ∀ pair ∈ b.structs, Identifier.pairsWith function.name pair.1.head.name = true →
            CalledIn (opened metadata s.beginConfiguration) built earlier function
              pair.2.wrappers) := by
  obtain ⟨all, built, erased, hbuilt⟩ := hs.built hrun
  have hsettle := hbuilt.settle hrun
  obtain ⟨typed, paired, imports, wrapped, hstages, rfl⟩ := stages_of_declared hbuilt.declared
  have htyped := ((registers_declared_typedefs metadata).of_ok hstages.typedefs).1
  have hpaired : Registers (CallbackOf metadata) typed paired.symbols :=
    (registers_declared_structs _ fun _ hitem => hitem).of_ok hstages.structs
  have himports := ((registers_declared_externs metadata).of_ok hstages.externs).1
  have hwrapped : imports.Grows wrapped.symbols :=
    ((quiet_mainWrappers _ _).of_ok hstages.mainWrappers).toGrows
  refine ⟨all, _, hbuilt.declared, hsettle, ?_⟩
  intro earlier function later hfunctions
  rw [hfunctions] at hnames
  have hmainRun := hstages.mainWrappers
  rw [mainWrappers_eq, hfunctions] at hmainRun
  refine ⟨fun hmain => ?_, fun hkept pair hpair hpairs => ?_⟩
  · rw [hbuilt.kept]
    have hlo := htyped.trans (hpaired.1.trans himports)
    exact calledIn_classWrappers steady_isMain rfl hlo (.refl _) hmain hnames
      hmainRun
  · rw [hbuilt.kept] at hpair
    obtain ⟨hall, -⟩ := List.mem_filter.mp hpair
    obtain ⟨first, last, hempty, hfirst, hmethods, hlast⟩ :=
      methods_structs hstages.structs pair hall
    have hselects : isMethod pair.1.head.name (opened metadata s.beginConfiguration) function =
        true := isMethod_iff.mpr ⟨hpairs, hkept⟩
    rw [methodWrappers_eq, hfunctions] at hmethods
    exact calledIn_classWrappers (steady_isMethod _) hempty (htyped.trans hfirst)
      (hlast.trans (himports.trans hwrapped)) hselects hnames hmethods

/-- A function without arguments and its longer form. -/
def shownTwice : Metadata where
  functions :=
    [{ name := "ImGui_Show", result := { type := { kind := .builtin, builtin := some "void" } }
       arguments := [] },
     { name := "ImGui_ShowEx", result := { type := { kind := .builtin, builtin := some "void" } }
       arguments := [] }]

theorem called_unless_taken_shownTwice :
    ∃ b s' all built, (bindings "Native" shownTwice).runOn (ofSettings {}).beginConfiguration =
        (.ok b, s') ∧
      (declared "Native" shownTwice).runOn (ofSettings {}).beginConfiguration = (.ok all, built) ∧
      b.mainWrappers.map (·.entryPoint) = ["ImGui_Show"] ∧
      ∀ earlier function later, shownTwice.functions = earlier ++ function :: later →
        isMain (opened shownTwice (ofSettings {}).beginConfiguration) function = true →
        CalledIn (opened shownTwice (ofSettings {}).beginConfiguration) built earlier function
          b.mainWrappers := by
  obtain ⟨b, s', hrun, hpoints⟩ := exists_ok (bindings "Native" shownTwice)
    (ofSettings {}).beginConfiguration (fun b _ => b.mainWrappers.map (·.entryPoint))
    (b := ["ImGui_Show"]) (by decide +kernel)
  obtain ⟨all, built, hdeclared, -, hcalled⟩ := called_unless_taken .start (by decide) hrun
  exact ⟨b, s', all, built, hrun, hdeclared, hpoints, fun earlier function later hfunctions =>
    (hcalled earlier function later hfunctions).1⟩

/-- The longer form of a function without arguments is called by no wrapper. -/
theorem longer_form_not_called :
    ∃ b s' function, (bindings "Native" shownTwice).runOn (ofSettings {}).beginConfiguration =
        (.ok b, s') ∧
      (shownTwice.functions.map (·.name)).Nodup ∧ function ∈ shownTwice.functions ∧
      isMain (opened shownTwice (ofSettings {}).beginConfiguration) function = true ∧
      ∀ wrapper ∈ b.mainWrappers, wrapper.entryPoint ≠ function.name := by
  obtain ⟨b, s', hrun, hpoints⟩ := exists_ok (bindings "Native" shownTwice)
    (ofSettings {}).beginConfiguration (fun b _ => b.mainWrappers.map (·.entryPoint))
    (b := ["ImGui_Show"]) (by decide +kernel)
  have hlast : ∃ function ∈ shownTwice.functions, function.name = "ImGui_ShowEx" ∧
      isMain (opened shownTwice (ofSettings {}).beginConfiguration) function = true :=
    ⟨_, List.mem_cons_of_mem _ List.mem_cons_self, rfl, by decide +kernel⟩
  obtain ⟨function, hfunction, hname, hmain⟩ := hlast
  refine ⟨b, s', function, hrun, by decide, hfunction, hmain, fun wrapper hwrapper => ?_⟩
  have hpoint := List.mem_map_of_mem (f := (·.entryPoint)) hwrapper
  rw [hpoints, List.mem_singleton] at hpoint
  rw [hpoint, hname]
  decide

end InteropGen.Generate

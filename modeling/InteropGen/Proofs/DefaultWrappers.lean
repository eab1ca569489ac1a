import InteropGen.Proofs.Causes
import InteropGen.Proofs.EntryPoints
import InteropGen.Proofs.Marshaling

/-!
# Wrappers for defaults

A function offers one wrapper before each argument with a default and one for all arguments. The offers have
more and more parameters, and signatures of different numbers of parameters differ as long as no type text is
empty or has a comma in it, so a class that is new takes all of them (`made_wrapArguments`). The wrapper before
an argument passes the arguments in front of it as the full one does and the defaults of the others
(`stops_offersFrom`). `complete_wrappers` puts the two together.
-/

namespace InteropGen.Generate

open Metadata Decl Build Symbols

variable {s s₀ lo s' : Symbols} {st st' : Scoped} {made : List Wrapper} {target : WrapperClass}
  {plan : WrapperPlan} {function : Function} {m m' : Marshaling} {R : Origin → TypeId → Prop}
  {offered : List Marshaling} {arguments : List Argument}

/-! ### Texts with commas between them -/

/-- The text can be told from others in a list with commas. -/
def IsItem (text : String) : Prop := text ≠ "" ∧ ',' ∉ text.toList

theorem count_intercalate {texts : List String} (h : ∀ text ∈ texts, IsItem text) :
    (String.intercalate ", " texts).toList.count ',' = texts.length - 1 := by
  induction texts with
  | nil => rfl
  | cons first rest ih =>
    obtain ⟨hfirst, hrest⟩ := List.forall_mem_cons.mp h
    have hnone : first.toList.count ',' = 0 := List.count_eq_zero.mpr hfirst.2
    cases rest with
    | nil => rw [String.intercalate_singleton, hnone, List.length_singleton]
    | cons second rest =>
      have hcomma : (", " : String).toList.count ',' = 1 := rfl
      rw [String.intercalate_cons_cons, String.toList_append, String.toList_append, List.count_append,
        List.count_append, hnone, hcomma, ih hrest]
      simp only [List.length_cons]
      omega

/-- The number of texts can be read off the list. -/
theorem length_eq_of_intercalate {texts texts' : List String} (h : ∀ text ∈ texts, IsItem text)
    (h' : ∀ text ∈ texts', IsItem text)
    (heq : String.intercalate ", " texts = String.intercalate ", " texts') :
    texts.length = texts'.length := by
  have hnil : ∀ {texts : List String}, (∀ text ∈ texts, IsItem text) →
      String.intercalate ", " texts = "" → texts = [] := by
    intro texts hitems hempty
    cases texts with
    | nil => rfl
    | cons first rest =>
      have hfirst := (hitems first List.mem_cons_self).1
      cases rest with
      | nil => exact absurd (by simpa using hempty) hfirst
      | cons second rest =>
        rw [String.intercalate_cons_cons] at hempty
        simp at hempty
  have hcount := count_intercalate h
  rw [heq, count_intercalate h'] at hcount
  cases texts with
  | nil => rw [hnil h' (heq.symm.trans (by simp))]
  | cons first rest =>
    cases texts' with
    | nil => rw [hnil h (heq.trans (by simp))]
    | cons first' rest' =>
      simp only [List.length_cons] at hcount ⊢
      omega

/-! ### Where wrappers stop -/

/-- Does an argument have a parameter of its own? -/
def hasParameter (argument : Argument × NativeType) : Bool := argument.1.name ≠ "self"

/-- Does a shorter wrapper stop before the argument? -/
def stopsAt (argument : Argument × NativeType) : Bool :=
  hasParameter argument && argument.1.default.isSome

/-- The ways to part arguments before one at which a wrapper stops, from the shortest front on. -/
def stops : List (Argument × NativeType) →
    List (List (Argument × NativeType) × List (Argument × NativeType))
  | [] => []
  | first :: rest =>
    let later := (stops rest).map fun stop => (first :: stop.1, stop.2)
    if stopsAt first then ([], first :: rest) :: later else later

theorem stops_cons_of_stopsAt {first : Argument × NativeType} {rest : List (Argument × NativeType)}
    (h : stopsAt first = true) :
    stops (first :: rest) =
      ([], first :: rest) :: (stops rest).map fun stop => (first :: stop.1, stop.2) :=
  if_pos h

theorem stops_cons_of_not {first : Argument × NativeType} {rest : List (Argument × NativeType)}
    (h : stopsAt first = false) :
    stops (first :: rest) = (stops rest).map fun stop => (first :: stop.1, stop.2) :=
  if_neg (by simp [h])

theorem length_stops (arguments : List (Argument × NativeType)) :
    (stops arguments).length = arguments.countP stopsAt := by
  induction arguments with
  | nil => rfl
  | cons first rest ih =>
    cases h : stopsAt first with
    | true =>
      rw [stops_cons_of_stopsAt h, List.countP_cons_of_pos h, List.length_cons, List.length_map, ih]
    | false =>
      rw [stops_cons_of_not h, List.countP_cons_of_neg (by simp [h]), List.length_map, ih]

/-- Fewer parameters stand before a stop than there are in all. -/
theorem countP_lt_of_mem_stops {arguments : List (Argument × NativeType)}
    {stop : List (Argument × NativeType) × List (Argument × NativeType)} (h : stop ∈ stops arguments) :
    stop.1.countP hasParameter < arguments.countP hasParameter := by
  induction arguments generalizing stop with
  | nil => cases h
  | cons first rest ih =>
    have hlater : ∀ stop ∈ stops rest,
        (first :: stop.1).countP hasParameter < (first :: rest).countP hasParameter := by
      intro stop hstop
      rw [List.countP_cons, List.countP_cons]
      exact Nat.add_lt_add_right (ih hstop) _
    cases hfirst : stopsAt first with
    | true =>
      rw [stops_cons_of_stopsAt hfirst] at h
      rcases List.mem_cons.mp h with rfl | h
      · have hparameter := ((Bool.and_eq_true _ _).mp hfirst).1
        rw [List.countP_cons_of_pos hparameter]
        exact Nat.succ_pos _
      · obtain ⟨stop, hstop, rfl⟩ := List.mem_map.mp h
        exact hlater stop hstop
    | false =>
      rw [stops_cons_of_not hfirst] at h
      obtain ⟨stop, hstop, rfl⟩ := List.mem_map.mp h
      exact hlater stop hstop

/-- From stop to stop there are more parameters in front. -/
theorem pairwise_stops (arguments : List (Argument × NativeType)) :
    (stops arguments).Pairwise fun stop stop' =>
      stop.1.countP hasParameter < stop'.1.countP hasParameter := by
  induction arguments with
  | nil => exact .nil
  | cons first rest ih =>
    have hlater : ((stops rest).map fun stop => (first :: stop.1, stop.2)).Pairwise fun stop stop' =>
        stop.1.countP hasParameter < stop'.1.countP hasParameter := by
      refine List.pairwise_map.mpr (ih.imp fun hlt => ?_)
      rw [List.countP_cons, List.countP_cons]
      exact Nat.add_lt_add_right hlt _
    cases hfirst : stopsAt first with
    | true =>
      rw [stops_cons_of_stopsAt hfirst]
      refine List.pairwise_cons.mpr ⟨fun stop hstop => ?_, hlater⟩
      obtain ⟨stop, -, rfl⟩ := List.mem_map.mp hstop
      have hparameter := ((Bool.and_eq_true _ _).mp hfirst).1
      rw [List.countP_cons_of_pos hparameter]
      exact Nat.succ_pos _
    | false =>
      rw [stops_cons_of_not hfirst]
      exact hlater

/-! ### What is offered -/

/-- The ways in which the full wrapper passes an argument. -/
inductive InFull (R : Origin → TypeId → Prop) (s : Symbols) (function : Function) (argument : Argument)
    (t : NativeType) : Passing → Prop
  | self (h : argument.name = "self") : InFull R s function argument t .self
  | given {passing} (h : argument.name ≠ "self") (given : Given R s function argument t passing) :
      InFull R s function argument t passing

theorem InFull.mono {R' : Origin → TypeId → Prop} {argument : Argument} {t : NativeType}
    {passing : Passing} (hR : ∀ origin id, R origin id → R' origin id)
    (h : InFull R s function argument t passing) : InFull R' s function argument t passing := by
  cases h with
  | self h => exact .self h
  | given h given => exact .given h (given.mono hR)

/-- All arguments are passed as the full wrapper passes them. -/
abbrev AllInFull (R : Origin → TypeId → Prop) (s : Symbols) (function : Function) :
    List (Argument × NativeType) → List Passing → Prop :=
  List.Forall₂ fun argument => InFull R s function argument.1 argument.2

theorem length_managed_marshal {arguments : List (Argument × NativeType)} {passings : List Passing}
    (h : AllInFull R s function arguments passings) :
    (marshal arguments passings).managed.length = arguments.countP hasParameter := by
  induction h with
  | nil => rfl
  | @cons first passing arguments passings hfirst _ ih =>
    have hone : (passing.part (Identifier.escape first.1.name)).managed.length =
        if hasParameter first then 1 else 0 := by
      cases hfirst with
      | self h => simp [hasParameter, h, Passing.part]
      | given h given => simp [hasParameter, h, given.managed_length]
    rw [List.countP_cons, ← ih, Nat.add_comm, ← hone, ← List.length_append]
    rfl

/-- After a marshaling, the arguments in front of a stop are passed as in full and the others by default. -/
def StopsBefore (R : Origin → TypeId → Prop) (s : Symbols) (function : Function) (m : Marshaling)
    (passings : List Passing) (stop : List (Argument × NativeType) × List (Argument × NativeType))
    (short : Marshaling) : Prop :=
  ∃ defaults, AllInFull R s function stop.1 (passings.take stop.1.length) ∧
    Defaults R s stop.2 defaults ∧
    short = join m (join (marshal stop.1 (passings.take stop.1.length)) defaults)

/-- What is offered after a marshaling: a shorter one for each stop, and the full one. -/
def OffersStops (R : Origin → TypeId → Prop) (s : Symbols) (function : Function) (m : Marshaling)
    (arguments : List (Argument × NativeType)) (offered : List Marshaling) : Prop :=
  ∃ passings shorter, AllInFull R s function arguments passings ∧
    offered = shorter ++ [join m (marshal arguments passings)] ∧
    List.Forall₂ (StopsBefore R s function m passings) (stops arguments) shorter

theorem OffersStops.nil (m : Marshaling) : OffersStops R s function m [] [m] :=
  ⟨[], [], .nil, by rw [marshal_nil, join_empty]; rfl, .nil⟩

/-- What is offered from one argument on, by what is offered before it and from the next one on. -/
theorem OffersStops.cons {argument : Argument} {t : NativeType} {rest : List (Argument × NativeType)}
    {passing : Passing} {shorter : List Marshaling} (hpassing : InFull R s function argument t passing)
    (hlater : OffersStops R s function (join m (passing.part (Identifier.escape argument.name))) rest
      offered)
    (hstops : stopsAt (argument, t) = true → ∃ defaults,
      Defaults R s ((argument, t) :: rest) defaults ∧ shorter = [join m defaults])
    (hnone : stopsAt (argument, t) = false → shorter = []) :
    OffersStops R s function m ((argument, t) :: rest) (shorter ++ offered) := by
  obtain ⟨passings, others, hpassings, rfl, hothers⟩ := hlater
  have hlater : List.Forall₂ (StopsBefore R s function m (passing :: passings))
      ((stops rest).map fun stop => ((argument, t) :: stop.1, stop.2)) others := by
    rw [List.forall₂_map_left_iff]
    refine hothers.imp fun stop short hshort => ?_
    obtain ⟨defaults, hfront, hdefaults, rfl⟩ := hshort
    refine ⟨defaults, .cons hpassing hfront, hdefaults, ?_⟩
    rw [List.length_cons, List.take_succ_cons, marshal_cons, join_assoc, join_assoc]
  refine ⟨passing :: passings, shorter ++ others, .cons hpassing hpassings, ?_, ?_⟩
  · rw [marshal_cons, join_assoc, List.append_assoc]
  · cases h : stopsAt (argument, t) with
    | true =>
      obtain ⟨defaults, hdefaults, rfl⟩ := hstops h
      rw [stops_cons_of_stopsAt h]
      refine .cons ⟨defaults, .nil, hdefaults, ?_⟩ hlater
      rw [marshal_nil, empty_join]
    | false =>
      obtain rfl := hnone h
      rw [stops_cons_of_not h]
      exact hlater

theorem stopsAt_eq {argument : Argument} (hself : argument.name ≠ "self") (t : NativeType) :
    stopsAt (argument, t) = argument.default.isSome := by
  simp [stopsAt, hasParameter, hself]

theorem quiet_shorterOffers (function : Function) (argument : Argument) (rest : List Argument)
    (m : Marshaling) : Preserves Quiet (shorterOffers function argument rest m) := by
  unfold shorterOffers
  split
  · exact .bind (quiet_withDefaults _ _ _) fun _ => .pure _
  · exact .pure _

theorem quiet_offersFrom (function : Function) (arguments : List Argument) (m : Marshaling) :
    Preserves Quiet (offersFrom function arguments m) := by
  induction arguments generalizing m with
  | nil => exact .pure _
  | cons argument rest ih =>
    cases hinfo : argument.info with
    | none =>
      rw [offersFrom_untyped hinfo]
      exact ih m
    | some info =>
      by_cases hself : argument.name = "self"
      · rw [offersFrom_self hinfo hself]
        exact ih _
      · rw [offersFrom_given hinfo hself]
        exact .bind (quiet_shorterOffers _ _ _ _) fun _ => .bind (quiet_classify _ _ _ _) fun m =>
          .bind (ih m) fun _ => .pure _

/-- A function offers what its stops ask for, and the full marshaling last. -/
theorem stops_offersFrom (h₀ : s₀.Grows s) (hlo : lo.Grows s)
    (hrun : (offersFrom function arguments m).runOn s = (.ok offered, s')) :
    OffersStops (MadeFor lo s') s₀ function m (typedArguments arguments) offered := by
  induction arguments generalizing m s offered with
  | nil =>
    obtain ⟨rfl, rfl⟩ := ok_pure.mp hrun
    exact .nil m
  | cons argument rest ih =>
    cases hinfo : argument.info with
    | none =>
      rw [offersFrom_untyped hinfo] at hrun
      rw [typedArguments_untyped hinfo]
      exact ih h₀ hlo hrun
    | some info =>
      rw [typedArguments_typed hinfo]
      by_cases hself : argument.name = "self"
      · rw [offersFrom_self hinfo hself] at hrun
        have hpart : { m with native := m.native ++ ["NativePtr"] } =
            join m (Passing.self.part (Identifier.escape argument.name)) := by
          simp [join, Passing.part]
        rw [hpart] at hrun
        have hno : stopsAt (argument, info.type) = false := by simp [stopsAt, hasParameter, hself]
        have hoffers : OffersStops (MadeFor lo s') s₀ function m
            ((argument, info.type) :: typedArguments rest) ([] ++ offered) :=
          .cons (.self hself) (ih h₀ hlo hrun) (fun hstop => by simp [hno] at hstop) fun _ => rfl
        exact hoffers
      · rw [offersFrom_given hinfo hself] at hrun
        obtain ⟨shorter, first, hshorter, hrun⟩ := ok_bind.mp hrun
        obtain ⟨given, second, hclassify, hrun⟩ := ok_bind.mp hrun
        obtain ⟨longer, third, hlonger, hrun⟩ := ok_bind.mp hrun
        obtain ⟨rfl, rfl⟩ := ok_pure.mp hrun
        have hsecond := ((quiet_classify _ _ _ _).of_ok hclassify).toGrows
        have hthird := ((quiet_offersFrom _ _ _).of_ok hlonger).toGrows
        have hfirst := ((quiet_shorterOffers _ _ _ _).of_ok hshorter).toGrows
        obtain ⟨passing, hgiven, rfl⟩ :=
          given_classify (h₀.trans hfirst) (hlo.trans hfirst) hclassify
        have hlater := ih ((h₀.trans hfirst).trans hsecond) ((hlo.trans hfirst).trans hsecond) hlonger
        refine .cons (.given hself (hgiven.mono fun _ _ => MadeFor.widen (.refl _) hthird)) hlater
          (fun hstop => ?_) fun hstop => ?_
        · rw [stopsAt_eq hself] at hstop
          unfold shorterOffers at hshorter
          rw [if_pos hstop] at hshorter
          obtain ⟨short, middle, hshort, hpure⟩ := ok_bind.mp hshorter
          obtain ⟨rfl, rfl⟩ := ok_pure.mp hpure
          obtain ⟨passings, homitted, rfl⟩ := omitted_withDefaults h₀ hlo hshort
          rw [typedArguments_typed hinfo] at homitted ⊢
          refine ⟨_, defaults_marshal (homitted.imp fun _ _ ho => ?_), rfl⟩
          exact ho.mono fun _ _ => MadeFor.widen (.refl _) (hsecond.trans hthird)
        · rw [stopsAt_eq hself] at hstop
          unfold shorterOffers at hshorter
          rw [if_neg (by simp [hstop])] at hshorter
          exact (ok_pure.mp hshorter).1.symm

/-! ### What is made -/

/-- The type texts of the parameters can be told from others in a list with commas. -/
def ItemTexts (s : Symbols) (m : Marshaling) : Prop :=
  ∀ parameter ∈ m.managed, ∀ text, parameterText s parameter = .ok text → IsItem text

/-- All signatures are of fewer parameters than the number. -/
def FewerSigned (signatures : List String) (name : String) (count : Nat) : Prop :=
  ∀ signature ∈ signatures, ∃ texts : List String,
    signature = name ++ "(" ++ String.intercalate ", " texts ++ ")" ∧
      (∀ text ∈ texts, IsItem text) ∧ texts.length < count

theorem FewerSigned.mono {signatures : List String} {name : String} {count count' : Nat}
    (h : FewerSigned signatures name count) (hle : count ≤ count') :
    FewerSigned signatures name count' := by
  intro signature hsignature
  obtain ⟨texts, htext, hitems, hlt⟩ := h signature hsignature
  exact ⟨texts, htext, hitems, Nat.lt_of_lt_of_le hlt hle⟩

/-- A marshaling of more parameters than were signed before is taken. -/
theorem made_addWrapper (hlater : st'.symbols.Grows s) (hitems : ItemTexts s m)
    (hfewer : FewerSigned st.scope.signatures plan.name m.managed.length)
    (hrun : (addWrapper target plan m).runOn st = (.ok made, st')) :
    made = [plan.wrapper target m] ∧
      FewerSigned st'.scope.signatures plan.name (m.managed.length + 1) := by
  obtain ⟨state, middle, hget, hrun⟩ := ok_bind.mp hrun
  obtain ⟨rfl, rfl⟩ := ok_get.mp hget
  obtain ⟨types, middle, hspelled, hrun⟩ := ok_bind.mp hrun
  obtain ⟨htypes, rfl⟩ := ok_ofExcept.mp hspelled
  have hmatch := managedTypes_ok_iff.mp htypes
  have hlength : types.length = m.managed.length := hmatch.length_eq.symm
  have htexts : st.symbols.Grows s → ∀ text ∈ types, IsItem text := by
    intro hgrows text htext
    obtain ⟨parameter, hmem, hparameter⟩ := forall₂_mem hmatch.flip htext
    exact hitems parameter hmem text (parameterText_congr hparameter fun _ => hgrows.spell)
  dsimp only at hrun
  split at hrun
  · next htaken =>
    obtain ⟨rfl, rfl⟩ := ok_pure.mp hrun
    obtain ⟨texts, htext, htextItems, hlt⟩ := hfewer _ (by simpa using htaken)
    have hsame : String.intercalate ", " types = String.intercalate ", " texts := by
      have hchars := congrArg String.toList htext
      simp only [String.toList_append] at hchars
      exact String.toList_injective (List.append_cancel_left (List.append_cancel_right hchars))
    have := length_eq_of_intercalate (htexts hlater) htextItems hsame
    omega
  · obtain ⟨_, after, hmodify, hrun⟩ := ok_bind.mp hrun
    obtain ⟨rfl, rfl⟩ := ok_pure.mp hrun
    obtain rfl := (Prod.mk.inj hmodify).2
    refine ⟨rfl, fun signature hsignature => ?_⟩
    rcases List.mem_append.mp hsignature with hold | hnew
    · obtain ⟨texts, htext, htextItems, hlt⟩ := hfewer signature hold
      exact ⟨texts, htext, htextItems, Nat.lt_succ_of_lt hlt⟩
    · obtain rfl := List.mem_singleton.mp hnew
      exact ⟨types, rfl, htexts hlater, by omega⟩

theorem made_shorterWrappers {argument : Argument} {rest : List Argument}
    (hlater : st'.symbols.Grows s)
    (hrun : (shorterWrappers target function plan argument rest m).runOn st = (.ok made, st')) :
    ∃ offered,
      (shorterOffers function argument rest m).runOn st.symbols = (.ok offered, st'.symbols) ∧
      ((∀ short ∈ offered, ItemTexts s short) →
        FewerSigned st.scope.signatures plan.name m.managed.length →
        made = offered.map (plan.wrapper target) ∧
          FewerSigned st'.scope.signatures plan.name (m.managed.length + 1)) := by
  unfold shorterOffers
  unfold shorterWrappers at hrun
  split at hrun
  · next hdefault =>
    obtain ⟨short, middle, hscoped, hadd⟩ := ok_bind.mp hrun
    obtain ⟨symbols, hshort, rfl⟩ := ok_onSymbols.mp hscoped
    have hsame := (made_iff_free_addWrapper hlater hadd).1
    have hmanaged : short.managed = m.managed := by
      obtain ⟨passings, homitted, rfl⟩ := omitted_withDefaults (.refl _) (.refl _) hshort
      show m.managed ++ _ = _
      rw [(defaults_marshal homitted).managed, List.append_nil]
    refine ⟨[short], ?_, fun hitems hfewer => ?_⟩
    · rw [if_pos hdefault, runOn_bind_ok hshort, hsame]
      rfl
    · rw [← hmanaged] at hfewer ⊢
      have hscope : FewerSigned ({ st with symbols := symbols } : Scoped).scope.signatures plan.name
        short.managed.length := hfewer
      exact made_addWrapper hlater (hitems short List.mem_cons_self) hscope hadd
  · next hdefault =>
    obtain ⟨rfl, rfl⟩ := ok_pure.mp hrun
    refine ⟨[], ?_, fun _ hfewer => ⟨rfl, hfewer.mono (Nat.le_succ _)⟩⟩
    rw [if_neg hdefault]
    rfl

/-- Whatever is offered is made: from one offer to the next there are more parameters. -/
theorem made_wrapArguments (hlater : st'.symbols.Grows s)
    (hrun : (wrapArguments target function plan arguments m).runOn st = (.ok made, st')) :
    ∃ offered, (offersFrom function arguments m).runOn st.symbols = (.ok offered, st'.symbols) ∧
      ((∀ offer ∈ offered, ItemTexts s offer) →
        FewerSigned st.scope.signatures plan.name m.managed.length →
        made = offered.map (plan.wrapper target)) := by
  induction arguments generalizing m st made with
  | nil =>
    have hsame := (made_iff_free_addWrapper hlater hrun).1
    refine ⟨[m], ?_, fun hitems hfewer => ?_⟩
    · rw [hsame]
      rfl
    · exact (made_addWrapper hlater (hitems m List.mem_cons_self) hfewer hrun).1
  | cons argument rest ih =>
    cases hinfo : argument.info with
    | none =>
      rw [wrapArguments_untyped hinfo] at hrun
      rw [offersFrom_untyped hinfo]
      exact ih hrun
    | some info =>
      by_cases hself : argument.name = "self"
      · rw [wrapArguments_self hinfo hself] at hrun
        rw [offersFrom_self hinfo hself]
        exact ih hrun
      · rw [wrapArguments_given hinfo hself] at hrun
        obtain ⟨shorter, before, hshorter, hrun⟩ := ok_bind.mp hrun
        obtain ⟨given, middle, hscoped, hrun⟩ := ok_bind.mp hrun
        obtain ⟨symbols, hclassify, rfl⟩ := ok_onSymbols.mp hscoped
        obtain ⟨longer, after, hrest, hrun⟩ := ok_bind.mp hrun
        obtain ⟨rfl, rfl⟩ := ok_pure.mp hrun
        have hmiddle := ((quiet_classify _ _ _ _).of_ok hclassify).toGrows
        have hafter := ((quiet_wrapArguments _ _ _ _ _).of_ok hrest).toGrows
        have hbefore : before.symbols.Grows s := hmiddle.trans (hafter.trans hlater)
        obtain ⟨offered, hoffered, hmade⟩ := made_shorterWrappers hbefore hshorter
        obtain ⟨offered', hoffered', hmade'⟩ := ih hrest
        have hgrown : given.managed.length = m.managed.length + 1 := by
          obtain ⟨passing, hgiven, rfl⟩ := given_classify (.refl _) (.refl _) hclassify
          rw [join, List.length_append, hgiven.managed_length]
        refine ⟨offered ++ offered', ?_, fun hitems hfewer => ?_⟩
        · rw [offersFrom_given hinfo hself, runOn_bind_ok hoffered, runOn_bind_ok hclassify,
            runOn_bind_ok hoffered']
          rfl
        · obtain ⟨hitems, hitems'⟩ := List.forall_mem_append.mp hitems
          obtain ⟨rfl, hsigned⟩ := hmade hitems hfewer
          rw [← hgrown] at hsigned
          rw [hmade' hitems' hsigned, List.map_append]

/-! ### Functions -/

/-- The wrappers of a function are complete: one for every default and the full one, in this order. -/
structure Complete (R : Origin → TypeId → Prop) (s : Symbols) (function : Function)
    (passings : List Passing) (made : List Wrapper) : Prop where
  given : AllInFull R s function (typedArguments function.arguments) passings
  count : made.length = 1 + (typedArguments function.arguments).countP stopsAt
  increasing : made.Pairwise fun wrapper wrapper' =>
    wrapper.marshaling.managed.length < wrapper'.marshaling.managed.length
  full : ∃ longest, made.getLast? = some longest ∧
    longest.marshaling = marshal (typedArguments function.arguments) passings ∧
    longest.marshaling.managed.length = (typedArguments function.arguments).countP hasParameter
  shorter : List.Forall₂ (fun stop wrapper => StopsBefore R s function {} passings stop wrapper.marshaling)
    (stops (typedArguments function.arguments)) made.dropLast

theorem length_managed_of_stopsBefore {passings : List Passing} {short : Marshaling}
    {stop : List (Argument × NativeType) × List (Argument × NativeType)}
    (h : StopsBefore R s function {} passings stop short) :
    short.managed.length = stop.1.countP hasParameter := by
  obtain ⟨defaults, hfront, hdefaults, rfl⟩ := h
  rw [empty_join, join, hdefaults.managed, List.append_nil, length_managed_marshal hfront]

theorem complete_of_offersStops
    (h : OffersStops R s function {} (typedArguments function.arguments) offered) :
    ∃ passings, Complete R s function passings (offered.map (plan.wrapper target)) := by
  obtain ⟨passings, shorter, hpassings, rfl, hshorter⟩ := h
  have hlast : join {} (marshal (typedArguments function.arguments) passings) =
      marshal (typedArguments function.arguments) passings := empty_join _
  have hmap : (shorter ++ [join {} (marshal (typedArguments function.arguments) passings)]).map
      (plan.wrapper target) = shorter.map (plan.wrapper target) ++
        [plan.wrapper target (marshal (typedArguments function.arguments) passings)] := by
    rw [hlast, List.map_append]
    rfl
  rw [hmap]
  refine ⟨passings, hpassings, ?_, ?_, ⟨_, List.getLast?_concat, rfl, length_managed_marshal hpassings⟩, ?_⟩
  · rw [List.length_append, List.length_map, ← hshorter.length_eq, length_stops]
    exact Nat.add_comm _ _
  · have hcounts : shorter.map (·.managed.length) = (stops (typedArguments function.arguments)).map
        fun stop => stop.1.countP hasParameter :=
      forall₂_map_eq hshorter fun _ _ => length_managed_of_stopsBefore
    refine List.pairwise_append.mpr ⟨?_, List.pairwise_singleton _ _, ?_⟩
    · have hpairwise : (shorter.map (·.managed.length)).Pairwise (· < ·) := by
        rw [hcounts]
        exact List.pairwise_map.mpr (pairwise_stops _)
      exact List.pairwise_map.mpr (List.pairwise_map.mp hpairwise)
    · intro wrapper hwrapper longest hlongest
      obtain rfl := List.mem_singleton.mp hlongest
      obtain ⟨short, hshort, rfl⟩ := List.mem_map.mp hwrapper
      obtain ⟨stop, hstop, hbefore⟩ := forall₂_mem hshorter.flip hshort
      show short.managed.length < (marshal _ passings).managed.length
      rw [length_managed_of_stopsBefore hbefore, length_managed_marshal hpassings]
      exact countP_lt_of_mem_stops hstop
  · rw [List.dropLast_concat, List.forall₂_map_right_iff]
    exact hshorter

/--
A class that is begun takes every wrapper of a function, whatever its arguments are, if no type text of a
parameter is empty or has a comma in it: unless there is a cause for a fault, there is one wrapper more than
there are arguments with a default.
-/
theorem complete_wrappers (hbegun : st.scope.signatures = []) (hsound : st.Sound)
    (hitems : ∀ offered after, (offers function).runOn st.symbols = (.ok offered, after) →
      ∀ offer ∈ offered, ItemTexts after offer) :
    match (wrappers target function).runOn st with
    | (.ok made, st') => ∃ passings,
      Complete (MadeFor st.symbols st'.symbols) st.symbols function passings made
    | (.error fault, st') => Cause { functions := [function] } st'.symbols fault := by
  rcases hrun : (wrappers target function).runOn st with ⟨fault | made, st'⟩
  · have hjustified : JustifiedIn { functions := [function] } st (wrappers target function) :=
      justified_wrappers target List.mem_cons_self hsound
    have hfails := hjustified.fails
    have hstate : (ExceptT.run (wrappers target function)).run st = (.error fault, st') := hrun
    rw [hstate] at hfails
    exact hfails fault rfl
  · obtain ⟨⟨name, comments⟩, before, hlift, hwrap⟩ := ok_bind.mp hrun
    obtain ⟨⟨type, code⟩, middle, hscoped, hwrap⟩ := ok_bind.mp hwrap
    obtain ⟨symbols, hresult, rfl⟩ := ok_onSymbols.mp hscoped
    have hnamed := ok_lift.mp hlift
    have hsymbols : before.symbols = st.symbols := by
      rw [← wrapperName_symbols function st, hnamed.2]
    have hsignatures : before.scope.signatures = [] := by
      rw [← hbegun, ← wrapperName_signatures function st, hnamed.2]
    rw [hsymbols] at hresult
    obtain ⟨offered, hoffered, hmade⟩ := made_wrapArguments (.refl _) hwrap
    have hgrows := ((quiet_wrapperResult _).of_ok hresult).toGrows
    have hstops := stops_offersFrom hgrows hgrows hoffered
    have hscope : FewerSigned ({ before with symbols := symbols } : Scoped).scope.signatures name 0 := by
      intro signature hsignature
      rw [show ({ before with symbols := symbols } : Scoped).scope.signatures = [] from hsignatures]
        at hsignature
      cases hsignature
    rw [hmade (hitems offered st'.symbols ((runOn_bind_ok hresult).trans hoffered)) hscope]
    exact complete_of_offersStops hstops

/-- A class that is begun with the default settings. -/
def begunClass : Scoped where
  symbols := ofSettings {}

theorem itemTexts_plotLines :
    ∀ offered after, (offers plotLines).runOn begunClass.symbols = (.ok offered, after) →
      ∀ offer ∈ offered, ItemTexts after offer := by
  obtain ⟨offered, after, hrun, htexts⟩ := exists_ok (offers plotLines) begunClass.symbols
    (fun offered after => offered.flatMap fun offer =>
      offer.managed.map fun parameter => (parameterText after parameter).toOption)
    (b := [some "ref Vector3", some "ref Vector3", some "int"]) (by decide +kernel)
  intro offered' after' hrun' offer hoffer parameter hparameter text htext
  obtain ⟨hsame, rfl⟩ := Prod.mk.inj (hrun.symm.trans hrun')
  obtain rfl := Except.ok.inj hsame
  have hmem : some text ∈ [some "ref Vector3", some "ref Vector3", some "int"] := by
    rw [← htexts]
    refine List.mem_flatMap.mpr ⟨offer, hoffer, List.mem_map.mpr ⟨parameter, hparameter, ?_⟩⟩
    rw [htext]
    rfl
  have hall : ∀ text ∈ ["ref Vector3", "ref Vector3", "int"], IsItem text := by
    unfold IsItem
    decide +kernel
  exact hall text (by simpa using hmem)

theorem complete_wrappers_plotLines :
    begunClass.scope.signatures = [] ∧ begunClass.Sound ∧
      ∃ made st' passings,
        (wrappers { nativeClass := "Native" } plotLines).runOn begunClass = (.ok made, st') ∧
        made.length = 2 ∧
        Complete (MadeFor begunClass.symbols st'.symbols) begunClass.symbols plotLines passings made := by
  have hbegun : begunClass.scope.signatures = [] := rfl
  have hsound : begunClass.Sound := sound_ofSettings {}
  obtain ⟨made, st', hrun, hlength⟩ := exists_ok (wrappers { nativeClass := "Native" } plotLines)
    begunClass (fun made _ => made.length) (b := 2) (by decide +kernel)
  have hcomplete := @complete_wrappers begunClass { nativeClass := "Native" } plotLines hbegun hsound
    itemTexts_plotLines
  rw [hrun] at hcomplete
  obtain ⟨passings, hcomplete⟩ := hcomplete
  exact ⟨hbegun, hsound, made, st', passings, hrun, hlength, hcomplete⟩

end InteropGen.Generate

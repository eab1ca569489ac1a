import InteropGen.Proofs.Correspondence.Document
import InteropGen.Proofs.Reading
import Mathlib.Logic.Relation

/-!
# Building a document step by step

`Step document` are the single changes that building a document's declarations makes to the tables of
types: a C# name is entered, a pointer, a forward reference, a name is given a type, and what no type
depends on is noted. Each carries what the generators know when they make it: which names are entered
(`Enters`), and that the type registered for a typedef stands for the typedef's description (`Stands`).
`follows_typedefs`, `follows_structs`, `follows_externs` and `follows_mainWrappers` lead the generators
along such steps, so that an invariant need only be checked step by step.
-/

namespace InteropGen.Generate

open Metadata Decl Build Symbols

/-! ### What a document mentions -/

/-- The native type stands somewhere in the document, at the top or within another type. -/
inductive Mentions (document : Metadata) : NativeType → Prop
  | typedef {item} (hitem : item ∈ document.typedefs) : Mentions document item.info.type
  | field {item field} (hitem : item ∈ document.structs) (hfield : field ∈ item.fields) :
      Mentions document field.info.type
  | argument {function argument info} (hfunction : function ∈ document.functions)
      (hargument : argument ∈ function.arguments) (hinfo : argument.info = some info) :
      Mentions document info.type
  | result {function} (hfunction : function ∈ document.functions) :
      Mentions document function.result.type
  | inner {t inner} (h : Mentions document t) (hinner : t.inner = some inner) :
      Mentions document inner
  | parameter {t parameter} (h : Mentions document t) (hparameter : parameter ∈ t.parameters) :
      Mentions document parameter
  | returned {t result} (h : Mentions document t) (hresult : t.result = some result) :
      Mentions document result

/-- The C# names that types are entered for while a document is built. -/
inductive Enters (document : Metadata) (s : Symbols) : String → Prop
  | handle : Enters document s s.settings.handle
  | vector : Enters document s s.settings.vectorName
  | unknown : Enters document s "unknown"
  | converted {name text} (h : s.settings.conversions.find? name = some text) :
      Enters document s text
  | builtin {t} (h : Mentions document t) (hkind : t.kind = .builtin) :
      Enters document s (s.builtinName ((nonEmpty? t.builtin).getD "void"))
  | callback {t} (h : Mentions document t) (hcallback : t.isCallback = true) :
      Enters document s (callbackName t none)
  | delegate {name target} (h : CallbackOf document name target) : Enters document s name
  | struct {item} (hitem : item ∈ document.structs) (hkept : structSkip? s item = none)
      (hfields : item.fields ≠ []) : Enters document s (Identifier.lastSegment item.name)

/-- The type leads through pointers to a name, or to what the native name comes to. -/
inductive Stands (s : Symbols) (root : Option String) : TypeId → Prop
  | named {id name erased} (hget : s.arena.get? id = some (.named name erased)) : Stands s root id
  | forward {id name bound} (hget : s.arena.get? id = some (.forward name bound))
      (hroot : root = some name) : Stands s root id
  | known {id name} (hfind : s.types.find? name = some id) (hroot : root = some name) :
      Stands s root id
  | pointer {id target} (hget : s.arena.get? id = some (.pointer target))
      (h : Stands s root target) : Stands s root id

/-- A single change to the tables while a document is built. -/
inductive Step (document : Metadata) : Symbols → Symbols → Prop
  | enter {s text} (h : Enters document s text) : Step document s (namedType text s).2
  | point {s target} (h : s.arena.Has target) : Step document s (pointerTo target s).2
  | defer (name : String) (s : Symbols) : Step document s (Symbols.defer name s).2
  | register {s text id} (name : String) (h : s.arena.names.find? text = some id) :
      Step document s (s.registerType name id)
  | typedef {s item id} (hitem : item ∈ document.typedefs) (hid : s.arena.Has id)
      (h : Stands s item.info.type.rootName? id) : Step document s (s.registerType item.name id)
  | hide (name : String) (s : Symbols) : Step document s (s.addOpaque name)
  | declare (s : Symbols) (delegates : Table Method) :
      Step document s { s with delegates := delegates }
  | note {s s'} (h : Notes s s') : Step document s s'

/-- From sound symbols on, the changes are made step by step. -/
def Follows (document : Metadata) (s s' : Symbols) : Prop :=
  s.Sound → Relation.ReflTransGen (Step document) s s'

variable {document : Metadata} {s s' s'' : Symbols} {t : NativeType} {id : TypeId}

theorem Mentions.callback {target : NativeType} (h : Mentions document t)
    (htarget : t.callback? = some target) : Mentions document target := by
  obtain ⟨kind, builtin, typeName, inner, bounds, result, parameters, storage⟩ := t
  unfold NativeType.callback? at htarget
  dsimp only at htarget
  split at htarget
  · next function =>
    split at htarget
    · obtain rfl := Option.some.inj htarget
      exact (h.inner rfl).inner rfl
    · simp at htarget
  · simp at htarget

theorem CallbackOf.mentions {name : String} {target : NativeType}
    (h : CallbackOf document name target) : Mentions document target := by
  cases h with
  | typedef hitem h => exact (Mentions.typedef hitem).callback h
  | field hitem hfield h => exact (Mentions.field hitem hfield).callback h
  | argument hfunction hargument hinfo h =>
    exact (Mentions.argument hfunction hargument hinfo).callback h

/-! ### Growth by steps -/

theorem Step.grows (h : Step document s s') : s.Grows s' := by
  cases h with
  | enter h => exact (quiet_namedType _ s).toGrows
  | point h => exact (quiet_pointerTo fun _ => h).toGrows
  | defer name => exact (quiet_defer name s).toGrows
  | register name h => exact (quiet_registerName name h).toGrows
  | typedef hitem hid h => exact (quiet_registerType _ fun _ => hid).toGrows
  | hide name => exact (quiet_addOpaque s name).toGrows
  | declare delegates =>
    exact ⟨fun hs => ⟨hs.arena, hs.handle, hs.pending, hs.nodup, hs.types⟩, rfl, rfl, rfl, .refl _,
      fun _ _ h => h, fun _ h => h, fun _ h => h⟩
  | note h => exact (quiet_notes h).toGrows

theorem grows_of_steps (h : Relation.ReflTransGen (Step document) s s') : s.Grows s' := by
  induction h with
  | refl => exact .refl s
  | tail _ hstep ih => exact ih.trans hstep.grows

theorem Follows.refl (s : Symbols) : Follows document s s := fun _ => .refl

theorem Follows.trans (h : Follows document s s') (h' : Follows document s' s'') :
    Follows document s s'' :=
  fun hs => (h hs).trans (h' ((grows_of_steps (h hs)).sound hs))

instance : Std.Refl (Follows document) := ⟨Follows.refl⟩
instance : IsTrans Symbols (Follows document) := ⟨fun _ _ _ => Follows.trans⟩

theorem Follows.step (h : Step document s s') : Follows document s s' := fun _ => .single h

/-! ### Resolving by steps -/

theorem Stands.mono {root : Option String} (hgrows : s.Grows s') (h : Stands s root id) :
    Stands s' root id := by
  induction h with
  | named hget => exact .named (hgrows.arena.entries _ _ hget)
  | forward hget hroot => exact .forward (hgrows.arena.entries _ _ hget) hroot
  | known hfind hroot => exact .known (hgrows.types _ _ hfind) hroot
  | pointer hget _ ih => exact .pointer (hgrows.arena.entries _ _ hget) ih

theorem stands_namedType {root : Option String} {text : String}
    (hs : (namedType text s).2.Sound) :
    Stands (namedType text s).2 root (namedType text s).1 := by
  obtain ⟨erased, hget⟩ := hs.arena.names _ _ (s.arena.find?_named text)
  exact .named hget

theorem follows_resolveName (name : String) (s : Symbols) :
    Follows document s (resolveName name s).2 := by
  rcases resolveName_cases name s with
    ⟨converted, hconv, heq⟩ | ⟨-, ⟨-, heq⟩ | ⟨-, ⟨known, -, heq⟩ | ⟨-, ⟨-, heq⟩ | ⟨-, heq⟩⟩⟩⟩ <;> rw [heq]
  · exact .step (.enter (.converted hconv))
  · exact .step (.enter .handle)
  · exact .refl s
  · exact .step (.enter .vector)
  · exact .step (.defer name s)

theorem stands_resolveName {name : String} (hs : (resolveName name s).2.Sound) :
    Stands (resolveName name s).2 (some name) (resolveName name s).1 := by
  revert hs
  rcases resolveName_cases name s with
    ⟨converted, -, heq⟩ | ⟨-, ⟨-, heq⟩ | ⟨-, ⟨known, hfind, heq⟩ | ⟨-, ⟨-, heq⟩ | ⟨-, heq⟩⟩⟩⟩ <;> rw [heq]
  · exact stands_namedType
  · exact stands_namedType
  · exact fun _ => .known hfind rfl
  · exact stands_namedType
  · exact fun _ => .forward (s.arena.get?_forward_self name) rfl

/-- What resolving makes stands for the native name that the type comes down to. -/
def Resolves (document : Metadata) (root : Option String) (build : Build Symbols TypeId) : Prop :=
  ∀ s, s.Sound → Relation.ReflTransGen (Step document) s (build.runOn s).2 ∧
    ∀ id, (build.runOn s).1 = .ok id → Stands (build.runOn s).2 root id

namespace Resolves

variable {root : Option String} {build : Build Symbols TypeId}

theorem name {text : String} (h : ∀ s, Enters document s text) :
    Resolves document root (liftM (namedType text)) := by
  refine fun s hs => ⟨.single (.enter (h s)), fun id hid => ?_⟩
  obtain rfl := Except.ok.inj hid
  exact stands_namedType ((quiet_namedType text s).sound hs)

theorem bind {α : Type} {first : Build Symbols α} {next : α → Build Symbols TypeId}
    (h : Preserves (Follows document) first) (hnext : ∀ a, Resolves document root (next a)) :
    Resolves document root (first >>= next) := by
  intro s hs
  have hfirst := h s hs
  rw [runOn_bind]
  revert hfirst
  rcases first.runOn s with ⟨_ | a, middle⟩ <;> intro hfirst
  · exact ⟨hfirst, fun _ hid => by simp at hid⟩
  · obtain ⟨hsteps, hstands⟩ := hnext a middle ((grows_of_steps hfirst).sound hs)
    exact ⟨hfirst.trans hsteps, hstands⟩

theorem pointer (hmakes : Makes build) (h : Resolves document root build) :
    Resolves document root (build >>= fun target => liftM (pointerTo target)) := by
  intro s hs
  obtain ⟨hsteps, hstands⟩ := h s hs
  have hhas := (hmakes s).2
  rw [runOn_bind]
  revert hsteps hstands hhas
  rcases build.runOn s with ⟨_ | target, middle⟩ <;> intro hsteps hstands hhas
  · exact ⟨hsteps, fun _ hid => by simp at hid⟩
  · have hmiddle : middle.Sound := (grows_of_steps hsteps).sound hs
    have hstep : Step document middle (pointerTo target middle).2 := .point (hhas target rfl hmiddle)
    refine ⟨hsteps.tail hstep, fun id hid => ?_⟩
    obtain rfl := Except.ok.inj hid
    have hget : (pointerTo target middle).2.arena.get? (pointerTo target middle).1 =
        some (.pointer target) := get?_pointerTo (hstep.grows.sound hmiddle)
    exact .pointer hget ((hstands target rfl).mono hstep.grows)

end Resolves

mutual

theorem resolves_resolve {delegateName : Option String} :
    (t : NativeType) → Mentions document t →
    (t.isCallback = true → ∀ s, Enters document s (callbackName t delegateName)) →
    Resolves document t.rootName? (resolve delegateName t)
  | ⟨kind, builtin, name, inner, bounds, result, parameters, storage⟩, ht, hname => by
    have hinner : Resolves document (NativeType.innerRootName? inner) (resolveInner inner) :=
      resolves_resolveInner inner fun _ h => ht.inner h
    have hwarn : ∀ text, Preserves (Follows document) (modify fun s => s.warn text) :=
      fun text => .modify fun s => .step (.note (notes_warn s text))
    unfold resolve NativeType.rootName?
    cases kind with
    | builtin =>
      intro s hs
      have hsteps : Step document s (namedType (s.builtinName ((nonEmpty? builtin).getD "void")) s).2 :=
        .enter (.builtin ht rfl)
      refine ⟨.single hsteps, fun id hid => ?_⟩
      obtain rfl := Except.ok.inj hid
      exact stands_namedType (hsteps.grows.sound hs)
    | user =>
      refine fun s hs => ⟨follows_resolveName _ s hs, fun id hid => ?_⟩
      obtain rfl := Except.ok.inj hid
      exact stands_resolveName ((quiet_resolveName _ s).sound hs)
    | pointer => exact hinner.pointer (makes_resolveInner inner)
    | array => exact hinner.pointer (makes_resolveInner inner)
    | synonym =>
      dsimp only
      split
      · next hcallback => exact .name (hname hcallback)
      · exact hinner
    | function => exact .bind (hwarn _) fun _ => .name fun _ => .unknown
    | other word => exact .bind (hwarn _) fun _ => .name fun _ => .unknown

theorem resolves_resolveInner :
    (inner : Option NativeType) → (∀ t, inner = some t → Mentions document t) →
    Resolves document (NativeType.innerRootName? inner) (resolveInner inner)
  | some t, h => resolves_resolve t (h t rfl) fun hcallback _ => .callback (h t rfl) hcallback
  | none, _ => fun s _ => ⟨.refl, fun _ hid => by simp [resolveInner] at hid⟩

end

theorem follows_resolve (h : Mentions document t) :
    Preserves (Follows document) (resolve none t) :=
  fun s hs => (resolves_resolve t h (fun hcallback _ => .callback h hcallback) s hs).1

/-! ### Declaring by steps -/

theorem follows_addDelegate (method : Method) {target : NativeType}
    (h : CallbackOf document method.head.name target) (s : Symbols) :
    Follows document s (addDelegate method s).2 := by
  unfold addDelegate
  dsimp only
  split
  · exact .refl s
  · have hdeclare : Step document s { s with delegates := s.delegates.insert method.head.name method } :=
      .declare s _
    exact (Follows.step hdeclare).trans ((Follows.step (.enter (.delegate h))).trans
      (.step (.register _ (Arena.find?_named _ _))))

theorem typesWalk (document : Metadata) : Walk (Follows document) (Mentions document) where
  warn s text := .step (.note (notes_warn s text))
  size bounds owner s := .step (.note (notes_arraySize bounds owner s))
  vector _ := .step (.enter .vector)
  resolve := follows_resolve
  inner ht hinner := ht.inner hinner

theorem follows_registerDelegate {name : String} {target : NativeType}
    (comments : Option Comments) (h : CallbackOf document name target) :
    Preserves (Follows document) (registerDelegate target name comments) := by
  refine .bind .get fun state => ?_
  show Preserves _ (if _ then _ else _)
  split
  · exact .pure _
  · intro s
    have hdelegate := walk_delegate (typesWalk document) name comments (fun _ => h.mentions.parameter)
      (fun _ => h.mentions.returned) s
    rw [runOn_bind]
    rcases hrun : (delegate target name comments).runOn s with ⟨_ | method, middle⟩
    · rw [hrun] at hdelegate
      exact hdelegate
    · rw [hrun] at hdelegate
      have hname : method.head.name = name := (delegateOf (.refl s) hrun).name
      exact hdelegate.trans (follows_addDelegate method (hname ▸ h) middle)

/-- A name that is given to a callback type counts unless it is empty. -/
theorem callbackName_some (t : NativeType) (name : String) :
    callbackName t (some name) = name ∨ callbackName t (some name) = callbackName t none := by
  by_cases hempty : name.isEmpty
  · exact .inr (by simp [callbackName, nonEmpty?, Option.filter, hempty])
  · exact .inl (by simp [callbackName, nonEmpty?, Option.filter, hempty])

theorem followsWalk (document : Metadata) :
    DocumentWalk (Follows document) (Mentions document) (CallbackOf document) where
  toWalk := typesWalk document
  skip s kind name reason := .step (.note (notes_skip s kind name reason))
  register comments h := follows_registerDelegate comments h
  callback {name t target} ht htarget h := by
    refine fun s hs => (resolves_resolve t ht (fun hcallback _ => ?_) s hs).1
    rcases callbackName_some t name with hname | hname <;> rw [hname]
    · exact .delegate h
    · exact .callback ht hcallback

theorem functionTypes {function : Function} (h : function ∈ document.functions) :
    FunctionTypes (Mentions document) function :=
  ⟨.result h, fun _ hargument _ hinfo => .argument h hargument hinfo⟩

theorem follows_announced {item : Struct} (hitem : item ∈ document.structs) (s : Symbols)
    (hkept : structSkip? s item = none) : Follows document s (announced item s) := by
  unfold announced
  split
  · exact .step (.hide item.name s)
  · next hfields =>
    have hname := s.arena.find?_named (Identifier.lastSegment item.name)
    have henter : Step document s (namedType (Identifier.lastSegment item.name) s).2 :=
      .enter (.struct hitem hkept (by simpa using hfields))
    exact (Follows.step henter).trans ((Follows.step (.register item.name hname)).trans
      (.step (.register _ hname)))

theorem follows_typedefs (document : Metadata) :
    Preserves (Follows document) (typedefs document.typedefs) := by
  refine walk_typedefs (followsWalk document) fun item hitem => ⟨fun s => ?_, fun _ => .typedef hitem⟩
  have hresolve : Resolves document item.info.type.rootName? (resolve none item.info.type) :=
    resolves_resolve item.info.type (.typedef hitem)
      fun hcallback _ => .callback (.typedef hitem) hcallback
  have hhas := (makes_resolve none item.info.type s).2
  rw [runOn_bind]
  intro hs
  obtain ⟨hsteps, hstands⟩ := hresolve s hs
  revert hsteps hstands hhas
  rcases (resolve none item.info.type).runOn s with ⟨_ | id, middle⟩ <;>
    intro hhas hsteps hstands
  · exact hsteps
  · have hmiddle : middle.Sound := (grows_of_steps hsteps).sound hs
    exact hsteps.tail (.typedef hitem (hhas id rfl hmiddle) (hstands id rfl))

theorem follows_structs (document : Metadata) (target : WrapperClass) :
    Preserves (OnSymbols (Follows document))
      (structs target document.functions document.structs) :=
  walk_structs (followsWalk document) (fun _ => functionTypes)
    (fun _ hitem => ⟨follows_announced hitem, fun _ hfield => .field hitem hfield,
      fun _ hfield _ => .field hitem hfield⟩) target

theorem follows_externs (document : Metadata) :
    Preserves (Follows document) (externMethods document.functions) :=
  walk_externMethods (followsWalk document) (fun _ => functionTypes)
    fun _ hfunction _ hargument _ hinfo _ => .argument hfunction hargument hinfo

theorem follows_mainWrappers (document : Metadata) (target : WrapperClass) :
    Preserves (OnSymbols (Follows document)) (mainWrappers target document.functions) :=
  walk_mainWrappers (followsWalk document).toWalk target fun _ => functionTypes

end InteropGen.Generate

import InteropGen.Proofs.Nesting
import InteropGen.Proofs.Rendering

/-!
# Writing declarations call by call

A declaration is written by calls on a builder (`Render.write`): documentation and attributes first, then lines, and
blocks around what the declaration holds. A block of a group is closed whatever happens in it. A wrapper opens and
closes its blocks by itself, the inner one only if it pins something, so that a type without a spelling between the two
would leave them open. Where all types are spelled, the calls are matched (`lays_write`), and they lay out the code of
the declaration.
-/

namespace InteropGen.Render

open Decl Build Code Generate

/-! ### The calls -/

/-- Steps that make calls on a builder and may fail; a failed step keeps the calls that were made. -/
abbrev Writer := Build (List Call) Unit

/-- Makes calls. -/
def make (calls : List Call) : Writer := modify (· ++ calls)

/-- Lays out code. -/
def lay (code : List Code) : Writer := make (callsOf code)

/-- Writes a block around what a writer writes, and closes it even if the writer fails. -/
def inBlock (header : String) (body : Writer) : Writer := do
  lay (if header.isEmpty then [] else [.line header])
  make [.push]
  ExceptT.mk fun log =>
    let (outcome, log) := body.runOn log
    (outcome, log ++ [.pop])

/-- Writes steps one after the other, with the same code behind each. -/
def writeSteps (s : Symbols) (gap : List Code) : List Decl.Step → Writer
  | [] => pure ()
  | step :: rest => do
    lay ((← Build.ofExcept (Render.step s step)) ++ gap)
    writeSteps s gap rest

/-- Writes a wrapper below its comments and attributes. -/
def writeWrapper (s : Symbols) (w : Wrapper) : Writer := do
  let result ← Build.ofExcept (s.spell w.result)
  let parameters ← Build.ofExcept (w.marshaling.managed.mapM (managed s))
  make [.line (String.join
    [modifierText w.head, result, " ", w.head.name, "(", String.intercalate ", " parameters, ")"])]
  make [.push]
  writeSteps s [.line ""] w.marshaling.before
  if w.marshaling.fixed.isEmpty then pure () else do
    writeSteps s [] w.marshaling.fixed
    make [.push]
  let call := String.join
    [w.nativeClass, ".", w.entryPoint, "(", String.intercalate ", " w.marshaling.native, ");"]
  lay [line [if result ≠ "void" then "var ret = " else "", call]]
  writeSteps s [] w.marshaling.after
  lay (if result ≠ "void" then [line ["return ", w.resultCode, ";"]] else [])
  make (if w.marshaling.fixed.isEmpty then [] else [.pop])
  make [.pop]

/-- The code between a declaration and what stands before it. -/
def gapBefore (previous : Option Bool) (d : Decl) : List Code :=
  match previous with
  | none => []
  | some compact => if compact && d.isCompact then [] else [.line ""]

/-- Writes one line once its text is known. -/
def writeLine (text : Except Fault String) : Writer := do lay [.line (← Build.ofExcept text)]

mutual

/-- Writes a declaration. -/
def write (s : Symbols) : Decl → Writer
  | .group form head members => do
    lay (preamble head)
    match form with
    | .plainClass => inBlock (String.join [modifierText head, "class ", head.name]) (writeAll s none members)
    | .layout _ => inBlock (String.join [modifierText head, "struct ", head.name]) (writeAll s none members)
    | .view target =>
      inBlock (String.join [modifierText head, "struct ", head.name]) do
        lay (viewOpening s.settings.handle target head.name)
        if members.isEmpty then pure () else do
          lay [.line ""]
          writeAll s none members
  | .enum e => lay (enumCode e)
  | .field (.single head type) => do
    lay (preamble head)
    writeLine do return String.join [modifierText head, ← s.spell type, " ", head.name, ";"]
  | .field (.buffer head type size) => do
    lay (preamble head)
    writeLine do
      return String.join [modifierText head, ← s.spell type, " ", head.name, "[", ← numeral size, "];"]
  | .constant c => do
    lay (preamble c.head)
    writeLine do
      return String.join [modifierText c.head, ← s.spell c.type, " ", c.head.name, " = ", c.value, ";"]
  | .method m | .delegate m => do
    lay (preamble m.head)
    writeLine do return (← signature s m) ++ ";"
  | .accessor a => do
    lay (summaries a.head)
    writeLine (accessorLine s a)
  | .wrapper w => do
    lay (preamble w.head)
    writeWrapper s w
  | .unplanned w => do
    lay (preamble w.head)
    let _ ← Build.ofExcept (s.spell w.result)
    throw .missingPart
  | .element e => throw (.ownedPart "enum_element" e.head.name)
  | .parameter p => throw (.ownedPart "parameter" p.name)

/-- Writes declarations after one that was compact or not, or at the beginning. -/
def writeAll (s : Symbols) : Option Bool → List Decl → Writer
  | _, [] => pure ()
  | previous, d :: rest => do
    lay (gapBefore previous d)
    write s d
    writeAll s (some d.isCompact) rest

end

/-! ### Types that are spelled -/

/-- The type has a spelling. -/
def HasSpelling (s : Symbols) (type : TypeText) : Prop := ∃ text, s.spell type = .ok text

/-- The type that a value hangs on has a spelling. -/
def FiniteValue (s : Symbols) : ValueText → Prop
  | .plain _ => True
  | .default type _ => HasSpelling s type

/-- The types that a step needs have spellings. -/
def FiniteStep (s : Symbols) : Decl.Step → Prop
  | .pinned _ type | .array _ type => HasSpelling s type
  | .defaultValue _ type value | .defaultString _ type value => HasSpelling s type ∧ FiniteValue s value
  | _ => True

/-- The types of a wrapper have spellings. -/
structure FiniteWrapper (s : Symbols) (w : Wrapper) : Prop where
  result : HasSpelling s w.result
  managed : ∀ parameter ∈ w.marshaling.managed, HasSpelling s parameter.type
  before : ∀ step ∈ w.marshaling.before, FiniteStep s step
  fixed : ∀ step ∈ w.marshaling.fixed, FiniteStep s step
  after : ∀ step ∈ w.marshaling.after, FiniteStep s step

/-- The types of a method have spellings. -/
structure FiniteMethod (s : Symbols) (m : Method) : Prop where
  result : HasSpelling s m.result
  parameters : ∀ parameter ∈ m.parameters, HasSpelling s parameter.type

/-- The type that an accessor reaches has a spelling; the elements of a vector are looked up by their name. -/
def FiniteReach (s : Symbols) : Reach → Prop
  | .list elements _ _ => HasSpelling s elements
  | .vector elementName => ∃ text, vectorElement s elementName = .ok text
  | .field type => HasSpelling s type

/-- All types of the declaration and of what it holds have spellings. -/
inductive Finite (s : Symbols) : Decl → Prop
  | group {form head members} (h : ∀ member ∈ members, Finite s member) : Finite s (.group form head members)
  | enum (e : Decl.Enum) : Finite s (.enum e)
  | single {head type} (h : HasSpelling s type) : Finite s (.field (.single head type))
  | buffer {head type size} (h : HasSpelling s type) : Finite s (.field (.buffer head type size))
  | constant {c} (h : HasSpelling s c.type) : Finite s (.constant c)
  | method {m} (h : FiniteMethod s m) : Finite s (.method m)
  | delegate {m} (h : FiniteMethod s m) : Finite s (.delegate m)
  | accessor {a} (h : FiniteReach s a.reach) : Finite s (.accessor a)
  | wrapper {w} (h : FiniteWrapper s w) : Finite s (.wrapper w)
  | unplanned {w : Method} (h : HasSpelling s w.result) : Finite s (.unplanned w)
  | element (e : Element) : Finite s (.element e)
  | parameter (p : Parameter) : Finite s (.parameter p)

variable {s : Symbols} {d : Decl} {ds : List Decl} {w w' : Writer} {outcome outcome' : Except Fault (List Code)}

theorem exists_spellValue {value : ValueText} (h : FiniteValue s value) : ∃ text, s.spellValue value = .ok text := by
  cases value with
  | plain text => exact ⟨text, rfl⟩
  | default type text =>
    obtain ⟨spelled, hspelled⟩ := h
    have hvalue : s.spellValue (.default type text) =
        if spelled = s.settings.handle then .ok (s.settings.handle ++ ".Zero")
        else if s.enums.contains spelled then .ok ("(" ++ spelled ++ ")" ++ text) else .ok text := by
      rw [Symbols.spellValue, hspelled]
      rfl
    rw [hvalue]
    split
    · exact ⟨_, rfl⟩
    · split <;> exact ⟨_, rfl⟩

theorem exists_step {step : Decl.Step} (h : FiniteStep s step) : ∃ code, Render.step s step = .ok code := by
  cases step with
  | pinned | array =>
    obtain ⟨text, htext⟩ := h
    simp only [Render.step, htext]
    exact ⟨_, rfl⟩
  | defaultValue | defaultString =>
    obtain ⟨⟨text, htext⟩, hvalue⟩ := h
    obtain ⟨value, hvalue⟩ := exists_spellValue hvalue
    simp only [Render.step, htext, hvalue]
    exact ⟨_, rfl⟩
  | _ => exact ⟨_, rfl⟩

/-! ### Writers that lay code out -/

/-- Whatever becomes of it, the writer makes matched calls, and they lay the code out if there is one. -/
def Lays (w : Writer) (outcome : Except Fault (List Code)) : Prop :=
  ∃ calls, Matched calls ∧ (∀ log, w.runOn log = (outcome.map fun _ => (), log ++ calls)) ∧
    ∀ code, outcome = .ok code → calls = callsOf code

theorem runOn_make (calls log : List Call) : (make calls).runOn log = (.ok (), log ++ calls) := rfl

theorem runOn_lay (code : List Code) (log : List Call) : (lay code).runOn log = (.ok (), log ++ callsOf code) := rfl

theorem lays_of_runOn {code : List Code} (h : ∀ log, w.runOn log = (.ok (), log ++ callsOf code)) :
    Lays w (.ok code) :=
  ⟨callsOf code, matched_callsOf code, h, fun _ h => by rw [Except.ok.inj h]⟩

theorem lays_lay (code : List Code) : Lays (lay code) (.ok code) := lays_of_runOn (runOn_lay code)

theorem lays_throw (fault : Fault) : Lays (throw fault) (.error fault) :=
  ⟨[], .nil, fun log => by rw [List.append_nil]; rfl, fun _ h => by cases h⟩

theorem Lays.seq (h : Lays w outcome) (h' : Lays w' outcome') :
    Lays (do w; w') (do return (← outcome) ++ (← outcome')) := by
  obtain ⟨calls, hmatched, hrun, hcode⟩ := h
  obtain ⟨calls', hmatched', hrun', hcode'⟩ := h'
  cases outcome with
  | error fault =>
    refine ⟨calls, hmatched, fun log => ?_, fun _ h => by cases h⟩
    rw [runOn_bind, hrun]
    rfl
  | ok code =>
    refine ⟨calls ++ calls', hmatched.append hmatched', fun log => ?_, fun whole h => ?_⟩
    · rw [runOn_bind, hrun]
      show w'.runOn (log ++ calls) = _
      rw [hrun', List.append_assoc]
      cases outcome' <;> rfl
    · cases outcome' with
      | error fault => cases h
      | ok code' =>
        obtain rfl := Except.ok.inj h
        rw [hcode code rfl, hcode' code' rfl, callsOf_append]

theorem Lays.inBlock (h : Lays w outcome) (header : String) :
    Lays (inBlock header w) (outcome.map fun code => [.block header code]) := by
  obtain ⟨calls, hmatched, hrun, hcode⟩ := h
  have hopen : Matched (callsOf (if header.isEmpty then [] else [.line header])) := matched_callsOf _
  refine ⟨callsOf (if header.isEmpty then [] else [.line header]) ++ .push :: (calls ++ [.pop]),
    hopen.append (matched_block hmatched), fun log => ?_, fun code hblock => ?_⟩
  · have hbody := hrun (log ++ callsOf (if header.isEmpty then [] else [.line header]) ++ [.push])
    show ((w.runOn _).1, (w.runOn _).2 ++ [.pop]) = _
    rw [hbody]
    simp only [List.append_assoc, List.singleton_append]
    cases outcome <;> rfl
  · cases outcome with
    | error fault => cases hblock
    | ok inner =>
      obtain rfl := Except.ok.inj hblock
      rw [hcode inner rfl, callsOf, callsOf, List.append_nil, Code.calls]
      split <;> rfl

theorem lays_writeLine (text : Except Fault String) :
    Lays (writeLine text) (text.map fun text => [.line text]) := by
  cases text with
  | error fault => exact lays_throw fault
  | ok text => exact lays_lay [.line text]

theorem exists_mapM {α β : Type} {f : α → Except Fault β} {items : List α} (h : ∀ item ∈ items, ∃ b, f item = .ok b) :
    ∃ results, items.mapM f = .ok results := by
  induction items with
  | nil => exact ⟨[], rfl⟩
  | cons item items ih =>
    obtain ⟨b, hb⟩ := h item List.mem_cons_self
    obtain ⟨results, hresults⟩ := ih fun other hother => h other (List.mem_cons_of_mem _ hother)
    exact ⟨b :: results, by rw [List.mapM_cons, hb, hresults]; rfl⟩

theorem exists_signature {m : Method} (h : FiniteMethod s m) : ∃ text, signature s m = .ok text := by
  obtain ⟨result, hresult⟩ := h.result
  have hparameters : ∀ parameter ∈ m.parameters,
      ∃ text, (do return (← s.spell parameter.type) ++ " " ++ parameter.name : Except Fault String) = .ok text := by
    intro parameter hmem
    obtain ⟨text, htext⟩ := h.parameters parameter hmem
    exact ⟨_, by rw [htext]; rfl⟩
  obtain ⟨parameters, hparameters⟩ := exists_mapM hparameters
  exact ⟨_, by rw [signature, hparameters, hresult]; rfl⟩

/-- Steps whose types are spelled are all written. -/
theorem exists_writeSteps {steps : List Decl.Step} (h : ∀ step ∈ steps, FiniteStep s step) (gap : List Code) :
    ∃ pieces, steps.mapM (Render.step s) = .ok pieces ∧
      ∀ log, (writeSteps s gap steps).runOn log = (.ok (), log ++ callsOf (pieces.flatMap (· ++ gap))) := by
  induction steps with
  | nil => exact ⟨[], rfl, fun log => by rw [List.flatMap_nil, callsOf, List.append_nil]; rfl⟩
  | cons step steps ih =>
    obtain ⟨code, hcode⟩ := exists_step (h step List.mem_cons_self)
    obtain ⟨pieces, hpieces, hrun⟩ := ih fun other hother => h other (List.mem_cons_of_mem _ hother)
    refine ⟨code :: pieces, by rw [List.mapM_cons, hcode, hpieces]; rfl, fun log => ?_⟩
    rw [writeSteps, hcode, List.flatMap_cons, callsOf_append, ← List.append_assoc, ← hrun]
    rfl

/-- A wrapper whose types are spelled is written, and its pushes and pops are those of its code. -/
theorem exists_wrapper {wrapper : Wrapper} (h : FiniteWrapper s wrapper) :
    ∃ code, Render.wrapper s wrapper = .ok code ∧
      ∀ log, (writeWrapper s wrapper).runOn log = (.ok (), log ++ callsOf code) := by
  obtain ⟨result, hresult⟩ := h.result
  have hmanaged : ∀ parameter ∈ wrapper.marshaling.managed, ∃ text, managed s parameter = .ok text := by
    intro parameter hmem
    obtain ⟨text, htext⟩ := h.managed parameter hmem
    exact ⟨_, by rw [managed, htext]; rfl⟩
  obtain ⟨parameters, hparameters⟩ := exists_mapM hmanaged
  obtain ⟨before, hbefore, hrunBefore⟩ := exists_writeSteps h.before [.line ""]
  obtain ⟨fixed, hfixed, hrunFixed⟩ := exists_writeSteps h.fixed []
  obtain ⟨after, hafter, hrunAfter⟩ := exists_writeSteps h.after []
  let call := String.join
    [wrapper.nativeClass, ".", wrapper.entryPoint, "(", String.intercalate ", " wrapper.marshaling.native, ");"]
  let inner := line [if result ≠ "void" then "var ret = " else "", call] :: after.flatten ++
    (if result ≠ "void" then [line ["return ", wrapper.resultCode, ";"]] else [])
  have hcode : Render.wrapper s wrapper = .ok [.line (String.join
      [modifierText wrapper.head, result, " ", wrapper.head.name, "(", String.intercalate ", " parameters, ")"]),
      .block "" (before.flatMap (· ++ [.line ""]) ++
        if wrapper.marshaling.fixed.isEmpty then inner else fixed.flatten ++ [.block "" inner])] := by
    simp only [Render.wrapper, Render.steps, hresult, hparameters, hbefore, hfixed, hafter]
    rfl
  have hflat : ∀ pieces : List (List Code), pieces.flatMap (· ++ []) = pieces.flatten := by simp [List.flatMap]
  refine ⟨_, hcode, fun log => ?_⟩
  rw [writeWrapper, hresult, hparameters]
  by_cases hpins : wrapper.marshaling.fixed.isEmpty = true
  · simp only [Build.ofExcept, pure_bind, runOn_bind, runOn_make, runOn_lay, hrunBefore, hrunAfter, if_pos hpins, hflat]
    simp [callsOf, Code.calls, callsOf_append, inner, call]
  · simp only [Build.ofExcept, pure_bind, runOn_bind, runOn_make, runOn_lay, hrunBefore, hrunFixed, hrunAfter,
      if_neg hpins, hflat]
    simp [callsOf, Code.calls, callsOf_append, inner, call]

theorem lays_writeWrapper {wrapper : Wrapper} (h : FiniteWrapper s wrapper) :
    Lays (writeWrapper s wrapper) (Render.wrapper s wrapper) := by
  obtain ⟨code, hcode, hrun⟩ := exists_wrapper h
  exact hcode ▸ lays_of_runOn hrun

/-! ### Whole declarations -/

theorem Lays.of_eq (h : Lays w outcome) (heq : outcome = outcome') : Lays w outcome' := heq ▸ h

/-- Documentation and attributes above one line. -/
theorem lays_lined (above : List Code) (text : Except Fault String) :
    Lays (do lay above; writeLine text) (do return above ++ [.line (← text)]) :=
  ((lays_lay above).seq (lays_writeLine text)).of_eq (by cases text <;> rfl)

theorem decls_cons (s : Symbols) (previous : Option Bool) (d : Decl) (ds : List Decl) :
    decls s previous (d :: ds) = do
      let first ← decl s d
      let others ← decls s (some d.isCompact) ds
      return gapBefore previous d ++ first ++ others := by
  cases previous <;> rw [decls] <;> rfl

theorem lays_writeAll (h : ∀ d ∈ ds, Lays (write s d) (decl s d)) (previous : Option Bool) :
    Lays (writeAll s previous ds) (decls s previous ds) := by
  induction ds generalizing previous with
  | nil =>
    show Lays (pure ()) (.ok [])
    exact lays_of_runOn fun log => by rw [callsOf, List.append_nil]; rfl
  | cons d ds ih =>
    obtain ⟨hd, hds⟩ := List.forall_mem_cons.mp h
    rw [writeAll, decls_cons]
    refine ((lays_lay _).seq (hd.seq (ih hds (some d.isCompact)))).of_eq ?_
    cases decl s d with
    | error fault => rfl
    | ok code =>
      cases decls s (some d.isCompact) ds with
      | error fault => rfl
      | ok rest => exact congrArg Except.ok (List.append_assoc _ _ _).symm

/-- No declaration is without code. -/
theorem decl_ne_nil {code : List Code} (h : decl s d = .ok code) : code ≠ [] := by
  have hlast : ∀ {above : List Code} {last : Code}, above ++ [last] ≠ [] := by simp
  cases d with
  | group form head members =>
    rw [decl] at h
    obtain ⟨inner, -, h⟩ := except_bind_ok.mp h
    obtain rfl := Except.ok.inj h
    cases form <;> exact hlast
  | enum e =>
    obtain rfl := Except.ok.inj h
    exact hlast
  | field f =>
    cases f with
    | single head type =>
      obtain ⟨text, -, h⟩ := except_bind_ok.mp h
      obtain rfl := Except.ok.inj h
      exact hlast
    | buffer head type size =>
      obtain ⟨text, -, h⟩ := except_bind_ok.mp h
      obtain ⟨shown, -, h⟩ := except_bind_ok.mp h
      obtain rfl := Except.ok.inj h
      exact hlast
  | constant | method | delegate | accessor =>
    obtain ⟨text, -, h⟩ := except_bind_ok.mp h
    obtain rfl := Except.ok.inj h
    exact hlast
  | wrapper w =>
    obtain ⟨inner, hinner, h⟩ := except_bind_ok.mp h
    obtain ⟨result, -, hinner⟩ := except_bind_ok.mp hinner
    obtain ⟨parameters, -, hinner⟩ := except_bind_ok.mp hinner
    obtain ⟨before, -, hinner⟩ := except_bind_ok.mp hinner
    obtain ⟨fixed, -, hinner⟩ := except_bind_ok.mp hinner
    obtain ⟨after, -, hinner⟩ := except_bind_ok.mp hinner
    obtain rfl := Except.ok.inj hinner
    obtain rfl := Except.ok.inj h
    simp
  | unplanned w =>
    obtain ⟨text, -, h⟩ := except_bind_ok.mp h
    cases h
  | element | parameter => cases h

theorem decls_ne_nil {code : List Code} {previous : Option Bool} (h : decls s previous (d :: ds) = .ok code) :
    code ≠ [] := by
  rw [decls_cons] at h
  obtain ⟨first, hfirst, h⟩ := except_bind_ok.mp h
  obtain ⟨others, -, h⟩ := except_bind_ok.mp h
  obtain rfl := Except.ok.inj h
  simp [decl_ne_nil hfirst]

/-- Every declaration is written by matched calls, and they lay its code out if it has one. -/
theorem lays_write (h : Finite s d) : Lays (write s d) (decl s d) := by
  induction h with
  | @group form head members _ ih =>
    have hmembers := lays_writeAll ih none
    cases form with
    | plainClass =>
      rw [write, decl]
      refine ((lays_lay _).seq (hmembers.inBlock _)).of_eq ?_
      cases decls s none members <;> rfl
    | layout nativeName =>
      rw [write, decl]
      refine ((lays_lay _).seq (hmembers.inBlock _)).of_eq ?_
      cases decls s none members <;> rfl
    | view target =>
      rw [write, decl]
      cases members with
      | nil =>
        have hempty : Lays (pure ()) (.ok []) := lays_of_runOn fun log => by rw [callsOf, List.append_nil]; rfl
        exact (lays_lay _).seq (((lays_lay (viewOpening _ _ _)).seq hempty).inBlock _)
      | cons member members =>
        refine ((lays_lay _).seq (((lays_lay (viewOpening _ _ _)).seq
          ((lays_lay [.line ""]).seq hmembers)).inBlock _)).of_eq ?_
        cases hcode : decls s none (member :: members) with
        | error fault => rfl
        | ok code =>
          have hsome : (if code.isEmpty then [] else Code.line "" :: code) = Code.line "" :: code :=
            if_neg (by simpa using decls_ne_nil hcode)
          show _ = Except.ok (preamble head ++ [block _ (viewOpening _ _ _ ++ if code.isEmpty then [] else _)])
          rw [hsome]
          rfl
  | enum e => exact lays_lay (enumCode e)
  | @single head type _ =>
    refine (lays_lined (preamble head) _).of_eq ?_
    rw [decl, fieldCode]
    cases s.spell type <;> rfl
  | @buffer head type size _ =>
    refine (lays_lined (preamble head) _).of_eq ?_
    rw [decl, fieldCode]
    generalize numeral size = shown
    cases s.spell type with
    | error fault => rfl
    | ok text => cases shown <;> rfl
  | @constant c _ =>
    refine (lays_lined (preamble c.head) _).of_eq ?_
    rw [decl, constantCode]
    cases s.spell c.type <;> rfl
  | @method m _ | @delegate m _ =>
    refine (lays_lined (preamble m.head) _).of_eq ?_
    rw [decl, methodCode]
    cases signature s m <;> rfl
  | @accessor a _ => exact (lays_lined (summaries a.head) _).of_eq (by rw [decl])
  | @wrapper w h =>
    refine ((lays_lay (preamble w.head)).seq (lays_writeWrapper h)).of_eq ?_
    rw [decl]
    cases wrapper s w <;> rfl
  | @unplanned w h =>
    obtain ⟨text, htext⟩ := h
    rw [write, decl, htext]
    exact (lays_lay (preamble w.head)).seq (lays_throw .missingPart)
  | element e => exact lays_throw _
  | parameter p => exact lays_throw _

/-! ### What may stop a writer -/

/-- The declaration is the other one, or it holds it. -/
inductive Holds : Decl → Decl → Prop
  | self (d : Decl) : Holds d d
  | member {form head members member part} (hmem : member ∈ members) (h : Holds member part) :
      Holds (.group form head members) part

/-- The declaration is a part that only its owner writes. -/
def IsPart : Decl → Prop
  | .element _ | .parameter _ => True
  | _ => False

/-- Why a declaration without parts that stand alone stops its writer: a wrapper has no plan, or a size is too long. -/
inductive Stopped (d : Decl) : Fault → Prop
  | unplanned {w : Method} (h : Holds d (.unplanned w)) : Stopped d .missingPart
  | long (h : HoldsLong d) : Stopped d .longNumber

theorem onlyFails_of_exists {α : Type} {P : Fault → Prop} {result : Except Fault α} (h : ∃ a, result = .ok a) :
    OnlyFails P result := by
  obtain ⟨a, rfl⟩ := h
  exact .ok a

theorem numeral_stopped {size : Int} (h : Text.hasDecimal size.natAbs = false → HoldsLong d) :
    OnlyFails (Stopped d) (numeral size) := by
  unfold numeral
  split
  · exact .ok _
  · next hsize => exact .error (.long (h (by simpa using hsize)))

theorem decl_stopped (hfinite : Finite s d) (hparts : ∀ part, Holds d part → ¬ IsPart part) :
    OnlyFails (Stopped d) (decl s d) := by
  induction hfinite with
  | group _ ih =>
    refine (decls_fails_of (fun member hmem => ?_) none).bind fun _ => .ok _
    refine (ih member hmem fun part hpart => hparts part (.member hmem hpart)).mono fun fault hstopped => ?_
    cases hstopped with
    | unplanned h => exact .unplanned (.member hmem h)
    | long h => exact .long (.member hmem h)
  | enum e => exact .ok _
  | single h => exact (onlyFails_of_exists h).bind fun _ => .ok _
  | buffer h =>
    exact (onlyFails_of_exists h).bind fun _ => (numeral_stopped fun hsize => .buffer hsize).bind fun _ => .ok _
  | constant h => exact (onlyFails_of_exists h).bind fun _ => .ok _
  | method h | delegate h => exact (onlyFails_of_exists (exists_signature h)).bind fun _ => .ok _
  | @accessor a h =>
    obtain ⟨head, reach⟩ := a
    refine OnlyFails.bind ?_ fun _ => .ok _
    cases reach with
    | list elements size inPlace =>
      exact (onlyFails_of_exists h).bind fun _ => (numeral_stopped fun hsize => .list hsize).bind fun _ => .ok _
    | vector elementName => exact (onlyFails_of_exists h).bind fun _ => .ok _
    | field type => exact (onlyFails_of_exists h).bind fun _ => .ok _
  | wrapper h =>
    obtain ⟨code, hcode, -⟩ := exists_wrapper h
    exact (onlyFails_of_exists ⟨code, hcode⟩).bind fun _ => .ok _
  | unplanned h => exact (onlyFails_of_exists h).bind fun _ => .error (.unplanned (.self _))
  | element e => exact absurd trivial (hparts _ (.self _))
  | parameter p => exact absurd trivial (hparts _ (.self _))

/-! ### Writing at any depth -/

/--
A declaration of any shape whose types are spelled is written by calls that nest, also where its writer stops; they lay
its code out at every depth. A declaration without parts that stand alone stops its writer only by a wrapper that has no
plan or a size that is too long to be written.
-/
theorem write_nests (hfinite : Finite s d) :
    ∃ made, (∀ log, (write s d).runOn log = ((decl s d).map fun _ => (), log ++ made)) ∧ Nests made ∧
      (∀ code, decl s d = .ok code → ∀ b, emitAll code b = performAll made b) ∧
      ((∀ part, Holds d part → ¬ IsPart part) → ∀ fault, decl s d = .error fault → Stopped d fault) := by
  obtain ⟨made, hmatched, hrun, hcode⟩ := lays_write hfinite
  refine ⟨made, hrun, hmatched.nests, fun code h b => ?_, fun hparts fault h => ?_⟩
  · rw [hcode code h, performAll_callsOf]
  · exact decl_stopped hfinite hparts fault h

/-- A type and a pointer to it. -/
def sizeContext : Symbols :=
  { Symbols.ofSettings {} with
    arena := { handle := "IntPtr", entries := #[.named "ImVec2" false, .pointer ⟨0⟩] } }

/-- A wrapper that pins what it passes on. -/
def pinningWrapper : Wrapper where
  head := { name := "Measure", modifiers := ["public"] }
  entryPoint := "igMeasure"
  nativeClass := "GuiNative"
  marshaling :=
    { managed := [{ type := .ref ⟨0⟩, name := "size", modifier := "ref" }]
      native := ["native_size"]
      fixed := [.pinned "size" (.ref ⟨0⟩)] }

/-- A class of a documented field and the wrapper. -/
def pinningClass : Decl :=
  .group .plainClass { name := "Gui", modifiers := ["public"] }
    [.field (.single { name := "Last", modifiers := ["public"], attached := some "so far" } (.ref ⟨1⟩)),
      .wrapper pinningWrapper]

/-- Its lines one level below the left. -/
def pinningLines : List String :=
  ["    public class Gui", "    \x7b", "        /// <summary>", "        /// so far", "        /// </summary>",
    "        public ImVec2* Last;", "", "        public void Measure(ref ImVec2 size)", "        \x7b",
    "            fixed (ImVec2* native_size = &size)", "            \x7b",
    "                GuiNative.igMeasure(native_size);", "            \x7d", "        \x7d", "    \x7d"]

theorem write_nests_pinning :
    Finite sizeContext pinningClass ∧ (∀ part, Holds pinningClass part → ¬ IsPart part) ∧
    ∃ made, (∀ log, (write sizeContext pinningClass).runOn log = (.ok (), log ++ made)) ∧ Nests made ∧
      (performAll made { depth := 1 }).lines.toList = pinningLines := by
  have hpointer : HasSpelling sizeContext (.ref ⟨1⟩) := ⟨"ImVec2*", by decide +kernel⟩
  have hvalue : HasSpelling sizeContext (.ref ⟨0⟩) := ⟨"ImVec2", by decide +kernel⟩
  have hwrapper : FiniteWrapper sizeContext pinningWrapper :=
    { result := ⟨"void", rfl⟩
      managed := List.forall_mem_singleton.mpr hvalue
      before := fun _ hmem => absurd hmem List.not_mem_nil
      fixed := List.forall_mem_singleton.mpr hvalue
      after := fun _ hmem => absurd hmem List.not_mem_nil }
  have hfinite : Finite sizeContext pinningClass :=
    .group (List.forall_mem_cons.mpr ⟨.single hpointer, List.forall_mem_singleton.mpr (.wrapper hwrapper)⟩)
  have hparts : ∀ part, Holds pinningClass part → ¬ IsPart part := by
    intro part hholds
    cases hholds with
    | self => exact id
    | member hmem h =>
      rcases List.mem_pair.mp hmem with rfl | rfl <;> cases h <;> exact id
  have hlines : (decl sizeContext pinningClass).toOption.map
      (fun code => (emitAll code { depth := 1 }).lines.toList) = some pinningLines := by decide +kernel
  obtain ⟨made, hrun, hnests, hcode, -⟩ := write_nests hfinite
  cases hdecl : decl sizeContext pinningClass with
  | error fault =>
    rw [hdecl] at hlines
    cases hlines
  | ok code =>
    rw [hdecl] at hlines
    refine ⟨hfinite, hparts, made, fun log => by rw [hrun, hdecl]; rfl, hnests, ?_⟩
    rw [← hcode code hdecl]
    exact Option.some.inj hlines

end InteropGen.Render

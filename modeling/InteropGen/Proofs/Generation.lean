import InteropGen.Proofs.Configurations
import InteropGen.Proofs.DeclaredTypes
import InteropGen.Proofs.Decoding
import InteropGen.Proofs.FiniteSpelling
import InteropGen.Run

/-!
# Generating a document that the schema accepts

A configuration is generated from a document in two parts: its declarations are built, and the files that
they are placed in are written. `justified_bindings` and `fileText_fails` say why each part fails. In a
document that the schema accepts, a pointer or an array has its inner type, and a spelling without an end
needs a typedef that reaches itself. What is left are the failures that `Breakdown` lists
(`generate_fails_only`).
-/

namespace InteropGen.Generate

open Metadata Decl Build Symbols Files Relation

variable {document : Metadata} {documents : List Metadata} {s s' : Symbols} {b : Bindings}
  {nativeClass : String} {α : Type} {state : RunState} {project : Project} {config : Configuration}

/-! ### Documents that the schema accepts -/

/--
What can stop a configuration although the schema accepts its document: the file system refuses a path, a
synonym lacks its inner type, the bounds of an array of floats are digits without a value, a typedef
reaches itself, or the size of an array has too many digits to be written out.
-/
inductive Breakdown (documents : List Metadata) (document : Metadata) : Failure → Prop
  | refused (error : PathError) : Breakdown documents document (.refused error)
  | hollow {t} (h : Mentions document t) (hkind : t.kind = .synonym) (hinner : t.inner = none) :
      Breakdown documents document (.fault .missingType)
  | digits {function argument info text} (hfunction : function ∈ document.functions)
      (hargument : argument ∈ function.arguments) (hinfo : argument.info = some info)
      (h : DigitBound info.type text) : Breakdown documents document (.fault (.unreadableBound text))
  | endless {name} (h : TransGen (AliasOf documents) name name) :
      Breakdown documents document (.fault .endlessSpelling)
  | long : Breakdown documents document (.fault .longNumber)

/-- In a document that the schema accepts, only a synonym lacks its inner type. -/
theorem Hollow.synonym {t : NativeType} (h : Hollow t) (hformed : t.Formed) : t.kind = .synonym := by
  cases hformed with
  | mk _ hneeds =>
    rcases h.kind with hkind | hkind | hkind
    · have hinner := hneeds (.inl hkind)
      simp [h.inner] at hinner
    · have hinner := hneeds (.inr hkind)
      simp [h.inner] at hinner
    · exact hkind

theorem Cause.breakdown {settings : Settings} {fault : Fault} (hdocument : document.Formed)
    (hpath : Path documents (ofSettings settings) s) (h : Cause document s fault) :
    Breakdown documents document (.fault fault) := by
  cases h with
  | hollow ht hhollow => exact .hollow ht (hhollow.synonym (ht.formed hdocument)) hhollow.inner
  | digits hfunction hargument hinfo h => exact .digits hfunction hargument hinfo h
  | long => exact .long
  | @endless id hid hspelling =>
    have hranked : Ranked documents s := (ranked_ofSettings settings documents).path hpath
    by_contra hnone
    have hacyclic : s.arena.Acyclic := hranked.acyclic fun name hcycle => hnone (.endless hcycle)
    obtain ⟨text, htext⟩ := hacyclic.exists_spells hranked.wellFormed hid
    have hspells : s.spellId id = .ok text := spellId_eq_ok_iff.mpr htext
    simp [spellId, hspelling] at hspells

/-! ### Steps of a run -/

/-- What the steps of a run fail with is a breakdown, whatever state they end in. -/
abbrev BreaksDown (documents : List Metadata) (document : Metadata) (state : RunState) (steps : Run α) :
    Prop :=
  Explained (fun _ => True) (fun _ => Breakdown documents document) state steps

theorem breaksDown_change (steps : Change α) :
    BreaksDown documents document state (Run.change steps) := by
  refine .bind (.get trivial) fun before _ _ _ => ?_
  refine .bind ⟨trivial, .ok ()⟩ fun _ _ _ _ => ?_
  split
  · exact .pure trivial _
  · exact .throw trivial (.refused _)

theorem breaksDown_writeSource {file : Render.SourceFile} (directory : String)
    (h : OnlyFails (fun fault => Breakdown documents document (.fault fault))
      (Render.fileText s file)) :
    BreaksDown documents document state (Run.writeSource s directory file) := by
  refine .bind (breaksDown_change _) fun _ _ _ _ => ?_
  split
  · exact .bind (breaksDown_change _) fun _ _ _ _ => .pure trivial _
  · next fault hfault => exact .throw trivial (h fault hfault)

theorem breaksDown_build {steps : Build Symbols α}
    (h : OnlyFails (fun fault => Breakdown documents document (.fault fault)) (steps.runOn s).1) :
    BreaksDown documents document state (Run.build steps s) := by
  unfold Run.build
  dsimp only
  refine .bind (.modify trivial) fun _ _ _ _ => ?_
  split
  · exact .pure trivial _
  · next fault hfault => exact .throw trivial (h fault hfault)

theorem RunOf.mono {settings : Settings} {more : List Metadata} (h : RunOf settings documents s)
    (hsub : documents ⊆ more) : RunOf settings more s := by
  induction h with
  | start => exact .start
  | next _ nativeClass hmetadata ih => exact .next ih nativeClass (hsub hmetadata)

/-! ### Configurations -/

/-- What building a document fails with is a breakdown, after any run. -/
theorem breakdown_bindings {settings : Settings} (hdocument : document.Formed)
    (hstart : RunOf settings documents s) (hmem : document ∈ documents) :
    OnlyFails (fun fault => Breakdown documents document (.fault fault))
      ((bindings nativeClass document).runOn s.beginConfiguration).1 := by
  have hs := sound_beginConfiguration (travels_of_runOf hstart).1
  have hpath := (travels_of_runOf (hstart.next nativeClass hmem)).2
  intro fault hfault
  exact ((justified_bindings nativeClass document hs).fails fault hfault).breakdown hdocument hpath

/-- The files of a document have texts, but for spellings without an end and sizes that are too long. -/
theorem sources_fail (hs : s.Sound)
    (hrun : (bindings nativeClass document).runOn s.beginConfiguration = (.ok b, s'))
    (config : Configuration) :
    ∀ file ∈ sources config b s',
      OnlyFails (Unwritten s' (∃ d ∈ file.decls, HoldsLong d)) (Render.fileText s' file) := by
  have hbegun := sound_beginConfiguration hs
  obtain ⟨hbindings, hdelegates⟩ := knows_bindings hbegun rfl hrun
  have hs' : ((bindings nativeClass document).runOn s.beginConfiguration).2.Sound :=
    (justified_bindings nativeClass document hbegun).keeps
  rw [hrun] at hs'
  refine List.forall_mem_map.mpr fun file hfile => fileText_fails hs' ?_
  exact writable_tidyFile (writable_placeFiles hbindings hdelegates file hfile)

/-- What writing a file of a document fails with is a breakdown. -/
theorem breakdown_files {settings : Settings} (hdocument : document.Formed)
    (hstart : RunOf settings documents s) (hmem : document ∈ documents)
    (hrun : (bindings nativeClass document).runOn s.beginConfiguration = (.ok b, s'))
    (config : Configuration) :
    ∀ file ∈ sources config b s',
      OnlyFails (fun fault => Breakdown documents document (.fault fault)) (Render.fileText s' file) := by
  have hafter := hstart.next nativeClass hmem
  rw [hrun] at hafter
  have hpath := (travels_of_runOf hafter).2
  intro file hfile fault hfault
  cases sources_fail (travels_of_runOf hstart).1 hrun config file hfile fault hfault with
  | unspelled h =>
    have hcause : Cause document s' fault := h.cause
    exact hcause.breakdown hdocument hpath
  | long => exact .long

/-- A document whose only function returns a synonym without an inner type. -/
def hollowText : String :=
  "\x7b\"defines\": [], \"enums\": [], \"typedefs\": [], \"structs\": [], \"functions\": [\x7b" ++
    "\"name\": \"ImGui_Show\", \"return_type\": \x7b\"description\": " ++
    "\x7b\"kind\": \"Type\", \"name\": \"ImHollow\"\x7d\x7d, \"arguments\": []\x7d]\x7d"

/-- A new run with nothing but the file of the document. -/
def hollowState : RunState := { tree := { files := [(["a.json"], .text hollowText)] } }

/-- A project with the document's file in the current directory. -/
def hollowProject : Project := { metadataRoot := "", outputRoot := "out" }

/-- A configuration for the document. -/
def hollowConfiguration : Configuration where
  metadataFile := "a.json"
  namespaceName := "N"
  mainClass := "Main"
  nativeClass := "Native"

/-- The value of the document. -/
def hollowValue : Json.Value :=
  .object [("defines", .array []), ("enums", .array []), ("typedefs", .array []), ("structs", .array []),
    ("functions", .array [.object [("name", .text "ImGui_Show"),
      ("return_type", .object [("description", .object [("kind", .text "Type"), ("name", .text "ImHollow")])]),
      ("arguments", .array [])]])]

set_option maxRecDepth 2000 in
theorem read_hollowText : Json.Value.read hollowText = .ok hollowValue := by
  apply Json.Value.read_of_toList
  · unfold hollowText
    repeat' first | with_reducible exact String.toList_ofList | apply Text.toList_append_eq
  · rfl

/-- The fault that a run ended with. -/
def faultOf? : Except Failure α → Option Fault
  | .error (.fault fault) => some fault
  | _ => none

theorem faultOf?_eq_some {outcome : Except Failure α} {fault : Fault}
    (h : faultOf? outcome = some fault) : outcome = .error (.fault fault) := by
  unfold faultOf? at h
  split at h
  · obtain rfl := Option.some.inj h
    rfl
  · simp at h

theorem contents_hollowState :
    hollowState.tree.contents (joinPath hollowProject.metadataRoot hollowConfiguration.metadataFile) =
      .ok (.text hollowText) := rfl

theorem fault_hollow : faultOf? ((ExceptT.run (Run.generate hollowProject hollowConfiguration)).run
    hollowState).1 = some .missingType := by
  rw [run_generate, metadataPath, readOutcome_of_read contents_hollowState read_hollowText]
  decide +kernel

end InteropGen.Generate

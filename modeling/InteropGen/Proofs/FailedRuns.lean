import InteropGen.Proofs.Generation

/-!
# What a failed configuration leaves behind

A configuration reads its document, builds the bindings and only then writes files. `Fails` says for each of
these parts how it fails and what is left. A document that cannot be read leaves the files and the symbols as
they were, and bindings that cannot be built leave the files. Once files are written, a path may be refused or
a file may have no text (`WriteFails`), the latter only because a spelling has no end or a number has too many
digits (`sources_fail`). `fails_of_run` says that there are no other failures.
-/

namespace InteropGen.Generate

open Metadata Decl Build Symbols Files

variable {document : Metadata} {s s' : Symbols} {b : Bindings} {α β : Type} {failure : Failure}
  {state after : RunState} {project : Project} {config : Configuration} {directory : String}
  {file : Render.SourceFile} {files : List Render.SourceFile}

/-! ### Steps that fail -/

/-- Two steps fail exactly if the first fails, or ends well and the second fails from there. -/
theorem run_bind_eq_error {ε σ : Type} {steps : ExceptT ε (StateM σ) α}
    {next : α → ExceptT ε (StateM σ) β} {state after : σ} {e : ε} :
    (ExceptT.run (steps >>= next)).run state = (.error e, after) ↔
      (ExceptT.run steps).run state = (.error e, after) ∨
        ∃ a middle, (ExceptT.run steps).run state = (.ok a, middle) ∧
          (ExceptT.run (next a)).run middle = (.error e, after) := by
  rw [run_bind]
  constructor
  · intro h
    rcases hrun : (ExceptT.run steps).run state with ⟨e' | a, middle⟩ <;> rw [hrun] at h
    · cases h
      exact .inl rfl
    · exact .inr ⟨a, middle, rfl, h⟩
  · rintro (hrun | ⟨a, middle, hrun, h⟩) <;> rw [hrun]
    exact h

theorem error_change {steps : Change α}
    (hrun : (ExceptT.run (Run.change steps)).run state = (.error failure, after)) :
    ∃ error tree, (ExceptT.run steps).run state.tree = (.error error, tree) ∧
      failure = .refused error ∧ after = { state with tree := tree } := by
  rw [run_change_eq] at hrun
  rcases hsteps : (ExceptT.run steps).run state.tree with ⟨error | a, tree⟩ <;> rw [hsteps] at hrun
  · cases hrun
    exact ⟨error, tree, rfl, rfl, rfl⟩
  · cases hrun

/-! ### Writing -/

/-- The steps that make an empty source file. -/
def openSource (directory : String) (file : Render.SourceFile) : Change Unit := do
  Change.makeDirectories (sourceDirectory directory file) true
  Change.writeFile (sourcePath directory file) (.text "")

/-- Why a source file is not written, and the files then: a path is refused, or the new file stays empty. -/
inductive WriteFails (s : Symbols) (directory : String) (file : Render.SourceFile) (tree : Tree) :
    Failure → Tree → Prop
  | refused {text error tree'}
      (hplace : (ExceptT.run (placeSource directory file text)).run tree = (.error error, tree')) :
      WriteFails s directory file tree (.refused error) tree'
  | textless {fault tree'} (htext : Render.fileText s file = .error fault)
      (hopen : (ExceptT.run (openSource directory file)).run tree = (.ok (), tree')) :
      WriteFails s directory file tree (.fault fault) tree'

theorem error_writeSource
    (hrun : (ExceptT.run (Run.writeSource s directory file)).run state = (.error failure, after)) :
    ∃ tree, WriteFails s directory file state.tree failure tree ∧
      after = { state with tree := tree } := by
  -- Placing a file is opening it and writing its text, whatever the text is.
  have hplace : ∀ text, placeSource directory file text = (openSource directory file >>= fun _ =>
      Change.writeFile (sourcePath directory file) (.text text)) := by
    intro text
    unfold placeSource openSource
    rw [bind_assoc]
  rcases run_bind_eq_error.mp hrun with hchange | ⟨⟨⟩, middle, hchange, hrun⟩
  · obtain ⟨error, tree, hopen, rfl, rfl⟩ := error_change hchange
    have hrefused : (ExceptT.run (placeSource directory file "")).run state.tree =
        (.error error, tree) := by
      rw [hplace]
      exact run_bind_eq_error.mpr (.inl hopen)
    exact ⟨tree, .refused hrefused, rfl⟩
  · obtain ⟨tree, hopen, rfl⟩ := ok_change hchange
    cases htext : Render.fileText s file with
    | error fault =>
      rw [htext] at hrun
      cases hrun
      exact ⟨tree, .textless htext hopen, rfl⟩
    | ok text =>
      rw [htext] at hrun
      rcases run_bind_eq_error.mp hrun with hchange | ⟨⟨⟩, written, -, hpure⟩
      · obtain ⟨error, tree', hwrite, rfl, rfl⟩ := error_change hchange
        have hrefused : (ExceptT.run (placeSource directory file text)).run state.tree =
            (.error error, tree') := by
          rw [hplace]
          exact run_bind_eq_error.mpr (.inr ⟨(), tree, hopen, hwrite⟩)
        exact ⟨tree', .refused hrefused, rfl⟩
      · cases hpure

/-- Files are written in order up to one that is not. -/
theorem error_writeSources
    (hrun : (ExceptT.run (files.mapM (Run.writeSource s directory))).run state =
      (.error failure, after)) :
    ∃ earlier file later middle tree, files = earlier ++ file :: later ∧
      Writes s directory state.tree earlier middle ∧ WriteFails s directory file middle failure tree ∧
      after = { state with tree := tree } := by
  induction files generalizing state with
  | nil =>
    rw [List.mapM_nil] at hrun
    cases hrun
  | cons first files ih =>
    rw [List.mapM_cons] at hrun
    rcases run_bind_eq_error.mp hrun with hfirst | ⟨path, middle, hfirst, hrest⟩
    · obtain ⟨tree, hfails, rfl⟩ := error_writeSource hfirst
      exact ⟨[], first, files, state.tree, tree, rfl, .nil _, hfails, rfl⟩
    · obtain ⟨rfl, text, tree, htext, hplace, rfl⟩ := ok_writeSource hfirst
      rcases run_bind_eq_error.mp hrest with hothers | ⟨paths, _, -, hpure⟩
      · obtain ⟨earlier, file, later, middle, tree', rfl, hwrites, hfails, rfl⟩ := ih hothers
        exact ⟨first :: earlier, file, later, middle, tree', rfl, .cons htext hplace hwrites, hfails,
          rfl⟩
      · cases hpure

/-! ### Configurations -/

/-- How a configuration fails, and what it leaves behind. -/
inductive Fails (project : Project) (config : Configuration) (state after : RunState) : Failure → Prop
  | loading {failure : Failure}
      (hread : readOutcome state.tree (metadataPath project config) = .error failure)
      (htree : after.tree = state.tree)
      (hsymbols : after.symbols = some (foundSymbols project state)) :
      Fails project config state after failure
  | building {document : Metadata} {fault : Fault} {s : Symbols}
      (hread : readOutcome state.tree (metadataPath project config) = .ok document)
      (hbuild : (bindings config.nativeClass document).runOn (startSymbols project state) =
        (.error fault, s))
      (htree : after.tree = state.tree) (hsymbols : after.symbols = some s) :
      Fails project config state after (.fault fault)
  | writing {document : Metadata} {b : Bindings} {s : Symbols} {earlier later : List Render.SourceFile}
      {file : Render.SourceFile} {middle : Tree} {failure : Failure}
      (hread : readOutcome state.tree (metadataPath project config) = .ok document)
      (hbuild : (bindings config.nativeClass document).runOn (startSymbols project state) =
        (.ok b, s))
      (hfiles : sources config b s = earlier ++ file :: later)
      (hwrites : Writes s (outputDirectory project config) state.tree earlier middle)
      (hfile : WriteFails s (outputDirectory project config) file middle failure after.tree)
      (hfault : ∀ fault, failure = .fault fault → Unwritten s (∃ d ∈ file.decls, HoldsLong d) fault)
      (hsymbols : after.symbols = some s) : Fails project config state after failure

end InteropGen.Generate

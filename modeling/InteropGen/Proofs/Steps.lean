import InteropGen.Build
import Mathlib.Data.List.Forall2
import Mathlib.Order.Defs.Unbundled

/-!
# Reasoning about steps that may fail

A run of a `Build` is a pair of an outcome and a state. The `runOn_*` lemmas say what the parts of a
`do` block do to the pair, and `ok_bind` takes a successful run of two steps apart: the first ended
well in some state, and the second started there.

`Preserves R build` says that the steps take every state to one that `R` relates it to, whatever the
outcome. For a preorder `R` it passes from the parts of a block to the block, so that a property of
all states on the way is proved once for each table operation and never again for the generators
built from them.
-/

namespace InteropGen.Build

variable {σ τ α β : Type}

/-! ### Steps that cannot fail -/

theorem state_get (s : σ) : (get : StateM σ σ) s = (s, s) := rfl

theorem state_bind (steps : StateM σ α) (next : α → StateM σ β) (s : σ) :
    (steps >>= next) s = next (steps s).1 (steps s).2 := rfl

/-! ### Runs of the parts of a block -/

@[simp] theorem runOn_pure (a : α) (s : σ) : runOn (pure a : Build σ α) s = (.ok a, s) := rfl

@[simp] theorem runOn_throw (fault : Fault) (s : σ) :
    runOn (throw fault : Build σ α) s = (.error fault, s) := rfl

@[simp] theorem runOn_get (s : σ) : runOn (get : Build σ σ) s = (.ok s, s) := rfl

/-- Steps that cannot fail end well. -/
@[simp] theorem runOn_lift (steps : StateM σ α) (s : σ) :
    runOn (liftM steps : Build σ α) s = (.ok (steps s).1, (steps s).2) := rfl

/-- A failure of the first steps is the failure of both. -/
theorem run_bind {ε : Type} (steps : ExceptT ε (StateM σ) α) (next : α → ExceptT ε (StateM σ) β)
    (s : σ) :
    (ExceptT.run (steps >>= next)).run s =
      match (ExceptT.run steps).run s with
      | (.ok a, after) => (ExceptT.run (next a)).run after
      | (.error e, after) => (.error e, after) := by
  rw [ExceptT.run_bind]
  show (StateT.run (ExceptT.run steps >>= _) s) = _
  rw [StateT.run_bind]
  show (match StateT.run (ExceptT.run steps) s with | (a, after) => _) = _
  rcases StateT.run (ExceptT.run steps) s with ⟨_ | a, after⟩ <;> rfl

theorem run_bind_ok {ε : Type} {steps : ExceptT ε (StateM σ) α} {next : α → ExceptT ε (StateM σ) β}
    {s after : σ} {a : α} (h : (ExceptT.run steps).run s = (.ok a, after)) :
    (ExceptT.run (steps >>= next)).run s = (ExceptT.run (next a)).run after := by
  rw [run_bind, h]

theorem runOn_bind (build : Build σ α) (next : α → Build σ β) (s : σ) :
    runOn (build >>= next) s =
      match build.runOn s with
      | (.ok a, after) => (next a).runOn after
      | (.error fault, after) => (.error fault, after) := by
  rw [runOn, run_bind]
  unfold runOn
  rcases (ExceptT.run build).run s with ⟨_ | a, after⟩ <;> rfl

theorem runOn_bind_ok {build : Build σ α} {next : α → Build σ β} {s after : σ} {a : α}
    (h : build.runOn s = (.ok a, after)) :
    runOn (build >>= next) s = (next a).runOn after :=
  run_bind_ok h

/-- Two steps end well exactly if the first ends well and the second does from there. -/
theorem run_bind_eq_ok {ε : Type} {steps : ExceptT ε (StateM σ) α}
    {next : α → ExceptT ε (StateM σ) β} {s after : σ} {b : β} :
    (ExceptT.run (steps >>= next)).run s = (.ok b, after) ↔
      ∃ a middle, (ExceptT.run steps).run s = (.ok a, middle) ∧
        (ExceptT.run (next a)).run middle = (.ok b, after) := by
  rw [run_bind]
  constructor
  · intro h
    rcases hrun : (ExceptT.run steps).run s with ⟨_ | a, middle⟩
    · rw [hrun] at h
      cases h
    · rw [hrun] at h
      exact ⟨a, middle, rfl, h⟩
  · rintro ⟨a, middle, hrun, h⟩
    rw [hrun]
    exact h

theorem ok_bind {build : Build σ α} {next : α → Build σ β} {s after : σ} {b : β} :
    runOn (build >>= next) s = (.ok b, after) ↔
      ∃ a middle, build.runOn s = (.ok a, middle) ∧ (next a).runOn middle = (.ok b, after) :=
  run_bind_eq_ok

theorem ok_pure {a b : α} {s after : σ} :
    runOn (pure a : Build σ α) s = (.ok b, after) ↔ a = b ∧ s = after := by
  rw [runOn_pure, Prod.mk.injEq, Except.ok.injEq]

theorem ok_get {s read after : σ} :
    runOn (get : Build σ σ) s = (.ok read, after) ↔ s = read ∧ s = after := by
  rw [runOn_get, Prod.mk.injEq, Except.ok.injEq]

theorem ok_lift {steps : StateM σ α} {s after : σ} {a : α} :
    runOn (liftM steps : Build σ α) s = (.ok a, after) ↔ (steps s).1 = a ∧ (steps s).2 = after := by
  rw [runOn_lift, Prod.mk.injEq, Except.ok.injEq]

theorem ok_ofOption {fault : Fault} {o : Option α} {a : α} {s after : σ} :
    runOn (ofOption fault o : Build σ α) s = (.ok a, after) ↔ o = some a ∧ s = after := by
  cases o with
  | none => simp [ofOption]
  | some b => simp [ofOption]

theorem ok_ofExcept {outcome : Except Fault α} {a : α} {s after : σ} :
    runOn (ofExcept outcome : Build σ α) s = (.ok a, after) ↔ outcome = .ok a ∧ s = after := by
  cases outcome with
  | error fault => simp [ofExcept]
  | ok b => simp [ofExcept]

theorem except_bind_ok {ε : Type} {outcome : Except ε α} {next : α → Except ε β} {b : β} :
    outcome >>= next = .ok b ↔ ∃ a, outcome = .ok a ∧ next a = .ok b := by
  cases outcome with
  | error fault => simp [bind, Except.bind]
  | ok a => simp [bind, Except.bind]

theorem except_mapM_ok {ε : Type} {step : α → Except ε β} {items : List α} {outcomes : List β} :
    items.mapM step = .ok outcomes ↔
      List.Forall₂ (fun item outcome => step item = .ok outcome) items outcomes := by
  induction items generalizing outcomes with
  | nil =>
    rw [List.mapM_nil, List.forall₂_nil_left_iff]
    exact ⟨fun h => (Except.ok.inj h).symm, fun h => congrArg _ h.symm⟩
  | cons item rest ih =>
    rw [List.mapM_cons, List.forall₂_cons_left_iff, except_bind_ok]
    constructor
    · rintro ⟨outcome, houtcome, hrest⟩
      obtain ⟨others, hothers, hpure⟩ := except_bind_ok.mp hrest
      exact ⟨outcome, others, houtcome, ih.mp hothers, (Except.ok.inj hpure).symm⟩
    · rintro ⟨outcome, others, houtcome, hothers, rfl⟩
      exact ⟨outcome, houtcome, except_bind_ok.mpr ⟨others, ih.mpr hothers, rfl⟩⟩

theorem toOption_eq_some {outcome : Except Fault α} {a : α} :
    outcome.toOption = some a ↔ outcome = .ok a := by
  cases outcome <;> simp [Except.toOption]

theorem runOn_focus (read : τ → σ) (write : τ → σ → τ) (build : Build σ α) (whole : τ) :
    runOn (focus read write build) whole =
      ((build.runOn (read whole)).1, write whole (build.runOn (read whole)).2) := rfl

theorem ok_focus {read : τ → σ} {write : τ → σ → τ} {build : Build σ α} {whole after : τ} {a : α} :
    runOn (focus read write build) whole = (.ok a, after) ↔
      ∃ part, build.runOn (read whole) = (.ok a, part) ∧ after = write whole part := by
  rw [runOn_focus]
  rcases build.runOn (read whole) with ⟨outcome, part⟩
  simp only [Prod.mk.injEq]
  constructor
  · rintro ⟨rfl, rfl⟩
    exact ⟨part, ⟨rfl, rfl⟩, rfl⟩
  · rintro ⟨part', ⟨rfl, rfl⟩, rfl⟩
    exact ⟨rfl, rfl⟩

/-- A run that is known to end well, by what is read off its outcome and the state it reached. -/
theorem run_exists_ok {ε : Type} (steps : ExceptT ε (StateM σ) α) (s : σ) (read : α → σ → β) {b : β}
    (h : ((ExceptT.run steps).run s).1.toOption.map (read · ((ExceptT.run steps).run s).2) = some b) :
    ∃ a after, (ExceptT.run steps).run s = (.ok a, after) ∧ read a after = b := by
  rcases hrun : (ExceptT.run steps).run s with ⟨_ | a, after⟩
  · rw [hrun] at h
    cases h
  · rw [hrun] at h
    exact ⟨a, after, rfl, Option.some.inj h⟩

theorem exists_ok (build : Build σ α) (s : σ) (read : α → σ → β) {b : β}
    (h : (build.runOn s).1.toOption.map (read · (build.runOn s).2) = some b) :
    ∃ a after, build.runOn s = (.ok a, after) ∧ read a after = b :=
  run_exists_ok build s read h

/-! ### What holds of all states on the way -/

/-- The steps take every state to one that it is related to, whatever the outcome. -/
def Preserves (R : σ → σ → Prop) (build : Build σ α) : Prop := ∀ s, R s (build.runOn s).2

namespace Preserves

variable {R : σ → σ → Prop}

theorem of_ok {build : Build σ α} (h : Preserves R build) {s after : σ} {a : α}
    (hrun : build.runOn s = (.ok a, after)) : R s after := by
  have hR := h s
  rw [hrun] at hR
  exact hR

theorem mono {S : σ → σ → Prop} {build : Build σ α} (hR : ∀ s s', R s s' → S s s')
    (h : Preserves R build) : Preserves S build :=
  fun s => hR s _ (h s)

theorem pure [Std.Refl R] (a : α) : Preserves R (pure a : Build σ α) := fun s => Std.Refl.refl s

theorem throw [Std.Refl R] (fault : Fault) : Preserves R (throw fault : Build σ α) :=
  fun s => Std.Refl.refl s

theorem get [Std.Refl R] : Preserves R (get : Build σ σ) := fun s => Std.Refl.refl s

theorem modify {f : σ → σ} (h : ∀ s, R s (f s)) : Preserves R (modify f : Build σ Unit) := h

theorem lift {steps : StateM σ α} (h : ∀ s, R s (steps s).2) :
    Preserves R (liftM steps : Build σ α) := h

theorem ofOption [Std.Refl R] (fault : Fault) (o : Option α) :
    Preserves R (ofOption fault o : Build σ α) := by
  cases o with
  | none => exact throw fault
  | some a => exact pure a

theorem ofExcept [Std.Refl R] (outcome : Except Fault α) :
    Preserves R (ofExcept outcome : Build σ α) := by
  cases outcome with
  | error fault => exact throw fault
  | ok a => exact pure a

theorem bind [IsTrans σ R] {build : Build σ α} {next : α → Build σ β} (h : Preserves R build)
    (hnext : ∀ a, Preserves R (next a)) : Preserves R (build >>= next) := by
  intro s
  have hfirst := h s
  rw [runOn_bind]
  revert hfirst
  rcases build.runOn s with ⟨_ | a, middle⟩ <;> intro hfirst
  · exact hfirst
  · exact IsTrans.trans s middle _ hfirst (hnext a middle)

theorem mapM [Std.Refl R] [IsTrans σ R] {step : α → Build σ β} {items : List α}
    (h : ∀ item ∈ items, Preserves R (step item)) : Preserves R (items.mapM step) := by
  induction items with
  | nil =>
    rw [List.mapM_nil]
    exact pure _
  | cons item items ih =>
    rw [List.mapM_cons]
    exact bind (h item List.mem_cons_self) fun _ =>
      bind (ih fun other hother => h other (List.mem_cons_of_mem _ hother)) fun _ => pure _

theorem forM [Std.Refl R] [IsTrans σ R] {step : α → Build σ PUnit} {items : List α}
    (h : ∀ item ∈ items, Preserves R (step item)) : Preserves R (items.forM step) := by
  induction items with
  | nil => exact pure _
  | cons item items ih =>
    show Preserves R (step item >>= fun _ => items.forM step)
    exact bind (h item List.mem_cons_self) fun _ =>
      ih fun other hother => h other (List.mem_cons_of_mem _ hother)

theorem focus {S : τ → τ → Prop} {read : τ → σ} {write : τ → σ → τ} {build : Build σ α}
    (h : Preserves R build) (hS : ∀ whole part, R (read whole) part → S whole (write whole part)) :
    Preserves S (focus read write build) :=
  fun whole => hS whole _ (h (read whole))

end Preserves

end InteropGen.Build

import InteropGen.Proofs.Steps

/-!
# Reasoning about what fails

`OnlyFails P outcome` says that a computation fails only with what `P` holds of, and
`Explained I F s steps` that steps from a state keep an invariant of the state and fail only with what `F`
explains in the state at which they fail. Both pass from the parts of a block to the block; what comes second is looked at only where
the first ended well.
-/

namespace InteropGen

variable {ε σ α β : Type}

/-! ### Computations without a state -/

/-- The computation fails only with what the property holds of. -/
def OnlyFails (P : ε → Prop) (outcome : Except ε α) : Prop := ∀ e, outcome = .error e → P e

namespace OnlyFails

variable {P : ε → Prop} {outcome : Except ε α} {next : α → Except ε β}

theorem ok (a : α) : OnlyFails P (.ok a : Except ε α) := fun _ h => by simp at h

theorem error {e : ε} (h : P e) : OnlyFails P (.error e : Except ε α) := by
  intro other hother
  obtain rfl := Except.error.inj hother
  exact h

theorem mono {Q : ε → Prop} (h : OnlyFails P outcome) (hPQ : ∀ e, P e → Q e) : OnlyFails Q outcome :=
  fun e he => hPQ e (h e he)

theorem bind (h : OnlyFails P outcome) (hnext : ∀ a, OnlyFails P (next a)) :
    OnlyFails P (outcome >>= next) := by
  cases outcome with
  | error e => exact .error (h e rfl)
  | ok a => exact hnext a

theorem mapM {step : α → Except ε β} {items : List α}
    (h : ∀ item ∈ items, OnlyFails P (step item)) : OnlyFails P (items.mapM step) := by
  induction items with
  | nil => exact .ok _
  | cons item items ih =>
    rw [List.mapM_cons]
    exact (h item List.mem_cons_self).bind fun _ =>
      (ih fun other hother => h other (List.mem_cons_of_mem _ hother)).bind fun _ => .ok _

end OnlyFails

/-! ### Steps -/

/-- The steps keep an invariant of the state, and what they fail with is explained. -/
structure Explained (I : σ → Prop) (F : σ → ε → Prop) (s : σ) (steps : ExceptT ε (StateM σ) α) :
    Prop where
  keeps : I ((ExceptT.run steps).run s).2
  fails : OnlyFails (F ((ExceptT.run steps).run s).2) ((ExceptT.run steps).run s).1

namespace Explained

variable {I : σ → Prop} {F : σ → ε → Prop} {s : σ}

theorem pure (h : I s) (a : α) : Explained I F s (pure a : ExceptT ε (StateM σ) α) := ⟨h, .ok a⟩

theorem throw {e : ε} (h : I s) (he : F s e) : Explained I F s (throw e : ExceptT ε (StateM σ) α) :=
  ⟨h, .error he⟩

theorem get (h : I s) : Explained I F s (get : ExceptT ε (StateM σ) σ) := ⟨h, .ok s⟩

theorem modify {f : σ → σ} (h : I (f s)) : Explained I F s (modify f : ExceptT ε (StateM σ) Unit) :=
  ⟨h, .ok ()⟩

theorem lift {steps : StateM σ α} (h : I (steps s).2) :
    Explained I F s (liftM steps : ExceptT ε (StateM σ) α) :=
  ⟨h, .ok (steps s).1⟩

theorem bind {steps : ExceptT ε (StateM σ) α} {next : α → ExceptT ε (StateM σ) β}
    (h : Explained I F s steps)
    (hnext : ∀ a s', (ExceptT.run steps).run s = (.ok a, s') → I s' → Explained I F s' (next a)) :
    Explained I F s (steps >>= next) := by
  obtain ⟨hkeeps, hfails⟩ := h
  have hbind := Build.run_bind steps next s
  rcases hrun : (ExceptT.run steps).run s with ⟨e | a, s'⟩ <;> rw [hrun] at hkeeps hfails hbind
  · refine ⟨?_, ?_⟩ <;> rw [hbind]
    · exact hkeeps
    · exact .error (hfails e rfl)
  · obtain ⟨hkeeps', hfails'⟩ := hnext a s' hrun hkeeps
    refine ⟨?_, ?_⟩ <;> rw [hbind]
    · exact hkeeps'
    · exact hfails'

/-- After steps that are known to end well only the rest counts. -/
theorem after {steps : ExceptT ε (StateM σ) α} {next : α → ExceptT ε (StateM σ) β} {a : α} {s' : σ}
    (hrun : (ExceptT.run steps).run s = (.ok a, s')) (h : Explained I F s' (next a)) :
    Explained I F s (steps >>= next) := by
  refine ⟨?_, ?_⟩ <;> rw [Build.run_bind_ok hrun]
  · exact h.keeps
  · exact h.fails

theorem mapM {step : α → ExceptT ε (StateM σ) β} {items : List α} (hs : I s)
    (h : ∀ item ∈ items, ∀ s, I s → Explained I F s (step item)) :
    Explained I F s (items.mapM step) := by
  induction items generalizing s with
  | nil => exact .pure hs _
  | cons item items ih =>
    rw [List.mapM_cons]
    refine (h item List.mem_cons_self s hs).bind fun first s' _ hs' => ?_
    have hrest := ih hs' fun other hother => h other (List.mem_cons_of_mem _ hother)
    exact hrest.bind fun rest s'' _ hs'' => .pure hs'' _

theorem forM {step : α → ExceptT ε (StateM σ) PUnit} {items : List α} (hs : I s)
    (h : ∀ item ∈ items, ∀ s, I s → Explained I F s (step item)) :
    Explained I F s (items.forM step) := by
  induction items generalizing s with
  | nil => exact .pure hs _
  | cons item items ih =>
    show Explained I F s (step item >>= fun _ => items.forM step)
    refine (h item List.mem_cons_self s hs).bind fun _ s' _ hs' => ?_
    exact ih hs' fun other hother => h other (List.mem_cons_of_mem _ hother)

/-! ### Steps of a build -/

variable {F : σ → Fault → Prop} {fault : Fault}

/-- Steps whose run is known are explained by its outcome. -/
theorem of_run {steps : Build σ α} {outcome : Except Fault α} {s' : σ}
    (hrun : steps.runOn s = (outcome, s')) (hkeeps : I s') (hfails : OnlyFails (F s') outcome) :
    Explained I F s steps := by
  have hrun' : (ExceptT.run steps).run s = (outcome, s') := hrun
  refine ⟨?_, ?_⟩ <;> rw [hrun']
  · exact hkeeps
  · exact hfails

theorem ofOption {o : Option α} (h : I s) (hfault : o = none → F s fault) :
    Explained I F s (Build.ofOption fault o) := by
  cases o with
  | none => exact .throw h (hfault rfl)
  | some a => exact .pure h a

theorem ofExcept {outcome : Except Fault α} (h : I s) (hfails : OnlyFails (F s) outcome) :
    Explained I F s (Build.ofExcept outcome) := by
  cases outcome with
  | error fault => exact .throw h (hfails fault rfl)
  | ok a => exact .pure h a

end Explained

end InteropGen

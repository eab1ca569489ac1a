import InteropGen.Proofs.Steps

/-!
# Steps on changed states

A change of states that steps do not look at passes through them. `Blind φ build` says that the steps do on a state that
`φ` changed what they do on the state itself, and `Commutes φ ψ build build'` compares two different steps: the outcome
of the second is that of the first, changed by `ψ`. Both pass from the parts of a block to the block, so that two runs
are compared generator by generator.
-/

namespace InteropGen

namespace Build

variable {σ τ α β γ δ : Type} {φ : σ → σ} {ψ : α → β} {χ : γ → δ}

/-- On changed states the second steps do what the first do, up to a change of the outcome and of the state. -/
def Commutes (φ : σ → σ) (ψ : α → β) (build : Build σ α) (build' : Build σ β) : Prop :=
  ∀ s, build'.runOn (φ s) = ((build.runOn s).1.map ψ, φ (build.runOn s).2)

/-- The steps do not see that a state is changed. -/
def Blind (φ : σ → σ) (build : Build σ α) : Prop := ∀ s, build.runOn (φ s) = ((build.runOn s).1, φ (build.runOn s).2)

namespace Blind

theorem pure (a : α) : Blind φ (pure a : Build σ α) := fun _ => rfl

theorem throw (fault : Fault) : Blind φ (throw fault : Build σ α) := fun _ => rfl

theorem modify {f : σ → σ} (h : ∀ s, f (φ s) = φ (f s)) : Blind φ (modify f : Build σ Unit) := fun s =>
  congrArg (Except.ok (), ·) (h s)

theorem lift {steps : StateM σ α} (h : ∀ s, steps (φ s) = ((steps s).1, φ (steps s).2)) :
    Blind φ (liftM steps : Build σ α) := fun s => by
  rw [runOn_lift, h, runOn_lift]

theorem ofOption (fault : Fault) (o : Option α) : Blind φ (ofOption fault o : Build σ α) := by
  cases o with
  | none => exact throw fault
  | some a => exact pure a

theorem ofExcept (outcome : Except Fault α) : Blind φ (ofExcept outcome : Build σ α) := by
  cases outcome with
  | error fault => exact throw fault
  | ok a => exact pure a

theorem bind {build : Build σ α} {next : α → Build σ β} (h : Blind φ build) (hnext : ∀ a, Blind φ (next a)) :
    Blind φ (build >>= next) := by
  intro s
  rw [runOn_bind, h s, runOn_bind]
  rcases build.runOn s with ⟨_ | a, middle⟩
  · rfl
  · exact hnext a middle

/-- What is read of a state may be read of the changed one. -/
theorem get_bind {next : σ → Build σ β} (hread : ∀ s, next (φ s) = next s) (hnext : ∀ s, Blind φ (next s)) :
    Blind φ (get >>= next) := by
  intro s
  rw [runOn_bind, runOn_get, runOn_bind, runOn_get]
  exact (congrArg (runOn · (φ s)) (hread s)).trans (hnext s s)

theorem commutes {build : Build σ α} (h : Blind φ build) : Commutes φ id build build := fun s => by
  rw [h s]
  cases (build.runOn s).1 <;> rfl

/-- Blind steps before others. -/
theorem andThen {build : Build σ α} {next : α → Build σ γ} {next' : α → Build σ δ} (h : Blind φ build)
    (hnext : ∀ a, Commutes φ χ (next a) (next' a)) : Commutes φ χ (build >>= next) (build >>= next') := by
  intro s
  rw [runOn_bind, h s, runOn_bind]
  rcases build.runOn s with ⟨_ | a, middle⟩
  · rfl
  · exact hnext a middle

end Blind

namespace Commutes

theorem pure (a : α) : Commutes φ ψ (pure a : Build σ α) (pure (ψ a)) := fun _ => rfl

theorem pure_of_eq {a : α} {b : β} (h : b = ψ a) : Commutes φ ψ (Pure.pure a : Build σ α) (Pure.pure b) := h ▸ pure a

theorem lift {steps : StateM σ α} {steps' : StateM σ β}
    (h : ∀ s, steps' (φ s) = (ψ (steps s).1, φ (steps s).2)) :
    Commutes φ ψ (liftM steps : Build σ α) (liftM steps') := fun s => by
  rw [runOn_lift, h, runOn_lift]
  rfl

theorem bind {build : Build σ α} {build' : Build σ β} {next : α → Build σ γ} {next' : β → Build σ δ}
    (h : Commutes φ ψ build build') (hnext : ∀ a, Commutes φ χ (next a) (next' (ψ a))) :
    Commutes φ χ (build >>= next) (build' >>= next') := by
  intro s
  rw [runOn_bind, h s, runOn_bind]
  rcases build.runOn s with ⟨_ | a, middle⟩
  · rfl
  · exact hnext a middle

theorem get_bind {next : σ → Build σ γ} {next' : σ → Build σ δ} (hnext : ∀ s, Commutes φ χ (next s) (next' (φ s))) :
    Commutes φ χ (get >>= next) (get >>= next') := by
  intro s
  rw [runOn_bind, runOn_get, runOn_bind, runOn_get]
  exact hnext s s

/-- Steps that commute with a change and keep their outcome are blind to it. -/
theorem blind {build : Build σ α} (h : Commutes φ id build build) : Blind φ build := fun s => by
  rw [h s]
  cases (build.runOn s).1 <;> rfl

theorem forM {ι κ : Type} {step : ι → Build σ PUnit} {step' : κ → Build σ PUnit} {g : ι → κ} {items : List ι}
    (h : ∀ item, Commutes φ id (step item) (step' (g item))) :
    Commutes φ id (items.forM step) ((items.map g).forM step') := by
  induction items with
  | nil => exact pure _
  | cons item items ih => exact bind (h item) fun _ => ih

theorem mapM {ι κ : Type} {step : ι → Build σ α} {step' : κ → Build σ β} {g : ι → κ} {items : List ι}
    (h : ∀ item, Commutes φ ψ (step item) (step' (g item))) :
    Commutes φ (List.map ψ) (items.mapM step) ((items.map g).mapM step') := by
  induction items with
  | nil => exact pure _
  | cons item items ih =>
    rw [List.map_cons, List.mapM_cons, List.mapM_cons]
    exact bind (h item) fun _ => bind ih fun _ => pure _

theorem focus {φ' : τ → τ} {read : τ → σ} {write : τ → σ → τ} {build : Build σ α} {build' : Build σ β}
    (h : Commutes φ ψ build build') (hread : ∀ whole, read (φ' whole) = φ (read whole))
    (hwrite : ∀ whole part, write (φ' whole) (φ part) = φ' (write whole part)) :
    Commutes φ' ψ (focus read write build) (focus read write build') := fun whole => by
  rw [runOn_focus, hread, h, hwrite, runOn_focus]

end Commutes

end Build

end InteropGen

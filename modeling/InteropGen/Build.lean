import InteropGen.Symbols

/-!
# Building with faults

Declarations are built by steps that change the symbols and may fail. A fault keeps every change
made before it.
-/

namespace InteropGen

/-- Why a declaration cannot be built or written. -/
inductive Fault
  /-- A type lacks the inner type or result that its form needs. -/
  | missingType
  /-- A bound is made of digits that have no decimal value, or of too many. -/
  | unreadableBound (text : String)
  /-- A type reaches itself, so its spelling has no end. -/
  | endlessSpelling
  /-- A number has too many digits to be written out. -/
  | longNumber
  /-- A declaration lacks a part that it is asked for. -/
  | missingPart
  /-- A part that only its owner writes stands alone. -/
  | ownedPart (kind name : String)
  deriving DecidableEq, Repr

/-- What a fault says, where it has words of its own. -/
def Fault.message? : Fault → Option String
  | ownedPart kind name => some (kind ++ " " ++ name ++ " is rendered by its owner")
  | _ => none

/-- The decimal numeral of a number. -/
def numeral (n : Int) : Except Fault String :=
  if Text.hasDecimal n.natAbs then .ok (Text.ofInt n) else .error .longNumber

/-- Steps over a state that may fail; a failed step keeps the state it reached. -/
abbrev Build (σ α : Type) := ExceptT Fault (StateM σ) α

namespace Build

variable {σ τ α : Type}

/-- The outcome of the steps and the state after them. -/
def runOn (build : Build σ α) (state : σ) : Except Fault α × σ := (ExceptT.run build).run state

/-- Runs steps on one part of a state. -/
def focus (get : τ → σ) (put : τ → σ → τ) (build : Build σ α) : Build τ α :=
  ExceptT.mk fun whole =>
    let (outcome, part) := build.runOn (get whole)
    (outcome, put whole part)

/-- Takes a value, or fails with a fault if there is none. -/
def ofOption (fault : Fault) : Option α → Build σ α
  | some value => pure value
  | none => throw fault

/-- Takes the outcome of a computation without a state. -/
def ofExcept : Except Fault α → Build σ α
  | .ok value => pure value
  | .error fault => throw fault

end Build

end InteropGen

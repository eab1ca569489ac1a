import InteropGen.Code.Builder

/-!
# Code as a tree

Generated code before it has a place: lines, and blocks that hold code. `Code.emit` lays a tree out
with a builder at whatever depth the builder is.
-/

namespace InteropGen

/-- A line, or a brace block under a header; an empty header writes no line. -/
inductive Code
  | line (text : String)
  | block (header : String) (body : List Code)
  deriving Repr

namespace Code

mutual

/-- Lays code out at the depth of a builder. -/
def emit : Code → Builder → Builder
  | line text, b => b.line text
  | block header body, b => (emitAll body (b.openBlock header)).popBlock

/-- Lays pieces of code out one below the other. -/
def emitAll : List Code → Builder → Builder
  | [], b => b
  | code :: rest, b => emitAll rest (emit code b)

end

mutual

theorem depth_emit (code : Code) (b : Builder) : (emit code b).depth = b.depth := by
  cases code with
  | line text => simp [emit]
  | block header body =>
    rw [emit]
    exact Builder.depth_popBlock_of_openBlock (depth_emitAll body (b.openBlock header))

/-- Laying code out leaves the depth as it was. -/
theorem depth_emitAll (code : List Code) (b : Builder) : (emitAll code b).depth = b.depth := by
  cases code with
  | nil => rfl
  | cons first rest =>
    rw [emitAll, depth_emitAll rest, depth_emit first]

end

/-- The text of code that stands alone. -/
def render (code : List Code) : String := (emitAll code {}).output

end Code

end InteropGen

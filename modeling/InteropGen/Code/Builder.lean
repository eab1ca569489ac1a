import InteropGen.Text.Basic

/-!
# Lines of code

A builder collects lines at a current depth of indentation. Blocks stand in braces on lines of
their own, one level deeper than what is around them.
-/

namespace InteropGen.Code

/-- Lines so far and the depth of the next one. -/
structure Builder where
  lines : Array String := #[]
  depth : Nat := 0
  deriving Repr

namespace Builder

/-- The blanks in front of a line: four for each level. -/
def margin (depth : Nat) : String := String.ofList (List.replicate (4 * depth) ' ')

/-- Adds a line at the current depth; an empty line stays empty. -/
def line (b : Builder) (text : String) : Builder :=
  { b with lines := b.lines.push (if text.isEmpty then "" else margin b.depth ++ text) }

/-- Goes one level deeper. -/
def indent (b : Builder) : Builder := { b with depth := b.depth + 1 }

/-- Goes back one level, but not above the first. -/
def dedent (b : Builder) : Builder := { b with depth := b.depth - 1 }

/-- Opens a brace block. -/
def pushBlock (b : Builder) : Builder := (b.line "\x7b").indent

/-- Closes a brace block. -/
def popBlock (b : Builder) : Builder := b.dedent.line "\x7d"

/-- Opens a brace block under a header line, if there is a header. -/
def openBlock (b : Builder) (header : String) : Builder :=
  (if header.isEmpty then b else b.line header).pushBlock

@[simp] theorem depth_line (b : Builder) (text : String) : (b.line text).depth = b.depth := rfl

@[simp] theorem depth_indent (b : Builder) : b.indent.depth = b.depth + 1 := rfl

@[simp] theorem depth_dedent (b : Builder) : b.dedent.depth = b.depth - 1 := rfl

/-- A block that is opened and closed leaves the depth as it was. -/
theorem depth_popBlock_of_openBlock {b inner : Builder} {header : String}
    (h : inner.depth = (b.openBlock header).depth) : inner.popBlock.depth = b.depth := by
  have hopen : (b.openBlock header).depth = b.depth + 1 := by
    unfold openBlock
    split <;> rfl
  simp [popBlock, h, hopen]

/-- The lines as one text, each with a line end. -/
def output (b : Builder) : String := String.intercalate "\n" b.lines.toList ++ "\n"

end Builder

end InteropGen.Code

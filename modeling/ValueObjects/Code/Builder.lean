/-!
# Code builders

Indented text that grows at its end. A builder knows how deep it is inside blocks; each line it takes is indented by
one tab for every open block, while raw text and blank lines are taken as they are.
-/

namespace ValueObjects

/-- The text written so far and the number of open blocks. -/
structure CodeBuilder where
  depth : Nat
  text : String
deriving DecidableEq, Repr

namespace CodeBuilder

/-- A builder that nothing was written to. -/
def empty : CodeBuilder := ⟨0, ""⟩

/-- One level of indentation. -/
def indentUnit : Char := '\t'

/-- The indentation of a line inside `depth` blocks. -/
def indentation (depth : Nat) : String := String.ofList (List.replicate depth indentUnit)

/-! ## Writing -/

/-- Append text as it is. -/
def raw (b : CodeBuilder) (s : String) : CodeBuilder := { b with text := b.text ++ s }

/-- Append a line at the current depth. -/
def line (b : CodeBuilder) (s : String) : CodeBuilder :=
  { b with text := b.text ++ (indentation b.depth ++ s ++ "\n") }

/-- Append an empty line. -/
def blank (b : CodeBuilder) : CodeBuilder := b.raw "\n"

/-- Append an opening brace and go one level deeper. -/
def openBlock (b : CodeBuilder) : CodeBuilder :=
  let opened := b.line "\x7b"
  { opened with depth := b.depth + 1 }

/-- Come back one level and append a closing brace and an empty line. -/
def closeBlock (b : CodeBuilder) : CodeBuilder :=
  (line { b with depth := b.depth - 1 } "\x7d").blank

/-- Close a number of blocks, innermost first. -/
def closeBlocks : Nat → CodeBuilder → CodeBuilder
  | 0, b => b
  | n + 1, b => closeBlocks n b.closeBlock

/-- Write the body of a block between its braces. -/
def block (b : CodeBuilder) (body : CodeBuilder → CodeBuilder) : CodeBuilder :=
  (body b.openBlock).closeBlock

/-! ## Depth -/

@[simp] theorem depth_raw (b : CodeBuilder) (s : String) : (b.raw s).depth = b.depth := rfl
@[simp] theorem depth_line (b : CodeBuilder) (s : String) : (b.line s).depth = b.depth := rfl
@[simp] theorem depth_blank (b : CodeBuilder) : b.blank.depth = b.depth := rfl
@[simp] theorem depth_openBlock (b : CodeBuilder) : b.openBlock.depth = b.depth + 1 := rfl
@[simp] theorem depth_closeBlock (b : CodeBuilder) : b.closeBlock.depth = b.depth - 1 := rfl

/-! ## Text -/

@[simp] theorem text_raw (b : CodeBuilder) (s : String) : (b.raw s).text = b.text ++ s := rfl
@[simp] theorem text_line (b : CodeBuilder) (s : String) :
    (b.line s).text = b.text ++ (indentation b.depth ++ s ++ "\n") := rfl
@[simp] theorem text_blank (b : CodeBuilder) : b.blank.text = b.text ++ "\n" := rfl
@[simp] theorem text_openBlock (b : CodeBuilder) :
    b.openBlock.text = b.text ++ (indentation b.depth ++ "\x7b" ++ "\n") := rfl
@[simp] theorem text_closeBlock (b : CodeBuilder) :
    b.closeBlock.text = b.text ++ (indentation (b.depth - 1) ++ "\x7d" ++ "\n") ++ "\n" := rfl

end CodeBuilder

end ValueObjects

import ValueObjects.Code.Builder

/-!
# Outlines

A piece of code as a tree: lines, and blocks of lines between braces. An outline has a printed form at each depth,
and a builder that takes its pieces one after another ends with exactly that form behind its text.
-/

namespace ValueObjects

/-- A sequence of lines, raw texts, empty lines and blocks. -/
inductive Outline
  | done
  | line (text : String) (rest : Outline)
  | raw (text : String) (rest : Outline)
  | blank (rest : Outline)
  | block (body rest : Outline)
deriving DecidableEq, Repr

namespace Outline

/-! ## Sequences -/

/-- Put one outline behind another. -/
def append : Outline → Outline → Outline
  | done, other => other
  | line s rest, other => line s (rest.append other)
  | raw s rest, other => raw s (rest.append other)
  | blank rest, other => blank (rest.append other)
  | block body rest, other => block body (rest.append other)

instance : Append Outline := ⟨append⟩

@[simp] theorem done_append (o : Outline) : done ++ o = o := rfl
@[simp] theorem line_append (s : String) (rest o : Outline) : line s rest ++ o = line s (rest ++ o) := rfl
@[simp] theorem raw_append (s : String) (rest o : Outline) : raw s rest ++ o = raw s (rest ++ o) := rfl
@[simp] theorem blank_append (rest o : Outline) : blank rest ++ o = blank (rest ++ o) := rfl
@[simp] theorem block_append (body rest o : Outline) : block body rest ++ o = block body (rest ++ o) := rfl

/-- Put an outline inside a number of blocks. -/
def nested : Nat → Outline → Outline
  | 0, o => o
  | n + 1, o => block (nested n o) done

/-! ## Printed form -/

/-- The tabs in front of a line at a depth. -/
def margin (depth : Nat) : String := String.ofList (List.replicate depth '\t')

@[simp] theorem margin_zero : margin 0 = "" := rfl

/-- Write an outline at a depth. Raw texts and empty lines are not indented. -/
def print (depth : Nat) : Outline → String
  | done => ""
  | line s rest => margin depth ++ s ++ "\n" ++ rest.print depth
  | raw s rest => s ++ rest.print depth
  | blank rest => "\n" ++ rest.print depth
  | block body rest =>
    margin depth ++ "\x7b\n" ++ body.print (depth + 1) ++ margin depth ++ "\x7d\n\n" ++ rest.print depth

theorem print_append (depth : Nat) (o p : Outline) : (o ++ p).print depth = o.print depth ++ p.print depth := by
  induction o with
  | done => simp [print]
  | line s rest ih => simp [print, ih, String.append_assoc]
  | raw s rest ih => simp [print, ih, String.append_assoc]
  | blank rest ih => simp [print, ih, String.append_assoc]
  | block body rest _ ih => simp [print, ih, String.append_assoc]

end Outline

/-! ## Builders -/

/-- Write an outline, piece by piece. -/
def CodeBuilder.write (b : CodeBuilder) : Outline → CodeBuilder
  | .done => b
  | .line s rest => (b.line s).write rest
  | .raw s rest => (b.raw s).write rest
  | .blank rest => b.blank.write rest
  | .block body rest => (b.block (·.write body)).write rest

/-- A builder indents by tabs. -/
theorem CodeBuilder.indentation_eq_margin (depth : Nat) : indentation depth = Outline.margin depth := rfl

/-- A builder stays at its depth and its text grows by the printed form. -/
theorem CodeBuilder.write_eq (b : CodeBuilder) (o : Outline) :
    b.write o = ⟨b.depth, b.text ++ o.print b.depth⟩ := by
  induction o generalizing b with
  | done => simp [write, Outline.print]
  | line s rest ih => simp [write, ih, Outline.print, indentation_eq_margin, String.append_assoc]
  | raw s rest ih => simp [write, ih, Outline.print, String.append_assoc]
  | blank rest ih => simp [write, ih, Outline.print, String.append_assoc]
  | block body rest ihb ihr =>
    simp [write, ihr, ihb, block, Outline.print, indentation_eq_margin, String.append_assoc]

@[simp] theorem CodeBuilder.depth_write (b : CodeBuilder) (o : Outline) : (b.write o).depth = b.depth := by
  rw [write_eq]

@[simp] theorem CodeBuilder.text_write (b : CodeBuilder) (o : Outline) :
    (b.write o).text = b.text ++ o.print b.depth := by
  rw [write_eq]

/-- Write an outline with a builder of its own. -/
def Outline.build (o : Outline) : String := (CodeBuilder.empty.write o).text

theorem Outline.build_eq (o : Outline) : o.build = o.print 0 := by
  simp [Outline.build, CodeBuilder.empty]

end ValueObjects

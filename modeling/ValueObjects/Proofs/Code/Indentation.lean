import ValueObjects.Proofs.Code.Layout

/-!
# Indented texts

Tabs in front of every line of a text that is not empty. An outline without raw texts and without empty lines of its own
is printed at a greater depth as its printed form is indented, whatever the blocks inside it are.
-/

namespace ValueObjects

/-! ## Texts -/

namespace Text

/-- Put tabs in front of a line. An empty line stays as it is. -/
def indentLine (depth : Nat) (line : List Char) : List Char :=
  if line = [] then [] else List.replicate depth '\t' ++ line

/-- Put tabs in front of every line that is not empty. -/
def indent (depth : Nat) (text : String) : String :=
  String.ofList (join '\n' ((split '\n' text.toList).map (indentLine depth)))

theorem join_append_empty (separator : Char) (parts : List (List Char)) :
    join separator (parts ++ [[]]) = parts.flatMap (· ++ [separator]) := by
  induction parts with
  | nil => rfl
  | cons part parts ih => rw [List.cons_append, join_cons (by simp), ih]; simp

end Text

/-! ## Outlines -/

namespace Outline

open Text

variable {o : Outline}

theorem indentLine_line {s : String} (hs : s ≠ "") (depth more : Nat) :
    (margin (depth + more) ++ s).toList = indentLine more (margin depth ++ s).toList := by
  have hline : (margin depth ++ s).toList ≠ [] := by simp [hs]
  rw [indentLine, if_neg hline, String.toList_append, String.toList_append, Layout.toList_margin,
    Layout.toList_margin, Nat.add_comm depth more, ← List.replicate_append_replicate, List.append_assoc]

/-- Deeper inside blocks the lines of an outline are the same with more tabs. -/
theorem Each.lines_add (h : o.Each (· ≠ "")) (depth more : Nat) :
    (o.lines (depth + more)).map String.toList = ((o.lines depth).map String.toList).map (indentLine more) := by
  have hempty : indentLine more [] = [] := rfl
  induction o generalizing depth with
  | done => rfl
  | line s rest ih => simp only [lines, List.map_cons, indentLine_line h.1, ih h.2]
  | raw s rest ih => cases h
  | blank rest ih => simp only [lines, List.map_cons, String.toList_empty, hempty, ih h]
  | block body rest ihb ihr =>
    have hopen : "\x7b" ≠ "" := by decide
    have hclose : "\x7d" ≠ "" := by decide
    simp only [lines, List.map_cons, List.map_append, String.toList_empty, hempty, indentLine_line hopen,
      indentLine_line hclose, Nat.add_right_comm depth more 1, ihb h.1, ihr h.2]

/-- Deeper inside blocks the printed form of an outline is the same with more tabs. -/
theorem Neat.print_add (hneat : o.Neat) (h : o.Each (· ≠ "")) (depth more : Nat) :
    o.print (depth + more) = indent more (o.print depth) := by
  have hsplit := split_lines fun l (hl : l ∈ o.lines depth) => oneLine_of_mem_lines hneat hl
  have hlast : indentLine more [] = [] := rfl
  have hlines := h.lines_add depth more
  rw [← String.toList_inj, indent, String.toList_ofList, toList_print hneat, toList_print hneat, hsplit,
    List.map_append, List.map_singleton, hlast, join_append_empty, ← hlines, List.flatMap_map]

/-- A builder that is given an outline grows by what a builder of its own would be given, indented by its depth. -/
theorem Neat.write_eq (hneat : o.Neat) (h : o.Each (· ≠ "")) (b : CodeBuilder) :
    b.write o = ⟨b.depth, b.text ++ indent b.depth o.build⟩ := by
  have hprint := hneat.print_add h 0 b.depth
  rw [Nat.zero_add] at hprint
  rw [CodeBuilder.write_eq, hprint, build_eq]

end Outline

end ValueObjects

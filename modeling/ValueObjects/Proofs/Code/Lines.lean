import ValueObjects.Code.Outline
import ValueObjects.Proofs.Text.Split

/-!
# Lines of outlines

The printed form of an outline as a list of lines. If no piece of the outline breaks a line, its printed form can be
read back line by line, so two such outlines that look alike have the same lines.
-/

namespace ValueObjects.Outline

/-! ## Single lines -/

/-- A text that does not break a line. -/
structure OneLine (s : String) : Prop where
  notMem : '\n' ∉ s.toList

/-- For a text that is written out it is enough to look at its characters. -/
theorem oneLine_ofList {cs : List Char} (h : '\n' ∉ cs) : OneLine (String.ofList cs) :=
  ⟨by simpa using h⟩

theorem oneLine_append {s t : String} : OneLine (s ++ t) ↔ OneLine s ∧ OneLine t := by
  have hmem : '\n' ∉ (s ++ t).toList ↔ '\n' ∉ s.toList ∧ '\n' ∉ t.toList := by simp
  constructor
  · intro h
    obtain ⟨hs, ht⟩ := hmem.mp h.notMem
    exact ⟨⟨hs⟩, ⟨ht⟩⟩
  · rintro ⟨hs, ht⟩
    exact ⟨hmem.mpr ⟨hs.notMem, ht.notMem⟩⟩

theorem oneLine_margin (depth : Nat) : OneLine (margin depth) :=
  oneLine_ofList (by simp)

/-! ## Lines -/

/-- The lines of the printed form at a depth, if there are no raw texts. -/
def lines (depth : Nat) : Outline → List String
  | done => []
  | line s rest => (margin depth ++ s) :: rest.lines depth
  | raw _ rest => rest.lines depth
  | blank rest => "" :: rest.lines depth
  | block body rest =>
    (margin depth ++ "\x7b") :: (body.lines (depth + 1)
      ++ (margin depth ++ "\x7d") :: "" :: rest.lines depth)

/-- There are no raw texts, and each line is one. -/
def Neat : Outline → Prop
  | done => True
  | line s rest => OneLine s ∧ rest.Neat
  | raw _ _ => False
  | blank rest => rest.Neat
  | block body rest => body.Neat ∧ rest.Neat

theorem lines_append (depth : Nat) (o p : Outline) : (o ++ p).lines depth = o.lines depth ++ p.lines depth := by
  induction o with
  | done => rfl
  | line s rest ih => simp [lines, ih]
  | raw s rest ih => simp [lines, ih]
  | blank rest ih => simp [lines, ih]
  | block body rest _ ih => simp [lines, ih]

/-! ## Conditions on lines -/

/-- There are no raw texts, and every line satisfies a condition. -/
def Each (p : String → Prop) : Outline → Prop
  | done => True
  | line s rest => p s ∧ rest.Each p
  | raw _ _ => False
  | blank rest => rest.Each p
  | block body rest => body.Each p ∧ rest.Each p

variable {p q : String → Prop} {o : Outline}

theorem each_append {o o' : Outline} : (o ++ o').Each p ↔ o.Each p ∧ o'.Each p := by
  induction o with
  | done => simp [Each]
  | line s rest ih => simp [Each, ih, and_assoc]
  | raw s rest ih => simp [Each]
  | blank rest ih => simp [Each, ih]
  | block body rest _ ih => simp [Each, ih, and_assoc]

theorem Each.imp (h : o.Each p) (hpq : ∀ s, p s → q s) : o.Each q := by
  induction o with
  | done => trivial
  | line s rest ih => exact ⟨hpq s h.1, ih h.2⟩
  | raw s rest ih => cases h
  | blank rest ih => exact ih h
  | block body rest ihb ihr => exact ⟨ihb h.1, ihr h.2⟩

theorem each_oneLine : o.Each OneLine ↔ o.Neat := by
  induction o with
  | done => rfl
  | line s rest ih => exact and_congr_right' ih
  | raw s rest ih => rfl
  | blank rest ih => exact ih
  | block body rest ihb ihr => exact and_congr ihb ihr

/-- What holds of an empty line, and behind any number of tabs of every line and of a brace alone, holds of all lines of
the printed form. -/
theorem Each.of_mem_lines (h : o.Each p) (hempty : q "") (hline : ∀ depth s, p s → q (margin depth ++ s))
    (hopen : ∀ depth, q (margin depth ++ "\x7b")) (hclose : ∀ depth, q (margin depth ++ "\x7d")) {depth : Nat}
    {l : String} (hl : l ∈ o.lines depth) : q l := by
  induction o generalizing depth with
  | done => cases hl
  | line s rest ih =>
    rcases List.mem_cons.mp hl with rfl | hl
    · exact hline depth s h.1
    · exact ih h.2 hl
  | raw s rest ih => cases h
  | blank rest ih =>
    rcases List.mem_cons.mp hl with rfl | hl
    · exact hempty
    · exact ih h hl
  | block body rest ihb ihr =>
    simp only [lines, List.mem_cons, List.mem_append] at hl
    rcases hl with rfl | hl | rfl | rfl | hl
    · exact hopen depth
    · exact ihb h.1 hl
    · exact hclose depth
    · exact hempty
    · exact ihr h.2 hl

/-! ## Reading back -/

theorem toList_print {o : Outline} (h : o.Neat) (depth : Nat) :
    (o.print depth).toList = (o.lines depth).flatMap fun l => l.toList ++ ['\n'] := by
  induction o generalizing depth with
  | done => rfl
  | line s rest ih => simp [print, lines, ih h.2]
  | raw s rest ih => cases h
  | blank rest ih => simp [print, lines, ih h]
  | block body rest ihb ihr => simp [print, lines, ihb h.1, ihr h.2]

/-- No line has an end of a line in it. -/
theorem oneLine_of_mem_lines {o : Outline} (h : o.Neat) {depth : Nat} {l : String} (hl : l ∈ o.lines depth) :
    OneLine l := by
  have hindented : ∀ depth s, OneLine s → OneLine (margin depth ++ s) :=
    fun depth s hs => oneLine_append.mpr ⟨oneLine_margin depth, hs⟩
  have hempty : OneLine "" := oneLine_ofList (by decide)
  have hopen : OneLine "\x7b" := oneLine_ofList (by decide)
  have hclose : OneLine "\x7d" := oneLine_ofList (by decide)
  exact (each_oneLine.mpr h).of_mem_lines hempty hindented (hindented · _ hopen) (hindented · _ hclose) hl

/-- Lines that are put one below the other are the parts between the ends of lines, with nothing behind the last. -/
theorem split_lines {ls : List String} (h : ∀ l ∈ ls, OneLine l) :
    Text.split '\n' (ls.flatMap fun l => l.toList ++ ['\n']) = ls.map String.toList ++ [[]] := by
  induction ls with
  | nil => rfl
  | cons l ls ih =>
    have hl := Text.split_of_notMem (h l (by simp)).notMem
    have hls := ih fun l hl => h l (by simp [hl])
    simp [Text.split_append_separator, hl, hls]

/-- Outlines with the same printed form have the same lines. -/
theorem lines_eq_of_print_eq {o p : Outline} (ho : o.Neat) (hp : p.Neat) {depth : Nat}
    (h : o.print depth = p.print depth) : o.lines depth = p.lines depth := by
  -- there is no end of a line inside a line, so splitting the text there gives the lines back
  have hsplit := congrArg (Text.split '\n' ·.toList) h
  simp only [toList_print ho, toList_print hp] at hsplit
  rw [split_lines fun l => oneLine_of_mem_lines ho, split_lines fun l => oneLine_of_mem_lines hp] at hsplit
  exact (List.map_inj_right fun s t => String.toList_inj.mp).mp (List.append_cancel_right hsplit)

end ValueObjects.Outline

import ValueObjects.Proofs.Code.Lines
import ValueObjects.Proofs.Text.Balance
import ValueObjects.Text.Blank

/-!
# Layout of outlines

How the lines of a text show its blocks: each brace that stands alone on a line opens or closes one, and every line has
as many tabs as there are blocks open around it. An outline whose lines have no braces and no indentation of their own
is laid out like that, with all braces in balance and no blank at the end of a line.
-/

namespace ValueObjects

/-! ## Reading blocks from lines -/

namespace Layout

/-- The number of tabs at the beginning of a line. -/
def tabs (line : List Char) : Nat := (line.takeWhile (· == '\t')).length

/-- A line without the tabs at its beginning. -/
def content (line : List Char) : List Char := line.dropWhile (· == '\t')

/-- Read a line inside blocks, for each of which the stack has the number of tabs in front of its opening brace, that of
the innermost block first. A brace alone on a line opens a block, or closes one with the same number of tabs. -/
def readLine? (stack : List Nat) (line : List Char) : Option (List Nat) :=
  if content line = ['\x7b'] then some (tabs line :: stack)
  else if content line = ['\x7d'] then
    match stack with
    | [] => none
    | opening :: outer => if opening = tabs line then some outer else none
  else some stack

/-- Read lines one after another. -/
def readLines? (stack : List Nat) (lines : List (List Char)) : Option (List Nat) := lines.foldlM readLine? stack

/-- Lines lead from one stack to another. Each line that is not empty has a tab for every block that is open both in front
of it and behind it, which leaves out the block that the line itself opens or closes, and some more by its index. -/
inductive Reads : (Nat → Nat) → List Nat → List (List Char) → List Nat → Prop
  | nil {more : Nat → Nat} {stack : List Nat} : Reads more stack [] stack
  | cons {more : Nat → Nat} {outer inner final : List Nat} {line : List Char} {rest : List (List Char)}
    (hread : readLine? outer line = some inner)
    (htabs : line ≠ [] → tabs line = min outer.length inner.length + more 0)
    (hrest : Reads (fun n => more (n + 1)) inner rest final) : Reads more outer (line :: rest) final

namespace Reads

variable {more more' : Nat → Nat} {s t u : List Nat} {xs ys : List (List Char)}

theorem append (hxs : Reads more s xs t) (hys : Reads (fun n => more (xs.length + n)) t ys u) :
    Reads more s (xs ++ ys) u := by
  induction hxs with
  | nil => simpa using hys
  | cons hread htabs _ ih =>
    refine .cons hread htabs (ih ?_)
    simpa only [List.length_cons, Nat.add_right_comm] using hys

theorem congr (h : Reads more s xs t) (heq : ∀ n < xs.length, more n = more' n) : Reads more' s xs t := by
  induction h generalizing more' with
  | nil => exact .nil
  | cons hread htabs _ ih =>
    refine .cons hread ?_ (ih fun n hn => heq (n + 1) (by simpa using hn))
    rw [← heq 0 (by simp)]
    exact htabs

theorem readLines?_eq (h : Reads more s xs t) : readLines? s xs = some t := by
  induction h with
  | nil => rfl
  | cons hread _ _ ih => simpa [readLines?, hread] using ih

/-- What holds of the line at an index, which is read behind all lines in front of it. -/
theorem at_index (h : Reads more s xs t) {i : Nat} {line : List Char} (hline : xs[i]? = some line) (hne : line ≠ []) :
    ∃ outer inner, readLines? s (xs.take i) = some outer ∧ readLine? outer line = some inner
      ∧ tabs line = min outer.length inner.length + more i := by
  induction h generalizing i with
  | nil => cases hline
  | cons hread htabs _ ih =>
    cases i with
    | zero =>
      obtain rfl : _ = line := by simpa using hline
      exact ⟨_, _, rfl, hread, htabs hne⟩
    | succ i =>
      obtain ⟨outer, inner, houter, hinner, htabs⟩ := ih (by simpa using hline)
      exact ⟨outer, inner, by simpa [readLines?, hread] using houter, hinner, htabs⟩

end Reads

end Layout

/-! ## Texts of lines -/

/-- A text begins with a character that is neither a tab nor a brace. -/
def begins (s : String) : Bool := s.toList.head?.any fun c => !(['\t', '\x7b', '\x7d'].contains c)

/-- A text ends with a character that is no blank. -/
def ends (s : String) : Bool := s.toList.getLast?.any fun c => !Text.isBlank c

theorem begins_append {s t : String} (h : begins s) : begins (s ++ t) := by
  unfold begins at *
  rw [String.toList_append]
  cases hs : s.toList with
  | nil => simp [hs] at h
  | cons c cs => simpa [hs] using h

theorem ends_append {s t : String} (h : ends t) : ends (s ++ t) := by
  unfold ends at *
  rw [String.toList_append, List.getLast?_append]
  cases ht : t.toList.getLast? with
  | none => simp [ht] at h
  | some c => simpa [ht] using h

/-- The braces of a text are balanced. -/
def Braced (s : String) : Prop := Text.Balanced '\x7b' '\x7d' s.toList

instance (s : String) : Decidable (Braced s) :=
  inferInstanceAs (Decidable (Text.Balanced '\x7b' '\x7d' s.toList))

theorem braced_append {s t : String} (hs : Braced s) (ht : Braced t) : Braced (s ++ t) := by
  unfold Braced at *
  rw [String.toList_append]
  exact hs.append ht

/-- The end of a line: no blank, and all braces balanced. -/
structure Finished (s : String) : Prop where
  ends : ValueObjects.ends s
  braced : Braced s

/-- A whole line that looks like no block and has no indentation of its own. -/
structure Tidy (s : String) : Prop extends Finished s where
  begins : ValueObjects.begins s

theorem Finished.append {s t : String} (hs : Braced s) (ht : Finished t) : Finished (s ++ t) :=
  ⟨ends_append ht.ends, braced_append hs ht.braced⟩

/-! ## Indented lines -/

namespace Layout

open Outline

theorem toList_margin (depth : Nat) : (margin depth).toList = List.replicate depth '\t' := by
  simp [margin]

variable {s : String}

theorem tabs_indented (hs : s.toList.head? ≠ some '\t') (depth : Nat) :
    tabs (margin depth ++ s).toList = depth := by
  rw [tabs, String.toList_append, toList_margin]
  induction depth with
  | zero =>
    cases h : s.toList with
    | nil => rfl
    | cons c cs =>
      have hc : c ≠ '\t' := by simpa [h] using hs
      simp [hc]
  | succ depth ih => simpa [List.replicate_succ] using ih

theorem content_indented (hs : s.toList.head? ≠ some '\t') (depth : Nat) :
    content (margin depth ++ s).toList = s.toList := by
  rw [content, String.toList_append, toList_margin]
  induction depth with
  | zero =>
    cases h : s.toList with
    | nil => rfl
    | cons c cs =>
      have hc : c ≠ '\t' := by simpa [h] using hs
      simp [hc]
  | succ depth ih => simpa [List.replicate_succ] using ih

theorem head?_of_begins (hs : begins s) {c : Char} (hc : c ∈ ['\t', '\x7b', '\x7d']) : s.toList.head? ≠ some c := by
  intro hhead
  have hnot : c ∉ ['\t', '\x7b', '\x7d'] := by simpa [begins, hhead] using hs
  exact hnot hc

variable {stack : List Nat}

theorem readLine?_nil : readLine? stack [] = some stack := rfl

theorem readLine?_open (depth : Nat) :
    readLine? stack (margin depth ++ "\x7b").toList = some (depth :: stack) := by
  have htab : "\x7b".toList.head? ≠ some '\t' := by decide
  unfold readLine?
  rw [content_indented htab, tabs_indented htab]
  rfl

theorem readLine?_close (depth : Nat) :
    readLine? (depth :: stack) (margin depth ++ "\x7d").toList = some stack := by
  have htab : "\x7d".toList.head? ≠ some '\t' := by decide
  unfold readLine?
  rw [content_indented htab, tabs_indented htab]
  simp

/-- A line that looks like no block leaves the blocks as they are. -/
theorem readLine?_begins (hs : begins s) (depth : Nat) :
    readLine? stack (margin depth ++ s).toList = some stack := by
  have hopen : s.toList ≠ ['\x7b'] := fun h => head?_of_begins hs (c := '\x7b') (by decide) (by rw [h]; rfl)
  have hclose : s.toList ≠ ['\x7d'] := fun h => head?_of_begins hs (c := '\x7d') (by decide) (by rw [h]; rfl)
  unfold readLine?
  rw [content_indented (head?_of_begins hs (by decide)), if_neg hopen, if_neg hclose]

/-- Lines that are indented without a block around them leave it at that. -/
theorem reads_indented (stack : List Nat) {texts : List String} (h : ∀ s ∈ texts, Tidy s) :
    Reads (fun _ => 1) stack ((texts.map (margin (stack.length + 1) ++ ·)).map String.toList) stack := by
  induction texts with
  | nil => exact .nil
  | cons s texts ih =>
    have hs := (h s (by simp)).begins
    have htab := head?_of_begins hs (c := '\t') (by decide)
    exact .cons (readLine?_begins hs _) (fun _ => by rw [tabs_indented htab]; simp) (ih fun s hs => h s (by simp [hs]))

end Layout

/-! ## Outlines -/

namespace Outline

open Layout

variable {o : Outline}

/-- The tabs in front of the opening braces of nested blocks, those of the innermost first. -/
def openBlocks : Nat → List Nat
  | 0 => []
  | depth + 1 => depth :: openBlocks depth

@[simp] theorem length_openBlocks (depth : Nat) : (openBlocks depth).length = depth := by
  induction depth with
  | zero => rfl
  | succ depth ih => simp [openBlocks, ih]

/-- The lines of an outline leave all blocks around it open and no others. -/
theorem Each.reads_lines (h : o.Each Tidy) (depth : Nat) :
    Reads (fun _ => 0) (openBlocks depth) ((o.lines depth).map String.toList) (openBlocks depth) := by
  have hopen : "\x7b".toList.head? ≠ some '\t' := by decide
  have hclose : "\x7d".toList.head? ≠ some '\t' := by decide
  induction o generalizing depth with
  | done => exact .nil
  | line s rest ih =>
    have htab := head?_of_begins h.1.begins (c := '\t') (by decide)
    exact .cons (readLine?_begins h.1.begins depth) (fun _ => by rw [tabs_indented htab]; simp) (ih h.2 depth)
  | raw s rest ih => cases h
  | blank rest ih => exact .cons readLine?_nil (fun hne => absurd rfl hne) (ih h depth)
  | block body rest ihb ihr =>
    have hbody := ihb h.1 (depth + 1)
    have hbehind : Reads (fun _ => 0) (depth :: openBlocks depth)
        ((margin depth ++ "\x7d").toList :: [] :: (rest.lines depth).map String.toList) (openBlocks depth) := by
      refine .cons (readLine?_close depth) (fun _ => by rw [tabs_indented hclose]; simp) ?_
      exact .cons readLine?_nil (fun hne => absurd rfl hne) (ihr h.2 depth)
    simp only [lines, List.map_cons, List.map_append]
    exact .cons (readLine?_open depth) (fun _ => by rw [tabs_indented hopen]; simp) (hbody.append hbehind)

/-- No line ends with a blank. -/
theorem Each.not_isBlank (h : o.Each (ends ·)) {depth : Nat} {l : String} (hl : l ∈ o.lines depth) :
    ∀ c ∈ l.toList.getLast?, ¬ Text.isBlank c := by
  have hends : ∀ s : String, ends s → ∀ c ∈ s.toList.getLast?, ¬ Text.isBlank c := by
    intro s hs c hc
    rw [ends, Option.mem_def.mp hc] at hs
    simpa using hs
  refine h.of_mem_lines (q := fun l => ∀ c ∈ l.toList.getLast?, ¬ Text.isBlank c) ?_ ?_ ?_ ?_ hl
  · exact fun c hc => by cases hc
  · exact fun depth s hs => hends _ (ends_append hs)
  · exact fun depth => hends _ (ends_append (by decide))
  · exact fun depth => hends _ (ends_append (by decide))

theorem braced_margin (depth : Nat) : Braced (margin depth) := by
  unfold Braced
  rw [toList_margin]
  exact .of_notMem (by simp) (by simp)

/-- All braces of the printed form are balanced. -/
theorem Each.braced_print (h : o.Each Braced) (depth : Nat) : Braced (o.print depth) := by
  have htabs := braced_margin depth
  have hend : Braced "\n" := by decide
  induction o generalizing depth with
  | done => exact (by decide : Braced "")
  | line s rest ih => exact braced_append (braced_append (braced_append htabs h.1) hend) (ih h.2 depth htabs)
  | raw s rest ih => cases h
  | blank rest ih => exact braced_append hend (ih h depth htabs)
  | block body rest ihb ihr =>
    have hbody := ihb h.1 (depth + 1) (braced_margin _)
    have hblock : Braced ("\x7b" ++ ("\n" ++ body.print (depth + 1) ++ margin depth) ++ "\x7d") := by
      have hinside := braced_append (braced_append hend hbody) htabs
      unfold Braced at *
      simpa using hinside.enclosed (by decide)
    have hprint : (block body rest).print depth =
        margin depth ++ ("\x7b" ++ ("\n" ++ body.print (depth + 1) ++ margin depth) ++ "\x7d") ++ "\n" ++ "\n"
          ++ rest.print depth := by
      rw [print, ← String.toList_inj]
      simp
    rw [hprint]
    exact braced_append (braced_append (braced_append (braced_append htabs hblock) hend) hend) (ihr h.2 depth htabs)

end Outline

end ValueObjects

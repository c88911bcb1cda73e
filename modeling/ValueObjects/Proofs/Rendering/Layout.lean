import ValueObjects.Proofs.Rendering.CodeLines

/-!
# Layout of source files

The source file of an accepted value object is laid out by its blocks, whatever its names and types are and whichever
members it has. Only the lines that name the interfaces of the type are indented without a block around them.
-/

namespace ValueObjects

open Outline

namespace SourceFile

variable {f : SourceFile}

/-- The lines of the text of a source file. -/
def textLines (f : SourceFile) : List (List Char) := Text.split '\n' f.render.toList

/-- The number of lines in front of those that name the interfaces. A namespace has a line of its own. -/
def interfacesAt (f : SourceFile) : Nat := if f.namespaceName.isSome then 7 else 6

/-- Decide whether the line at an index names an interface. -/
def isInterfaceLine (f : SourceFile) (i : Nat) : Bool := f.interfacesAt ≤ i && i < f.interfacesAt + 3

/-- A source file is laid out by its blocks. -/
structure LaidOut (f : SourceFile) : Prop where
  /-- Every block is closed, with as many tabs as it was opened with. -/
  blocks : Layout.readLines? [] f.textLines = some []
  /-- Where the interfaces are named. -/
  interfaces : (f.textLines.drop f.interfacesAt).take 3 = (interfaceLines f.descriptor).map String.toList
  /-- A line that is not empty has one tab for each block that is open in front of it and behind it. An interface has one
  more. -/
  tabs : ∀ i line, f.textLines[i]? = some line → line ≠ [] →
    ∃ outer inner, Layout.readLines? [] (f.textLines.take i) = some outer ∧ Layout.readLine? outer line = some inner
      ∧ Layout.tabs line = min outer.length inner.length + if f.isInterfaceLine i then 1 else 0
  /-- No line ends with a blank. -/
  notBlank : ∀ line ∈ f.textLines, ∀ c ∈ line.getLast?, ¬ Text.isBlank c
  /-- Wherever the text is cut off, no more braces are closed than opened, and in the end all of them are closed. -/
  braces : Text.Balanced '\x7b' '\x7d' f.render.toList

/-! ## Parts -/

theorem lines_outline (f : SourceFile) :
    f.outline.lines 0 = f.heading.lines 0 ++ (interfaceLines f.descriptor ++ f.body.lines 0) := by
  simp [outline, heading, body, declaration, interfaceLines, lines_append, lines]

theorem length_heading (f : SourceFile) : (f.heading.lines 0).length = f.interfacesAt := by
  rw [heading, header, interfacesAt, lines_append]
  cases f.namespaceName <;> rfl

theorem textLines_eq (h : f.SingleLine) : f.textLines = (f.outline.lines 0).map String.toList ++ [[]] := by
  have hneat := h.neat_outline
  rw [textLines, render, build_eq, toList_print hneat, split_lines fun l => oneLine_of_mem_lines hneat]

theorem Accepted.braced (h : f.Accepted) : f.Named Braced :=
  h.named.imp fun _ hs => .of_notMem (hs.notMem (by decide)) (hs.notMem (by decide))

theorem Named.finished_outline (h : f.Named Braced) : f.outline.Each Finished :=
  h.each_outline (fun _ hs => hs.tidy.toFinished) fun _ hs => .append (braced_margin 1) hs.tidy.toFinished

/-- The lines of a source file leave no block open. All of them have as many tabs as they should have. -/
theorem Named.reads_textLines (h : f.Named Braced) (hline : f.SingleLine) :
    Layout.Reads (fun i => if f.isInterfaceLine i then 1 else 0) [] f.textLines [] := by
  have hheading := (h.codeLines.1.imp fun _ hs => hs.tidy).reads_lines 0
  have hinterfaces := Layout.reads_indented [] fun s hs => (h.codeLines.2.1 s hs).tidy
  have hlast : Layout.Reads (fun _ => 0) [] [[]] [] := .cons Layout.readLine?_nil (fun hne => absurd rfl hne) .nil
  have hbody := ((h.codeLines_body.imp fun _ hs => hs.tidy).reads_lines 0).append hlast
  rw [textLines_eq hline, lines_outline, interfaceLines_eq, List.map_append, List.map_append, List.append_assoc,
    List.append_assoc]
  -- in front of the interfaces, the three lines themselves, and behind them
  refine .append (hheading.congr ?_) (.append (hinterfaces.congr ?_) (hbody.congr ?_))
  · intro n hn
    have hbefore : ¬ f.interfacesAt ≤ n := by simpa [length_heading] using hn
    simp [isInterfaceLine, hbefore]
  · intro n hn
    have hthree : n < 3 := by simpa [interfaces] using hn
    simp [isInterfaceLine, length_heading, hthree]
  · intro n _
    simp [isInterfaceLine, length_heading, interfaces]

/-- The source files of an accepted manifest are laid out by their blocks. -/
theorem laidOut_of_load {t : ManifestText} {m : Manifest} (hm : t.load = .ok m) (hf : f ∈ m.sourceFiles) :
    f.LaidOut := by
  have haccepted := (ManifestText.wellFormed_of_load hm).accepted hf
  have hfinished := haccepted.braced.finished_outline
  have hlines := textLines_eq haccepted.singleLine
  have hreads := haccepted.braced.reads_textLines haccepted.singleLine
  refine ⟨hreads.readLines?_eq, ?_, fun i line => hreads.at_index, ?_, ?_⟩
  · rw [hlines, lines_outline, List.map_append, List.map_append, List.append_assoc, List.append_assoc,
      List.drop_left' (by simp [length_heading])]
    exact List.take_left' rfl
  · intro line hline
    rw [hlines, List.mem_append, List.mem_map, List.mem_singleton] at hline
    rcases hline with ⟨l, hl, rfl⟩ | rfl
    · exact (hfinished.imp fun _ hs => hs.ends).not_isBlank hl
    · exact fun c hc => by cases hc
  · rw [render, build_eq]
    exact (hfinished.imp fun _ hs => hs.braced).braced_print 0

/-- A text that declares an identifier with all that can be asked for. -/
def parcelText : ManifestText :=
  ⟨"tvo.toml", "[generator]\nnamespace = \"Shop.Orders\"\n[value_objects.ParcelId]\ninner = \"global::System.Guid\"\n"
    ++ "nullable = true\ndefault_value = true\ndefault_equality_comparer = true\n"⟩

/-- The source file of the identifier. -/
def parcelFile : SourceFile := ⟨⟨"ParcelId", "global::System.Guid", "?", true, true, true⟩, some "Shop.Orders"⟩

theorem laidOut_parcelFile : (∃ m, parcelText.load = .ok m ∧ parcelFile ∈ m.sourceFiles) ∧ parcelFile.LaidOut := by
  have hload : parcelText.load = .ok ⟨⟨some "Shop.Orders", defaultOutput⟩,
      [("ParcelId", ⟨"global::System.Guid", some true, true, true, none⟩)]⟩ := eq_ok_of_toOption (by decide +kernel)
  have hfile : parcelFile ∈ Manifest.sourceFiles ⟨⟨some "Shop.Orders", defaultOutput⟩,
      [("ParcelId", ⟨"global::System.Guid", some true, true, true, none⟩)]⟩ := by decide +kernel
  exact ⟨⟨_, hload, hfile⟩, laidOut_of_load hload hfile⟩

end SourceFile

end ValueObjects

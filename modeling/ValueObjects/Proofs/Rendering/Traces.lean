import ValueObjects.Proofs.Rendering.Layout
import ValueObjects.Proofs.Text.Occurrence

/-!
# Traces of capabilities

What the capabilities of a value object leave in its source file. Names and types may look like it to some extent, but
there are a few characters in each trace that nothing else in a source file has side by side.
-/

namespace ValueObjects

open Outline

/-! ## Outlines -/

namespace Outline

/-- A word that has nothing to do with how outlines are printed. -/
structure Inline (word : List Char) : Prop where
  nonempty : word ≠ []
  notMem : ∀ c ∈ ['\n', '\t', '\x7b', '\x7d'], c ∉ word

variable {word : List Char} {o : Outline} {depth : Nat}

theorem Inline.not_infix_nil (h : Inline word) : ¬ word <:+: [] := fun hnil => h.nonempty (List.infix_nil.mp hnil)

theorem Inline.infix_of_cons (h : Inline word) {c : Char} (hc : c ∉ word) {rest : List Char}
    (hword : word <:+: c :: rest) : word <:+: rest := by
  have hsplit : word <:+: [] ∨ word <:+: rest := Text.infix_of_notMem hc hword
  exact hsplit.resolve_left h.not_infix_nil

theorem Inline.not_infix_indented (h : Inline word) {s : String} (hs : ¬ word <:+: s.toList) (depth : Nat) :
    ¬ word <:+: (margin depth ++ s).toList := by
  rw [String.toList_append, Layout.toList_margin]
  induction depth with
  | zero => exact hs
  | succ depth ih =>
    intro hword
    exact ih (h.infix_of_cons (h.notMem '\t' (by decide)) hword)

/-- What is not written in an outline is on no line of it. -/
theorem Each.not_infix_of_mem_lines (h : o.Each fun s => ¬ word <:+: s.toList) (hword : Inline word) {l : String}
    (hl : l ∈ o.lines depth) : ¬ word <:+: l.toList := by
  have hbrace : ∀ c ∈ ['\n', '\t', '\x7b', '\x7d'], ¬ word <:+: (String.ofList [c]).toList := by
    intro c hc hinfix
    rw [String.toList_ofList] at hinfix
    exact hword.not_infix_nil (hword.infix_of_cons (hword.notMem c hc) hinfix)
  refine h.of_mem_lines (q := fun l => ¬ word <:+: l.toList) hword.not_infix_nil ?_ ?_ ?_ hl
  · exact fun depth s hs => hword.not_infix_indented hs depth
  · exact hword.not_infix_indented (hbrace '\x7b' (by decide))
  · exact hword.not_infix_indented (hbrace '\x7d' (by decide))

/-- What is not written in an outline is not in its printed form. -/
theorem Each.not_infix_print (h : o.Each fun s => ¬ word <:+: s.toList) (hword : Inline word) (hneat : o.Neat)
    (depth : Nat) : ¬ word <:+: (o.print depth).toList := by
  intro hprint
  have hlines : word <:+: ((o.lines depth).map String.toList).flatMap (· ++ ['\n']) := by
    rwa [List.flatMap_map, ← toList_print hneat]
  obtain ⟨line, hline, hinfix⟩ := Text.exists_infix_of_lines (hword.notMem '\n' (by decide)) hword.nonempty hlines
  obtain ⟨l, hl, rfl⟩ := List.mem_map.mp hline
  exact h.not_infix_of_mem_lines hword hl hinfix

end Outline

theorem Trace.inline_core (trace : Trace) : Inline trace.core.toList := by
  cases trace <;> exact ⟨by decide, by simp [Trace.core]⟩

/-! ## Members -/

open Members in
/-- A value object has a line for each of its capabilities. -/
theorem Descriptor.exists_mem_lines {d : Descriptor} {trace : Trace} (h : trace.isLeftBy d) :
    ∃ l ∈ d.members.lines 1, trace.text.toList <:+: l.toList := by
  simp only [members, lines_append, List.mem_append]
  cases trace with
  | defaultValue =>
    have hvalue : d.hasDefaultValue = true := h
    refine ⟨margin 2 ++ (valueField ++ " = " ++ defaultValueProperty ++ "." ++ valueField ++ ";"), ?_, ?_⟩
    · simp [hvalue, publicConstructor, lines]
    · exact ⟨"\t\t".toList, [], by decide⟩
  | forbiddenConstructor =>
    have hvalue : d.hasDefaultValue = false := by simpa [Trace.isLeftBy] using h
    refine ⟨margin 1 ++ ("[global::System.Obsolete(" ++ useFactoryMessage d.typeName ++ ", error: true)]"), ?_, ?_⟩
    · simp [hvalue, publicConstructor, lines]
    · exact ⟨['\t'], ("\"Use " ++ d.typeName ++ ".\x7bnameof(From)\x7d instead.\", error: true)]").toList,
        by simp [Trace.text, useFactoryMessage, factoryMethod, Layout.toList_margin]⟩
  | equalityComparer =>
    have hcomparer : d.hasDefaultEqualityComparer = true := h
    refine ⟨margin 1 ++ ("public bool Equals(" ++ d.innerTypeName ++ d.nullabilityMarker ++ " other) => "
      ++ innerEquality true ++ ";"), ?_, ?_⟩
    · simp [hcomparer, equalsMethods, equalsInner, lines_append, lines]
    · exact ⟨("\tpublic bool Equals(" ++ d.innerTypeName ++ d.nullabilityMarker ++ " other) => ").toList, [';'],
        by simp [Trace.text, innerEquality, comparerProperty, valueField, Layout.toList_margin]⟩
  | newIdentifier =>
    have hguid : d.isGuidLike = true := h
    refine ⟨margin 1 ++ ("public static " ++ d.typeName ++ " NewId() => " ++ factoryMethod ++ "("
      ++ d.innerTypeName ++ ".NewGuid());"), ?_, ?_⟩
    · simp [hguid, newIdentifier, lines]
    · exact ⟨("\tpublic static " ++ d.typeName ++ " ").toList, (d.innerTypeName ++ ".NewGuid());").toList,
        by simp [Trace.text, factoryMethod, Layout.toList_margin]⟩

/-! ## Source files -/

namespace SourceFile

open Trace

variable {f : SourceFile} {trace : Trace}

/-- A source file has only the traces of the capabilities of its value object. -/
theorem Accepted.misses_outline (h : f.Accepted) (hleft : trace.isLeftBy f.descriptor = false) :
    f.outline.Each trace.Misses := by
  have htrace : trace ∉ leftBy f.descriptor := by simp [mem_leftBy, hleft]
  refine h.named.each_outline (fun _ hs => hs.misses htrace) fun s hs => ?_
  exact trace.inline_core.not_infix_indented (hs.misses List.not_mem_nil) 1

theorem Accepted.not_infix_render (h : f.Accepted) (hleft : trace.isLeftBy f.descriptor = false) :
    ¬ trace.text.toList <:+: f.render.toList := by
  intro htext
  rw [render, build_eq] at htext
  exact (h.misses_outline hleft).not_infix_print trace.inline_core h.singleLine.neat_outline 0
    (trace.core_infix.trans htext)

/-- The lines of the members are lines of the source file. -/
theorem Accepted.infix_textLines (h : f.Accepted) :
    (f.descriptor.members.lines 1).map String.toList <:+: f.textLines := by
  have hbody : f.body.lines 0 =
      "\x7b" :: (((field f.descriptor).lines 1 ++ f.descriptor.members.lines 1) ++ ["\x7d", ""]) := by
    rw [← lines_append]
    rfl
  rw [textLines_eq h.singleLine, lines_outline, hbody]
  exact ⟨(f.heading.lines 0 ++ (interfaceLines f.descriptor ++ "\x7b" :: (field f.descriptor).lines 1)).map
    String.toList, ["\x7d".toList, [], []], by simp⟩

/-- A trace is in a source file exactly if the value object leaves it. -/
theorem Accepted.infix_render_iff (h : f.Accepted) (trace : Trace) :
    trace.text.toList <:+: f.render.toList ↔ trace.isLeftBy f.descriptor := by
  constructor
  · intro htext
    by_contra hleft
    exact h.not_infix_render (by simpa using hleft) htext
  · intro hleft
    obtain ⟨l, hl, htext⟩ := Descriptor.exists_mem_lines hleft
    exact htext.trans (Text.infix_of_mem_split (h.infix_textLines.subset (List.mem_map_of_mem hl)))

/-- The lines of the constructor that must not be used. -/
def forbiddenConstructor (typeName : String) : List String :=
  ["\t[global::System.Obsolete($\"Use " ++ typeName ++ ".\x7bnameof(From)\x7d instead.\", error: true)]",
   "\tpublic " ++ typeName ++ "()",
   "\t\x7b",
   "\t\tthrow new global::System.InvalidOperationException($\"Use " ++ typeName ++ ".\x7bnameof(From)\x7d instead.\");",
   "\t\x7d"]

/-- The constructor that must not be used is there exactly if there is no default value. -/
theorem Accepted.forbiddenConstructor_iff (h : f.Accepted) :
    (forbiddenConstructor f.descriptor.typeName).map String.toList <:+: f.textLines ↔
      f.descriptor.hasDefaultValue = false := by
  constructor
  · intro hlines
    have hattribute := hlines.subset (List.mem_map_of_mem (List.mem_cons_self ..))
    have hleft : Trace.forbiddenConstructor.isLeftBy f.descriptor := by
      rw [← h.infix_render_iff]
      refine List.IsInfix.trans ?_ (Text.infix_of_mem_split hattribute)
      exact ⟨['\t'], ("\"Use " ++ f.descriptor.typeName ++ ".\x7bnameof(From)\x7d instead.\", error: true)]").toList,
        by simp [Trace.text]⟩
    simpa [Trace.isLeftBy] using hleft
  · intro hvalue
    have hconstructor : (Members.publicConstructor f.descriptor.typeName false).lines 1 =
        forbiddenConstructor f.descriptor.typeName ++ [""] := by
      simp [Members.publicConstructor, Members.useFactoryMessage, Members.factoryMethod, lines, forbiddenConstructor,
        ← String.toList_inj, Layout.toList_margin]
    have hmembers : forbiddenConstructor f.descriptor.typeName <:+: f.descriptor.members.lines 1 := by
      simp only [Descriptor.members, lines_append, hvalue, hconstructor, List.append_assoc]
      exact (List.prefix_append ..).isInfix
    exact (hmembers.map _).trans h.infix_textLines

end SourceFile

/-! ## New identifiers -/

theorem Outline.append_done (o : Outline) : o ++ done = o := by
  induction o with
  | done => rfl
  | line s rest ih => rw [line_append, ih]
  | raw s rest ih => rw [raw_append, ih]
  | blank rest ih => rw [blank_append, ih]
  | block body rest _ ih => rw [block_append, ih]

namespace Descriptor

/-- A value object that makes no new identifiers. -/
def withoutIdentifiers (d : Descriptor) : Descriptor := { d with isGuidLike := false }

theorem members_of_isGuidLike {d : Descriptor} (h : d.isGuidLike) :
    d.members = d.withoutIdentifiers.members ++ Members.newIdentifier d.typeName d.innerTypeName := by
  simp only [members, withoutIdentifiers, h, if_true, Bool.false_eq_true, if_false, append_done]

end Descriptor

namespace SourceFile

open Trace

variable {f : SourceFile}

/-- What stands in front of the factory of new identifiers. -/
def beforeIdentifiers (f : SourceFile) : String :=
  (f.header ++ declaration f.descriptor).print 0 ++ "\x7b\n"
    ++ (field f.descriptor ++ f.descriptor.withoutIdentifiers.members).print 1

theorem render_of_isGuidLike (h : f.descriptor.isGuidLike) :
    f.render = f.beforeIdentifiers ++ "\tpublic static " ++ f.descriptor.typeName ++ " NewId() => From("
      ++ f.descriptor.innerTypeName ++ ".NewGuid());\n\n\x7d\n\n" := by
  have hidentifier : (Members.newIdentifier f.descriptor.typeName f.descriptor.innerTypeName).print 1 =
      "\tpublic static " ++ f.descriptor.typeName ++ " NewId() => From(" ++ f.descriptor.innerTypeName
        ++ ".NewGuid());\n\n" := by
    simp [Members.newIdentifier, Members.factoryMethod, print, ← String.toList_inj, Layout.toList_margin]
  rw [render, build_eq, SourceFile.outline, Descriptor.members_of_isGuidLike h, beforeIdentifiers, print_append, print,
    print, Nat.zero_add, print_append 1 (field f.descriptor), print_append 1 (Descriptor.members _),
    print_append 1 (field f.descriptor), hidentifier]
  simp [← String.toList_inj]

/-- The source file of the value object if it made no new identifiers. -/
def withoutIdentifiers (f : SourceFile) : SourceFile := ⟨f.descriptor.withoutIdentifiers, f.namespaceName⟩

theorem Accepted.withoutIdentifiers (h : f.Accepted) : f.withoutIdentifiers.Accepted :=
  ⟨h.typeName, h.innerTypeName, h.inner_ne, h.marker, h.segments⟩

theorem render_withoutIdentifiers (f : SourceFile) :
    f.withoutIdentifiers.render = f.beforeIdentifiers ++ "\x7d\n\n" := by
  rw [render, build_eq, SourceFile.outline, beforeIdentifiers, print_append, print, print]
  simp [← String.toList_inj, withoutIdentifiers, header, declaration, field, Descriptor.withoutIdentifiers]

theorem Accepted.not_infix_beforeIdentifiers (h : f.Accepted) :
    ¬ Trace.newIdentifier.text.toList <:+: f.beforeIdentifiers.toList := by
  intro htext
  have hmissing : Trace.newIdentifier.isLeftBy f.withoutIdentifiers.descriptor = false := rfl
  refine h.withoutIdentifiers.not_infix_render hmissing ?_
  rw [render_withoutIdentifiers, String.toList_append]
  exact List.infix_append_of_infix_left htext

/-- Behind the other members, the text that gives new identifiers away ends where it is expected and not before. -/
theorem Accepted.not_infix_front (h : f.Accepted) : ¬ Trace.newIdentifier.text.toList <:+:
    (f.beforeIdentifiers ++ "\tpublic static " ++ f.descriptor.typeName ++ " ").toList
      ++ Trace.newIdentifier.text.toList.dropLast := by
  have hline : ¬ Trace.newIdentifier.text.toList <:+:
      ("public static " ++ f.descriptor.typeName ++ " NewId() => From").toList := by
    have hpieces : MadeOf Harmless _ ("public static " ++ f.descriptor.typeName ++ " NewId() => From") :=
      .text (.name (.first _) h.harmless_typeName) _
    exact hpieces.not_infix (by decide)
  intro htext
  have htab : Trace.newIdentifier.text.toList <:+: f.beforeIdentifiers.toList ++ '\t' ::
      ("public static " ++ f.descriptor.typeName ++ " NewId() => From").toList := by
    simpa [Trace.text] using htext
  rcases Text.infix_of_notMem (by decide) htab with hbefore | hbehind
  · exact h.not_infix_beforeIdentifiers hbefore
  · exact hline hbehind

theorem Accepted.not_infix_back (h : f.Accepted) : ¬ Trace.newIdentifier.text.toList <:+:
    Trace.newIdentifier.text.toList.tail ++ (f.descriptor.innerTypeName ++ ".NewGuid());\n\n\x7d\n\n").toList := by
  have hrest : ¬ Trace.newIdentifier.text.toList <:+:
      ("ewId() => From(" ++ f.descriptor.innerTypeName ++ ".NewGuid());\n\n\x7d\n\n").toList := by
    have hpieces : MadeOf Harmless _ ("ewId() => From(" ++ f.descriptor.innerTypeName ++ ".NewGuid());\n\n\x7d\n\n") :=
      .text (.name (.first _) h.harmless_innerTypeName) _
    exact hpieces.not_infix (by decide)
  simpa [Trace.text] using hrest

/-- New identifiers are made in one place, which is the last member. -/
theorem Accepted.newIdentifier_once (h : f.Accepted) (hguid : f.descriptor.isGuidLike) {before after : List Char}
    (hrender : f.render.toList = before ++ Trace.newIdentifier.text.toList ++ after) :
    before = (f.beforeIdentifiers ++ "\tpublic static " ++ f.descriptor.typeName ++ " ").toList := by
  refine Text.eq_of_occurs_once h.not_infix_front h.not_infix_back (Eq.trans ?_ hrender)
  rw [render_of_isGuidLike hguid]
  simp [Trace.text]

end SourceFile

end ValueObjects

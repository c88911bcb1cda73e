import ValueObjects.Proofs.Rendering.CodeLines

/-!
# Source files from their text

The text of a source file says all that there is to know about the file. Part by part its lines determine the names,
the types and the capabilities that they were made from.
-/

namespace ValueObjects

open Outline

variable {xs ys : List String}

/-! ## Members -/

namespace Members

/-- A type has a default value if its constructor without parameters has no attribute. -/
theorem eq_of_publicConstructor_lines {typeName : String} {b c : Bool} {depth : Nat}
    (h : (publicConstructor typeName b).lines depth ++ xs = (publicConstructor typeName c).lines depth ++ ys) :
    b = c ∧ xs = ys := by
  have hattribute : ∀ message : String,
      "public " ++ typeName ++ "()" ≠ "[global::System.Obsolete(" ++ message ++ ", error: true)]" := by
    intro message heq
    have hfirst := congrArg (·.toList.head?) heq
    simp at hfirst
  cases b <;> cases c
  case false.false | true.true => exact ⟨rfl, List.append_cancel_left h⟩
  case false.true =>
    simp only [publicConstructor, Bool.false_eq_true, if_true, if_false, lines, List.cons_append, List.cons.injEq,
      String.append_right_inj] at h
    exact absurd h.1.symm (hattribute _)
  case true.false =>
    simp only [publicConstructor, Bool.false_eq_true, if_true, if_false, lines, List.cons_append, List.cons.injEq,
      String.append_right_inj] at h
    exact absurd h.1 (hattribute _)

/-- The two ways to compare bare values end differently. -/
theorem append_innerEquality_ne (s t : String) : s ++ innerEquality true ≠ t ++ innerEquality false := by
  have hown : innerEquality true = "InnerValueDefaultEqualityComparer.Equals(Value," ++ " other)" := by decide +kernel
  have hstandard : innerEquality false = "Value.Equals" ++ "(other)" := by decide +kernel
  intro heq
  rw [hown, hstandard, ← String.append_assoc, ← String.append_assoc, ← String.toList_inj] at heq
  simp only [String.toList_append] at heq
  have hend := List.append_inj_right' heq (by decide)
  exact absurd hend (by decide)

/-- The marker stands between the inner type and words that tell the two ways to compare apart. -/
theorem eq_of_equalsInner_lines {inner marker marker' : String} {b c : Bool} {depth : Nat}
    (h : (equalsInner inner marker b).lines depth ++ xs = (equalsInner inner marker' c).lines depth ++ ys) :
    marker = marker' ∧ b = c ∧ xs = ys := by
  simp only [equalsInner, lines, List.cons_append, List.nil_append, List.cons.injEq, String.append_right_inj,
    String.append_left_inj] at h
  obtain ⟨hline, hrest⟩ := h
  cases b <;> cases c
  case false.false | true.true =>
    simp only [String.append_left_inj, String.append_assoc, String.append_right_inj] at hline
    exact ⟨hline, rfl, hrest⟩
  case false.true => exact absurd hline.symm (append_innerEquality_ne _ _)
  case true.false => exact absurd hline (append_innerEquality_ne _ _)

/-- Members that are always the same leave the lines behind them. -/
theorem eq_of_guid_lines {typeName inner : String} {b c : Bool} {depth : Nat} {rest : List String}
    (h : (if b then newIdentifier typeName inner else done).lines depth ++ rest =
      (if c then newIdentifier typeName inner else done).lines depth ++ rest) : b = c := by
  -- the lines of a factory may look like those behind them, but there are more of them
  have hlength := congrArg List.length h
  cases b <;> cases c <;> simp [newIdentifier, lines] at hlength ⊢ <;> omega

end Members

open Members in
/-- The lines of the members determine what the names do not. -/
theorem Descriptor.eq_of_members_lines {d e : Descriptor} (htype : d.typeName = e.typeName)
    (hinner : d.innerTypeName = e.innerTypeName) {depth : Nat} {rest : List String}
    (h : d.members.lines depth ++ rest = e.members.lines depth ++ rest) : d = e := by
  -- from the first line to the last one; what depends on the names only is dropped on the way
  simp only [members, equalsMethods, lines_append, List.append_assoc, htype, hinner] at h
  obtain ⟨hdefault, h⟩ := eq_of_publicConstructor_lines h
  have h := List.append_cancel_left (List.append_cancel_left (List.append_cancel_left (List.append_cancel_left h)))
  obtain ⟨hmarker, hcomparer, h⟩ := eq_of_equalsInner_lines h
  have h := List.append_cancel_left (List.append_cancel_left (List.append_cancel_left h))
  have hguid := eq_of_guid_lines h
  cases d
  cases e
  simp_all

/-! ## Source files -/

namespace SourceFile

/-- A namespace has a line of its own, in front of the first empty one. -/
theorem eq_of_header_lines {f g : SourceFile} (h : f.header.lines 0 ++ xs = g.header.lines 0 ++ ys) :
    f.namespaceName = g.namespaceName ∧ xs = ys := by
  have hempty : ∀ name : String, "namespace " ++ name ++ ";" ≠ "" := by simp
  unfold header at h
  -- behind two lines that are always the same there is a namespace or an empty line
  cases hf : f.namespaceName with
  | none =>
    cases hg : g.namespaceName with
    | none =>
      simp only [hf, hg] at h
      exact ⟨rfl, List.append_cancel_left h⟩
    | some name =>
      simp only [hf, hg, lines, margin_zero, String.empty_append, List.cons_append,
        List.cons.injEq] at h
      exact absurd h.2.2.1.symm (hempty name)
  | some name =>
    cases hg : g.namespaceName with
    | none =>
      simp only [hf, hg, lines, margin_zero, String.empty_append, List.cons_append,
        List.cons.injEq] at h
      exact absurd h.2.2.1 (hempty name)
    | some name' =>
      simp only [hf, hg, lines, List.cons_append, List.nil_append, List.cons.injEq, String.append_right_inj,
        String.append_left_inj, true_and] at h
      exact ⟨congrArg some h.1, h.2⟩

/-- The declaration has a line with both names. -/
theorem eq_of_declaration_lines {d e : Descriptor}
    (h : (declaration d).lines 0 ++ xs = (declaration e).lines 0 ++ ys) :
    d.typeName = e.typeName ∧ d.innerTypeName = e.innerTypeName ∧ xs = ys := by
  simp only [declaration, lines, List.cons_append, List.nil_append, List.cons.injEq, String.append_right_inj,
    String.append_left_inj, true_and] at h
  obtain ⟨htype, hinner, -, -, hrest⟩ := h
  exact ⟨htype, hinner, hrest⟩

/-- The lines of a file determine everything that they were made from. -/
theorem eq_of_outline_lines {f g : SourceFile} (h : f.outline.lines 0 = g.outline.lines 0) : f = g := by
  simp only [outline, lines_append, List.append_assoc] at h
  obtain ⟨hnamespace, h⟩ := eq_of_header_lines h
  obtain ⟨htype, hinner, h⟩ := eq_of_declaration_lines h
  simp only [lines, List.cons.injEq, true_and, lines_append, List.append_assoc, field, hinner] at h
  have hdescriptor := Descriptor.eq_of_members_lines htype hinner (List.append_cancel_left h)
  cases f
  cases g
  simp_all

/-- A text falls into lines in one way only, if nothing in the file breaks a line. -/
theorem SingleLine.lines_eq_of_render_eq {f g : SourceFile} (hf : f.SingleLine) (hg : g.SingleLine)
    (h : f.render = g.render) : f.outline.lines 0 = g.outline.lines 0 := by
  simp only [render, build_eq] at h
  exact lines_eq_of_print_eq hf.neat_outline hg.neat_outline h

/-- Rendering is injective: no two value objects, in a namespace or in none, have the same text. -/
theorem render_inj {d e : Descriptor} {ns ns' : Option String} (hd : SingleLine ⟨d, ns⟩) (he : SingleLine ⟨e, ns'⟩) :
    render ⟨d, ns⟩ = render ⟨e, ns'⟩ ↔
      (d.typeName = e.typeName ∧ d.innerTypeName = e.innerTypeName ∧ d.nullabilityMarker = e.nullabilityMarker
        ∧ d.hasDefaultValue = e.hasDefaultValue ∧ d.hasDefaultEqualityComparer = e.hasDefaultEqualityComparer
        ∧ d.isGuidLike = e.isGuidLike) ∧ ns = ns' := by
  constructor
  · intro h
    obtain ⟨rfl, rfl⟩ := SourceFile.mk.inj (eq_of_outline_lines (hd.lines_eq_of_render_eq he h))
    exact ⟨⟨rfl, rfl, rfl, rfl, rfl, rfl⟩, rfl⟩
  · rintro ⟨⟨htype, hinner, hmarker, hdefault, hcomparer, hguid⟩, rfl⟩
    obtain rfl : d = e := by
      cases d
      cases e
      simp_all
    rfl

/-- A marker is told from the end of an inner type, and an empty namespace from none. -/
theorem render_apart_of_splices :
    let marked : Descriptor := ⟨"Id", "int", "?", false, false, false⟩
    let unmarked : Descriptor := ⟨"Id", "int?", "", false, false, false⟩
    SingleLine ⟨marked, none⟩ ∧ SingleLine ⟨marked, some ""⟩ ∧ SingleLine ⟨unmarked, none⟩
      ∧ render ⟨marked, none⟩ ≠ render ⟨marked, some ""⟩ ∧ render ⟨marked, none⟩ ≠ render ⟨unmarked, none⟩ := by
  intro marked unmarked
  have hmarked : SingleLine ⟨marked, none⟩ := ⟨⟨by decide⟩, ⟨by decide⟩, ⟨by decide⟩, nofun⟩
  have hempty : SingleLine ⟨marked, some ""⟩ :=
    ⟨hmarked.typeName, hmarked.innerTypeName, hmarked.marker, by rintro _ ⟨rfl⟩; exact ⟨by decide⟩⟩
  have hunmarked : SingleLine ⟨unmarked, none⟩ := ⟨⟨by decide⟩, ⟨by decide⟩, ⟨by decide⟩, nofun⟩
  refine ⟨hmarked, hempty, hunmarked, fun h => ?_, fun h => ?_⟩
  · exact absurd ((render_inj hmarked hempty).mp h).2 nofun
  · exact absurd ((render_inj hmarked hunmarked).mp h).1.2.1 (by decide)

end SourceFile

end ValueObjects

import ValueObjects.Proofs.Rendering.Declarations

/-!
# Overloads of equality

The overloads of equality that a source file declares, read off its text: for another value object, for a bare value,
and for a value object and a comparer that the caller brings. No other line of the file begins like one of them.
-/

namespace ValueObjects

/-! ## Lines that begin overloads -/

namespace Declaration

/-- Decide whether a declaration is an overload of equality that does not stand in for an inherited one. -/
def isOverload : Declaration → Bool
  | method modifier result name _ => modifier == "" && result == "bool" && name == "Equals"
  | _ => false

/-- Decide whether a line inside one block begins such an overload. -/
def isOverloadLine (line : List Char) : Bool := "\tpublic bool Equals(".toList.isPrefixOf line

theorem isOpening_of_isOverloadLine {line : List Char} (h : isOverloadLine line) : isOpening line := by
  obtain ⟨rest, rfl⟩ := List.isPrefixOf_iff_prefix.mp h
  simp [isOpening]

/-- The parameters of an overload stand behind its name. -/
theorem prefix_of_opens_method {parameters : List Parameter} {line : List Char}
    (h : (method "" "bool" "Equals" parameters).Opens line) :
    ("\tpublic bool Equals" ++ Parameter.list parameters).toList <+: line := by
  obtain ⟨body, rfl, -⟩ := h
  exact ⟨body.toList, by simp [text_method]⟩

/-- A text whose first blank comes late does not begin with a word whose first blank comes early. -/
theorem not_prefix_of_notMem {c d : Char} {word rest name behind : List Char} (hc : c ∉ name) (hd : d ∉ word)
    (hne : c ≠ d) : ¬ word ++ c :: rest <+: name ++ d :: behind := by
  induction word generalizing name with
  | nil => cases name <;> simp_all
  | cons x word ih =>
    rw [List.mem_cons, not_or] at hd
    cases name with
    | nil => exact fun h => hd.1 (List.cons_prefix_cons.mp h).1.symm
    | cons y name =>
      rw [List.mem_cons, not_or] at hc
      exact fun h => ih hc.2 hd.2 (List.cons_prefix_cons.mp h).2

/-- A constructor is no overload, because its name has no blank in it. -/
theorem isOverloadLine_typeConstructor {typeName body : String} (htype : ' ' ∉ typeName.toList) :
    isOverloadLine ("\t" ++ (typeConstructor false typeName []).text ++ body).toList = false := by
  have hnot : ¬ "bool".toList ++ ' ' :: "Equals(".toList <+: typeName.toList ++ '(' :: ')' :: body.toList :=
    not_prefix_of_notMem htype (by decide) (by decide)
  rw [isOverloadLine, ← Bool.not_eq_true, List.isPrefixOf_iff_prefix]
  simpa [text_typeConstructor, Parameter.list] using hnot

end Declaration

/-! ## The overloads of a value object -/

open Declaration

theorem Descriptor.filter_isOverload (d : Descriptor) : d.declarations.filter isOverload =
    [.method "" "bool" "Equals" [⟨d.typeName, "other"⟩],
     .method "" "bool" "Equals" [⟨d.innerTypeName ++ d.nullabilityMarker, "other"⟩],
     .method "" "bool" "Equals" [⟨d.typeName, "other"⟩,
       ⟨"global::System.Collections.Generic.IEqualityComparer<" ++ d.innerTypeName ++ ">", "comparer"⟩]] := by
  cases hguid : d.isGuidLike <;> simp [declarations, isOverload, hguid]

/-- Related lists stay related if the same places are left out of both. -/
theorem forall₂_filter {α β : Type} {R : α → β → Prop} {p : α → Bool} {q : β → Bool} {as : List α} {bs : List β}
    (h : List.Forall₂ R as bs) (hpq : ∀ a ∈ as, ∀ b, R a b → q b = p a) :
    List.Forall₂ R (as.filter p) (bs.filter q) := by
  induction h with
  | nil => exact .nil
  | @cons a b as bs hab _ ih =>
    have hrest := ih fun a ha => hpq a (by simp [ha])
    have hhead := hpq a (by simp) b hab
    cases hp : p a <;> rw [hp] at hhead
    · simpa [hp, hhead] using hrest
    · simpa [hp, hhead] using List.Forall₂.cons hab hrest

namespace SourceFile

variable {f : SourceFile}

/-- A line with a member of a value object begins like an overload only if the member is one. -/
theorem Accepted.isOverloadLine_eq (h : f.Accepted) :
    ∀ d ∈ f.descriptor.declarations, ∀ line, d.Opens line → isOverloadLine line = d.isOverload := by
  have htype : ' ' ∉ f.descriptor.typeName.toList := fun hmem => absurd (h.typeName.isNamePart hmem) (by decide)
  have hidentifier : ∀ line, (method "static " f.descriptor.typeName "NewId" []).Opens line →
      isOverloadLine line = false := by
    rintro line ⟨body, rfl, -⟩
    simp [text_method, isOverloadLine, List.isPrefixOf]
  have hidentifiers : ∀ d ∈ if f.descriptor.isGuidLike then [method "static " f.descriptor.typeName "NewId" []] else [],
      ∀ line, d.Opens line → isOverloadLine line = d.isOverload := by
    split
    · rintro d (_ | ⟨_, ⟨⟩⟩) line hopens
      exact hidentifier line hopens
    · exact fun d hd => absurd hd List.not_mem_nil
  unfold Descriptor.declarations
  simp only [List.forall_mem_append, List.forall_mem_cons, List.not_mem_nil, false_implies, implies_true, and_true]
  refine ⟨?_, hidentifiers⟩
  and_intros <;> rintro line ⟨body, rfl, -⟩
  case refine_2.refine_1 => exact isOverloadLine_typeConstructor htype
  all_goals simp [text_field, text_typeConstructor, text_method, text_operator, text_conversion, Parameter.list,
    isOverloadLine, isOverload, List.isPrefixOf]

/-- The lines of a source file that begin like overloads of equality, each with the parameters that it has. -/
theorem Accepted.overloads (h : f.Accepted) :
    List.Forall₂ (fun parameters line => ("\tpublic bool Equals(" ++ parameters ++ ")").toList <+: line)
      [f.descriptor.typeName ++ " other",
       f.descriptor.innerTypeName ++ f.descriptor.nullabilityMarker ++ " other",
       f.descriptor.typeName ++ " other, global::System.Collections.Generic.IEqualityComparer<"
         ++ f.descriptor.innerTypeName ++ "> comparer"]
      (f.textLines.filter isOverloadLine) := by
  have hfilter : f.textLines.filter isOverloadLine = (f.textLines.filter isOpening).filter isOverloadLine := by
    rw [List.filter_filter]
    refine List.filter_congr fun line _ => ?_
    cases hline : isOverloadLine line <;> simp [hline, isOpening_of_isOverloadLine]
  have hopens := forall₂_filter h.opens h.isOverloadLine_eq
  rw [Descriptor.filter_isOverload] at hopens
  rw [hfilter]
  generalize (f.textLines.filter isOpening).filter isOverloadLine = lines at hopens
  obtain _ | ⟨hsame, _ | ⟨hinner, _ | ⟨hcomparer, ⟨⟩⟩⟩⟩ := hopens
  refine .cons ?_ (.cons ?_ (.cons ?_ .nil))
  · simpa [Parameter.list] using prefix_of_opens_method hsame
  · simpa [Parameter.list] using prefix_of_opens_method hinner
  · simpa [Parameter.list] using prefix_of_opens_method hcomparer

end SourceFile

end ValueObjects

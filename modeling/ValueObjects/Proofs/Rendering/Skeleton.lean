import ValueObjects.Code.Outline
import ValueObjects.Proofs.Manifest.SourceFiles

/-!
# Skeletons

What is left of a text without its harmless characters. Nothing is left of the names, the types and the namespace of an
accepted manifest, so the skeleton of a source file depends on nothing but its capabilities: no name adds a line, a
brace, a quote or a comment to the generated code, and none takes one away.
-/

namespace ValueObjects

/-! ## Texts -/

/-- A text without its harmless characters. -/
def skeleton (s : String) : String := String.ofList (s.toList.filter (!isHarmless ·))

theorem skeleton_append (s t : String) : skeleton (s ++ t) = skeleton s ++ skeleton t := by
  simp [skeleton]

/-- Nothing is left of a harmless text. -/
theorem Harmless.skeleton_eq {s : String} (h : Harmless s) : skeleton s = "" := by
  have hnil : s.toList.filter (!isHarmless ·) = [] := List.filter_eq_nil_iff.mpr fun c hc => by simp [h c hc]
  rw [skeleton, hnil]

/-! ## Outlines -/

namespace Outline

/-- Two outlines have the same form, and their lines have the same skeletons. -/
inductive Alike : Outline → Outline → Prop
  | done : Alike done done
  | line {s t : String} {o p : Outline} (h : skeleton s = skeleton t) (hrest : Alike o p) : Alike (line s o) (line t p)
  | raw {s t : String} {o p : Outline} (h : skeleton s = skeleton t) (hrest : Alike o p) : Alike (raw s o) (raw t p)
  | blank {o p : Outline} (hrest : Alike o p) : Alike (blank o) (blank p)
  | block {body body' o p : Outline} (hbody : Alike body body') (hrest : Alike o p) :
    Alike (block body o) (block body' p)

theorem Alike.refl (o : Outline) : Alike o o := by
  induction o with
  | done => exact .done
  | line s rest ih => exact .line rfl ih
  | raw s rest ih => exact .raw rfl ih
  | blank rest ih => exact .blank ih
  | block body rest ihb ihr => exact .block ihb ihr

theorem Alike.append {o p o' p' : Outline} (h : Alike o p) (h' : Alike o' p') : Alike (o ++ o') (p ++ p') := by
  induction h with
  | done => exact h'
  | line heq _ ih => exact .line heq ih
  | raw heq _ ih => exact .raw heq ih
  | blank _ ih => exact .blank ih
  | block hbody _ _ ih => exact .block hbody ih

/-- Printing keeps what outlines have in common. -/
theorem Alike.skeleton_print {o p : Outline} (h : Alike o p) (depth : Nat) :
    skeleton (o.print depth) = skeleton (p.print depth) := by
  induction h generalizing depth with
  | done => rfl
  | line heq _ ih => simp only [print, skeleton_append, heq, ih]
  | raw heq _ ih => simp only [print, skeleton_append, heq, ih]
  | blank _ ih => simp only [print, skeleton_append, ih]
  | block _ _ ihb ihr => simp only [print, skeleton_append, ihb, ihr]

end Outline

/-! ## Members -/

open Outline

namespace Members

variable {typeName typeName' inner inner' marker marker' : String}

theorem alike_publicConstructor (htype : skeleton typeName = skeleton typeName') (hasDefaultValue : Bool) :
    Alike (publicConstructor typeName hasDefaultValue) (publicConstructor typeName' hasDefaultValue) := by
  have hmessage : skeleton (useFactoryMessage typeName) = skeleton (useFactoryMessage typeName') := by
    simp only [useFactoryMessage, skeleton_append, htype]
  cases hasDefaultValue with
  | true => exact .line (by simp only [skeleton_append, htype]) (.refl _)
  | false =>
    refine .line (by simp only [skeleton_append, hmessage]) (.line (by simp only [skeleton_append, htype]) ?_)
    exact .block (.line (by simp only [skeleton_append, hmessage]) .done) .done

theorem alike_privateConstructor (htype : skeleton typeName = skeleton typeName')
    (hinner : skeleton inner = skeleton inner') :
    Alike (privateConstructor typeName inner) (privateConstructor typeName' inner') :=
  .line (by simp only [skeleton_append, htype, hinner]) (.refl _)

theorem alike_factory (htype : skeleton typeName = skeleton typeName') (hinner : skeleton inner = skeleton inner') :
    Alike (factory typeName inner) (factory typeName' inner') :=
  .line (by simp only [skeleton_append, htype, hinner]) (.refl _)

theorem alike_equalsMethods (htype : skeleton typeName = skeleton typeName') (hinner : skeleton inner = skeleton inner')
    (hmarker : skeleton marker = skeleton marker') (hasDefaultEqualityComparer : Bool) :
    Alike (equalsMethods typeName inner marker hasDefaultEqualityComparer)
      (equalsMethods typeName' inner' marker' hasDefaultEqualityComparer) := by
  have hsame : Alike (equalsSame typeName) (equalsSame typeName') :=
    .line (by simp only [skeleton_append, htype]) .done
  have hinnerEquals : Alike (equalsInner inner marker hasDefaultEqualityComparer)
      (equalsInner inner' marker' hasDefaultEqualityComparer) :=
    .line (by simp only [skeleton_append, hinner, hmarker]) .done
  have hothers : Alike (equalsOthers typeName inner) (equalsOthers typeName' inner') := by
    refine .line (by simp only [skeleton_append, htype, hinner]) (.line rfl (.block (.line rfl ?_) .done))
    exact .line (by simp only [skeleton_append, htype]) (.line (by simp only [skeleton_append, hinner]) (.refl _))
  exact (hsame.append hinnerEquals).append hothers

theorem skeleton_equalityOperator {operator left left' right right' body : String}
    (hleft : skeleton left = skeleton left') (hright : skeleton right = skeleton right') :
    skeleton (equalityOperator operator left right body) = skeleton (equalityOperator operator left' right' body) := by
  unfold equalityOperator
  simp only [skeleton_append, hleft, hright]

theorem alike_equalityOperators (htype : skeleton typeName = skeleton typeName')
    (hinner : skeleton inner = skeleton inner') :
    Alike (equalityOperators typeName inner) (equalityOperators typeName' inner') := by
  refine .line (skeleton_equalityOperator htype htype) (.line (skeleton_equalityOperator htype htype) (.blank ?_))
  refine .line (skeleton_equalityOperator htype hinner) (.line (skeleton_equalityOperator htype hinner) ?_)
  exact .line (skeleton_equalityOperator hinner htype) (.line (skeleton_equalityOperator hinner htype) (.refl _))

theorem alike_explicitCasts (htype : skeleton typeName = skeleton typeName')
    (hinner : skeleton inner = skeleton inner') :
    Alike (explicitCasts typeName inner) (explicitCasts typeName' inner') :=
  .line (by simp only [skeleton_append, htype, hinner]) (.line (by simp only [skeleton_append, htype, hinner]) (.refl _))

theorem alike_newIdentifier (htype : skeleton typeName = skeleton typeName')
    (hinner : skeleton inner = skeleton inner') :
    Alike (newIdentifier typeName inner) (newIdentifier typeName' inner') :=
  .line (by simp only [skeleton_append, htype, hinner]) (.refl _)

end Members

open Members in
/-- Members with the same capabilities are alike. -/
theorem Descriptor.alike_members {d e : Descriptor} (htype : skeleton d.typeName = skeleton e.typeName)
    (hinner : skeleton d.innerTypeName = skeleton e.innerTypeName)
    (hmarker : skeleton d.nullabilityMarker = skeleton e.nullabilityMarker)
    (hdefault : d.hasDefaultValue = e.hasDefaultValue)
    (hcomparer : d.hasDefaultEqualityComparer = e.hasDefaultEqualityComparer) (hguid : d.isGuidLike = e.isGuidLike) :
    Alike d.members e.members := by
  unfold members
  rw [hdefault, hcomparer, hguid]
  refine .append (.append (.append (.append (.append (.append (.append ?_ ?_) ?_) ?_) ?_) ?_) ?_) ?_
  · exact alike_publicConstructor htype _
  · exact alike_privateConstructor htype hinner
  · exact alike_factory htype hinner
  · exact .refl _
  · exact alike_equalsMethods htype hinner hmarker _
  · exact alike_equalityOperators htype hinner
  · exact alike_explicitCasts htype hinner
  · split
    · exact alike_newIdentifier htype hinner
    · exact .done

/-! ## Source files -/

namespace SourceFile

variable {f g : SourceFile}

theorem alike_header (hf : f.Accepted) (hg : g.Accepted)
    (hnamespace : f.namespaceName.isSome = g.namespaceName.isSome) : Alike f.header g.header := by
  unfold header
  refine .line rfl (.line rfl ?_)
  cases hf' : f.namespaceName with
  | none =>
    cases hg' : g.namespaceName with
    | none => exact .refl _
    | some name => simp [hf', hg'] at hnamespace
  | some name =>
    cases hg' : g.namespaceName with
    | none => simp [hf', hg'] at hnamespace
    | some name' =>
      have hname : skeleton name = skeleton name' := by
        rw [(hf.harmless_namespaceName hf').skeleton_eq, (hg.harmless_namespaceName hg').skeleton_eq]
      exact .line (by simp only [skeleton_append, hname]) (.refl _)

theorem alike_declaration {d e : Descriptor} (htype : skeleton d.typeName = skeleton e.typeName)
    (hinner : skeleton d.innerTypeName = skeleton e.innerTypeName) : Alike (declaration d) (declaration e) := by
  refine .line rfl (.line rfl (.line (by simp only [skeleton_append, htype]) ?_))
  refine .line (by simp only [skeleton_append, hinner]) (.line (by simp only [skeleton_append, htype]) ?_)
  exact .line (by simp only [skeleton_append, hinner]) .done

theorem alike_field {d e : Descriptor} (hinner : skeleton d.innerTypeName = skeleton e.innerTypeName) :
    Alike (field d) (field e) :=
  .line (by simp only [skeleton_append, hinner]) (.refl _)

/-- For accepted manifests the skeleton of a source file depends on its capabilities only. -/
theorem skeleton_render_eq {t u : ManifestText} {m n : Manifest} (hm : t.load = .ok m) (hn : u.load = .ok n)
    (hf : f ∈ m.sourceFiles) (hg : g ∈ n.sourceFiles)
    (hnamespace : f.namespaceName.isSome = g.namespaceName.isSome)
    (hdefault : f.descriptor.hasDefaultValue = g.descriptor.hasDefaultValue)
    (hcomparer : f.descriptor.hasDefaultEqualityComparer = g.descriptor.hasDefaultEqualityComparer)
    (hguid : f.descriptor.isGuidLike = g.descriptor.isGuidLike) : skeleton f.render = skeleton g.render := by
  replace hf := (ManifestText.wellFormed_of_load hm).accepted hf
  replace hg := (ManifestText.wellFormed_of_load hn).accepted hg
  -- nothing is left of either name, so nothing tells them apart
  have htype : skeleton f.descriptor.typeName = skeleton g.descriptor.typeName := by
    rw [hf.harmless_typeName.skeleton_eq, hg.harmless_typeName.skeleton_eq]
  have hinner : skeleton f.descriptor.innerTypeName = skeleton g.descriptor.innerTypeName := by
    rw [hf.harmless_innerTypeName.skeleton_eq, hg.harmless_innerTypeName.skeleton_eq]
  have hmarker : skeleton f.descriptor.nullabilityMarker = skeleton g.descriptor.nullabilityMarker := by
    rw [hf.harmless_marker.skeleton_eq, hg.harmless_marker.skeleton_eq]
  have hmembers := Descriptor.alike_members htype hinner hmarker hdefault hcomparer hguid
  have houtline : Alike f.outline g.outline :=
    ((alike_header hf hg hnamespace).append (alike_declaration htype hinner)).append
      (.block ((alike_field hinner).append hmembers) .done)
  rw [render, render, build_eq, build_eq]
  exact houtline.skeleton_print 0

/-- A text that declares an identifier. -/
def idText : ManifestText :=
  ⟨"tvo.toml", "[generator]\nnamespace = \"Shop\"\n[value_objects.Id]\ninner = \"Guid\"\n"⟩

/-- A text that declares another one, which may be absent. -/
def orderIdText : ManifestText :=
  ⟨"tvo.toml", "[generator]\nnamespace = \"A.B\"\n[value_objects.OrderId]\ninner = \"System.Guid\"\nnullable = true\n"⟩

/-- The source file of the first identifier. -/
def idFile : SourceFile := ⟨⟨"Id", "Guid", "", false, false, true⟩, some "Shop"⟩

/-- The source file of the second identifier. -/
def orderIdFile : SourceFile := ⟨⟨"OrderId", "System.Guid", "?", false, false, true⟩, some "A.B"⟩

theorem skeleton_render_idFile :
    (∃ m, idText.load = .ok m ∧ idFile ∈ m.sourceFiles)
      ∧ (∃ n, orderIdText.load = .ok n ∧ orderIdFile ∈ n.sourceFiles)
      ∧ skeleton idFile.render = skeleton orderIdFile.render := by
  have hid : idText.load = .ok ⟨⟨some "Shop", defaultOutput⟩, [("Id", ⟨"Guid", none, false, false, none⟩)]⟩ :=
    eq_ok_of_toOption (by decide +kernel)
  have hidFile : idFile ∈
      Manifest.sourceFiles ⟨⟨some "Shop", defaultOutput⟩, [("Id", ⟨"Guid", none, false, false, none⟩)]⟩ := by
    decide +kernel
  have horder : orderIdText.load =
      .ok ⟨⟨some "A.B", defaultOutput⟩, [("OrderId", ⟨"System.Guid", some true, false, false, none⟩)]⟩ :=
    eq_ok_of_toOption (by decide +kernel)
  have horderFile : orderIdFile ∈ Manifest.sourceFiles
      ⟨⟨some "A.B", defaultOutput⟩, [("OrderId", ⟨"System.Guid", some true, false, false, none⟩)]⟩ := by
    decide +kernel
  exact ⟨⟨_, hid, hidFile⟩, ⟨_, horder, horderFile⟩,
    skeleton_render_eq hid horder hidFile horderFile rfl rfl rfl rfl⟩

end SourceFile

end ValueObjects

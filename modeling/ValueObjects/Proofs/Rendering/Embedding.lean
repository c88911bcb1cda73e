import ValueObjects.Proofs.Code.Indentation
import ValueObjects.Proofs.Rendering.CodeLines

/-!
# Embedded members

Members that are written inside blocks are the members alone, indented. This is so for each family of members and for
all of them together, and a source file is its declaration with the members alone embedded in a block.
-/

namespace ValueObjects

open Outline

/-! ## Members -/

namespace Members.Procedure

/-- Run a procedure on a builder. -/
def run (p : Procedure) (b : CodeBuilder) : CodeBuilder := b.write p.outline

/-- A procedure that is given nothing that breaks a line writes lines and nothing else. -/
theorem neat_outline (p : Procedure) (h : ∀ s ∈ p.arguments, OneLine s) : p.outline.Neat :=
  each_oneLine.mp ((p.codeLines h).imp fun _ hs => hs.oneLine)

/-- Every line of a procedure has something in it, whatever the names and types are. -/
theorem each_ne_empty (p : Procedure) : p.outline.Each (· ≠ "") :=
  (p.codeLines fun _ _ => True.intro).imp fun _ hs => hs.ne_empty

/-- What a procedure adds to a builder is what it gives a new one, indented. -/
theorem run_eq (p : Procedure) (h : ∀ s ∈ p.arguments, OneLine s) (b : CodeBuilder) :
    p.run b = ⟨b.depth, b.text ++ Text.indent b.depth (p.run .empty).text⟩ :=
  (p.neat_outline h).write_eq p.each_ne_empty b

end Members.Procedure

/-! ## Source files -/

namespace SourceFile

variable {f : SourceFile}

theorem build_append (o p : Outline) : (o ++ p).build = o.build ++ p.build := by
  simp only [build_eq, print_append]

theorem build_block (body : Outline) : (block body done).build = "\x7b\n" ++ body.print 1 ++ "\x7d\n\n" := by
  simp [build_eq, print]

theorem build_field (d : Descriptor) : (field d).build = "public readonly " ++ d.innerTypeName ++ " Value;\n\n" := by
  simp [build_eq, field, print, Members.valueField, ← String.toList_inj]

/-- A source file is its heading with the field and the members alone embedded in a block. -/
theorem render_eq (htype : OneLine f.descriptor.typeName) (hinner : OneLine f.descriptor.innerTypeName)
    (hmarker : OneLine f.descriptor.nullabilityMarker) :
    f.render = f.header.build ++ (declaration f.descriptor).build ++ "\x7b\n"
      ++ Text.indent 1 ("public readonly " ++ f.descriptor.innerTypeName ++ " Value;\n" ++ "\n"
        ++ f.descriptor.renderMembers) ++ "\x7d\n\n" := by
  -- the namespace stands in front of the block
  have hnamed : Named OneLine ⟨f.descriptor, none⟩ := ⟨htype, hinner, hmarker, nofun⟩
  obtain ⟨hlines, -⟩ := hnamed.codeLines_body
  have hneat : (field f.descriptor ++ f.descriptor.members).Neat :=
    each_oneLine.mp (hlines.imp fun _ hs => hs.oneLine)
  have hbody : (field f.descriptor ++ f.descriptor.members).print (0 + 1) =
      Text.indent 1 (field f.descriptor ++ f.descriptor.members).build := by
    rw [hneat.print_add (hlines.imp fun _ hs => hs.ne_empty), build_eq]
  have halone : (field f.descriptor ++ f.descriptor.members).build =
      "public readonly " ++ f.descriptor.innerTypeName ++ " Value;\n" ++ "\n" ++ f.descriptor.renderMembers := by
    rw [build_append, build_field, Descriptor.renderMembers]
    simp [← String.toList_inj]
  rw [render, SourceFile.outline, build_append, build_append, build_block, ← halone, ← hbody]
  simp only [String.append_assoc]

/-- Writing members commutes with indentation. Each procedure leaves the depth of a builder as it is and adds to its
text what it would give a new builder, with a tab for every open block in front of each line that is not empty. So a
source file is its header, its declaration, and in a block the field and the members alone. -/
theorem members_embed :
    (∀ p : Members.Procedure, (∀ s ∈ p.arguments, OneLine s) → ∀ b : CodeBuilder,
      p.run b = ⟨b.depth, b.text ++ Text.indent b.depth (p.run .empty).text⟩)
    ∧ ∀ f : SourceFile,
      OneLine f.descriptor.typeName → OneLine f.descriptor.innerTypeName → OneLine f.descriptor.nullabilityMarker →
      f.render = f.header.build ++ (declaration f.descriptor).build ++ "\x7b\n"
        ++ Text.indent 1 ("public readonly " ++ f.descriptor.innerTypeName ++ " Value;\n" ++ "\n"
          ++ f.descriptor.renderMembers) ++ "\x7d\n\n" :=
  ⟨fun p h b => p.run_eq h b,
    fun _ htype hinner hmarker => render_eq htype hinner hmarker⟩

/-- The default constructor of a type inside two blocks, and the file of a type with a default value. -/
theorem members_embed_weight :
    (⟨2, "struct\n"⟩ : CodeBuilder).write (Members.publicConstructor "Weight" true) =
      ⟨2, "struct\n" ++ "\t\tpublic Weight()\n\t\t\x7b\n\t\t\tValue = DefaultValue.Value;\n\t\t\x7d\n\n"⟩
    ∧ SourceFile.render ⟨(Descriptor.plain "Weight" "double").withDefaultValue, none⟩ =
      "// <auto-generated/>\n#nullable enable\n\n" ++ (declaration (.plain "Weight" "double")).build ++ "\x7b\n"
        ++ Text.indent 1 ("public readonly double Value;\n\n"
          ++ ((Descriptor.plain "Weight" "double").withDefaultValue).renderMembers) ++ "\x7d\n\n" := by
  have htype : OneLine "Weight" := oneLine_ofList (by decide)
  have hinner : OneLine "double" := oneLine_ofList (by decide)
  have hmarker : OneLine "" := oneLine_ofList (by decide)
  constructor
  · have hrun := members_embed.1 (.publicConstructor "Weight" true) (by simpa [Members.Procedure.arguments] using htype)
      ⟨2, "struct\n"⟩
    have halone : Text.indent 2 (Members.Procedure.run (.publicConstructor "Weight" true) .empty).text =
        "\t\tpublic Weight()\n\t\t\x7b\n\t\t\tValue = DefaultValue.Value;\n\t\t\x7d\n\n" := by decide +kernel
    rw [halone] at hrun
    exact hrun
  · have hfile := members_embed.2 ⟨(Descriptor.plain "Weight" "double").withDefaultValue, none⟩ htype hinner hmarker
    have hheader : (SourceFile.header ⟨(Descriptor.plain "Weight" "double").withDefaultValue, none⟩).build =
        "// <auto-generated/>\n#nullable enable\n\n" := by decide +kernel
    rw [hheader] at hfile
    exact hfile

end SourceFile

end ValueObjects

import ValueObjects.Proofs.Manifest.SourceFiles
import ValueObjects.Proofs.Rendering.Pieces

/-!
# Lines of generated code

Every line of a source file is put together from texts that are written out and from the names that the file is made of.
So if none of these breaks a line, neither does any line, and the file consists of lines and nothing else. In the same
way it can be told how the lines are laid out and which of them show that a value object has a capability.
-/

namespace ValueObjects

open Outline

/-! ## Traces -/

/-- What is written only for value objects with or without a capability. -/
inductive Trace
  | defaultValue
  | forbiddenConstructor
  | equalityComparer
  | newIdentifier
deriving DecidableEq

namespace Trace

/-- How a trace is written. -/
def text : Trace → String
  | defaultValue => "Value = DefaultValue.Value;"
  | forbiddenConstructor => "[global::System.Obsolete($"
  | equalityComparer => "InnerValueDefaultEqualityComparer.Equals(Value, other)"
  | newIdentifier => "NewId() => From("

/-- The part of a trace that gives it away. -/
def core : Trace → String
  | defaultValue => "= D"
  | forbiddenConstructor => "e($"
  | equalityComparer => ".Equals(Value, other)"
  | newIdentifier => "() => F"

/-- Decide whether there is a trace in the source file of a value object. -/
def isLeftBy (d : Descriptor) : Trace → Bool
  | defaultValue => d.hasDefaultValue
  | forbiddenConstructor => !d.hasDefaultValue
  | equalityComparer => d.hasDefaultEqualityComparer
  | newIdentifier => d.isGuidLike

theorem core_infix (trace : Trace) : trace.core.toList <:+: trace.text.toList := by
  cases trace <;> decide

def all : List Trace := [defaultValue, forbiddenConstructor, equalityComparer, newIdentifier]

theorem mem_all (trace : Trace) : trace ∈ all := by
  cases trace <;> decide

/-- The traces in the source file of a value object. -/
def leftBy (d : Descriptor) : List Trace := all.filter (·.isLeftBy d)

theorem mem_leftBy {trace : Trace} {d : Descriptor} : trace ∈ leftBy d ↔ trace.isLeftBy d := by
  simp [leftBy, trace.mem_all]

/-- A text does not have in it what gives a trace away. -/
def Misses (trace : Trace) (s : String) : Prop := ¬ trace.core.toList <:+: s.toList

end Trace

/-! ## Lines -/

/-- Pieces make a line of generated code that leaves some traces and no others. -/
structure Piece.Fit (traces : List Trace) (pieces : List Piece) : Prop where
  staysOnLine : pieces.all Piece.staysOnLine
  begins : Piece.beginsLine pieces
  ends : Piece.endsLine pieces
  braces : Piece.openBraces? pieces = some 0
  misses : ∀ trace ∈ Trace.all, trace ∉ traces → [] ∉ Piece.left isHarmless [trace.core.toList] pieces

instance (traces : List Trace) (pieces : List Piece) : Decidable (Piece.Fit traces pieces) :=
  decidable_of_iff (pieces.all Piece.staysOnLine ∧ Piece.beginsLine pieces ∧ Piece.endsLine pieces
      ∧ Piece.openBraces? pieces = some 0
      ∧ ∀ trace ∈ Trace.all, trace ∉ traces → [] ∉ Piece.left isHarmless [trace.core.toList] pieces)
    ⟨fun ⟨honeLine, hbegins, hends, hbraces, hmisses⟩ => ⟨honeLine, hbegins, hends, hbraces, hmisses⟩,
      fun h => ⟨h.staysOnLine, h.begins, h.ends, h.braces, h.misses⟩⟩

/-- A text is a line of generated code whose names satisfy a condition. It leaves some traces and no others. -/
inductive CodeLine (p : String → Prop) (traces : List Trace) (s : String) : Prop
  | intro {pieces : List Piece} (hpieces : MadeOf p pieces s) (hfit : Piece.Fit traces pieces)

namespace CodeLine

variable {p : String → Prop} {traces traces' : List Trace} {s : String}

theorem mono (h : CodeLine p traces s) (htraces : traces ⊆ traces') : CodeLine p traces' s := by
  obtain ⟨hpieces, hfit⟩ := h
  exact ⟨hpieces, { hfit with misses := fun trace hall htrace => hfit.misses trace hall fun h => htrace (htraces h) }⟩

theorem oneLine (h : CodeLine OneLine traces s) : OneLine s := by
  obtain ⟨hpieces, hfit⟩ := h
  exact hpieces.oneLine hfit.staysOnLine

theorem tidy (h : CodeLine Braced traces s) : Tidy s := by
  obtain ⟨hpieces, hfit⟩ := h
  exact hpieces.tidy hfit.begins hfit.ends hfit.braces

theorem misses (h : CodeLine Harmless traces s) {trace : Trace} (htrace : trace ∉ traces) : trace.Misses s := by
  obtain ⟨hpieces, hfit⟩ := h
  exact hpieces.not_infix (hfit.misses trace trace.mem_all htrace)

theorem ne_empty (h : CodeLine p traces s) : s ≠ "" := by
  obtain ⟨hpieces, hfit⟩ := h
  rintro rfl
  exact absurd (hpieces.begins hfit.begins) (by decide)

end CodeLine

/-! ## Members -/

namespace Members

/-- What can be asked of a builder: one family of members, or all members of a value object in their order. -/
inductive Procedure
  | publicConstructor (typeName : String) (hasDefaultValue : Bool)
  | privateConstructor (typeName inner : String)
  | factory (typeName inner : String)
  | baseMethods
  | equalsMethods (typeName inner nullabilityMarker : String) (hasDefaultEqualityComparer : Bool)
  | equalityOperators (typeName inner : String)
  | explicitCasts (typeName inner : String)
  | newIdentifier (typeName inner : String)
  | allMembers (d : Descriptor)

namespace Procedure

/-- What a procedure writes. -/
def outline : Procedure → Outline
  | publicConstructor typeName hasDefaultValue => Members.publicConstructor typeName hasDefaultValue
  | privateConstructor typeName inner => Members.privateConstructor typeName inner
  | factory typeName inner => Members.factory typeName inner
  | baseMethods => Members.baseMethods
  | equalsMethods typeName inner marker hasComparer => Members.equalsMethods typeName inner marker hasComparer
  | equalityOperators typeName inner => Members.equalityOperators typeName inner
  | explicitCasts typeName inner => Members.explicitCasts typeName inner
  | newIdentifier typeName inner => Members.newIdentifier typeName inner
  | allMembers d => d.members

/-- The names and types that a procedure is given. -/
def arguments : Procedure → List String
  | publicConstructor typeName _ => [typeName]
  | privateConstructor typeName inner => [typeName, inner]
  | factory typeName inner => [typeName, inner]
  | baseMethods => []
  | equalsMethods typeName inner marker _ => [typeName, inner, marker]
  | equalityOperators typeName inner => [typeName, inner]
  | explicitCasts typeName inner => [typeName, inner]
  | newIdentifier typeName inner => [typeName, inner]
  | allMembers d => [d.typeName, d.innerTypeName, d.nullabilityMarker]

/-- The traces that a procedure leaves. -/
def traces : Procedure → List Trace
  | publicConstructor _ true => [.defaultValue]
  | publicConstructor _ false => [.forbiddenConstructor]
  | equalsMethods _ _ _ true => [.equalityComparer]
  | newIdentifier _ _ => [.newIdentifier]
  | allMembers d => Trace.leftBy d
  | _ => []

variable {p : String → Prop} {q : Procedure}

/-- A single family of members is put together from texts that are written out and from its arguments. -/
theorem codeLines_family (hfamily : ∀ d, q ≠ allMembers d) (h : ∀ s ∈ q.arguments, p s) :
    q.outline.Each (CodeLine p q.traces) := by
  revert h
  -- two of the families have other lines if there is a capability
  rcases q with ⟨_, _ | _⟩ | _ | _ | _ | ⟨_, _, _, _ | _⟩ | _ | _ | _ | d
  case allMembers => exact absurd rfl (hfamily d)
  all_goals
    simp only [arguments, outline, traces, Members.publicConstructor, Members.privateConstructor, Members.factory,
      Members.baseMethods, Members.equalsMethods, equalsSame, equalsInner, equalsOthers, innerEquality,
      Members.equalityOperators, Members.explicitCasts, Members.newIdentifier, Bool.false_eq_true, if_true, if_false,
      each_append, Each, List.forall_mem_cons, List.not_mem_nil, false_implies, implies_true, and_true, and_imp]
    intros
    try unfold useFactoryMessage
    try unfold equalityOperator
    and_intros
    -- whatever family a line is from, its pieces are read off it and looked at
    all_goals
      apply CodeLine.intro
      case hpieces => apply_rules [MadeOf.first, MadeOf.assoc, MadeOf.text, MadeOf.name]
      case hfit => decide

/-- The members of a value object are those of all families, one after another. -/
theorem codeLines (q : Procedure) (h : ∀ s ∈ q.arguments, p s) : q.outline.Each (CodeLine p q.traces) := by
  by_cases hfamily : ∀ d, q ≠ allMembers d
  · exact codeLines_family hfamily h
  obtain ⟨d, hd⟩ := not_forall.mp hfamily
  obtain rfl := not_not.mp hd
  have hmember : ∀ r : Procedure, (∀ e, r ≠ allMembers e) → r.arguments ⊆ (allMembers d).arguments →
      r.traces ⊆ (allMembers d).traces → r.outline.Each (CodeLine p (allMembers d).traces) :=
    fun r hr harguments htraces =>
      (codeLines_family hr fun s hs => h s (harguments hs)).imp fun _ hs => hs.mono htraces
  simp only [outline, Descriptor.members, each_append]
  refine ⟨⟨⟨⟨⟨⟨⟨?_, ?_⟩, ?_⟩, ?_⟩, ?_⟩, ?_⟩, ?_⟩, ?_⟩
  · refine hmember (publicConstructor _ _) (by simp) (by simp [arguments]) ?_
    cases hvalue : d.hasDefaultValue <;> simp [traces, Trace.mem_leftBy, Trace.isLeftBy, hvalue]
  · exact hmember (privateConstructor _ _) (by simp) (by simp [arguments]) (by simp [traces])
  · exact hmember (factory _ _) (by simp) (by simp [arguments]) (by simp [traces])
  · exact hmember baseMethods (by simp) (by simp [arguments]) (by simp [traces])
  · refine hmember (equalsMethods _ _ _ _) (by simp) (by simp [arguments]) ?_
    cases hcomparer : d.hasDefaultEqualityComparer <;> simp [traces, Trace.mem_leftBy, Trace.isLeftBy, hcomparer]
  · exact hmember (equalityOperators _ _) (by simp) (by simp [arguments]) (by simp [traces])
  · exact hmember (explicitCasts _ _) (by simp) (by simp [arguments]) (by simp [traces])
  · split
    case isTrue hguid =>
      refine hmember (newIdentifier _ _) (by simp) (by simp [arguments]) ?_
      simp [traces, Trace.mem_leftBy, Trace.isLeftBy, hguid]
    case isFalse => trivial

end Procedure

end Members

/-! ## Source files -/

namespace SourceFile

/-- The names that a source file is made of satisfy a condition. -/
structure Named (p : String → Prop) (f : SourceFile) : Prop where
  typeName : p f.descriptor.typeName
  innerTypeName : p f.descriptor.innerTypeName
  marker : p f.descriptor.nullabilityMarker
  namespaceName : ∀ name, f.namespaceName = some name → p name

/-- What stands in front of the interfaces. -/
def heading (f : SourceFile) : Outline :=
  f.header ++
    (line "[global::System.Diagnostics.DebuggerDisplay(\"\x7bValue\x7d\")]" <|
     line ("[global::System.Diagnostics.CodeAnalysis.ExcludeFromCodeCoverage(Justification = \"Auto-generated.\")]") <|
     line ("readonly partial struct " ++ f.descriptor.typeName ++ " :") done)

/-- The interfaces of a type, as the declaration names them. -/
def interfaces (d : Descriptor) : List String :=
  [augmentsNamespace ++ ".IValueObject<" ++ d.innerTypeName ++ ">,",
   "global::System.IEquatable<" ++ d.typeName ++ ">,",
   "global::System.IEquatable<" ++ d.innerTypeName ++ ">"]

/-- What stands behind the interfaces. -/
def body (f : SourceFile) : Outline := block (field f.descriptor ++ f.descriptor.members) done

/-- The lines that name the interfaces of a type. They follow the line with the name of the type. -/
def interfaceLines (d : Descriptor) : List String :=
  ["\t" ++ augmentsNamespace ++ ".IValueObject<" ++ d.innerTypeName ++ ">,",
   "\tglobal::System.IEquatable<" ++ d.typeName ++ ">,",
   "\tglobal::System.IEquatable<" ++ d.innerTypeName ++ ">"]

theorem interfaceLines_eq (d : Descriptor) : interfaceLines d = (interfaces d).map (margin 1 ++ ·) := by
  simp [interfaceLines, interfaces, ← String.toList_inj, Layout.toList_margin]

variable {p q : String → Prop} {f : SourceFile}

theorem Named.imp (h : f.Named p) (hpq : ∀ s, p s → q s) : f.Named q :=
  ⟨hpq _ h.typeName, hpq _ h.innerTypeName, hpq _ h.marker, fun name hname => hpq _ (h.namespaceName name hname)⟩

/-- What a source file has besides its members. -/
theorem Named.codeLines (h : f.Named p) :
    f.heading.Each (CodeLine p []) ∧ (∀ s ∈ interfaces f.descriptor, CodeLine p [] s)
      ∧ (field f.descriptor).Each (CodeLine p []) := by
  have htype := h.typeName
  have hinner := h.innerTypeName
  simp only [heading, header, interfaces, field, each_append, Each, List.forall_mem_cons, List.not_mem_nil,
    false_implies, implies_true, and_true]
  cases hname : f.namespaceName
  case' some name => have hnamespace := h.namespaceName name hname
  all_goals
    simp only [Each, and_true]
    and_intros
    all_goals
      apply CodeLine.intro
      case hpieces => apply_rules [MadeOf.first, MadeOf.text, MadeOf.name]
      case hfit => decide

theorem Named.codeLines_body (h : f.Named p) : f.body.Each (CodeLine p (Trace.leftBy f.descriptor)) := by
  have hfield := h.codeLines.2.2.imp fun _ hs => hs.mono (List.nil_subset (Trace.leftBy f.descriptor))
  have harguments : ∀ s ∈ (Members.Procedure.allMembers f.descriptor).arguments, p s := by
    simpa [Members.Procedure.arguments] using ⟨h.typeName, h.innerTypeName, h.marker⟩
  exact ⟨each_append.mpr ⟨hfield, Members.Procedure.codeLines _ harguments⟩, trivial⟩

/-- What holds of lines of generated code holds of all lines of a source file, if it holds of interfaces that have a tab
in front of them. -/
theorem Named.each_outline (h : f.Named p) (hline : ∀ s, CodeLine p (Trace.leftBy f.descriptor) s → q s)
    (hinterface : ∀ s, CodeLine p [] s → q (margin 1 ++ s)) : f.outline.Each q := by
  obtain ⟨hheading, hinterfaces, -⟩ := h.codeLines
  have hfront : f.heading.Each q := hheading.imp fun s hs => hline s (hs.mono (List.nil_subset _))
  have hlines : ∀ s ∈ interfaceLines f.descriptor, q s := by
    rw [interfaceLines_eq]
    intro s hs
    obtain ⟨text, htext, rfl⟩ := List.mem_map.mp hs
    exact hinterface text (hinterfaces text htext)
  obtain ⟨hheader, hdisplay, hcoverage, htitle, -⟩ := each_append.mp hfront
  simp only [interfaceLines, List.forall_mem_cons] at hlines
  obtain ⟨hwrapped, hsame, hinner, -⟩ := hlines
  refine each_append.mpr ⟨each_append.mpr ⟨hheader, ?_⟩, h.codeLines_body.imp hline⟩
  exact ⟨hdisplay, hcoverage, htitle, hwrapped, hsame, hinner, trivial⟩

/-! ### Single lines -/

/-- None of the texts that a source file is made of breaks a line. -/
structure SingleLine (f : SourceFile) : Prop where
  typeName : OneLine f.descriptor.typeName
  innerTypeName : OneLine f.descriptor.innerTypeName
  marker : OneLine f.descriptor.nullabilityMarker
  namespaceName : ∀ name, f.namespaceName = some name → OneLine name

theorem SingleLine.named (h : f.SingleLine) : f.Named OneLine :=
  ⟨h.typeName, h.innerTypeName, h.marker, h.namespaceName⟩

theorem SingleLine.neat_outline (h : f.SingleLine) : f.outline.Neat := by
  refine each_oneLine.mp (h.named.each_outline (fun _ hs => hs.oneLine) fun _ hs => ?_)
  exact oneLine_append.mpr ⟨oneLine_margin 1, hs.oneLine⟩

theorem Accepted.named (h : f.Accepted) : f.Named Harmless :=
  ⟨h.harmless_typeName, h.harmless_innerTypeName, h.harmless_marker, fun _ hname => h.harmless_namespaceName hname⟩

/-- Accepted manifests have nothing in them that breaks a line. -/
theorem Accepted.singleLine (h : f.Accepted) : f.SingleLine := by
  obtain ⟨htype, hinner, hmarker, hnamespace⟩ := h.named.imp fun _ hs => (⟨hs.notMem (by decide)⟩ : OneLine _)
  exact ⟨htype, hinner, hmarker, hnamespace⟩

end SourceFile

end ValueObjects

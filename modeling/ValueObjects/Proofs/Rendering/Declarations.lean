import ValueObjects.Proofs.Rendering.Layout

/-!
# Declarations

The members that a source file declares, read off its text, and when they can stand in one type: no member has the name
of the type, and no two methods or operators have both their names and the types of their parameters in common. For an
accepted value object that depends on a few names that are not refused.
-/

namespace ValueObjects

open Outline

/-! ## Declarations -/

/-- A parameter of a method or an operator. -/
structure Parameter where
  type : String
  name : String
deriving DecidableEq, Repr

/-- A member, up to what it does. -/
inductive Declaration
  | field (type name : String)
  | typeConstructor (isHidden : Bool) (typeName : String) (parameters : List Parameter)
  | method (modifier result name : String) (parameters : List Parameter)
  | operator (symbol : String) (parameters : List Parameter)
  | conversion (target : String) (parameters : List Parameter)
deriving DecidableEq, Repr

/-- Parameters in parentheses. -/
def Parameter.list (parameters : List Parameter) : String :=
  "(" ++ ", ".intercalate (parameters.map fun p => p.type ++ " " ++ p.name) ++ ")"

/-- A type without the mark that it may be absent. -/
def withoutMark (type : String) : String :=
  if type.toList.getLast? = some '?' then String.ofList type.toList.dropLast else type

namespace Declaration

/-- How a declaration is written. -/
def text : Declaration → String
  | field type name => "public readonly " ++ type ++ " " ++ name
  | typeConstructor isHidden typeName parameters =>
    (if isHidden then "private " else "public ") ++ typeName ++ Parameter.list parameters
  | method modifier result name parameters =>
    "public " ++ modifier ++ result ++ " " ++ name ++ Parameter.list parameters
  | operator symbol parameters => "public static bool operator " ++ symbol ++ Parameter.list parameters
  | conversion target parameters => "public static explicit operator " ++ target ++ Parameter.list parameters

section Text

variable (type name modifier result symbol target typeName : String) (isHidden : Bool) (parameters : List Parameter)

theorem text_field : (field type name).text = "public readonly " ++ type ++ " " ++ name := rfl

theorem text_typeConstructor : (typeConstructor isHidden typeName parameters).text =
    (if isHidden then "private " else "public ") ++ typeName ++ Parameter.list parameters := rfl

theorem text_method : (method modifier result name parameters).text =
    "public " ++ modifier ++ result ++ " " ++ name ++ Parameter.list parameters := rfl

theorem text_operator : (operator symbol parameters).text =
    "public static bool operator " ++ symbol ++ Parameter.list parameters := rfl

theorem text_conversion : (conversion target parameters).text =
    "public static explicit operator " ++ target ++ Parameter.list parameters := rfl

end Text

/-- The name of a member that is no constructor. All conversions have the same. -/
def memberName? : Declaration → Option String
  | field _ name => some name
  | typeConstructor _ _ _ => none
  | method _ _ name _ => some name
  | operator symbol _ => some ("operator " ++ symbol)
  | conversion _ _ => some "explicit operator"

/-- What tells a method or an operator apart from others: its name and the types of its parameters. Whether a parameter
may be absent does not matter. -/
def signature? : Declaration → Option (String × List String)
  | field _ _ => none
  | typeConstructor _ _ _ => none
  | method _ _ name parameters => some (name, parameters.map (withoutMark ·.type))
  | operator symbol parameters => some ("operator " ++ symbol, parameters.map (withoutMark ·.type))
  | conversion _ parameters => some ("explicit operator", parameters.map (withoutMark ·.type))

/-- Decide whether a line begins a declaration inside one block. -/
def isOpening (line : List Char) : Bool := "\tpublic ".toList.isPrefixOf line || "\tprivate ".toList.isPrefixOf line

/-- What may stand behind a declaration on its line: the beginning of its body, or nothing if the body is on the lines
behind it. -/
def IsBody (body : String) : Prop := body = "" ∨ body = ";" ∨ " => ".toList <+: body.toList

/-- A line inside one block begins with a declaration. -/
def Opens (d : Declaration) (line : List Char) : Prop :=
  ∃ body : String, line = ("\t" ++ d.text ++ body).toList ∧ IsBody body

end Declaration

/-- The members that a value object has, in their order. -/
def Descriptor.declarations (d : Descriptor) : List Declaration :=
  let self := d.typeName
  let inner := d.innerTypeName
  let comparer := "global::System.Collections.Generic.IEqualityComparer<" ++ inner ++ ">"
  [.field inner "Value",
   .typeConstructor false self [],
   .typeConstructor true self [⟨inner, "value"⟩],
   .method "static " self "From" [⟨inner, "value"⟩],
   .method "override " "int" "GetHashCode" [],
   .method "override " "string" "ToString" [],
   .method "" "bool" "Equals" [⟨self, "other"⟩],
   .method "" "bool" "Equals" [⟨inner ++ d.nullabilityMarker, "other"⟩],
   .method "" "bool" "Equals" [⟨self, "other"⟩, ⟨comparer, "comparer"⟩],
   .method "override " "bool" "Equals" [⟨"object?", "obj"⟩],
   .operator "==" [⟨self, "left"⟩, ⟨self, "right"⟩],
   .operator "!=" [⟨self, "left"⟩, ⟨self, "right"⟩],
   .operator "==" [⟨self, "left"⟩, ⟨inner, "right"⟩],
   .operator "!=" [⟨self, "left"⟩, ⟨inner, "right"⟩],
   .operator "==" [⟨inner, "left"⟩, ⟨self, "right"⟩],
   .operator "!=" [⟨inner, "left"⟩, ⟨self, "right"⟩],
   .conversion self [⟨inner, "value"⟩],
   .conversion inner [⟨self, "value"⟩]]
    ++ if d.isGuidLike then [.method "static " self "NewId" []] else []

/-- The members of a type get along with each other and with its name. -/
structure Descriptor.MembersApart (d : Descriptor) : Prop where
  names : d.typeName ∉ d.declarations.filterMap Declaration.memberName?
  signatures : (d.declarations.filterMap Declaration.signature?).Nodup

/-! ## Names and signatures -/

theorem withoutMark_of_notMem {type : String} (h : '?' ∉ type.toList) : withoutMark type = type :=
  if_neg fun hlast => h (List.mem_of_getLast? hlast)

theorem withoutMark_append_mark (type : String) : withoutMark (type ++ "?") = type := by
  have hlast : (type ++ "?").toList.getLast? = some '?' := by simp
  rw [withoutMark, if_pos hlast, ← String.toList_inj]
  simp

namespace SourceFile.Accepted

variable {f : SourceFile}

theorem withoutMark_typeName (h : f.Accepted) : withoutMark f.descriptor.typeName = f.descriptor.typeName := by
  apply withoutMark_of_notMem
  intro hmem
  exact absurd (h.typeName.isNamePart hmem) (by decide)

theorem withoutMark_innerTypeName (h : f.Accepted) :
    withoutMark f.descriptor.innerTypeName = f.descriptor.innerTypeName := by
  apply withoutMark_of_notMem
  intro hmem
  exact absurd ((typeFlaw?_eq_none.mp h.innerTypeName).characters _ hmem) (by decide)

theorem withoutMark_marked (h : f.Accepted) :
    withoutMark (f.descriptor.innerTypeName ++ f.descriptor.nullabilityMarker) = f.descriptor.innerTypeName := by
  rcases h.marker with hmarker | hmarker
  · rw [hmarker, String.append_empty, h.withoutMark_innerTypeName]
  · rw [hmarker, withoutMark_append_mark]

/-- The name of the type meets that of a member only if it is one of these few. -/
theorem typeName_notMem_iff (h : f.Accepted) :
    f.descriptor.typeName ∉ f.descriptor.declarations.filterMap Declaration.memberName? ↔
      f.descriptor.typeName ∉ ["Value", "From", "GetHashCode", "ToString", "Equals"]
        ∧ (f.descriptor.isGuidLike → f.descriptor.typeName ≠ "NewId") := by
  -- operators and conversions have names with a blank in them
  have hblank : ∀ name : String, ' ' ∈ name.toList → name ≠ f.descriptor.typeName := by
    rintro name hmem rfl
    exact absurd (h.typeName.isNamePart hmem) (by decide)
  have hequal := hblank "operator ==" (by decide)
  have hunequal := hblank "operator !=" (by decide)
  have hconversion := hblank "explicit operator" (by decide)
  cases hguid : f.descriptor.isGuidLike <;>
    simp [Descriptor.declarations, Declaration.memberName?, hguid, hequal, hunequal, hconversion, and_assoc,
      eq_comm (b := f.descriptor.typeName)]

theorem nodup_signatures_iff (h : f.Accepted) :
    (f.descriptor.declarations.filterMap Declaration.signature?).Nodup ↔ f.descriptor.innerTypeName ≠ "object" := by
  have hself : f.descriptor.typeName ≠ "object" := by
    intro heq
    exact h.typeName.2 (heq ▸ by decide)
  have hobject : withoutMark "object?" = "object" := withoutMark_append_mark "object"
  -- two signatures of one name have the type and the wrapped type in different places, but for that with `object?`
  cases hguid : f.descriptor.isGuidLike <;>
    simp [Descriptor.declarations, List.filterMap_cons, Declaration.signature?, hguid, h.withoutMark_typeName,
      h.withoutMark_innerTypeName, h.withoutMark_marked, hobject, hself, h.inner_ne, h.inner_ne.symm]

end SourceFile.Accepted

/-! ## Reading declarations off outlines -/

namespace Declaration

theorem text_prefix (d : Declaration) : "public ".toList <+: d.text.toList ∨ "private ".toList <+: d.text.toList := by
  cases d with
  | field => exact .inl (by rw [text_field]; simp)
  | typeConstructor isHidden =>
    rw [text_typeConstructor]
    cases isHidden
    · exact .inl (by simp)
    · exact .inr (by simp)
  | method => exact .inl (by rw [text_method]; simp)
  | operator => exact .inl (by rw [text_operator]; simp)
  | conversion => exact .inl (by rw [text_conversion]; simp)

theorem isOpening_of_opens {d : Declaration} {line : List Char} (h : d.Opens line) : isOpening line := by
  obtain ⟨body, rfl, -⟩ := h
  rcases d.text_prefix with ⟨rest, hrest⟩ | ⟨rest, hrest⟩ <;> simp [isOpening, ← hrest]

theorem isOpening_of_head? {line : List Char} (h : line.head? ≠ some '\t') : isOpening line = false := by
  cases line with
  | nil => rfl
  | cons c line =>
    have hc : '\t' ≠ c := by
      rintro rfl
      exact h rfl
    simp [isOpening, List.isPrefixOf, hc]

theorem isOpening_eq_false {line : List Char} (h : line.head? ≠ some 'p') : isOpening ('\t' :: line) = false := by
  cases line with
  | nil => rfl
  | cons c line =>
    have hc : 'p' ≠ c := by
      rintro rfl
      exact h rfl
    simp [isOpening, List.isPrefixOf, hc]

end Declaration

namespace Outline

/-- The members that an outline declares, in their order. A block is the body of the member in front of it. -/
inductive Declares : Outline → List Declaration → Prop
  | done : Declares done []
  | line {d : Declaration} {body : String} {rest : Outline} {ds : List Declaration} (hbody : Declaration.IsBody body)
    (hrest : Declares rest ds) : Declares (line (d.text ++ body) rest) (d :: ds)
  | other {s : String} {rest : Outline} {ds : List Declaration} (hs : s.toList.head? ≠ some 'p')
    (hrest : Declares rest ds) : Declares (line s rest) ds
  | blank {rest : Outline} {ds : List Declaration} (hrest : Declares rest ds) : Declares (blank rest) ds
  | block {body rest : Outline} {ds : List Declaration} (hrest : Declares rest ds) : Declares (block body rest) ds

theorem Declares.append {o o' : Outline} {ds ds' : List Declaration} (h : o.Declares ds) (h' : o'.Declares ds') :
    (o ++ o').Declares (ds ++ ds') := by
  induction h with
  | done => exact h'
  | line hbody _ ih => exact .line hbody ih
  | other hs _ ih => exact .other hs ih
  | blank _ ih => exact .blank ih
  | block _ ih => exact .block ih

theorem toList_indented (s : String) : (margin 1 ++ s).toList = '\t' :: s.toList := by
  simp [margin]

/-- Inside two blocks and more there is no declaration. -/
theorem isOpening_of_mem_lines {o : Outline} (depth : Nat) {l : String} (hl : l ∈ o.lines (depth + 2)) :
    Declaration.isOpening l.toList = false := by
  have hdeep : ∀ (depth : Nat) (s : String), Declaration.isOpening (margin (depth + 2) ++ s).toList = false := by
    intro depth s
    have htabs : (margin (depth + 2) ++ s).toList = '\t' :: '\t' :: (margin depth ++ s).toList := by
      simp [Layout.toList_margin, List.replicate_succ]
    rw [htabs]
    exact Declaration.isOpening_eq_false (by simp)
  induction o generalizing depth with
  | done => cases hl
  | line s rest ih =>
    rcases List.mem_cons.mp hl with rfl | hl
    · exact hdeep depth s
    · exact ih depth hl
  | raw s rest ih => exact ih depth hl
  | blank rest ih =>
    rcases List.mem_cons.mp hl with rfl | hl
    · rfl
    · exact ih depth hl
  | block body rest ihb ihr =>
    simp only [lines, List.mem_cons, List.mem_append] at hl
    rcases hl with rfl | hl | rfl | rfl | hl
    · exact hdeep depth _
    · exact ihb (depth + 1) hl
    · exact hdeep depth _
    · rfl
    · exact ihr depth hl

/-- Inside one block the lines that begin declarations are those of the declared members. -/
theorem Declares.opens {o : Outline} {ds : List Declaration} (h : o.Declares ds) :
    List.Forall₂ Declaration.Opens ds (((o.lines 1).map String.toList).filter Declaration.isOpening) := by
  have hother : ∀ s : String, s.toList.head? ≠ some 'p' →
      Declaration.isOpening (margin 1 ++ s).toList = false := by
    intro s hs
    rw [toList_indented]
    exact Declaration.isOpening_eq_false hs
  have hempty : Declaration.isOpening [] = false := rfl
  induction h with
  | done => exact .nil
  | @line d body rest ds hbody _ ih =>
    have hopens : d.Opens (margin 1 ++ (d.text ++ body)).toList := ⟨body, by rw [toList_indented]; simp, hbody⟩
    rw [lines, List.map_cons, List.filter_cons_of_pos (Declaration.isOpening_of_opens hopens)]
    exact .cons hopens ih
  | @other s rest ds hs _ ih =>
    rw [lines, List.map_cons, List.filter_cons_of_neg (by rw [hother s hs]; decide)]
    exact ih
  | blank _ ih => simpa [lines, hempty] using ih
  | @block body rest ds _ ih =>
    have hopen := hother "\x7b" (by decide)
    have hclose := hother "\x7d" (by decide)
    have hbody : ((body.lines 2).map String.toList).filter Declaration.isOpening = [] := by
      rw [List.filter_eq_nil_iff, List.forall_mem_map]
      intro l hl
      simp [isOpening_of_mem_lines 0 hl]
    simp only [lines, List.map_cons, List.map_append, List.filter_cons, List.filter_append, hopen, hclose, hbody,
      String.toList_empty, hempty, Bool.false_eq_true, if_false, List.nil_append]
    exact ih

theorem declares_line {s body : String} {d : Declaration} {rest : Outline} {ds : List Declaration}
    (hs : s = d.text ++ body) (hbody : Declaration.IsBody body) (hrest : rest.Declares ds) :
    (line s rest).Declares (d :: ds) :=
  hs ▸ .line hbody hrest

end Outline

/-! ## The members of a value object -/

namespace Members

variable {typeName inner : String}

theorem isBody_nothing : Declaration.IsBody "" := .inl rfl

theorem isBody_end : Declaration.IsBody ";" := .inr (.inl rfl)

/-- Behind an arrow anything may stand. -/
theorem isBody_arrow (expression : String) : Declaration.IsBody (" => " ++ expression) :=
  .inr (.inr ⟨expression.toList, by simp⟩)

theorem declares_publicConstructor (typeName : String) (hasDefaultValue : Bool) :
    (publicConstructor typeName hasDefaultValue).Declares [.typeConstructor false typeName []] := by
  have hline : "public " ++ typeName ++ "()" = (Declaration.typeConstructor false typeName []).text ++ "" := by
    rw [Declaration.text_typeConstructor, Parameter.list, ← String.toList_inj]
    simp
  cases hasDefaultValue
  · exact .other (by simp) (declares_line hline isBody_nothing (.block .done))
  · exact declares_line hline isBody_nothing (.block .done)

theorem declares_privateConstructor (typeName inner : String) :
    (privateConstructor typeName inner).Declares [.typeConstructor true typeName [⟨inner, "value"⟩]] := by
  refine declares_line ?_ isBody_nothing (.block .done)
  rw [Declaration.text_typeConstructor, Parameter.list, ← String.toList_inj]
  simp

theorem declares_factory (typeName inner : String) :
    (factory typeName inner).Declares [.method "static " typeName "From" [⟨inner, "value"⟩]] := by
  refine declares_line ?_ (isBody_arrow "new(value);") (.blank .done)
  rw [Declaration.text_method, Parameter.list, ← String.toList_inj]
  simp [factoryMethod]

theorem declares_baseMethods :
    baseMethods.Declares [.method "override " "int" "GetHashCode" [], .method "override " "string" "ToString" []] := by
  refine declares_line ?_ (isBody_arrow "Value.GetHashCode();") (.blank ?_)
  · rfl
  refine declares_line ?_ (isBody_arrow "Value.ToString();") (.blank .done)
  rfl

theorem declares_equalsMethods (typeName inner nullabilityMarker : String) (hasDefaultEqualityComparer : Bool) :
    (equalsMethods typeName inner nullabilityMarker hasDefaultEqualityComparer).Declares
      [.method "" "bool" "Equals" [⟨typeName, "other"⟩],
       .method "" "bool" "Equals" [⟨inner ++ nullabilityMarker, "other"⟩],
       .method "" "bool" "Equals" [⟨typeName, "other"⟩,
         ⟨"global::System.Collections.Generic.IEqualityComparer<" ++ inner ++ ">", "comparer"⟩],
       .method "override " "bool" "Equals" [⟨"object?", "obj"⟩]] := by
  simp only [equalsMethods, equalsSame, equalsInner, equalsOthers, line_append, done_append]
  refine declares_line ?_ (isBody_arrow "Equals(other.Value);") ?_
  · rw [Declaration.text_method, Parameter.list, ← String.toList_inj]
    simp [valueField]
  refine declares_line ?_ (isBody_arrow (innerEquality hasDefaultEqualityComparer ++ ";")) ?_
  · rw [Declaration.text_method, Parameter.list, ← String.toList_inj]
    simp
  refine declares_line ?_ (isBody_arrow "comparer.Equals(Value, other.Value);") ?_
  · rw [Declaration.text_method, Parameter.list, ← String.toList_inj]
    simp [valueField]
  refine declares_line ?_ isBody_nothing (.block .done)
  rw [Declaration.text_method, Parameter.list, ← String.toList_inj]
  simp

theorem declares_equalityOperator (operator left right body : String) {rest : Outline} {ds : List Declaration}
    (hrest : rest.Declares ds) :
    (line (equalityOperator operator left right body) rest).Declares
      (.operator operator [⟨left, "left"⟩, ⟨right, "right"⟩] :: ds) := by
  refine declares_line ?_ (isBody_arrow (body ++ ";")) hrest
  unfold equalityOperator
  rw [Declaration.text_operator, Parameter.list, ← String.toList_inj]
  simp

theorem declares_equalityOperators (typeName inner : String) :
    (equalityOperators typeName inner).Declares
      [.operator "==" [⟨typeName, "left"⟩, ⟨typeName, "right"⟩],
       .operator "!=" [⟨typeName, "left"⟩, ⟨typeName, "right"⟩],
       .operator "==" [⟨typeName, "left"⟩, ⟨inner, "right"⟩],
       .operator "!=" [⟨typeName, "left"⟩, ⟨inner, "right"⟩],
       .operator "==" [⟨inner, "left"⟩, ⟨typeName, "right"⟩],
       .operator "!=" [⟨inner, "left"⟩, ⟨typeName, "right"⟩]] := by
  unfold equalityOperators
  iterate 2 apply declares_equalityOperator
  apply Declares.blank
  iterate 4 apply declares_equalityOperator
  exact .blank .done

theorem declares_explicitCasts (typeName inner : String) :
    (explicitCasts typeName inner).Declares
      [.conversion typeName [⟨inner, "value"⟩], .conversion inner [⟨typeName, "value"⟩]] := by
  refine declares_line ?_ (isBody_arrow "From(value);") ?_
  · rw [Declaration.text_conversion, Parameter.list, ← String.toList_inj]
    simp [factoryMethod]
  refine declares_line ?_ (isBody_arrow "value.Value;") (.blank .done)
  rw [Declaration.text_conversion, Parameter.list, ← String.toList_inj]
  simp [valueField]

theorem declares_newIdentifier (typeName inner : String) :
    (newIdentifier typeName inner).Declares [.method "static " typeName "NewId" []] := by
  refine declares_line ?_ (isBody_arrow ("From(" ++ inner ++ ".NewGuid());")) (.blank .done)
  rw [Declaration.text_method, Parameter.list, ← String.toList_inj]
  simp [factoryMethod]

end Members

open Members in
/-- The field and the members of a value object declare what they should. -/
theorem SourceFile.declares_members (d : Descriptor) : (field d ++ d.members).Declares d.declarations := by
  have hfield : (field d).Declares [.field d.innerTypeName "Value"] := by
    refine declares_line ?_ isBody_end (.blank .done)
    rw [Declaration.text_field, ← String.toList_inj]
    simp [valueField]
  have hnewIdentifier :
      (if d.isGuidLike then newIdentifier d.typeName d.innerTypeName else done).Declares
        (if d.isGuidLike then [.method "static " d.typeName "NewId" []] else []) := by
    split
    · exact declares_newIdentifier _ _
    · exact .done
  have hmembers := (declares_publicConstructor d.typeName d.hasDefaultValue)
    |>.append (declares_privateConstructor d.typeName d.innerTypeName)
    |>.append (declares_factory d.typeName d.innerTypeName)
    |>.append declares_baseMethods
    |>.append (declares_equalsMethods d.typeName d.innerTypeName d.nullabilityMarker d.hasDefaultEqualityComparer)
    |>.append (declares_equalityOperators d.typeName d.innerTypeName)
    |>.append (declares_explicitCasts d.typeName d.innerTypeName)
    |>.append hnewIdentifier
  exact hfield.append hmembers

/-! ## Source files -/

namespace SourceFile

variable {f : SourceFile}

/-- Nothing is declared in front of the block with the members. -/
theorem isOpening_of_mem_front {s : String} (hs : s ∈ f.heading.lines 0 ++ interfaceLines f.descriptor) :
    Declaration.isOpening s.toList = false := by
  rcases List.mem_append.mp hs with hs | hs
  · have hhead : ∀ l ∈ f.heading.lines 0, l.toList.head? ≠ some '\t' := by
      unfold heading header
      cases f.namespaceName <;> simp [lines, margin]
    exact Declaration.isOpening_of_head? (hhead s hs)
  · have hinterface : ∀ l ∈ interfaceLines f.descriptor, ∃ rest, l.toList = '\t' :: 'g' :: rest := by
      simp [interfaceLines, augmentsNamespace]
    obtain ⟨rest, hrest⟩ := hinterface s hs
    rw [hrest]
    exact Declaration.isOpening_eq_false (by simp)

/-- The lines of a source file that begin declarations, one for each member in the order of the members. -/
theorem Accepted.opens (h : f.Accepted) :
    List.Forall₂ Declaration.Opens f.descriptor.declarations (f.textLines.filter Declaration.isOpening) := by
  have hbody : f.body.lines 0 = "\x7b" :: ((field f.descriptor ++ f.descriptor.members).lines 1 ++ ["\x7d", ""]) := rfl
  have hfront : ((f.heading.lines 0 ++ interfaceLines f.descriptor).map String.toList).filter
      Declaration.isOpening = [] := by
    rw [List.filter_eq_nil_iff, List.forall_mem_map]
    intro s hs
    simp [isOpening_of_mem_front hs]
  have hopen : Declaration.isOpening "\x7b".toList = false := by decide
  have hclose : ["\x7d".toList, "".toList, []].filter Declaration.isOpening = [] := by decide
  have hlines : f.textLines = (f.heading.lines 0 ++ interfaceLines f.descriptor).map String.toList
      ++ "\x7b".toList :: (((field f.descriptor ++ f.descriptor.members).lines 1).map String.toList
        ++ ["\x7d".toList, "".toList, []]) := by
    rw [textLines_eq h.singleLine, lines_outline, hbody]
    simp
  rw [hlines, List.filter_append, hfront, List.filter_cons_of_neg (by rw [hopen]; decide), List.filter_append, hclose,
    List.append_nil]
  exact (declares_members f.descriptor).opens

/-- The text of a source file declares the members of its value object. They get along with each other unless the value
object has the name of one of them, or wraps the type of all objects, which has an overload of equality anyway. -/
theorem membersApart_iff_of_load {t : ManifestText} {m : Manifest} (hm : t.load = .ok m) (hf : f ∈ m.sourceFiles) :
    List.Forall₂ Declaration.Opens f.descriptor.declarations (f.textLines.filter Declaration.isOpening) ∧
      (f.descriptor.MembersApart ↔
        f.descriptor.typeName ∉ ["Value", "From", "GetHashCode", "ToString", "Equals"]
          ∧ (f.descriptor.isGuidLike → f.descriptor.typeName ≠ "NewId")
          ∧ f.descriptor.innerTypeName ≠ "object") := by
  have haccepted := (ManifestText.wellFormed_of_load hm).accepted hf
  refine ⟨haccepted.opens, ?_⟩
  constructor
  · rintro ⟨hnames, hsignatures⟩
    obtain ⟨hfixed, hnewIdentifier⟩ := haccepted.typeName_notMem_iff.mp hnames
    exact ⟨hfixed, hnewIdentifier, haccepted.nodup_signatures_iff.mp hsignatures⟩
  · rintro ⟨hfixed, hnewIdentifier, hinner⟩
    have hnames := haccepted.typeName_notMem_iff.mpr ⟨hfixed, hnewIdentifier⟩
    exact ⟨hnames, haccepted.nodup_signatures_iff.mpr hinner⟩

/-- A text that declares an identifier of orders. -/
def orderText : ManifestText := ⟨"tvo.toml", "[value_objects.OrderId]\ninner = \"System.Guid\"\n"⟩

/-- The source file of that identifier. -/
def orderFile : SourceFile := ⟨⟨"OrderId", "System.Guid", "", false, false, true⟩, none⟩

theorem membersApart_orderFile :
    (∃ m, orderText.load = .ok m ∧ orderFile ∈ m.sourceFiles) ∧ orderFile.descriptor.MembersApart := by
  have hload : orderText.load = .ok ⟨⟨none, defaultOutput⟩,
      [("OrderId", ⟨"System.Guid", none, false, false, none⟩)]⟩ := eq_ok_of_toOption (by decide +kernel)
  have hfile : orderFile ∈ Manifest.sourceFiles ⟨⟨none, defaultOutput⟩,
      [("OrderId", ⟨"System.Guid", none, false, false, none⟩)]⟩ := by decide +kernel
  exact ⟨⟨_, hload, hfile⟩, (membersApart_iff_of_load hload hfile).2.mpr (by decide)⟩

/-- A text with a value object that has the name of its own field, and one that has two equal overloads. -/
def clashingText : ManifestText :=
  ⟨"tvo.toml", "[value_objects.Value]\ninner = \"int\"\n[value_objects.Json]\ninner = \"object\"\n"⟩

theorem not_membersApart_clashingText :
    ∃ m, clashingText.load = .ok m ∧ m.sourceFiles.length = 2
      ∧ ∀ f ∈ m.sourceFiles, ¬ f.descriptor.MembersApart := by
  have hload : clashingText.load = .ok ⟨⟨none, defaultOutput⟩,
      [("Value", ⟨"int", none, false, false, none⟩), ("Json", ⟨"object", none, false, false, none⟩)]⟩ :=
    eq_ok_of_toOption (by decide +kernel)
  have hfiles : Manifest.sourceFiles ⟨⟨none, defaultOutput⟩,
      [("Value", ⟨"int", none, false, false, none⟩), ("Json", ⟨"object", none, false, false, none⟩)]⟩ =
      [⟨.nullable (.plain "Value" "int"), none⟩, ⟨.nullable (.plain "Json" "object"), none⟩] := by decide +kernel
  have hname : "Value" ∈ (Descriptor.plain "Value" "int").nullable.declarations.filterMap Declaration.memberName? := by
    decide
  have hsignature :
      ¬ ((Descriptor.plain "Json" "object").nullable.declarations.filterMap Declaration.signature?).Nodup := by
    decide +kernel
  refine ⟨_, hload, by rw [hfiles]; rfl, ?_⟩
  rw [hfiles]
  simp only [List.forall_mem_cons, List.not_mem_nil, false_implies, implies_true, and_true]
  exact ⟨fun h => h.names hname, fun h => hsignature h.signatures⟩

end SourceFile

end ValueObjects

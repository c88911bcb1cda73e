import ValueObjects.Proofs.Manifest.Namespaces
import ValueObjects.Proofs.Text.Search

/-!
# Places of diagnostics

A diagnostic points at whole characters of the manifest's text, and what is written there is what the diagnostic is
about. It points nowhere only if the text does not write that in any of the ways that are searched for.
-/

namespace ValueObjects

/-! ## Stretches -/

/-- A stretch of a text starts and stops between characters, and its bytes are those of a subject. -/
structure Span.Shows (s : Span) (text subject : String) : Prop where
  stop_le : s.stop ≤ text.utf8ByteSize
  isValid_offset : (⟨s.offset⟩ : String.Pos.Raw).IsValid text
  isValid_stop : (⟨s.stop⟩ : String.Pos.Raw).IsValid text
  bytes : text.toUTF8.extract s.offset s.stop = subject.toUTF8

theorem Span.shows_append (front subject back : String) :
    Span.Shows ⟨front.utf8ByteSize, subject.utf8ByteSize⟩ (front ++ subject ++ back) subject where
  stop_le := by
    rw [Span.stop, String.utf8ByteSize_append, String.utf8ByteSize_append]
    exact Nat.le_add_right _ _
  isValid_offset := String.Pos.Raw.isValid_iff_exists_append.mpr ⟨front, subject ++ back, String.append_assoc, rfl⟩
  isValid_stop := by
    refine String.Pos.Raw.isValid_iff_exists_append.mpr ⟨front ++ subject, back, rfl, ?_⟩
    rw [String.Pos.Raw.ext_iff, Span.stop, String.byteIdx_rawEndPos, String.utf8ByteSize_append]
  bytes := Text.standsAt_append front subject back

namespace Places

open Text (StandsAt)

/-! ## Searching one pattern -/

namespace Pattern

variable {p : Pattern} {text : String}

theorem find?_eq_none (hp : p.text ≠ "") : p.find? text = none ↔ ∀ offset, ¬ StandsAt p.text text offset := by
  rw [find?, Option.map_eq_none_iff, Text.findOffset?_eq_none]
  simp only [Text.standsAt_iff hp]

/-- What is found is the subject in the leftmost occurrence. -/
theorem find?_eq_some (hp : p.text ≠ "") {s : Span} :
    p.find? text = some s ↔ ∃ offset,
      (StandsAt p.text text offset ∧ ∀ other, StandsAt p.text text other → offset ≤ other)
      ∧ s = ⟨offset + p.before.utf8ByteSize, p.subject.utf8ByteSize⟩ := by
  simp only [find?, Option.map_eq_some_iff, Text.findOffset?_eq_some, Text.standsAt_iff hp, eq_comm (b := s)]

theorem shows_of_find? (hp : p.text ≠ "") {s : Span} (h : p.find? text = some s) : s.Shows text p.subject := by
  obtain ⟨offset, ⟨hoccurs, -⟩, rfl⟩ := (find?_eq_some hp).mp h
  obtain ⟨front, back, rfl, rfl⟩ := Text.exists_append_of_standsAt hp hoccurs
  have hsubject : front ++ p.text ++ back = front ++ p.before ++ p.subject ++ (p.after ++ back) := by
    simp only [Pattern.text, String.append_assoc]
  rw [hsubject, ← String.utf8ByteSize_append]
  exact Span.shows_append (front ++ p.before) p.subject (p.after ++ back)

end Pattern

/-! ## Searching several patterns -/

/-- A way of writing something: what stands in front of it, and what stands behind it. -/
abbrev Way := String × String

/-- Something written in a way. -/
def Way.around (way : Way) (subject : String) : String := way.1 ++ subject ++ way.2

/-- A place in a text is that of a subject in the leftmost occurrence of the first way of writing it that occurs. There
is no place exactly if it is written in none of these ways. -/
structure Points (ways : List Way) (text subject : String) (place : Option Span) : Prop where
  shows : ∀ s, place = some s → s.Shows text subject
  eq_none_iff : place = none ↔ ∀ way ∈ ways, ∀ offset, ¬ StandsAt (way.around subject) text offset
  eq_some_iff : ∀ s, place = some s ↔ ∃ before way after offset, ways = before ++ way :: after
    ∧ (∀ earlier ∈ before, ∀ other, ¬ StandsAt (earlier.around subject) text other)
    ∧ (StandsAt (way.around subject) text offset ∧ ∀ other, StandsAt (way.around subject) text other → offset ≤ other)
    ∧ s = ⟨offset + way.1.utf8ByteSize, subject.utf8ByteSize⟩

/-- The pattern of a subject that is written in a way. -/
def Way.pattern (subject : String) (way : Way) : Pattern := ⟨way.1, subject, way.2⟩

/-- No pattern is empty if there is something in front of the subject. -/
theorem Way.text_pattern_ne_empty {way : Way} (h : way.1 ≠ "") (subject : String) :
    (way.pattern subject).text ≠ "" := by
  simp [Way.pattern, Pattern.text, String.append_eq_empty_iff, h]

/-- Searching for the ways of writing a subject points at it. -/
theorem points_findSome? {ways : List Way} (hways : ∀ way ∈ ways, way.1 ≠ "") (text subject : String) :
    Points ways text subject ((ways.map (Way.pattern subject)).findSome? (·.find? text)) := by
  have hne : ∀ way ∈ ways, (way.pattern subject).text ≠ "" :=
    fun way hway => Way.text_pattern_ne_empty (hways way hway) subject
  rw [List.findSome?_map]
  constructor
  case shows =>
    intro s hs
    obtain ⟨way, hway, hfind⟩ := List.exists_of_findSome?_eq_some hs
    exact Pattern.shows_of_find? (hne way hway) hfind
  case eq_none_iff =>
    rw [List.findSome?_eq_none_iff]
    exact forall₂_congr fun way hway => Pattern.find?_eq_none (hne way hway)
  case eq_some_iff =>
    intro s
    rw [List.findSome?_eq_some_iff]
    constructor
    · rintro ⟨before, way, after, rfl, hfind, hbefore⟩
      obtain ⟨offset, hleftmost, rfl⟩ := (Pattern.find?_eq_some (hne way (by simp))).mp hfind
      refine ⟨before, way, after, offset, rfl, fun earlier hearlier => ?_, hleftmost, rfl⟩
      exact (Pattern.find?_eq_none (hne earlier (by simp [hearlier]))).mp (hbefore earlier hearlier)
    · rintro ⟨before, way, after, offset, rfl, hbefore, hleftmost, rfl⟩
      have hfind := (Pattern.find?_eq_some (hne way (by simp))).mpr ⟨offset, hleftmost, rfl⟩
      refine ⟨before, way, after, rfl, hfind, fun earlier hearlier => ?_⟩
      exact (Pattern.find?_eq_none (hne earlier (by simp [hearlier]))).mpr (hbefore earlier hearlier)

/-- The ways in which a header writes the name of a value object: as its last key, or as one before others. -/
def nameWays : List Way := [(".", "]"), (".", ".")]

/-- The ways in which a line sets a key to a text. -/
def valueWays (key : String) : List Way :=
  [(key ++ " = \"", "\""), (key ++ "=\"", "\""), (key ++ " = '", "'"), (key ++ "='", "'")]

theorem points_ofName? (text name : String) : Points nameWays text name (ofName? text name) :=
  points_findSome? (by decide) text name

theorem valuePatterns_eq (key value : String) :
    valuePatterns key value = (valueWays key).map (Way.pattern value) := by
  simp [valuePatterns, valueWays, Way.pattern, String.append_assoc]

theorem points_ofValue? (text key value : String) :
    Points (valueWays key) text value (ofValue? text key value) := by
  rw [ofValue?, valuePatterns_eq]
  refine points_findSome? ?_ text value
  simp [valueWays, String.append_eq_empty_iff]

end Places

/-! ## Diagnostics -/

open Places (Way Points nameWays valueWays)

/-- What the diagnostic of a manifest points at for a cause, and the ways in which that may be written: the name of a
value object, all of the namespace for any part of it, or an inner type. -/
inductive Cause.IsShownBy (m : Manifest) : Cause → List Way → String → Prop
  | name {cause : Cause} {e : String × ValueObjectSettings} (he : e ∈ m.valueObjects)
    (h : cause.Refuses e.1 .valueObject) : IsShownBy m cause nameWays e.1
  | namespaceSegment {cause : Cause} {name segment : String} (hname : m.generator.namespaceName = some name)
    (hsegment : segment ∈ namespaceSegments name) (h : cause.Refuses segment .namespaceSegment) :
    IsShownBy m cause (valueWays "namespace") name
  | inner {e : String × ValueObjectSettings} {flaw : TypeFlaw} (he : e ∈ m.valueObjects)
    (h : typeFlaw? e.2.inner = some flaw) :
    IsShownBy m (.invalidInnerType e.1 e.2.inner flaw) (valueWays "inner") e.2.inner
  | selfWrapping {e : String × ValueObjectSettings} (he : e ∈ m.valueObjects) (h : e.2.inner = e.1) :
    IsShownBy m (.inconsistent ("value object '" ++ e.1 ++ "' cannot wrap itself")) nameWays e.1

namespace ManifestText

variable {t : ManifestText} {d : Diagnostic}

theorem checkTypeName_eq_error {name : String} :
    t.checkTypeName name = .error d ↔
      ∃ cause : Cause, cause.Refuses name .valueObject ∧ d = ⟨t.source, Places.ofName? t.text name, cause⟩ := by
  simp only [← ofName?_eq_some]
  unfold checkTypeName
  cases Cause.ofName? name .valueObject <;> simp [eq_comm]

theorem checkInnerType_eq_error {valueObject inner : String} :
    t.checkInnerType valueObject inner = .error d ↔
      ∃ flaw, typeFlaw? inner = some flaw
        ∧ d = ⟨t.source, Places.ofValue? t.text "inner" inner, .invalidInnerType valueObject inner flaw⟩ := by
  unfold checkInnerType
  cases typeFlaw? inner <;> simp [eq_comm]

/-- A namespace that is refused has a part that is. -/
theorem exists_segment_of_checkNamespace {name : String} (h : t.checkNamespace name = .error d) :
    ∃ segment ∈ namespaceSegments name, ∃ cause : Cause, cause.Refuses segment .namespaceSegment
      ∧ d = ⟨t.source, Places.ofValue? t.text "namespace" name, cause⟩ := by
  obtain ⟨cause, hcause, rfl⟩ := checkNamespace_eq_error.mp h
  obtain ⟨segment, hsegment, hsome⟩ := List.exists_of_findSome?_eq_some hcause
  exact ⟨segment, hsegment, cause, ofName?_eq_some.mp hsome, rfl⟩

theorem isShownBy_of_checkValueObject {m : Manifest} {e : String × ValueObjectSettings} (he : e ∈ m.valueObjects)
    (h : t.checkValueObject e.1 e.2 = .error d) :
    ∃ ways subject, d.cause.IsShownBy m ways subject ∧ Points ways t.text subject d.span := by
  simp only [checkValueObject, bind_eq_error] at h
  rcases h with hname | ⟨-, -, hinner | ⟨-, -, hself⟩⟩
  · obtain ⟨cause, hcause, rfl⟩ := checkTypeName_eq_error.mp hname
    exact ⟨_, _, .name he hcause, Places.points_ofName? t.text e.1⟩
  · obtain ⟨flaw, hflaw, rfl⟩ := checkInnerType_eq_error.mp hinner
    exact ⟨_, _, .inner he hflaw, Places.points_ofValue? t.text "inner" e.2.inner⟩
  · split at hself
    · rename_i hwraps
      cases hself
      exact ⟨_, _, .selfWrapping he hwraps, Places.points_ofName? t.text e.1⟩
    · cases hself

theorem isShownBy_of_checkManifest {m : Manifest} (h : t.checkManifest m = .error d) :
    ∃ ways subject, d.cause.IsShownBy m ways subject ∧ Points ways t.text subject d.span := by
  rw [checkManifest, bind_eq_error] at h
  rcases h with hnamespace | ⟨-, -, hvalueObjects⟩
  · cases hname : m.generator.namespaceName with
    | none =>
      rw [hname] at hnamespace
      cases hnamespace
    | some name =>
      rw [hname] at hnamespace
      obtain ⟨segment, hsegment, cause, hcause, rfl⟩ := exists_segment_of_checkNamespace hnamespace
      exact ⟨_, _, .namespaceSegment hname hsegment hcause, Places.points_ofValue? t.text "namespace" name⟩
  · obtain ⟨e, he, hrefused⟩ := exists_mem_of_forM_eq_error hvalueObjects
    exact isShownBy_of_checkValueObject he hrefused

/-- Every diagnostic of a check points at what it is about, at the leftmost place of the first way of writing it that
occurs, and it has no place exactly if it is written in none of these ways. This includes the diagnostic for which a
manifest that could be decoded is refused. -/
theorem diagnostics_point (t : ManifestText) :
    (∀ name d, t.checkTypeName name = .error d → Points nameWays t.text name d.span)
    ∧ (∀ name d, t.checkNamespace name = .error d → Points (valueWays "namespace") t.text name d.span)
    ∧ (∀ valueObject inner d, t.checkInnerType valueObject inner = .error d →
      Points (valueWays "inner") t.text inner d.span)
    ∧ (∀ message name, Points nameWays t.text name (t.inconsistency message name).span)
    ∧ ∀ m d, t.decode = .ok m → t.load = .error d →
      ∃ ways subject, d.cause.IsShownBy m ways subject ∧ Points ways t.text subject d.span := by
  refine ⟨?_, ?_, ?_, ?_, ?_⟩
  · intro name d h
    obtain ⟨cause, -, rfl⟩ := checkTypeName_eq_error.mp h
    exact Places.points_ofName? t.text name
  · intro name d h
    obtain ⟨cause, -, rfl⟩ := checkNamespace_eq_error.mp h
    exact Places.points_ofValue? t.text "namespace" name
  · intro valueObject inner d h
    obtain ⟨flaw, -, rfl⟩ := checkInnerType_eq_error.mp h
    exact Places.points_ofValue? t.text "inner" inner
  · intro message name
    exact Places.points_ofName? t.text name
  · intro m d hdecode hload
    simp only [load, hdecode, bind_eq_error] at hload
    obtain hfailed | ⟨m', hm', hchecked⟩ := hload
    · cases hfailed
    · cases hm'
      obtain hrefused | ⟨-, -, hreturned⟩ := hchecked
      · exact isShownBy_of_checkManifest hrefused
      · cases hreturned

/-- A text with three faults. In front of them stand a character of two bytes, and the name and the namespace in ways
that are searched for only later. -/
def accentedText : ManifestText :=
  ⟨"tvo.toml",
    "# é.class. namespace='A..B'\n[generator]\nnamespace = 'A..B'\n[value_objects.class]\ninner = \"in;t\"\n"⟩

/-- What the text declares. -/
def accentedManifest : Manifest :=
  ⟨⟨some "A..B", defaultOutput⟩, [("class", ⟨"in;t", none, false, false, none⟩)]⟩

theorem diagnostics_point_accented :
    (accentedText.checkTypeName "class" = .error ⟨"tvo.toml", some ⟨75, 5⟩, .reservedKeyword "class" .valueObject⟩
      ∧ Span.Shows ⟨75, 5⟩ accentedText.text "class" ∧ Points nameWays accentedText.text "class" (some ⟨75, 5⟩))
    ∧ (accentedText.checkNamespace "A..B" =
        .error ⟨"tvo.toml", some ⟨54, 4⟩, .invalidIdentifier "" .namespaceSegment .empty⟩
      ∧ Span.Shows ⟨54, 4⟩ accentedText.text "A..B"
      ∧ Points (valueWays "namespace") accentedText.text "A..B" (some ⟨54, 4⟩))
    ∧ (accentedText.checkInnerType "class" "in;t" =
        .error ⟨"tvo.toml", some ⟨91, 4⟩, .invalidInnerType "class" "in;t" .badCharacter⟩
      ∧ Span.Shows ⟨91, 4⟩ accentedText.text "in;t"
      ∧ Points (valueWays "inner") accentedText.text "in;t" (some ⟨91, 4⟩))
    ∧ accentedText.decode = .ok accentedManifest
    ∧ ∃ d ways subject, accentedText.load = .error d ∧ d.span = some ⟨54, 4⟩
      ∧ d.cause.IsShownBy accentedManifest ways subject ∧ Points ways accentedText.text subject d.span := by
  obtain ⟨hnames, hnamespaces, hinners, -, hloads⟩ := diagnostics_point accentedText
  have hname : accentedText.checkTypeName "class" =
      .error ⟨"tvo.toml", some ⟨75, 5⟩, .reservedKeyword "class" .valueObject⟩ :=
    eq_error_of_refusal? (by decide +kernel)
  have hnamespace : accentedText.checkNamespace "A..B" =
      .error ⟨"tvo.toml", some ⟨54, 4⟩, .invalidIdentifier "" .namespaceSegment .empty⟩ :=
    eq_error_of_refusal? (by decide +kernel)
  have hinner : accentedText.checkInnerType "class" "in;t" =
      .error ⟨"tvo.toml", some ⟨91, 4⟩, .invalidInnerType "class" "in;t" .badCharacter⟩ :=
    eq_error_of_refusal? (by decide +kernel)
  have hdecode : accentedText.decode = .ok accentedManifest := eq_ok_of_toOption (by decide +kernel)
  have hload : accentedText.load =
      .error ⟨"tvo.toml", some ⟨54, 4⟩, .invalidIdentifier "" .namespaceSegment .empty⟩ :=
    eq_error_of_refusal? (by decide +kernel)
  have hnamed := hnames _ _ hname
  have hspaced := hnamespaces _ _ hnamespace
  have hwrapped := hinners _ _ _ hinner
  obtain ⟨ways, subject, hcause, hpoints⟩ := hloads _ _ hdecode hload
  exact ⟨⟨hname, hnamed.shows _ rfl, hnamed⟩, ⟨hnamespace, hspaced.shows _ rfl, hspaced⟩,
    ⟨hinner, hwrapped.shows _ rfl, hwrapped⟩, hdecode, _, ways, subject, hload, rfl, hcause, hpoints⟩

end ManifestText

end ValueObjects

import ValueObjects.Proofs.Rendering.Traces

/-!
# Spellings of identifier types

Which texts are taken for the type of globally unique identifiers. It has three spellings, and blanks around them do not
matter. One more text is taken for it: either qualifier may be left out by itself, so there is a spelling with the
outer one alone, which refers to a type outside of all namespaces.
-/

namespace ValueObjects

/-! ## Blanks around a text -/

namespace Text

/-- There is nothing but blanks around a text. -/
def BlanksAround (core cs : List Char) : Prop :=
  ∃ front back, cs = front ++ core ++ back ∧ ∀ c ∈ front ++ back, isBlank c

/-- A text that begins and ends without a blank. -/
structure Solid (core : List Char) : Prop where
  nonempty : core ≠ []
  begins : ∀ c ∈ core.head?, ¬ isBlank c
  ends : ∀ c ∈ core.getLast?, ¬ isBlank c

/-- Trimming takes nothing but blanks away. -/
theorem blanksAround_trim (cs : List Char) : BlanksAround (trim cs) cs := by
  have hstart : cs = cs.takeWhile isBlank ++ cs.dropWhile isBlank := List.takeWhile_append_dropWhile.symm
  have hend : cs.dropWhile isBlank = trim cs ++ ((cs.dropWhile isBlank).reverse.takeWhile isBlank).reverse := by
    rw [trim, trimEnd, ← List.reverse_append, List.takeWhile_append_dropWhile, List.reverse_reverse]
  refine ⟨cs.takeWhile isBlank, ((cs.dropWhile isBlank).reverse.takeWhile isBlank).reverse, ?_, ?_⟩
  · rw [List.append_assoc, ← hend, ← hstart]
  · intro c hc
    rcases List.mem_append.mp hc with hc | hc
    · exact List.mem_takeWhile_imp hc
    · exact List.mem_takeWhile_imp (List.mem_reverse.mp hc)

/-- Trimming finds what is between the blanks. -/
theorem trim_eq_iff {core cs : List Char} (h : Solid core) : trim cs = core ↔ BlanksAround core cs := by
  constructor
  · rintro rfl
    exact blanksAround_trim cs
  · rintro ⟨front, back, rfl, hblank⟩
    have hfront : ∀ c ∈ front, isBlank c := fun c hc => hblank c (List.mem_append_left _ hc)
    have hback : ∀ c ∈ back.reverse, isBlank c := by
      intro c hc
      exact hblank c (List.mem_append_right _ (List.mem_reverse.mp hc))
    -- from either side, the blanks are passed over and the text stays
    have hbegin : (core ++ back).dropWhile isBlank = core ++ back := by
      obtain ⟨c, rest, rfl⟩ := List.exists_cons_of_ne_nil h.nonempty
      exact dropWhile_isBlank_eq_self.mpr h.begins
    have hend : core.reverse.dropWhile isBlank = core.reverse := by
      apply dropWhile_isBlank_eq_self.mpr
      rw [List.head?_reverse]
      exact h.ends
    rw [trim, List.append_assoc, List.dropWhile_append_of_pos hfront, hbegin, trimEnd, List.reverse_append,
      List.dropWhile_append_of_pos hback, hend, List.reverse_reverse]

/-! ## Leading words -/

/-- What is left without a leading word is the text behind it, or all of a text that does not start with it. -/
theorem withoutLeading_eq_iff {word cs rest : List Char} (h : ¬ word <+: rest) :
    withoutLeading word cs = rest ↔ cs = word ++ rest ∨ cs = rest := by
  unfold withoutLeading
  split
  · rename_i hword
    obtain ⟨behind, rfl⟩ := List.isPrefixOf_iff_prefix.mp hword
    rw [List.drop_left, List.append_cancel_left_eq]
    constructor
    · exact .inl
    · rintro (heq | rfl)
      · exact heq
      · exact absurd (List.prefix_append ..) h
  · rename_i hword
    constructor
    · exact .inr
    · rintro (rfl | heq)
      · exact absurd (List.isPrefixOf_iff_prefix.mpr (List.prefix_append ..)) hword
      · exact heq

end Text

/-! ## Spellings -/

/-- The spellings of the type of globally unique identifiers. -/
def guidSpellings : List String := ["Guid", "System.Guid", "global::System.Guid"]

/-- A name that is taken for one of these spellings. It refers to a type of that name outside of all namespaces. -/
def outerGuid : String := "global::Guid"

/-- A text is a spelling of the type of identifiers, with blanks around it or without. -/
def NamesGuid (name : String) : Prop := ∃ spelling ∈ guidSpellings, Text.BlanksAround spelling.toList name.toList

theorem solid_of_mem_spellings {spelling : String} (h : spelling ∈ guidSpellings ++ [outerGuid]) :
    Text.Solid spelling.toList := by
  have hall : ∀ s ∈ guidSpellings ++ [outerGuid], s.toList ≠ [] ∧ (∀ c ∈ s.toList.head?, ¬ Text.isBlank c)
      ∧ ∀ c ∈ s.toList.getLast?, ¬ Text.isBlank c := by simp [guidSpellings, outerGuid, Text.isBlank]
  obtain ⟨hnonempty, hbegins, hends⟩ := hall spelling h
  exact ⟨hnonempty, hbegins, hends⟩

/-- Both qualifiers may be left out, each by itself. -/
theorem isGuidTypeName_iff_trim {name : String} :
    isGuidTypeName name ↔ ∃ spelling ∈ guidSpellings ++ [outerGuid], Text.trim name.toList = spelling.toList := by
  have hsystem (cs : List Char) : Text.withoutLeading "System.".toList cs = "Guid".toList ↔
      cs = "System.Guid".toList ∨ cs = "Guid".toList := Text.withoutLeading_eq_iff (by decide)
  have hqualified (cs : List Char) : Text.withoutLeading "global::".toList cs = "System.Guid".toList ↔
      cs = "global::System.Guid".toList ∨ cs = "System.Guid".toList := Text.withoutLeading_eq_iff (by decide)
  have hbare (cs : List Char) : Text.withoutLeading "global::".toList cs = "Guid".toList ↔
      cs = "global::Guid".toList ∨ cs = "Guid".toList := Text.withoutLeading_eq_iff (by decide)
  simp only [isGuidTypeName, beq_iff_eq, hsystem, hqualified, hbare, guidSpellings, outerGuid, List.cons_append,
    List.nil_append, List.mem_cons, List.not_mem_nil, or_false, exists_eq_or_imp, exists_eq_left]
  -- the same four texts on both sides
  constructor
  · rintro ((h | h) | h | h)
    · exact .inr (.inr (.inl h))
    · exact .inr (.inl h)
    · exact .inr (.inr (.inr h))
    · exact .inl h
  · rintro (h | h | h | h)
    · exact .inr (.inr h)
    · exact .inl (.inr h)
    · exact .inl (.inl h)
    · exact .inr (.inl h)

theorem isGuidTypeName_iff {name : String} :
    isGuidTypeName name ↔ NamesGuid name ∨ Text.BlanksAround outerGuid.toList name.toList := by
  rw [isGuidTypeName_iff_trim]
  constructor
  · rintro ⟨spelling, hmem, htrim⟩
    have haround := (Text.trim_eq_iff (solid_of_mem_spellings hmem)).mp htrim
    rcases List.mem_append.mp hmem with hguid | houter
    · exact .inl ⟨spelling, hguid, haround⟩
    · rw [List.mem_singleton.mp houter] at haround
      exact .inr haround
  · rintro (⟨spelling, hmem, haround⟩ | haround)
    · have hmem := List.mem_append_left [outerGuid] hmem
      exact ⟨spelling, hmem, (Text.trim_eq_iff (solid_of_mem_spellings hmem)).mpr haround⟩
    · have hmem : outerGuid ∈ guidSpellings ++ [outerGuid] := List.mem_append_right _ (List.mem_singleton_self _)
      exact ⟨outerGuid, hmem, (Text.trim_eq_iff (solid_of_mem_spellings hmem)).mpr haround⟩

/-- The outer name is none of the spellings, however many blanks are around it. -/
theorem not_namesGuid_of_outerGuid {name : String} (h : Text.BlanksAround outerGuid.toList name.toList) :
    ¬ NamesGuid name := by
  rintro ⟨spelling, hmem, haround⟩
  have houter := (Text.trim_eq_iff (solid_of_mem_spellings (List.mem_append_right _ (List.mem_singleton_self _)))).mpr h
  have htrim := (Text.trim_eq_iff (solid_of_mem_spellings (List.mem_append_left _ hmem))).mpr haround
  have hother : outerGuid ∉ guidSpellings := by decide
  rw [houter] at htrim
  exact hother (String.toList_inj.mp htrim ▸ hmem)

/-- An accepted type has no blanks around it, so it is taken for identifiers as it is spelled. -/
theorem IsTypeExpression.isGuidTypeName_iff {inner : String} (h : IsTypeExpression inner) :
    isGuidTypeName inner ↔ inner ∈ guidSpellings ∨ inner = outerGuid := by
  rw [isGuidTypeName_iff_trim, Text.trim_eq_self.mpr ⟨h.begins, h.ends⟩]
  simp only [String.toList_inj, exists_eq_right', List.mem_append, List.mem_singleton]

/-! ## Generated members -/

/-- A text is taken for the type of identifiers if it is one of its spellings, with blanks around it or without, and
besides only if it is the outer name. So a value object of an accepted manifest that does not say what its type is makes
new identifiers exactly for these types. -/
theorem guid_detected_iff (inner : String) :
    (isGuidTypeName inner ↔ NamesGuid inner ∨ Text.BlanksAround outerGuid.toList inner.toList)
      ∧ ((isGuidTypeName inner ↔ NamesGuid inner) ↔ ¬ Text.BlanksAround outerGuid.toList inner.toList)
      ∧ ∀ (t : ManifestText) (m : Manifest), t.load = .ok m →
        ∀ (name : String) (settings : ValueObjectSettings), (name, settings) ∈ m.valueObjects → settings.guid = none →
        settings.inner = inner →
        ("NewId() => From(".toList <:+:
          (SourceFile.render ⟨settings.descriptor name, m.generator.namespaceName⟩).toList ↔
            inner ∈ guidSpellings ∨ inner = outerGuid) := by
  refine ⟨isGuidTypeName_iff, ?_, ?_⟩
  · rw [isGuidTypeName_iff]
    constructor
    · intro hsame houter
      exact not_namesGuid_of_outerGuid houter (hsame.mp (.inr houter))
    · intro houter
      exact or_iff_left houter
  · rintro t m hload name settings hmem hguid rfl
    have hfile : ⟨settings.descriptor name, m.generator.namespaceName⟩ ∈ m.sourceFiles :=
      List.mem_map_of_mem (List.mem_map_of_mem (f := fun entry => entry.2.descriptor entry.1) hmem)
    have haccepted := (ManifestText.wellFormed_of_load hload).accepted hfile
    have hinner : IsTypeExpression settings.inner := typeFlaw?_eq_none.mp haccepted.innerTypeName
    have hlike : (settings.descriptor name).isGuidLike = isGuidTypeName settings.inner := by
      simp [ValueObjectSettings.descriptor, ValueObjectSettings.isGuidLike, hguid]
    rw [← hinner.isGuidTypeName_iff, ← hlike]
    exact haccepted.infix_render_iff .newIdentifier

/-- A text that declares an identifier, and a value object whose type only begins like one. -/
def ticketText : ManifestText :=
  ⟨"tvo.toml", "[value_objects.Ticket]\ninner = \"global::System.Guid\"\n"
    ++ "[value_objects.Seat]\ninner = \"System.Guid[]\"\n"⟩

/-- What the text declares. -/
def tickets : Manifest :=
  ⟨.standard, [("Ticket", ⟨"global::System.Guid", none, false, false, none⟩),
    ("Seat", ⟨"System.Guid[]", none, false, false, none⟩)]⟩

theorem guid_detected_ticket :
    isGuidTypeName "\u2003Guid\n"
    ∧ ticketText.load = .ok tickets
    ∧ "NewId() => From(".toList <:+:
      (SourceFile.render ⟨⟨"Ticket", "global::System.Guid", "", false, false, true⟩, none⟩).toList
    ∧ ¬ "NewId() => From(".toList <:+:
      (SourceFile.render ⟨⟨"Seat", "System.Guid[]", "?", false, false, false⟩, none⟩).toList := by
  have hload : ticketText.load = .ok tickets := eq_ok_of_toOption (by decide +kernel)
  have hticket := (guid_detected_iff "global::System.Guid").2.2 _ _ hload "Ticket"
    ⟨"global::System.Guid", none, false, false, none⟩ (by decide) rfl rfl
  have hseat := (guid_detected_iff "System.Guid[]").2.2 _ _ hload "Seat" ⟨"System.Guid[]", none, false, false, none⟩
    (by decide) rfl rfl
  have haround : Text.BlanksAround "Guid".toList "\u2003Guid\n".toList :=
    ⟨['\u2003'], ['\n'], by decide, by simp [Text.isBlank]⟩
  refine ⟨(guid_detected_iff _).1.mpr (.inl ⟨"Guid", by decide, haround⟩), hload, ?_, ?_⟩
  · exact hticket.mpr (.inl (by decide))
  · exact mt hseat.mp (by decide)

/-- The outer name is taken for the type of identifiers, and is none of its spellings. -/
theorem isGuidTypeName_outerGuid : isGuidTypeName outerGuid ∧ ¬ NamesGuid outerGuid := by
  have houter : Text.BlanksAround outerGuid.toList outerGuid.toList := ⟨[], [], by simp, by simp⟩
  exact ⟨isGuidTypeName_iff.mpr (.inr houter), not_namesGuid_of_outerGuid houter⟩

end ValueObjects

import ValueObjects.Text.Search

/-!
# Searching texts

The search for a pattern finds the leftmost place where it occurs, if there is any. Places are counted in bytes, and it
makes no difference whether a text is taken for characters or for the bytes of their encoding: a pattern occurs between
whole characters only.
-/

namespace ValueObjects.Text

/-! ## Characters -/

/-- A pattern occurs behind some characters, which take that many bytes. -/
def OccursAt (pattern cs : List Char) (offset : Nat) : Prop :=
  ∃ front back, cs = front ++ pattern ++ back ∧ byteLength front = offset

theorem occursAt_nil {pattern : List Char} {offset : Nat} : OccursAt pattern [] offset ↔ pattern = [] ∧ offset = 0 := by
  constructor
  · rintro ⟨front, back, h, rfl⟩
    obtain ⟨rfl, rfl, -⟩ : front = [] ∧ pattern = [] ∧ back = [] := by simpa using h.symm
    exact ⟨rfl, rfl⟩
  · rintro ⟨rfl, rfl⟩
    exact ⟨[], [], rfl, rfl⟩

/-- A pattern occurs at the first character or behind it. -/
theorem occursAt_cons {pattern cs : List Char} {c : Char} {offset : Nat} :
    OccursAt pattern (c :: cs) offset ↔
      pattern <+: c :: cs ∧ offset = 0 ∨ ∃ rest, OccursAt pattern cs rest ∧ offset = c.utf8Size + rest := by
  constructor
  · rintro ⟨front, back, h, rfl⟩
    cases front with
    | nil => exact .inl ⟨⟨back, h.symm⟩, rfl⟩
    | cons d front =>
      obtain ⟨rfl, rfl⟩ := List.cons.inj h
      exact .inr ⟨byteLength front, ⟨front, back, rfl, rfl⟩, rfl⟩
  · rintro (⟨⟨back, h⟩, rfl⟩ | ⟨rest, ⟨front, back, rfl, rfl⟩, rfl⟩)
    · exact ⟨[], back, h.symm, rfl⟩
    · exact ⟨c :: front, back, rfl, rfl⟩

/-- What a search says: no other occurrence is in front of the one that is found, and there is none if none is. -/
theorem findOffset?_spec (pattern cs : List Char) :
    match findOffset? pattern cs with
    | some offset => OccursAt pattern cs offset ∧ ∀ other, OccursAt pattern cs other → offset ≤ other
    | none => ∀ other, ¬ OccursAt pattern cs other := by
  induction cs with
  | nil =>
    cases pattern with
    | nil => exact ⟨occursAt_nil.mpr ⟨rfl, rfl⟩, fun other _ => Nat.zero_le other⟩
    | cons d pattern =>
      intro other h
      cases (occursAt_nil.mp h).1
  | cons c cs ih =>
    rw [findOffset?]
    by_cases hbegins : pattern <+: c :: cs
    · rw [if_pos (List.isPrefixOf_iff_prefix.mpr hbegins)]
      exact ⟨occursAt_cons.mpr (.inl ⟨hbegins, rfl⟩), fun other _ => Nat.zero_le other⟩
    · rw [if_neg (mt List.isPrefixOf_iff_prefix.mp hbegins)]
      -- what does not occur at the first character occurs behind it, if at all
      have hbehind : ∀ other, OccursAt pattern (c :: cs) other →
          ∃ rest, OccursAt pattern cs rest ∧ other = c.utf8Size + rest :=
        fun other h => (occursAt_cons.mp h).resolve_left fun h => hbegins h.1
      cases hfind : findOffset? pattern cs with
      | none =>
        rw [hfind] at ih
        intro other h
        obtain ⟨rest, hrest, -⟩ := hbehind other h
        exact ih rest hrest
      | some offset =>
        rw [hfind] at ih
        refine ⟨occursAt_cons.mpr (.inr ⟨offset, ih.1, rfl⟩), fun other h => ?_⟩
        obtain ⟨rest, hrest, rfl⟩ := hbehind other h
        exact Nat.add_le_add_left (ih.2 rest hrest) _

theorem findOffset?_eq_none {pattern cs : List Char} :
    findOffset? pattern cs = none ↔ ∀ offset, ¬ OccursAt pattern cs offset := by
  have hspec := findOffset?_spec pattern cs
  cases hfind : findOffset? pattern cs with
  | none =>
    rw [hfind] at hspec
    exact iff_of_true rfl hspec
  | some offset =>
    rw [hfind] at hspec
    exact iff_of_false nofun fun h => h offset hspec.1

theorem findOffset?_eq_some {pattern cs : List Char} {offset : Nat} :
    findOffset? pattern cs = some offset ↔
      OccursAt pattern cs offset ∧ ∀ other, OccursAt pattern cs other → offset ≤ other := by
  have hspec := findOffset?_spec pattern cs
  cases hfind : findOffset? pattern cs with
  | none =>
    rw [hfind] at hspec
    exact iff_of_false nofun fun h => hspec offset h.1
  | some found =>
    rw [hfind] at hspec
    constructor
    · rintro ⟨⟩
      exact hspec
    · rintro ⟨hoccurs, hleftmost⟩
      exact congrArg some (Nat.le_antisymm (hspec.2 offset hoccurs) (hleftmost found hspec.1))

/-! ## Bytes -/

/-- The bytes of a pattern stand at an offset in those of a text. -/
def StandsAt (pattern text : String) (offset : Nat) : Prop :=
  text.toUTF8.extract offset (offset + pattern.utf8ByteSize) = pattern.toUTF8

theorem byteLength_toList (s : String) : byteLength s.toList = s.utf8ByteSize := by
  have hofList : ∀ cs : List Char, byteLength cs = (String.ofList cs).utf8ByteSize := by
    intro cs
    induction cs with
    | nil => rfl
    | cons c cs ih =>
      have hcons : String.ofList (c :: cs) = String.singleton c ++ String.ofList cs := by simp
      rw [byteLength_cons, hcons, String.utf8ByteSize_append, String.utf8ByteSize_singleton, ih]
  rw [hofList, String.ofList_toList]

/-- A pattern occurs where a text goes on with it. -/
theorem occursAt_toList {pattern text : String} {offset : Nat} :
    OccursAt pattern.toList text.toList offset ↔
      ∃ front back : String, text = front ++ pattern ++ back ∧ front.utf8ByteSize = offset := by
  constructor
  · rintro ⟨front, back, htext, rfl⟩
    refine ⟨String.ofList front, String.ofList back, ?_, ?_⟩
    · simpa [← String.toList_inj] using htext
    · rw [← byteLength_toList, String.toList_ofList]
  · rintro ⟨front, back, rfl, rfl⟩
    exact ⟨front.toList, back.toList, by simp, byteLength_toList front⟩

/-- The bytes of a part are found behind those of the part in front of it. -/
theorem standsAt_append (front pattern back : String) :
    StandsAt pattern (front ++ pattern ++ back) front.utf8ByteSize := by
  have hbytes : (front ++ pattern ++ back).toUTF8 =
      front.toByteArray ++ (pattern.toByteArray ++ back.toByteArray) := by
    rw [String.append_assoc]
    exact String.toByteArray_append.trans (congrArg _ String.toByteArray_append)
  have hbehind := ByteArray.extract_append_size_add (a := front.toByteArray)
    (b := pattern.toByteArray ++ back.toByteArray) (i := 0) (j := pattern.toByteArray.size)
  rw [StandsAt, hbytes, ← String.size_toByteArray, ← String.size_toByteArray]
  simpa using hbehind.trans (ByteArray.extract_append_eq_left rfl)

/-- The bytes of a pattern stand between whole characters only. -/
theorem exists_append_of_standsAt {pattern text : String} (hpattern : pattern ≠ "") {offset : Nat}
    (h : StandsAt pattern text offset) :
    ∃ front back : String, text = front ++ pattern ++ back ∧ front.utf8ByteSize = offset := by
  let start : String.Pos.Raw := ⟨offset⟩
  let stop : String.Pos.Raw := ⟨offset + pattern.utf8ByteSize⟩
  have hextract : text.toByteArray.extract start.byteIdx stop.byteIdx = pattern.toByteArray := h
  have hpositive : 0 < pattern.utf8ByteSize := Nat.pos_of_ne_zero (mt String.utf8ByteSize_eq_zero_iff.mp hpattern)
  have hinside : offset + pattern.utf8ByteSize ≤ text.utf8ByteSize := by
    have hsize := congrArg ByteArray.size hextract
    rw [ByteArray.size_extract, String.size_toByteArray, String.size_toByteArray] at hsize
    simp only [start, stop] at hsize
    omega
  -- the bytes are those of a text, so both ends of them are between characters
  have hends : start.IsValid text ∧ stop.IsValid text := by
    have hvalid : (text.toByteArray.extract start.byteIdx stop.byteIdx).IsValidUTF8 := hextract ▸ pattern.isValidUTF8
    have horder : start ≤ stop := String.Pos.Raw.le_iff.mpr (Nat.le_add_right ..)
    have hbound : stop ≤ text.rawEndPos := String.Pos.Raw.le_iff.mpr hinside
    refine ((String.Pos.Raw.isValidUTF8_extract_iff start stop horder hbound).mp hvalid).resolve_left fun heq => ?_
    have hbytes := congrArg String.Pos.Raw.byteIdx heq
    simp only [start, stop] at hbytes
    omega
  obtain ⟨front, rest, hfront, hstart⟩ := String.Pos.Raw.isValid_iff_exists_append.mp hends.1
  obtain ⟨through, back, hthrough, hstop⟩ := String.Pos.Raw.isValid_iff_exists_append.mp hends.2
  have hstart : start.byteIdx = front.toByteArray.size := congrArg String.Pos.Raw.byteIdx hstart
  have hstop : stop.byteIdx = through.toByteArray.size := congrArg String.Pos.Raw.byteIdx hstop
  have hfrontBytes : text.toByteArray.extract 0 start.byteIdx = front.toByteArray := by
    rw [hfront, String.toByteArray_append]
    exact ByteArray.extract_append_eq_left hstart
  have hthroughBytes : text.toByteArray.extract 0 stop.byteIdx = through.toByteArray := by
    rw [hthrough, String.toByteArray_append]
    exact ByteArray.extract_append_eq_left hstop
  refine ⟨front, back, ?_, hstart.symm⟩
  have hsplit : through = front ++ pattern := by
    rw [← String.toByteArray_inj, String.toByteArray_append, ← hthroughBytes, ← hfrontBytes, ← hextract]
    exact ByteArray.extract_eq_extract_append_extract _ (Nat.zero_le _) (Nat.le_add_right ..)
  rw [← hsplit, hthrough]

/-- The bytes of a pattern stand where the pattern occurs. -/
theorem standsAt_iff {pattern text : String} (hpattern : pattern ≠ "") {offset : Nat} :
    StandsAt pattern text offset ↔ OccursAt pattern.toList text.toList offset := by
  rw [occursAt_toList]
  constructor
  · exact exists_append_of_standsAt hpattern
  · rintro ⟨front, back, rfl, rfl⟩
    exact standsAt_append front pattern back

end ValueObjects.Text

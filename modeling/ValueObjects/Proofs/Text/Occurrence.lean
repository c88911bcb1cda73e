/-!
# Occurrences of words

Whether words occur in a text that is put together from texts that are written out and names that are not known. While
such a text is read, it is enough to keep what is still to come of the words that have begun.
-/

namespace ValueObjects.Text

variable {text cs word : List Char} {words left left' : List (List Char)} {c : Char} {p : Char → Bool}

/-! ## Separators -/

/-- A word without a separator is on one side of it. -/
theorem infix_of_notMem {before after : List Char} (hc : c ∉ word) (h : word <:+: before ++ c :: after) :
    word <:+: before ∨ word <:+: after := by
  rcases List.infix_append_iff.mp h with h | h | ⟨front, rest, rfl, hfront, hrest⟩
  · exact .inl h
  · rcases List.infix_cons_iff.mp h with h | h
    · rcases List.prefix_cons_iff.mp h with rfl | ⟨rest, rfl, -⟩
      · exact .inl List.nil_infix
      · exact absurd (List.mem_cons_self ..) hc
    · exact .inr h
  · rcases List.prefix_cons_iff.mp hrest with rfl | ⟨rest, rfl, -⟩
    · exact .inl (by simpa using hfront.isInfix)
    · exact absurd (by simp) hc

/-- A word without an end of a line is on one line. -/
theorem exists_infix_of_lines {lines : List (List Char)} (hc : c ∉ word) (hne : word ≠ [])
    (h : word <:+: lines.flatMap (· ++ [c])) : ∃ line ∈ lines, word <:+: line := by
  induction lines with
  | nil => exact absurd (List.infix_nil.mp h) hne
  | cons line lines ih =>
    rw [List.flatMap_cons, List.append_assoc, List.singleton_append] at h
    rcases infix_of_notMem hc h with h | h
    · exact ⟨line, by simp, h⟩
    · obtain ⟨other, hother, hword⟩ := ih h
      exact ⟨other, by simp [hother], hword⟩

/-- A word that occurs neither before it has ended nor after it has begun occurs once. -/
theorem eq_of_occurs_once {front back before after : List Char} (hfront : ¬ word <:+: front ++ word.dropLast)
    (hback : ¬ word <:+: word.tail ++ back) (h : front ++ word ++ back = before ++ word ++ after) : before = front := by
  have hword : word ≠ [] := by
    rintro rfl
    exact hfront List.nil_infix
  rw [List.append_assoc, List.append_assoc] at h
  rcases List.append_eq_append_iff.mp h with ⟨between, rfl, hbetween⟩ | ⟨between, rfl, hbetween⟩
  · cases between with
    | nil => exact List.append_nil front
    | cons c between =>
      -- the other occurrence begins behind the first character of this one
      obtain ⟨d, rest, rfl⟩ := List.exists_cons_of_ne_nil hword
      have hrest : rest ++ back = between ++ (d :: rest ++ after) := by simpa using (List.cons.inj hbetween).2
      rw [List.tail_cons, hrest] at hback
      exact absurd ⟨between, after, List.append_assoc ..⟩ hback
  · cases between with
    | nil => exact (List.append_nil before).symm
    | cons c between =>
      -- the other occurrence ends in front of the last character of this one
      have hprefix : word <+: c :: between ++ word.dropLast := by
        have hwhole : word <+: word ++ after := List.prefix_append ..
        refine List.prefix_of_prefix_length_le hwhole ?_ ?_
        · rw [hbetween, ← List.append_assoc]
          exact ((List.prefix_append_right_inj _).mpr (List.dropLast_prefix word)).trans (List.prefix_append ..)
        · simp only [List.length_append, List.length_cons, List.length_dropLast]
          omega
      rw [List.append_assoc] at hfront
      exact absurd (List.infix_append_of_infix_right hprefix.isInfix) hfront

/-! ## Reading a text -/

/-- What is still to come of the words that occur in a text or have begun at its end, the words themselves included. If
one of them occurs, nothing is. -/
structure Awaits (words : List (List Char)) (text : List Char) (left : List (List Char)) : Prop where
  begun : ∀ front rest, front ++ rest ∈ words → front <:+ text → rest ∈ left
  occurred : ∀ word ∈ words, word <:+: text → [] ∈ left

/-- What is still to come after a character. -/
def advance (words : List (List Char)) (left : List (List Char)) (c : Char) : List (List Char) :=
  words ++ left.filterMap fun
    | [] => some []
    | d :: rest => if d = c then some rest else none

/-- What may be left of a word behind any characters of a kind. -/
def restsBehind (p : Char → Bool) : List Char → List (List Char)
  | [] => [[]]
  | c :: rest => (c :: rest) :: if p c then restsBehind p rest else []

/-- What is still to come after any characters of a kind. -/
def absorb (p : Char → Bool) (left : List (List Char)) : List (List Char) := left.flatMap (restsBehind p)

theorem mem_restsBehind (p : Char → Bool) (word : List Char) : word ∈ restsBehind p word := by
  cases word <;> simp [restsBehind]

theorem mem_restsBehind_of_cons {rest : List Char} (hc : p c) (h : c :: rest ∈ restsBehind p word) :
    rest ∈ restsBehind p word := by
  induction word with
  | nil => simp [restsBehind] at h
  | cons d word ih =>
    rw [restsBehind, List.mem_cons] at h ⊢
    rcases h with h | h
    · obtain ⟨rfl, rfl⟩ := List.cons.inj h
      exact .inr (by simpa [hc] using mem_restsBehind p rest)
    · split at h
      · rename_i hd
        exact .inr (by simpa [hd] using ih h)
      · cases h

theorem subset_absorb (p : Char → Bool) (left : List (List Char)) : left ⊆ absorb p left :=
  fun word hword => List.mem_flatMap.mpr ⟨word, hword, mem_restsBehind p word⟩

/-- One more character of the kind leaves nothing else to come. -/
theorem advance_absorb_subset (hwords : words ⊆ left) (hc : p c) : advance words (absorb p left) c ⊆ absorb p left := by
  intro rest hrest
  rcases List.mem_append.mp hrest with hrest | hrest
  · exact subset_absorb p left (hwords hrest)
  · obtain ⟨word, hword, hsome⟩ := List.mem_filterMap.mp hrest
    cases word with
    | nil =>
      obtain rfl : [] = rest := by simpa using hsome
      exact hword
    | cons d word =>
      obtain ⟨rfl, rfl⟩ : d = c ∧ word = rest := by simpa using hsome
      obtain ⟨whole, hwhole, hmem⟩ := List.mem_flatMap.mp hword
      exact List.mem_flatMap.mpr ⟨whole, hwhole, mem_restsBehind_of_cons hc hmem⟩

namespace Awaits

theorem mono (h : Awaits words text left) (hsub : left ⊆ left') : Awaits words text left' :=
  ⟨fun front rest hword hfront => hsub (h.begun front rest hword hfront),
    fun word hword hoccurs => hsub (h.occurred word hword hoccurs)⟩

theorem nil (words : List (List Char)) : Awaits words [] words where
  begun front rest hword hfront := by
    obtain rfl := List.suffix_nil.mp hfront
    exact hword
  occurred word hword hoccurs := by
    obtain rfl := List.infix_nil.mp hoccurs
    exact hword

theorem subset (h : Awaits words text left) : words ⊆ left :=
  fun word hword => h.begun [] word hword List.nil_suffix

theorem char (h : Awaits words text left) (c : Char) : Awaits words (text ++ [c]) (advance words left c) := by
  have hbegun : ∀ front rest, front ++ rest ∈ words → front <:+ text ++ [c] → rest ∈ advance words left c := by
    intro front rest hword hfront
    rw [advance, List.mem_append]
    rcases List.suffix_concat_iff.mp hfront with rfl | ⟨begun, rfl, hbegun⟩
    · exact .inl hword
    · have hleft : c :: rest ∈ left := h.begun begun (c :: rest) (by simpa using hword) hbegun
      exact .inr (List.mem_filterMap.mpr ⟨c :: rest, hleft, by simp⟩)
  refine ⟨hbegun, fun word hword hoccurs => ?_⟩
  rcases List.infix_concat_iff.mp hoccurs with hoccurs | hoccurs
  · exact hbegun word [] (by simpa using hword) hoccurs
  · rw [advance, List.mem_append]
    exact .inr (List.mem_filterMap.mpr ⟨[], h.occurred word hword hoccurs, rfl⟩)

theorem literal (h : Awaits words text left) (cs : List Char) :
    Awaits words (text ++ cs) (cs.foldl (advance words) left) := by
  induction cs generalizing text left with
  | nil => simpa using h
  | cons c cs ih => simpa using ih (h.char c)

/-- A name of which only the characters are known. -/
theorem name (h : Awaits words text left) (hcs : ∀ c ∈ cs, p c) : Awaits words (text ++ cs) (absorb p left) := by
  have hclosed : ∀ c, p c → advance words (absorb p left) c ⊆ absorb p left :=
    fun c hc => advance_absorb_subset h.subset hc
  replace h := h.mono (subset_absorb p left)
  induction cs generalizing text with
  | nil => simpa using h
  | cons c cs ih =>
    have hnext := (h.char c).mono (hclosed c (hcs c (by simp)))
    simpa using ih (fun d hd => hcs d (by simp [hd])) hnext

/-- If something is left, no word occurs. -/
theorem not_infix (h : Awaits words text left) (hleft : [] ∉ left) (hword : word ∈ words) : ¬ word <:+: text :=
  fun hoccurs => hleft (h.occurred word hword hoccurs)

end Awaits

end ValueObjects.Text

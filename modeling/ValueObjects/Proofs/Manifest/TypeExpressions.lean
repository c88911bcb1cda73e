import Mathlib.Data.List.DropRight
import ValueObjects.Proofs.Text.Balance
import ValueObjects.TypeExpression

/-!
# Flaws of type expressions

What each flaw of a type expression is, without regard to how it is looked for. The one that is reported is the first
that the expression has, and an expression without any is a name of the right characters with balanced brackets.
-/

namespace ValueObjects

/-! ## Blanks around a text -/

namespace Text

theorem trim_eq_nil {cs : List Char} : trim cs = [] ↔ ∀ c ∈ cs, isBlank c := by
  unfold trim trimEnd
  rw [List.reverse_eq_nil_iff, List.dropWhile_eq_nil_iff]
  simp only [List.mem_reverse]
  constructor
  · intro h
    -- what is left in front is no blank, so there is nothing left
    have hnil : cs.dropWhile isBlank = [] := by
      by_contra hne
      exact absurd (h _ (List.head_mem hne)) (by simpa using List.head_dropWhile_not isBlank hne)
    exact List.dropWhile_eq_nil_iff.mp hnil
  · intro h c hc
    exact h c ((List.dropWhile_suffix isBlank).subset hc)

theorem dropWhile_isBlank_eq_self {cs : List Char} :
    cs.dropWhile isBlank = cs ↔ ∀ c ∈ cs.head?, ¬ isBlank c := by
  rw [List.dropWhile_eq_self_iff]
  cases cs <;> simp

theorem trimEnd_eq_self {cs : List Char} : trimEnd cs = cs ↔ ∀ c ∈ cs.getLast?, ¬ isBlank c := by
  have hright : trimEnd cs = cs.rdropWhile isBlank := rfl
  rw [hright, List.rdropWhile_eq_self_iff]
  constructor
  · intro h c hc
    obtain ⟨hne, rfl⟩ := List.mem_getLast?_eq_getLast hc
    exact h hne
  · intro h hne
    exact h _ (List.getLast?_eq_some_getLast hne)

/-- Trimming leaves exactly those texts alone that have no blank at either end. -/
theorem trim_eq_self {cs : List Char} :
    trim cs = cs ↔ (∀ c ∈ cs.head?, ¬ isBlank c) ∧ ∀ c ∈ cs.getLast?, ¬ isBlank c := by
  rw [← dropWhile_isBlank_eq_self, ← trimEnd_eq_self]
  constructor
  · intro h
    have hend : (trim cs).length ≤ (cs.dropWhile isBlank).length :=
      (List.rdropWhile_prefix isBlank (l := cs.dropWhile isBlank)).length_le
    have hstart := List.dropWhile_suffix isBlank (l := cs)
    have hsame : cs.dropWhile isBlank = cs := hstart.eq_of_length_le (by rwa [h] at hend)
    exact ⟨hsame, by rwa [trim, hsame] at h⟩
  · rintro ⟨hstart, hend⟩
    rw [trim, hstart, hend]

end Text

/-! ## Brackets -/

/-- Reading brackets with a counter decides whether the text is balanced behind some that are open already. -/
theorem balancedFrom_iff {depth : Nat} {cs : List Char} :
    balancedFrom depth cs ↔
      (∀ p, p <+: cs → p.count '>' ≤ depth + p.count '<') ∧ cs.count '>' = depth + cs.count '<' := by
  induction cs generalizing depth with
  | nil => simpa [balancedFrom] using eq_comm
  | cons c cs ih =>
    have hcons : (∀ p, p <+: c :: cs → p.count '>' ≤ depth + p.count '<') ↔
        ∀ p, p <+: cs → (c :: p).count '>' ≤ depth + (c :: p).count '<' := by
      simp only [List.prefix_cons_iff]
      constructor
      · intro h p hp
        exact h _ (.inr ⟨p, rfl, hp⟩)
      · rintro h _ (rfl | ⟨p, rfl, hp⟩)
        · simp
        · exact h p hp
    rw [hcons]
    by_cases hopen : c = '<'
    · subst hopen
      simp only [balancedFrom, ih, List.count_cons_self, List.count_cons_of_ne (show '<' ≠ '>' by decide)]
      simp only [Nat.add_comm, Nat.add_left_comm]
    by_cases hclose : c = '>'
    · subst hclose
      cases depth with
      | zero =>
        simp only [balancedFrom, Bool.false_eq_true, false_iff, not_and]
        intro h
        exact absurd (h [] (List.nil_prefix)) (by decide)
      | succ depth =>
        simp only [balancedFrom, ih, List.count_cons_self, List.count_cons_of_ne (show '>' ≠ '<' by decide)]
        simp only [Nat.add_right_comm, Nat.add_le_add_iff_right, Nat.add_right_cancel_iff]
    · simp only [balancedFrom, ih, List.count_cons_of_ne hopen, List.count_cons_of_ne hclose]

theorem balancedFrom_zero {cs : List Char} : balancedFrom 0 cs ↔ Text.Balanced '<' '>' cs := by
  rw [balancedFrom_iff]
  simp only [Nat.zero_add]
  exact ⟨fun ⟨hbeginnings, hwhole⟩ => ⟨hbeginnings, hwhole⟩, fun h => ⟨h.beginnings, h.whole⟩⟩

/-! ## Flaws -/

namespace TypeFlaw

/-- An expression has a flaw. -/
def Spoils : TypeFlaw → String → Prop
  | empty, s => ∀ c ∈ s.toList, Text.isBlank c
  | surroundingBlanks, s => (∃ c ∈ s.toList.head?, Text.isBlank c) ∨ ∃ c ∈ s.toList.getLast?, Text.isBlank c
  | nullable, s => s.toList.getLast? = some '?'
  | badCharacter, s => ∃ c ∈ s.toList, ¬ isTypeCharacter c
  | unbalanced, s => ¬ Text.Balanced '<' '>' s.toList

instance decidableSpoils : (flaw : TypeFlaw) → (s : String) → Decidable (flaw.Spoils s)
  | empty, s => List.decidableBAll _ s.toList
  | surroundingBlanks, s => @instDecidableOr _ _ s.toList.head?.decidableExistsMem s.toList.getLast?.decidableExistsMem
  | nullable, s => inferInstanceAs (Decidable (s.toList.getLast? = some '?'))
  | badCharacter, s => List.decidableBEx _ s.toList
  | unbalanced, s => inferInstanceAs (Decidable (¬ Text.Balanced '<' '>' s.toList))

/-- All flaws, in the order in which they are looked for. -/
def inOrder : List TypeFlaw := [empty, surroundingBlanks, nullable, badCharacter, unbalanced]

end TypeFlaw

theorem trim_ne_iff_spoils {s : String} :
    s.toList ≠ Text.trim s.toList ↔ TypeFlaw.surroundingBlanks.Spoils s := by
  rw [ne_comm, Ne, Text.trim_eq_self, not_and_or]
  simp [TypeFlaw.Spoils]

/-- The flaw that is reported is the first one that the expression has. -/
theorem typeFlaw?_eq_find? (s : String) : typeFlaw? s = TypeFlaw.inOrder.find? (·.Spoils s) := by
  have hempty : Text.trim s.toList = [] ↔ TypeFlaw.empty.Spoils s := Text.trim_eq_nil
  have hblanks : s.toList ≠ Text.trim s.toList ↔ TypeFlaw.surroundingBlanks.Spoils s := trim_ne_iff_spoils
  have hnullable : s.toList.getLast? = some '?' ↔ TypeFlaw.nullable.Spoils s := Iff.rfl
  have hcharacter : (!s.toList.all isTypeCharacter) = true ↔ TypeFlaw.badCharacter.Spoils s := by
    simp [TypeFlaw.Spoils]
  have hbrackets : (!balancedFrom 0 s.toList) = true ↔ TypeFlaw.unbalanced.Spoils s := by
    rw [Bool.not_eq_true', ← Bool.not_eq_true, balancedFrom_zero, TypeFlaw.Spoils]
  simp only [typeFlaw?, hempty, hblanks, hnullable, hcharacter, hbrackets, TypeFlaw.inOrder]
  -- both sides ask the same questions in the same order
  by_cases h₁ : TypeFlaw.empty.Spoils s
  · simp [h₁]
  by_cases h₂ : TypeFlaw.surroundingBlanks.Spoils s
  · simp [h₁, h₂]
  by_cases h₃ : TypeFlaw.nullable.Spoils s
  · simp [h₁, h₂, h₃]
  by_cases h₄ : TypeFlaw.badCharacter.Spoils s
  · simp [h₁, h₂, h₃, h₄]
  by_cases h₅ : TypeFlaw.unbalanced.Spoils s <;> simp [h₁, h₂, h₃, h₄, h₅]

/-! ## Acceptance -/

/-- What is accepted as a type expression. -/
structure IsTypeExpression (s : String) : Prop where
  nonempty : s.toList ≠ []
  begins : ∀ c ∈ s.toList.head?, ¬ Text.isBlank c
  ends : ∀ c ∈ s.toList.getLast?, ¬ Text.isBlank c
  characters : ∀ c ∈ s.toList, isTypeCharacter c
  balanced : Text.Balanced '<' '>' s.toList

theorem isTypeExpression_iff {s : String} : IsTypeExpression s ↔ ∀ flaw : TypeFlaw, ¬ flaw.Spoils s := by
  constructor
  · rintro ⟨hnonempty, hbegins, hends, hcharacters, hbalanced⟩ flaw hflaw
    cases flaw with
    | empty =>
      obtain ⟨c, cs, hs⟩ := List.exists_cons_of_ne_nil hnonempty
      exact hbegins c (by simp [hs]) (hflaw c (by simp [hs]))
    | surroundingBlanks =>
      rcases hflaw with ⟨c, hc, hblank⟩ | ⟨c, hc, hblank⟩
      · exact hbegins c hc hblank
      · exact hends c hc hblank
    | nullable => exact absurd (hcharacters '?' (List.mem_of_getLast? hflaw)) (by decide)
    | badCharacter =>
      obtain ⟨c, hc, hbad⟩ := hflaw
      exact hbad (hcharacters c hc)
    | unbalanced => exact hflaw hbalanced
  · intro h
    refine ⟨?_, ?_, ?_, ?_, ?_⟩
    · intro hnil
      exact h .empty (by simp [TypeFlaw.Spoils, hnil])
    · intro c hc hblank
      exact h .surroundingBlanks (.inl ⟨c, hc, hblank⟩)
    · intro c hc hblank
      exact h .surroundingBlanks (.inr ⟨c, hc, hblank⟩)
    · intro c hc
      by_contra hbad
      exact h .badCharacter ⟨c, hc, hbad⟩
    · exact Decidable.not_not.mp (h .unbalanced)

/-- A type expression has no flaw exactly if none is found. -/
theorem typeFlaw?_eq_none {s : String} : typeFlaw? s = none ↔ IsTypeExpression s := by
  rw [typeFlaw?_eq_find?, List.find?_eq_none, isTypeExpression_iff]
  constructor
  · intro h flaw
    have hmem : flaw ∈ TypeFlaw.inOrder := by cases flaw <;> decide
    simpa using h flaw hmem
  · intro h flaw _
    simpa using h flaw

end ValueObjects

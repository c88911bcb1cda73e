import ValueObjects.Manifest.Validation

/-!
# Flaws of names

What each flaw in the form of a name is, without regard to how it is looked for. The one that is reported is the first
that the name has. A name is refused exactly if it is no identifier, because of its form or because it is reserved.
-/

namespace ValueObjects

/-! ## Flaws -/

namespace IdentifierFlaw

/-- A name has a flaw. -/
def Spoils : IdentifierFlaw → String → Prop
  | empty, name => name.toList = []
  | badStart, name => ∃ c ∈ name.toList.head?, ¬ isNameStart c
  | badCharacter, name => ∃ c ∈ name.toList.tail, ¬ isNamePart c

-- there is another way to decide these: to go through all characters that exist
instance decidableSpoils : (flaw : IdentifierFlaw) → (name : String) → Decidable (flaw.Spoils name)
  | empty, name => inferInstanceAs (Decidable (name.toList = []))
  | badStart, name => name.toList.head?.decidableExistsMem
  | badCharacter, name => List.decidableBEx _ name.toList.tail

/-- All flaws, in the order in which they are looked for. -/
def inOrder : List IdentifierFlaw := [empty, badStart, badCharacter]

end IdentifierFlaw

/-- The flaw that is reported is the first one that the name has. -/
theorem identifierFlaw?_eq_find? (name : String) :
    identifierFlaw? name = IdentifierFlaw.inOrder.find? (·.Spoils name) := by
  simp only [identifierFlaw?, IdentifierFlaw.inOrder]
  cases hname : name.toList with
  | nil => simp [IdentifierFlaw.Spoils, hname]
  | cons c cs =>
    have hnonempty : ¬ IdentifierFlaw.empty.Spoils name := by simp [IdentifierFlaw.Spoils, hname]
    have hstart : (!isNameStart c) = true ↔ IdentifierFlaw.badStart.Spoils name := by
      simp [IdentifierFlaw.Spoils, hname]
    have hrest : cs.all isNamePart ↔ ¬ IdentifierFlaw.badCharacter.Spoils name := by
      simp [IdentifierFlaw.Spoils, hname]
    by_cases h₁ : IdentifierFlaw.badStart.Spoils name
    · simp [hnonempty, hstart, h₁]
    by_cases h₂ : IdentifierFlaw.badCharacter.Spoils name <;> simp [hnonempty, hstart, hrest, h₁, h₂]

theorem identifierFlaw?_eq_none {name : String} :
    identifierFlaw? name = none ↔ ∃ c cs, name.toList = c :: cs ∧ isNameStart c ∧ ∀ d ∈ cs, isNamePart d := by
  rw [identifierFlaw?_eq_find?, List.find?_eq_none]
  cases hname : name.toList with
  | nil => simp [IdentifierFlaw.inOrder, IdentifierFlaw.Spoils, hname]
  | cons c cs =>
    have hparts : (∀ flaw ∈ IdentifierFlaw.inOrder, ¬ decide (flaw.Spoils name) = true) ↔
        isNameStart c ∧ ∀ d ∈ cs, isNamePart d := by
      simp [IdentifierFlaw.inOrder, IdentifierFlaw.Spoils, hname]
    rw [hparts]
    constructor
    · rintro ⟨hc, hcs⟩
      exact ⟨c, cs, rfl, hc, hcs⟩
    · rintro ⟨_, _, ⟨⟩, hc, hcs⟩
      exact ⟨hc, hcs⟩

/-! ## Acceptance -/

theorem mem_keywords {name : String} : name ∈ keywords ↔ isKeyword name := by
  simp [isKeyword]

/-- A name is refused exactly if it is no identifier. -/
theorem ofName?_eq_none {name : String} (role : Role) : Cause.ofName? name role = none ↔ IsIdentifier name := by
  rw [IsIdentifier, ← identifierFlaw?_eq_none, mem_keywords, Cause.ofName?]
  cases isKeyword name <;> simp

/-! ## Characters -/

theorem isNamePart_of_isNameStart {c : Char} (h : isNameStart c) : isNamePart c := by
  simp only [isNameStart, Bool.or_eq_true] at h
  rcases h with h | h
  · simp [isNamePart, Char.isAlphanum, h]
  · simp [isNamePart, h]

namespace IsIdentifier

variable {name : String}

/-- Identifiers have no separators of any kind in them. -/
theorem isNamePart (h : IsIdentifier name) {c : Char} (hc : c ∈ name.toList) : ValueObjects.isNamePart c := by
  obtain ⟨⟨first, rest, hname, hfirst, hrest⟩, -⟩ := h
  rw [hname, List.mem_cons] at hc
  rcases hc with rfl | hc
  · exact isNamePart_of_isNameStart hfirst
  · exact hrest c hc

theorem dot_notMem (h : IsIdentifier name) : '.' ∉ name.toList := fun hmem =>
  absurd (h.isNamePart hmem) (by decide)

theorem toList_ne_nil (h : IsIdentifier name) : name.toList ≠ [] := by
  obtain ⟨⟨c, cs, hname, -⟩, -⟩ := h
  simp [hname]

end IsIdentifier

end ValueObjects

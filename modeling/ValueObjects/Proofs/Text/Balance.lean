import Mathlib.Data.List.Infix

/-!
# Balanced texts

Texts in which everything that is opened is closed again: no beginning of the text closes more than it opens, and the
whole text closes as much as it opens. While a text is read, it is enough to count what is open.
-/

namespace ValueObjects.Text

/-- Each closing character closes an opening one in front of it, and nothing stays open. -/
structure Balanced (opening closing : Char) (cs : List Char) : Prop where
  beginnings : ∀ p, p <+: cs → p.count closing ≤ p.count opening
  whole : cs.count closing = cs.count opening

/-- All beginnings of a text can be looked at. -/
instance (opening closing : Char) (cs : List Char) : Decidable (Balanced opening closing cs) :=
  decidable_of_iff ((∀ p ∈ cs.inits, p.count closing ≤ p.count opening) ∧ cs.count closing = cs.count opening)
    ⟨fun ⟨hbeginnings, hwhole⟩ => ⟨fun p hp => hbeginnings p ((List.mem_inits p cs).mpr hp), hwhole⟩,
      fun h => ⟨fun p hp => h.beginnings p ((List.mem_inits p cs).mp hp), h.whole⟩⟩

/-- Each closing character closes an opening one in front of it, and a number of opening ones is not closed. -/
structure LeavesOpen (opening closing : Char) (depth : Nat) (cs : List Char) : Prop where
  beginnings : ∀ p, p <+: cs → p.count closing ≤ p.count opening
  whole : cs.count opening = cs.count closing + depth

variable {opening closing : Char} {depth depth' : Nat} {xs ys cs : List Char}

/-! ## Reading -/

/-- How many opening characters are not closed behind one more character. -/
def depthBehind? (opening closing : Char) (depth : Nat) (c : Char) : Option Nat :=
  if c = opening then some (depth + 1)
  else if c = closing then if depth = 0 then none else some (depth - 1)
  else some depth

namespace LeavesOpen

theorem nil : LeavesOpen opening closing 0 [] where
  beginnings p hp := by simp [List.prefix_nil.mp hp]
  whole := rfl

theorem balanced (h : LeavesOpen opening closing 0 cs) : Balanced opening closing cs := ⟨h.beginnings, h.whole.symm⟩

/-- What is balanced leaves open what was open in front of it. -/
theorem append (hxs : LeavesOpen opening closing depth xs) (hys : Balanced opening closing ys) :
    LeavesOpen opening closing depth (xs ++ ys) where
  beginnings p hp := by
    obtain ⟨rest, hrest⟩ := hp
    rcases List.append_eq_append_iff.mp hrest with ⟨more, hmore, -⟩ | ⟨more, rfl, hmore⟩
    · exact hxs.beginnings p ⟨more, hmore.symm⟩
    · have hbefore := hxs.whole
      have hbehind := hys.beginnings more ⟨rest, hmore.symm⟩
      simp only [List.count_append]
      omega
  whole := by
    simp only [List.count_append, hxs.whole, hys.whole]
    omega

theorem char (hne : opening ≠ closing) (h : LeavesOpen opening closing depth xs) {c : Char}
    (hc : depthBehind? opening closing depth c = some depth') : LeavesOpen opening closing depth' (xs ++ [c]) := by
  have hbefore := h.whole
  have hwhole : (xs ++ [c]).count opening = (xs ++ [c]).count closing + depth' := by
    simp only [List.count_append, List.count_singleton, beq_iff_eq]
    grind [depthBehind?]
  refine ⟨fun p hp => ?_, hwhole⟩
  rcases List.prefix_concat_iff.mp hp with rfl | hp
  · omega
  · exact h.beginnings p hp

theorem text (hne : opening ≠ closing) (h : LeavesOpen opening closing depth xs)
    (hcs : cs.foldlM (depthBehind? opening closing) depth = some depth') :
    LeavesOpen opening closing depth' (xs ++ cs) := by
  induction cs generalizing xs depth with
  | nil =>
    obtain rfl := Option.some.inj hcs
    simpa using h
  | cons c cs ih =>
    rw [List.foldlM_cons] at hcs
    obtain ⟨between, hc, hrest⟩ := Option.bind_eq_some_iff.mp hcs
    simpa using ih (h.char hne hc) hrest

end LeavesOpen

/-! ## Balance -/

namespace Balanced

theorem leavesOpen (h : Balanced opening closing cs) : LeavesOpen opening closing 0 cs := ⟨h.beginnings, h.whole.symm⟩

/-- Nothing is unbalanced in a text without the two characters. -/
theorem of_notMem (hopening : opening ∉ cs) (hclosing : closing ∉ cs) : Balanced opening closing cs where
  beginnings p hp := by
    rw [List.count_eq_zero_of_not_mem fun h => hclosing (hp.subset h)]
    exact Nat.zero_le _
  whole := by rw [List.count_eq_zero_of_not_mem hopening, List.count_eq_zero_of_not_mem hclosing]

theorem append (hxs : Balanced opening closing xs) (hys : Balanced opening closing ys) :
    Balanced opening closing (xs ++ ys) :=
  (hxs.leavesOpen.append hys).balanced

/-- What is balanced can be put between an opening and a closing character. -/
theorem enclosed (hne : opening ≠ closing) (hcs : Balanced opening closing cs) :
    Balanced opening closing (opening :: cs ++ [closing]) := by
  have hopening : LeavesOpen opening closing 1 [opening] := .char hne .nil (by simp [depthBehind?])
  exact ((hopening.append hcs).char hne (by simp [depthBehind?, hne.symm])).balanced

end Balanced

end ValueObjects.Text

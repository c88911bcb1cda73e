import ValueObjects.Text.Split

/-!
# Splitting texts

What the parts between separators are: nothing but separators is missing from them, and a text that is put together at
a separator has the parts of both sides.
-/

namespace ValueObjects.Text

theorem split_append_separator (separator : Char) (xs ys : List Char) :
    split separator (xs ++ separator :: ys) = split separator xs ++ split separator ys := by
  induction xs with
  | nil => simp [split]
  | cons x xs ih =>
    by_cases hx : x = separator
    · simp [split, hx, ih]
    · obtain ⟨part, parts, hparts⟩ := List.exists_cons_of_ne_nil (split_ne_nil separator xs)
      simp [split, hx, ih, hparts]

theorem split_of_notMem {separator : Char} {cs : List Char} (h : separator ∉ cs) : split separator cs = [cs] := by
  induction cs with
  | nil => rfl
  | cons c cs ih =>
    simp only [List.mem_cons, not_or] at h
    simp [split, Ne.symm h.1, ih h.2]

theorem mem_join {separator c : Char} {parts : List (List Char)} (h : c ∈ join separator parts) :
    c = separator ∨ ∃ part ∈ parts, c ∈ part := by
  fun_induction join separator parts with
  | case1 => cases h
  | case2 part => exact .inr ⟨part, by simp, h⟩
  | case3 part parts _ ih =>
    rcases List.mem_append.mp h with h | h
    · exact .inr ⟨part, by simp, h⟩
    · rcases List.mem_cons.mp h with rfl | h
      · exact .inl rfl
      · exact (ih h).imp_right fun ⟨other, hother, hc⟩ => ⟨other, by simp [hother], hc⟩

/-- Splitting a text drops nothing but the separators. -/
theorem mem_split {separator c : Char} {cs : List Char} (h : c ∈ cs) :
    c = separator ∨ ∃ part ∈ split separator cs, c ∈ part :=
  mem_join (by rwa [join_split])

/-- No part has a separator in it. -/
theorem notMem_of_mem_split {separator : Char} {cs part : List Char} (h : part ∈ split separator cs) :
    separator ∉ part := by
  induction cs generalizing part with
  | nil => simp_all [split]
  | cons c cs ih =>
    obtain ⟨first, rest, hsplit⟩ := List.exists_cons_of_ne_nil (split_ne_nil separator cs)
    rw [hsplit, List.forall_mem_cons] at ih
    by_cases hc : c = separator
    · simp only [split, hc, if_true, hsplit, List.mem_cons] at h
      rcases h with rfl | rfl | h
      · simp
      · exact ih.1
      · exact ih.2 _ h
    · simp only [split, hc, if_false, hsplit, List.mem_cons] at h
      rcases h with rfl | h
      · simpa [Ne.symm hc] using ih.1
      · exact ih.2 _ h

/-- The parts between separators occur in the text. -/
theorem infix_of_mem_split {separator : Char} {cs part : List Char} (h : part ∈ split separator cs) : part <:+: cs := by
  have hjoin : ∀ parts : List (List Char), ∀ part ∈ parts, part <:+: join separator parts := by
    intro parts
    fun_induction join separator parts with
    | case1 => simp
    | case2 part => simp
    | case3 first parts hne ih =>
      rintro part (_ | ⟨_, hpart⟩)
      · exact (List.prefix_append ..).isInfix
      · exact List.infix_append_of_infix_right (List.infix_cons (ih part hpart))
  simpa [join_split] using hjoin _ _ h

/-- Splitting at a character is what the library does for any lists. -/
theorem split_eq_splitOn (separator : Char) (cs : List Char) : split separator cs = cs.splitOn separator := by
  induction cs with
  | nil => rfl
  | cons c cs ih =>
    obtain ⟨part, parts, hparts⟩ := List.exists_cons_of_ne_nil (split_ne_nil separator cs)
    by_cases hc : c = separator
    · simp [split, hc, List.splitOn_cons_eq_if_modifyHead, ← ih]
    · simp [split, hc, List.splitOn_cons_eq_if_modifyHead, ← ih, hparts]

end ValueObjects.Text

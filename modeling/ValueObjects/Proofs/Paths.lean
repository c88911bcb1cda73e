import ValueObjects.Files.System
import ValueObjects.Proofs.Text.Split

/-!
# Paths and their names

The names of a path that is put together, taken apart or cut short. A file in a directory has the names of the
directory in front of its own; a parent has the first names of its path.
-/

namespace ValueObjects

namespace Path

/-! ## Names -/

/-- Every path has a name, be it an empty one. -/
theorem parts_ne_nil (p : Path) : p.parts ≠ [] := by
  simp [parts, Text.split_ne_nil]

/-- A path that goes on behind a slash has the names of both sides. -/
theorem parts_of_append {p q : Path} {rest : List Char} (h : p.text.toList = q.text.toList ++ '/' :: rest) :
    p.parts = q.parts ++ (Text.split '/' rest).map String.ofList := by
  simp [parts, h, Text.split_append_separator]

/-! ## Files in a directory -/

/-- Decide whether a name can follow without a slash. -/
def endsOpen (p : Path) : Prop := p.text.toList = [] ∨ p.text.toList.getLast? = some '/'

instance (p : Path) : Decidable p.endsOpen := inferInstanceAs (Decidable (_ ∨ _))

/-- The names that lead to the files in a directory. -/
def directoryNames (base : Path) : List String := if base.endsOpen then base.parts.dropLast else base.parts

theorem directoryNames_isPrefix (base : Path) : base.directoryNames <+: base.parts := by
  unfold directoryNames
  split
  · exact List.dropLast_prefix _
  · exact List.prefix_rfl

variable {base q : Path} {name : String}

theorem text_join_of_endsOpen (hq : q.isAbsolute = false) (h : base.endsOpen) :
    (base.join q).text = base.text ++ q.text := by
  have h' : base.text.toList = [] ∨ base.text.toList.getLast? = some '/' := h
  rw [join, hq, if_neg (by simp), if_pos h']

theorem text_join_of_not_endsOpen (hq : q.isAbsolute = false) (h : ¬ base.endsOpen) :
    (base.join q).text = base.text ++ "/" ++ q.text := by
  have h' : ¬ (base.text.toList = [] ∨ base.text.toList.getLast? = some '/') := h
  rw [join, hq, if_neg (by simp), if_neg h']

theorem parts_join_of_relative (hq : q.isAbsolute = false) : (base.join q).parts = base.directoryNames ++ q.parts := by
  by_cases h : base.endsOpen
  · -- the empty path and a slash at the end leave an empty last name, which what is joined replaces
    rcases h with h | h
    · have hopen : base.endsOpen := .inl h
      simp [parts, text_join_of_endsOpen hq hopen, directoryNames, hopen, h, Text.split]
    · have hopen : base.endsOpen := .inr h
      obtain ⟨front, hfront⟩ := List.getLast?_eq_some_iff.mp h
      simp [parts, text_join_of_endsOpen hq hopen, directoryNames, hopen, hfront, Text.split_append_separator,
        Text.split]
  · simp [parts, text_join_of_not_endsOpen hq h, directoryNames, h, Text.split_append_separator]

theorem isAbsolute_join_of_relative (hq : q.isAbsolute = false) : (base.join q).isAbsolute = base.isAbsolute := by
  by_cases h : base.endsOpen
  · cases hb : base.text.toList with
    | nil =>
      simp only [isAbsolute] at hq ⊢
      simp [text_join_of_endsOpen hq h, hb, hq]
    | cons c cs => simp [isAbsolute, text_join_of_endsOpen hq h, hb]
  · have hb : base.text.toList ≠ [] := fun hb => h (.inl hb)
    obtain ⟨c, cs, hb⟩ := List.exists_cons_of_ne_nil hb
    simp [isAbsolute, text_join_of_not_endsOpen hq h, hb]

/-- A file name stands for no path from the root. -/
theorem not_isAbsolute_of_notMem (hname : '/' ∉ name.toList) : isAbsolute ⟨name⟩ = false := by
  unfold isAbsolute
  cases h : name.toList with
  | nil => simp
  | cons c cs =>
    have : c ≠ '/' := fun hc => hname (by simp [h, hc])
    simp [this]

theorem parts_join (hname : '/' ∉ name.toList) : (base.join ⟨name⟩).parts = base.directoryNames ++ [name] := by
  have hparts : parts ⟨name⟩ = [name] := by simp [parts, Text.split_of_notMem hname]
  rw [parts_join_of_relative (not_isAbsolute_of_notMem hname), hparts]

theorem isAbsolute_join (hname : '/' ∉ name.toList) : (base.join ⟨name⟩).isAbsolute = base.isAbsolute :=
  isAbsolute_join_of_relative (not_isAbsolute_of_notMem hname)

/-- What is dropped behind a slash ends in front of one. -/
theorem trimBack_behind_slash (cs : List Char) : ∃ dropped, '/' :: cs = dropped ++ '/' :: trimBack cs := by
  fun_induction trimBack cs with
  | case1 cs ih =>
    obtain ⟨dropped, hdropped⟩ := ih
    exact ⟨'/' :: dropped, by rw [hdropped]; rfl⟩
  | case2 cs ih =>
    obtain ⟨dropped, hdropped⟩ := ih
    exact ⟨'/' :: '.' :: dropped, by rw [hdropped]; rfl⟩
  | case3 cs => exact ⟨[], rfl⟩

/-- Without its last name a path that is given backwards is empty, or goes on behind a slash. -/
theorem dropWhile_not_slash (cs : List Char) :
    cs.dropWhile (· ≠ '/') = [] ∨ ∃ front rest, cs = front ++ '/' :: rest ∧ cs.dropWhile (· ≠ '/') = '/' :: rest := by
  induction cs with
  | nil => exact .inl rfl
  | cons c cs ih =>
    by_cases hc : c = '/'
    · exact .inr ⟨[], cs, by simp [hc], by simp [hc]⟩
    · rcases ih with h | ⟨front, rest, hcs, hdrop⟩
      · exact .inl (by simpa [hc] using h)
      · exact .inr ⟨c :: front, rest, by simp [hcs], by simpa [hc] using hdrop⟩

/-- Slashes at the end do not matter for the parent. -/
theorem parent?_of_append_slashes {p q : Path} {slashes : List Char}
    (h : p.text.toList = q.text.toList ++ slashes) (hslashes : ∀ c ∈ slashes, c = '/') (hq : q.text.toList ≠ []) :
    p.parent? = q.parent? := by
  have htrim : ∀ back cs : List Char, (∀ c ∈ back, c = '/') → trimBack (back ++ cs) = trimBack cs := by
    intro back cs hback
    induction back with
    | nil => rfl
    | cons c back ih =>
      obtain rfl := hback c (by simp)
      rw [List.cons_append, trimBack]
      exact ih fun c hc => hback c (by simp [hc])
  have habsolute : p.isAbsolute = q.isAbsolute := by
    obtain ⟨c, cs, hcs⟩ := List.exists_cons_of_ne_nil hq
    simp [isAbsolute, h, hcs]
  have hback : trimBack p.text.toList.reverse = trimBack q.text.toList.reverse := by
    rw [h, List.reverse_append]
    exact htrim _ _ fun c hc => hslashes c (by simpa using hc)
  rw [parent?, parent?, hback, habsolute]

/-- A parent is the root or the empty path, or its path goes on behind it with a slash. -/
theorem parent?_cases {p q : Path} (h : p.parent? = some q) :
    q = ⟨"/"⟩ ∨ q = ⟨""⟩ ∨ q.text.toList ≠ [] ∧ ∃ rest, p.text.toList = q.text.toList ++ '/' :: rest := by
  unfold parent? at h
  split at h
  · cases h
  · rename_i c cs hcs
    split at h
    · cases h
      split
      · exact .inl rfl
      · exact .inr (.inl rfl)
    · -- backwards, a name is dropped up to a slash, and then all that is no name behind it
      rename_i d ds hds
      cases h
      right; right
      obtain ⟨back, hback⟩ := trimBack_suffix p.text.toList.reverse
      rw [hcs] at hback
      rcases dropWhile_not_slash (c :: cs) with hdrop | ⟨front, rest, hfront, hdrop⟩
      · rw [hdrop] at hds
        simp [trimBack] at hds
      · rw [hdrop, trimBack] at hds
        obtain ⟨dropped, hdropped⟩ := trimBack_behind_slash rest
        rw [hfront, hdropped, hds] at hback
        exact ⟨by simp, (back ++ front ++ dropped).reverse, by
          rw [← List.reverse_reverse p.text.toList, ← hback]; simp⟩

/-- A parent with a parent of its own is not empty, and its path goes on behind it with a slash. -/
theorem parent?_eq_some_of_ne_nil {p q : Path} (h : p.parent? = some q) :
    q.parent? = none ∨ q.text.toList ≠ [] ∧ ∃ rest, p.text.toList = q.text.toList ++ '/' :: rest := by
  rcases parent?_cases h with rfl | rfl | hrest
  · exact .inl rfl
  · exact .inl rfl
  · exact .inr hrest

/-- A parent either has no parent itself, or its path goes on behind it with a slash. -/
theorem parent?_eq_some {p q : Path} (h : p.parent? = some q) :
    q.parent? = none ∨ ∃ rest, p.text.toList = q.text.toList ++ '/' :: rest :=
  (parent?_eq_some_of_ne_nil h).imp_right And.right

/-- The names of one path are the first names of another. -/
def IsLexicalPrefix (p q : Path) : Prop := p.parts <+: q.parts

theorem IsLexicalPrefix.trans {p q r : Path} (h : p.IsLexicalPrefix q) (h' : q.IsLexicalPrefix r) :
    p.IsLexicalPrefix r :=
  List.IsPrefix.trans h h'

theorem isLexicalPrefix_of_parent? {p q : Path} (h : p.parent? = some q) :
    q.parent? = none ∨ q.IsLexicalPrefix p := by
  rcases parent?_eq_some h with h | ⟨rest, hrest⟩
  · exact .inl h
  · exact .inr ⟨_, (parts_of_append hrest).symm⟩

/-- The parent of a file in a directory is a first part of the directory. -/
theorem isLexicalPrefix_of_parent?_join {base q : Path} {name : String} (hname : '/' ∉ name.toList)
    (h : (base.join ⟨name⟩).parent? = some q) : q.parent? = none ∨ q.IsLexicalPrefix base := by
  rcases parent?_eq_some h with h | ⟨rest, hrest⟩
  · exact .inl h
  · right
    have hparts := parts_of_append hrest
    rw [parts_join hname] at hparts
    have hnames : q.parts <+: base.directoryNames ++ [name] := ⟨_, hparts.symm⟩
    -- what is behind the slash has at least one name, so the parent does not have all of them
    rcases List.prefix_concat_iff.mp hnames with heq | hnames
    · rw [heq] at hparts
      simp [Text.split_ne_nil] at hparts
    · exact hnames.trans (directoryNames_isPrefix base)

end Path

end ValueObjects

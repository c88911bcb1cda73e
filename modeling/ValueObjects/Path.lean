import ValueObjects.Text.Split

/-!
# Paths

Paths as they are written: names between slashes. A path that starts with a slash is absolute. Empty names and `.`
stand for the directory in front of them.
-/

namespace ValueObjects

/-- A path as it is written. -/
structure Path where
  text : String
deriving DecidableEq, Repr, Inhabited

namespace Path

/-- Decide whether a path starts at the root. -/
def isAbsolute (p : Path) : Bool := p.text.toList.head? == some '/'

/-! ## Parts -/

/-- The names between the slashes, empty ones included. -/
def parts (p : Path) : List String := (Text.split '/' p.text.toList).map String.ofList

/-! ## Join -/

/-- Take one path relative to another. An absolute path stands for itself. -/
def join (base : Path) (path : Path) : Path :=
  if path.isAbsolute then path
  else if base.text.toList = [] ∨ base.text.toList.getLast? = some '/' then ⟨base.text ++ path.text⟩
  else ⟨base.text ++ "/" ++ path.text⟩

/-! ## Parent -/

/-- Drop the slashes and the `.` names at the end of a path, which is given backwards. -/
def trimBack : List Char → List Char
  | '/' :: cs => trimBack cs
  | '.' :: '/' :: cs => trimBack cs
  | cs => cs

theorem trimBack_suffix (cs : List Char) : trimBack cs <:+ cs := by
  fun_induction trimBack cs with
  | case1 cs ih => exact ih.trans (List.suffix_cons _ _)
  | case2 cs ih => exact ih.trans ((List.suffix_cons _ _).trans (List.suffix_cons _ _))
  | case3 cs => exact List.suffix_rfl

theorem trimBack_head_ne (cs : List Char) : (trimBack cs).head? ≠ some '/' := by
  fun_induction trimBack cs with
  | case1 cs ih => exact ih
  | case2 cs ih => exact ih
  | case3 cs h => cases cs with
    | nil => simp
    | cons c cs => intro hc; simp at hc; exact h cs (by rw [hc])

/-- The path without its last name. The root and the empty path have no parent; the parent of a lone name is the empty
path. -/
def parent? (p : Path) : Option Path :=
  match trimBack p.text.toList.reverse with
  | [] => none
  | c :: cs =>
    -- backwards, the last name comes first
    match trimBack ((c :: cs).dropWhile (· ≠ '/')) with
    | [] => some ⟨if p.isAbsolute then "/" else ""⟩
    | d :: ds => some ⟨String.ofList (d :: ds).reverse⟩

/-- A parent is shorter, so going from parent to parent comes to an end. -/
theorem length_parent?_lt {p q : Path} (h : p.parent? = some q) : q.text.toList.length < p.text.toList.length := by
  have suffix := trimBack_suffix p.text.toList.reverse
  have head := trimBack_head_ne p.text.toList.reverse
  unfold parent? at h
  split at h
  · cases h
  · rename_i c cs hcs
    rw [hcs] at suffix head
    have hc : c ≠ '/' := by simpa using head
    have long : (c :: cs).length ≤ p.text.toList.length := by simpa using suffix.length_le
    have drop : ((c :: cs).dropWhile (· ≠ '/')).length ≤ cs.length := by
      simpa [List.dropWhile, hc] using (List.dropWhile_suffix (l := cs) (fun x => decide (x ≠ '/'))).length_le
    split at h
    · cases h
      by_cases habs : p.isAbsolute
      · -- besides the slash of the root there is at least one character of the name
        have hlast : (c :: cs).getLast? = some '/' := by
          obtain ⟨front, hfront⟩ := suffix
          have : p.text.toList.reverse.getLast? = some '/' := by
            simpa [isAbsolute] using habs
          rw [← hfront] at this
          simpa [List.getLast?_append] using this
        have : cs ≠ [] := by rintro rfl; simp at hlast; exact hc hlast
        have : 0 < cs.length := List.length_pos_iff.mpr this
        simp only [habs, if_true]
        simp at long ⊢; omega
      · simp only [habs]
        simp at long ⊢; omega
    · rename_i d ds hds
      cases h
      have := (trimBack_suffix ((c :: cs).dropWhile (· ≠ '/'))).length_le
      rw [hds] at this
      simp at long this drop ⊢; omega

end Path

end ValueObjects

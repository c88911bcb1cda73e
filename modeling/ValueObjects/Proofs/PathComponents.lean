import ValueObjects.Proofs.Paths

/-!
# Components of paths

What is left of a path once the ways to write it do not matter: empty names, slashes at the end, and every `.` that is
not the beginning of a relative path stand for nothing. A name that is joined to a path is one more component, and the
parent of the whole is that path again.
-/

namespace ValueObjects

namespace Path

/-! ## Components -/

/-- Decide whether a name behind a slash stands for something. -/
def isComponent (name : String) : Bool := name != "" && name != "."

theorem toList_ne_nil_of_isComponent {name : String} (h : isComponent name) : name.toList ≠ [] := by
  intro hnil
  obtain rfl : name = "" := by simpa using hnil
  simp [isComponent] at h

/-- What a path leads through: the root of an absolute path, the first name of a relative one, and the names that stand
for something behind it. Two ways to write one path have the same components. -/
def components (p : Path) : List String :=
  (if p.isAbsolute then ["/"] else (p.parts.take 1).filter (· ≠ "")) ++ p.parts.tail.filter isComponent

/-- A path is absolute if it leads through the root. -/
theorem isAbsolute_iff_components {p : Path} : p.isAbsolute ↔ p.components.head? = some "/" := by
  have hslash : ∀ name ∈ p.parts, name ≠ "/" := by
    intro name hname
    obtain ⟨part, hpart, rfl⟩ := List.mem_map.mp hname
    have hpart := Text.notMem_of_mem_split hpart
    rintro heq
    simp [← String.toList_inj] at heq
    simp [heq] at hpart
  constructor
  · intro h
    simp [components, h]
  · intro h
    have hmem : "/" ∈ p.components := List.mem_of_head? h
    cases hrelative : p.isAbsolute with
    | true => rfl
    | false =>
      simp only [components, hrelative, Bool.false_eq_true, if_false, List.mem_append, List.mem_filter] at hmem
      rcases hmem with ⟨hmem, -⟩ | ⟨hmem, -⟩
      · exact absurd rfl (hslash _ (List.mem_of_mem_take hmem))
      · exact absurd rfl (hslash _ (List.mem_of_mem_tail hmem))

/-- A path that goes on behind a slash has the components of the beginning, which is the root if nothing is in front of
the slash. -/
theorem components_of_append {p q : Path} {rest : List Char} (h : p.text.toList = q.text.toList ++ '/' :: rest) :
    p.components =
      (if q.text.toList = [] then ["/"] else q.components)
        ++ ((Text.split '/' rest).map String.ofList).filter isComponent := by
  have hparts := parts_of_append h
  by_cases hq : q.text.toList = []
  · have habsolute : p.isAbsolute := by simp [isAbsolute, h, hq]
    have hempty : q.parts = [""] := by simp [parts, hq, Text.split]
    simp [components, habsolute, hparts, hempty, hq]
  · have habsolute : p.isAbsolute = q.isAbsolute := by
      obtain ⟨c, cs, hcs⟩ := List.exists_cons_of_ne_nil hq
      simp [isAbsolute, h, hcs]
    obtain ⟨first, names, hnames⟩ := List.exists_cons_of_ne_nil q.parts_ne_nil
    simp [components, habsolute, hparts, hnames, hq]

/-- A slash at the end does not matter, unless it is all that there is. -/
theorem components_append_slash {p q : Path} (h : p.text.toList = q.text.toList ++ ['/']) (hq : q.text.toList ≠ []) :
    p.components = q.components := by
  have hnothing : ((Text.split '/' []).map String.ofList).filter isComponent = [] := by decide
  rw [components_of_append h, if_neg hq, hnothing, List.append_nil]

/-! ## Join -/

variable {base : Path} {name : String}

/-- A name that is joined to a path is one more component. -/
theorem components_join (hname : '/' ∉ name.toList) (hcomponent : isComponent name) :
    (base.join ⟨name⟩).components = base.components ++ [name] := by
  have hlast : ((Text.split '/' name.toList).map String.ofList).filter isComponent = [name] := by
    simp [Text.split_of_notMem hname, hcomponent]
  by_cases h : base.endsOpen
  · have htext := text_join_of_endsOpen (not_isAbsolute_of_notMem hname) h
    rcases h with h | h
    · -- nothing is in front of the name
      have hempty : name ≠ "" := by simpa using toList_ne_nil_of_isComponent hcomponent
      have hbase : base.isAbsolute = false := by simp [isAbsolute, h]
      have hjoin : (base.join ⟨name⟩).isAbsolute = false := by rw [isAbsolute_join hname, hbase]
      have hparts : (base.join ⟨name⟩).parts = [name] := by simp [parts, htext, h, Text.split_of_notMem hname]
      have hbaseParts : base.parts = [""] := by simp [parts, h, Text.split]
      simp [components, hjoin, hbase, hparts, hbaseParts, hempty]
    · -- the slash that the base ends with is in front of the name
      obtain ⟨front, hfront⟩ := List.getLast?_eq_some_iff.mp h
      have hjoin : (base.join ⟨name⟩).text.toList =
          (⟨String.ofList front⟩ : Path).text.toList ++ '/' :: name.toList := by
        simp [htext, hfront]
      have hbase : base.text.toList = (⟨String.ofList front⟩ : Path).text.toList ++ '/' :: [] := by simp [hfront]
      have hnothing : ((Text.split '/' []).map String.ofList).filter isComponent = [] := by decide
      rw [components_of_append hjoin, components_of_append hbase, hlast, hnothing, List.append_nil]
  · have hjoin : (base.join ⟨name⟩).text.toList = base.text.toList ++ '/' :: name.toList := by
      simp [text_join_of_not_endsOpen (not_isAbsolute_of_notMem hname) h]
    rw [components_of_append hjoin, if_neg fun hbase => h (.inl hbase), hlast]

/-! ## Parents -/

/-- What is dropped at the end of a path in front of a slash stands for nothing. If all of it is dropped, the path is
the root. -/
theorem components_trimBack (cs : List Char) {p : Path} (hp : p.text.toList = cs.reverse ++ ['/']) :
    p.components = if trimBack cs = [] then ["/"] else components ⟨String.ofList (trimBack cs).reverse⟩ := by
  induction cs using trimBack.induct generalizing p with
  | case1 cs ih =>
    -- one slash less
    have hrest : p.text.toList = (⟨String.ofList (cs.reverse ++ ['/'])⟩ : Path).text.toList ++ ['/'] := by simp [hp]
    rw [components_append_slash hrest (by simp), trimBack]
    exact ih (by simp)
  | case2 cs ih =>
    -- `.` stands for nothing, just as the empty name does
    have hdot : ((Text.split '/' ['.', '/']).map String.ofList).filter isComponent = [] := by decide
    have hslash : ((Text.split '/' []).map String.ofList).filter isComponent = [] := by decide
    have hrest : p.text.toList = (⟨String.ofList cs.reverse⟩ : Path).text.toList ++ '/' :: ['.', '/'] := by simp [hp]
    have hshort : (⟨String.ofList (cs.reverse ++ ['/'])⟩ : Path).text.toList =
        (⟨String.ofList cs.reverse⟩ : Path).text.toList ++ '/' :: [] := by simp
    rw [trimBack, ← ih (p := ⟨String.ofList (cs.reverse ++ ['/'])⟩) (by simp), components_of_append hrest,
      components_of_append hshort, hdot, hslash]
  | case3 cs hno hnodot =>
    have hself : trimBack cs = cs := trimBack.eq_3 cs hno hnodot
    rw [hself]
    by_cases hcs : cs = []
    · have hroot : p.text.toList = (⟨""⟩ : Path).text.toList ++ '/' :: [] := by simp [hp, hcs]
      have hnothing : ((Text.split '/' []).map String.ofList).filter isComponent = [] := by decide
      rw [components_of_append hroot, hnothing]
      simp [hcs]
    · have hrest : p.text.toList = (⟨String.ofList cs.reverse⟩ : Path).text.toList ++ ['/'] := by simp [hp]
      rw [if_neg hcs, components_append_slash hrest (by simpa using hcs)]

/-- A name is not dropped at the end of a path. -/
theorem trimBack_name (hname : '/' ∉ name.toList) (hcomponent : isComponent name) (cs : List Char) :
    trimBack (name.toList.reverse ++ cs) = name.toList.reverse ++ cs := by
  have hmem : '/' ∉ name.toList.reverse := by simpa using hname
  have hempty : name.toList.reverse ≠ [] := by simpa using toList_ne_nil_of_isComponent hcomponent
  have hdot : name.toList.reverse ≠ ['.'] := by
    intro h
    obtain rfl : name = "." := by
      rw [← String.toList_inj, ← List.reverse_inj, h]
      rfl
    simp [isComponent] at hcomponent
  obtain ⟨c, rest, hrest⟩ := List.exists_cons_of_ne_nil hempty
  rw [hrest] at hmem hdot ⊢
  simp only [List.mem_cons, not_or] at hmem
  apply trimBack.eq_3
  · intro tail htail
    exact hmem.1 (List.cons.inj htail).1.symm
  · intro tail htail
    cases rest with
    | nil => exact hdot (by rw [(List.cons.inj htail).1])
    | cons d rest =>
      obtain rfl : d = '/' := (List.cons.inj (List.cons.inj htail).2).1
      exact hmem.2 (by simp)

/-- Behind the last name of a joined path there is nothing, or a slash and the base in front of it. -/
theorem toList_join (hname : '/' ∉ name.toList) :
    (base.join ⟨name⟩).text.toList = name.toList ∧ base.text.toList = [] ∨
      ∃ front, (base.join ⟨name⟩).text.toList = front ++ '/' :: name.toList
        ∧ components ⟨String.ofList (front ++ ['/'])⟩ = base.components := by
  by_cases h : base.endsOpen
  · have htext := text_join_of_endsOpen (not_isAbsolute_of_notMem hname) h
    rcases h with h | h
    · exact .inl ⟨by simp [htext, h], h⟩
    · obtain ⟨front, hfront⟩ := List.getLast?_eq_some_iff.mp h
      refine .inr ⟨front, by simp [htext, hfront], ?_⟩
      rw [← hfront, String.ofList_toList]
  · have hbase : base.text.toList ≠ [] := fun hbase => h (.inl hbase)
    refine .inr ⟨base.text.toList, by simp [text_join_of_not_endsOpen (not_isAbsolute_of_notMem hname) h], ?_⟩
    exact components_append_slash (by simp) hbase

/-- The parent of a joined path is the base, however that is written. -/
theorem parent?_join (hname : '/' ∉ name.toList) (hcomponent : isComponent name) :
    ∃ q, (base.join ⟨name⟩).parent? = some q ∧ q.components = base.components := by
  have hslash : ∀ c ∈ name.toList.reverse, decide (c ≠ '/') = true := by
    intro c hc
    have hne : c ≠ '/' := by
      rintro rfl
      exact hname (by simpa using hc)
    simpa using hne
  have habsolute : (base.join ⟨name⟩).isAbsolute = base.isAbsolute := isAbsolute_join hname
  have hempty : name.toList.reverse ≠ [] := by simpa using toList_ne_nil_of_isComponent hcomponent
  obtain ⟨c, rest, hrest⟩ := List.exists_cons_of_ne_nil hempty
  -- backwards, the name is passed over, and what is left of the base is trimmed
  have hparent : ∀ front : List Char, (base.join ⟨name⟩).text.toList = front ++ name.toList →
      (front.reverse).dropWhile (· ≠ '/') = front.reverse →
      (base.join ⟨name⟩).parent? = some (if trimBack front.reverse = [] then ⟨if base.isAbsolute then "/" else ""⟩
        else ⟨String.ofList (trimBack front.reverse).reverse⟩) := by
    intro front htext hfront
    have hback : trimBack (base.join ⟨name⟩).text.toList.reverse = c :: (rest ++ front.reverse) := by
      rw [htext, List.reverse_append, trimBack_name hname hcomponent, hrest, List.cons_append]
    have hdrop : (c :: (rest ++ front.reverse)).dropWhile (· ≠ '/') = front.reverse := by
      rw [← List.cons_append, ← hrest, List.dropWhile_append_of_pos hslash, hfront]
    simp only [parent?, hback, hdrop, habsolute]
    cases trimBack front.reverse <;> rfl
  rcases @toList_join base name hname with ⟨htext, hbase⟩ | ⟨front, htext, hcomponents⟩
  · refine ⟨_, hparent [] htext rfl, ?_⟩
    obtain rfl : base = ⟨""⟩ := by
      cases base
      simpa using hbase
    rfl
  · have hfront : (base.join ⟨name⟩).text.toList = (front ++ ['/']) ++ name.toList := by simp [htext]
    refine ⟨_, hparent _ hfront (by simp), ?_⟩
    have htrimmed := components_trimBack front.reverse (p := ⟨String.ofList (front ++ ['/'])⟩) (by simp)
    rw [hcomponents] at htrimmed
    rw [List.reverse_append, List.reverse_singleton, List.singleton_append, trimBack]
    cases htrim : trimBack front.reverse with
    | nil =>
      -- the base leads nowhere but to the root
      rw [htrim, if_pos rfl] at htrimmed
      have hroot : base.isAbsolute := isAbsolute_iff_components.mpr (by rw [htrimmed]; rfl)
      rw [htrimmed, if_pos hroot]
      rfl
    | cons d ds =>
      rw [htrim, if_neg (by simp)] at htrimmed
      exact htrimmed.symm

end Path

end ValueObjects

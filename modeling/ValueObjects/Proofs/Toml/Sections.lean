import ValueObjects.Proofs.Toml.DistinctKeys
import ValueObjects.Proofs.Toml.Lines

/-!
# Sections of a document

A header with the assignments below it makes a table. Sections whose headers name one group become the tables of that
group, in their order, and sections of other tables may stand between them.
-/

namespace ValueObjects.Toml

/-! ## Written sections -/

/-- A key and the value that it is set to. -/
abbrev Setting := String × Literal

/-- A header and what stands below it. -/
structure Section where
  front : List String
  last : String
  settings : List Setting
deriving DecidableEq, Repr

/-- The lines of a section. -/
def Section.lines (s : Section) : List Line := .header s.front s.last :: s.settings.map fun (key, v) => .assignment key v

/-- An entry is a setting that was read. -/
def Sets (e : Key × Located Value) (s : Setting) : Prop := e.1.value = s.1 ∧ e.2.value = s.2.value

/-- An entry is the table that a section makes. -/
def IsTable (e : Key × Located Value) (s : Section) : Prop :=
  e.1.value = s.last ∧ ∃ body, e.2.value = .table .headed body ∧ List.Forall₂ Sets body s.settings

/-! ## Lists side by side -/

section Forall₂

variable {α β γ : Type} {R : α → β → Prop} {l : List α} {m : List β}

theorem exists_append_of_forall₂ {xs ys : List β} (h : List.Forall₂ R l (xs ++ ys)) :
    ∃ us vs, l = us ++ vs ∧ List.Forall₂ R us xs ∧ List.Forall₂ R vs ys :=
  ⟨_, _, (List.take_append_drop xs.length l).symm, List.forall₂_take_append _ _ _ h, List.forall₂_drop_append _ _ _ h⟩

theorem exists_mem_of_forall₂ (h : List.Forall₂ R l m) {b : β} (hb : b ∈ m) : ∃ a ∈ l, R a b := by
  induction h with
  | nil => cases hb
  | cons hfirst _ ih =>
    rcases List.mem_cons.mp hb with rfl | hb
    · exact ⟨_, by simp, hfirst⟩
    · obtain ⟨a, ha, hab⟩ := ih hb
      exact ⟨a, by simp [ha], hab⟩

theorem map_eq_map_of_forall₂ {f : α → γ} {g : β → γ} (hfg : ∀ a b, R a b → f a = g b) (h : List.Forall₂ R l m) :
    l.map f = m.map g := by
  induction h with
  | nil => rfl
  | cons hfirst _ ih => rw [List.map_cons, List.map_cons, hfg _ _ hfirst, ih]

end Forall₂

namespace Entries

/-! ## Paths -/

variable {pre post body : Entries} {key key' : Key} {v : Located Value}

theorem get?_append_cons (hpre : key.value ∉ pre.map (·.1.value)) (hkey : key'.value = key.value) :
    get? key.value (pre ++ (key', v) :: post) = some v := by
  induction pre with
  | nil => simp [get?, hkey]
  | cons e pre ih =>
    simp only [List.map_cons, List.mem_cons, not_or] at hpre
    simp [get?, Ne.symm hpre.1, ih hpre.2]

theorem set_append_cons (hpre : key.value ∉ pre.map (·.1.value)) (hkey : key'.value = key.value) (w : Located Value) :
    set key.value w (pre ++ (key', v) :: post) = pre ++ (key', w) :: post := by
  induction pre with
  | nil => simp [set, hkey]
  | cons e pre ih =>
    simp only [List.map_cons, List.mem_cons, not_or] at hpre
    simp [set, Ne.symm hpre.1, ih hpre.2]

/-- A path goes through a table by its key and changes nothing beside it. -/
theorem under?_append_cons (hpre : key.value ∉ pre.map (·.1.value)) (hkey : key'.value = key.value) {kind : TableKind}
    (hkind : kind ≠ .written) (span : Span) (change : TableKind → Entries → Option Entries) (path : List Key)
    (outer : TableKind) :
    under? false change (key :: path) outer (pre ++ (key', ⟨span, .table kind body⟩) :: post) =
      (under? false change path kind body).map fun body => pre ++ (key', ⟨span, .table kind body⟩) :: post := by
  simp only [under?, get?_append_cons hpre hkey, hkind, Bool.false_eq_true, false_and, or_self, if_false]
  cases under? false change path kind body with
  | none => rfl
  | some body => simp [set_append_cons hpre hkey]

/-- A path leads to a table with a header, inside of what is around that table. -/
def LeadsTo (path : List Key) (around : Entries → Entries) : Prop :=
  ∀ change body, under? false change path .headed (around body) = (change .headed body).map around

theorem leadsTo_top (hpre : key.value ∉ pre.map (·.1.value)) (span : Span) :
    LeadsTo [key] fun body => pre ++ (key, ⟨span, .table .headed body⟩) :: post := by
  intro change body
  exact under?_append_cons hpre rfl (by simp) span change [] .headed

theorem leadsTo_member {members : Entries} {group group' : Key} (hpre : group.value ∉ pre.map (·.1.value))
    (hgroup : group'.value = group.value) (hmembers : key.value ∉ members.map (·.1.value)) (outer span : Span) :
    LeadsTo [group, key] fun body =>
      pre ++ (group', ⟨outer, .table .implied (members ++ [(key, ⟨span, .table .headed body⟩)])⟩) :: post := by
  intro change body
  rw [under?_append_cons hpre hgroup (by simp), under?_append_cons hmembers rfl (by simp)]
  simp only [under?, Option.map_map]
  rfl

end Entries

namespace Document

open Entries Statement

/-! ## Assignments -/

theorem steps_append {d mid : Draft} {us vs : List Statement} (h : us.foldlM Draft.step? d = some mid) :
    (us ++ vs).foldlM Draft.step? d = vs.foldlM Draft.step? mid := by
  simp [List.foldlM_append, h]

/-- Assignments fill the table of the header in front of them. -/
theorem steps_assignments {current : List Key} {around : Entries → Entries} (hleads : LeadsTo current around)
    {body : Entries} {settings : List Setting} (hkeys : (body.map (·.1.value) ++ settings.map (·.1)).Nodup)
    {statements : List Statement}
    (hsaid : List.Forall₂ Says statements (settings.map fun (key, v) => .assignment key v)) :
    ∃ entries, List.Forall₂ Sets entries settings ∧
      statements.foldlM Draft.step? ⟨around body, current⟩ = some ⟨around (body ++ entries), current⟩ := by
  induction settings generalizing body statements with
  | nil =>
    cases hsaid
    exact ⟨[], .nil, by simp⟩
  | cons s settings ih =>
    obtain ⟨name, literal⟩ := s
    obtain ⟨first, statements, hfirst, hrest, rfl⟩ := List.forall₂_cons_right_iff.mp hsaid
    cases first with
    | table | element => exact hfirst.elim
    | assignment path v =>
      obtain ⟨front, key⟩ := path
      obtain ⟨rfl, rfl, hvalue⟩ := hfirst
      have hnew : get? key.value body = none := by
        rw [get?_eq_none]
        intro hmem
        simp only [List.map_cons, List.nodup_append] at hkeys
        exact hkeys.2.2 _ hmem _ (by simp) rfl
      have hstep : Draft.step? ⟨around body, current⟩ (.assignment ⟨[], key⟩ v) =
          some ⟨around (body ++ [(key, v)]), current⟩ := by
        simp [Draft.step?, hleads _ body, assign?, under?, add?, hnew]
      have hkeys : ((body ++ [(key, v)]).map (·.1.value) ++ settings.map (·.1)).Nodup := by simpa using hkeys
      obtain ⟨entries, hsets, hsteps⟩ := ih hkeys hrest
      refine ⟨(key, v) :: entries, .cons ⟨rfl, hvalue⟩ hsets, ?_⟩
      rw [List.foldlM_cons, hstep]
      simpa using hsteps

/-! ## Sections -/

/-- A section whose header opens a table makes that table, wherever it is. -/
theorem steps_section {s : Section} (hkeys : (s.settings.map (·.1)).Nodup) {statements : List Statement}
    (hsaid : List.Forall₂ Says statements s.lines) :
    ∃ (path : KeyPath) (span : Span), path.front.map (·.value) = s.front ∧ path.last.value = s.last ∧
      ∀ (d : Draft) (around : Entries → Entries), LeadsTo path.keys around →
        d.root.openTable? path span = some (around []) →
        ∃ entries, List.Forall₂ Sets entries s.settings ∧
          statements.foldlM Draft.step? d = some ⟨around entries, path.keys⟩ := by
  obtain ⟨first, statements, hfirst, hrest, rfl⟩ := List.forall₂_cons_right_iff.mp hsaid
  cases first with
  | assignment | element => exact hfirst.elim
  | table path span =>
    refine ⟨path, span, hfirst.1, hfirst.2, fun d around hleads hopen => ?_⟩
    have hkeys : (([] : Entries).map (·.1.value) ++ s.settings.map (·.1)).Nodup := by simpa using hkeys
    obtain ⟨entries, hsets, hsteps⟩ := steps_assignments hleads hkeys hrest
    refine ⟨entries, hsets, ?_⟩
    have hstep : d.step? (.table path span) = some ⟨around [], path.keys⟩ := by simp [Draft.step?, hopen]
    rw [List.foldlM_cons, hstep]
    exact hsteps

/-- A section of its own becomes the last table. -/
theorem steps_top {s : Section} (hfront : s.front = []) (hkeys : (s.settings.map (·.1)).Nodup)
    {statements : List Statement} (hsaid : List.Forall₂ Says statements s.lines) {d : Draft}
    (hnew : s.last ∉ d.root.map (·.1.value)) :
    ∃ e d', IsTable e s ∧ statements.foldlM Draft.step? d = some d' ∧ d'.root = d.root ++ [e] := by
  obtain ⟨⟨front, key⟩, span, hnames, hlast, hsteps⟩ := steps_section hkeys hsaid
  obtain rfl : front = [] := by simpa [hfront] using hnames
  dsimp only at hlast
  rw [← hlast] at hnew
  have hopen : d.root.openTable? ⟨[], key⟩ span = some (d.root ++ [(key, ⟨span, .table .headed []⟩)]) := by
    simp [openTable?, under?, get?_eq_none.mpr hnew]
  obtain ⟨entries, hsets, hsteps⟩ := hsteps d _ (leadsTo_top hnew span) hopen
  exact ⟨_, _, ⟨hlast, entries, rfl, hsets⟩, hsteps, rfl⟩

/-! ## Groups -/

/-- The tables of a group are the members of one table, which stands behind some entries and in front of others. While
there are no members there need not be such a table. -/
def HasGroup (group : String) (pre members post root : Entries) : Prop :=
  group ∉ pre.map (·.1.value) ∧
    (members = [] ∧ post = [] ∧ root = pre ∨
      ∃ key span, key.value = group ∧ root = pre ++ (key, ⟨span, .table .implied members⟩) :: post)

variable {group : String} {pre members post : Entries} {d : Draft}

/-- A section of a group becomes the last member. -/
theorem steps_member (hgroup : HasGroup group pre members post d.root) {s : Section} (hfront : s.front = [group])
    (hkeys : (s.settings.map (·.1)).Nodup) (hnew : s.last ∉ members.map (·.1.value)) {statements : List Statement}
    (hsaid : List.Forall₂ Says statements s.lines) :
    ∃ e d', IsTable e s ∧ statements.foldlM Draft.step? d = some d'
      ∧ HasGroup group pre (members ++ [e]) post d'.root := by
  obtain ⟨⟨front, key⟩, span, hnames, hlast, hsteps⟩ := steps_section hkeys hsaid
  obtain ⟨g, rfl, hg⟩ : ∃ g, front = [g] ∧ g.value = group := by
    simpa [hfront, List.map_eq_singleton_iff] using hnames
  dsimp only at hlast
  subst hg
  rw [← hlast] at hnew
  obtain ⟨hpre, ⟨rfl, rfl, hroot⟩ | ⟨g', outer, hg', hroot⟩⟩ := hgroup
  · -- the first header of the group makes the table that holds its members
    have hopen : d.root.openTable? ⟨[g], key⟩ span =
        some (pre ++ [(g, ⟨g.span, .table .implied ([] ++ [(key, ⟨span, .table .headed []⟩)])⟩)]) := by
      simp [hroot, openTable?, under?, get?_eq_none.mpr hpre, get?]
    have hnone : key.value ∉ ([] : Entries).map (·.1.value) := by simp
    obtain ⟨entries, hsets, hsteps⟩ := hsteps d _ (leadsTo_member hpre rfl hnone g.span span) hopen
    exact ⟨_, _, ⟨hlast, entries, rfl, hsets⟩, hsteps, hpre, .inr ⟨g, g.span, rfl, rfl⟩⟩
  · have hopen : d.root.openTable? ⟨[g], key⟩ span =
        some (pre ++ (g', ⟨outer, .table .implied (members ++ [(key, ⟨span, .table .headed []⟩)])⟩) :: post) := by
      rw [hroot, openTable?, under?_append_cons hpre hg' (by simp)]
      simp [under?, get?_eq_none.mpr hnew]
    obtain ⟨entries, hsets, hsteps⟩ := hsteps d _ (leadsTo_member hpre hg' hnew outer span) hopen
    exact ⟨_, _, ⟨hlast, entries, rfl, hsets⟩, hsteps, hpre, .inr ⟨g', outer, hg', rfl⟩⟩

/-- Sections of a group become its next members, in their order. -/
theorem steps_members (hgroup : HasGroup group pre members post d.root) {sections : List Section}
    (hsections : ∀ s ∈ sections, s.front = [group] ∧ (s.settings.map (·.1)).Nodup)
    (hnew : (members.map (·.1.value) ++ sections.map (·.last)).Nodup) {statements : List Statement}
    (hsaid : List.Forall₂ Says statements (sections.flatMap Section.lines)) :
    ∃ more d', List.Forall₂ IsTable more sections ∧ statements.foldlM Draft.step? d = some d'
      ∧ HasGroup group pre (members ++ more) post d'.root := by
  induction sections generalizing members d statements with
  | nil =>
    cases hsaid
    exact ⟨[], d, .nil, rfl, by simpa using hgroup⟩
  | cons s sections ih =>
    rw [List.forall_mem_cons] at hsections
    have hfirst : s.last ∉ members.map (·.1.value) := by
      intro hmem
      exact (List.nodup_append.mp hnew).2.2 _ hmem _ (by simp) rfl
    obtain ⟨us, vs, rfl, hus, hvs⟩ := exists_append_of_forall₂ hsaid
    obtain ⟨e, mid, htable, hmid, hgroup⟩ := steps_member hgroup hsections.1.1 hsections.1.2 hfirst hus
    have hnew : ((members ++ [e]).map (·.1.value) ++ sections.map (·.last)).Nodup := by
      simpa [htable.1] using hnew
    obtain ⟨more, d', htables, hsteps, hgroup⟩ := ih hgroup hsections.2 hnew hvs
    refine ⟨e :: more, d', .cons htable htables, ?_, by simpa using hgroup⟩
    rw [steps_append hmid, hsteps]

/-! ## Documents -/

/-- Another table, if there is one, stands behind a group that has members, and in front of one that has none yet. -/
theorem steps_other (hgroup : HasGroup group [] members [] d.root) {other : Option Section}
    (hother : ∀ s ∈ other, s.front = [] ∧ s.last ≠ group ∧ (s.settings.map (·.1)).Nodup) {statements : List Statement}
    (hsaid : List.Forall₂ Says statements (other.toList.flatMap Section.lines)) :
    ∃ pre post d', List.Forall₂ IsTable (pre ++ post) other.toList ∧ statements.foldlM Draft.step? d = some d'
      ∧ HasGroup group pre members post d'.root := by
  cases other with
  | none =>
    cases hsaid
    exact ⟨[], [], d, .nil, rfl, hgroup⟩
  | some s =>
    obtain ⟨hfront, hlast, hkeys⟩ := hother s rfl
    have hsaid : List.Forall₂ Says statements s.lines := by simpa using hsaid
    obtain ⟨-, ⟨rfl, -, hroot⟩ | ⟨key, span, hkey, hroot⟩⟩ := hgroup
    · obtain ⟨e, d', htable, hsteps, hroot'⟩ := steps_top hfront hkeys hsaid (d := d) (by simp [hroot])
      have hnone : group ∉ [e].map (·.1.value) := by simpa [htable.1] using hlast.symm
      exact ⟨[e], [], d', .cons htable .nil, hsteps, hnone, .inl ⟨rfl, rfl, by simp [hroot', hroot]⟩⟩
    · obtain ⟨e, d', htable, hsteps, hroot'⟩ := steps_top hfront hkeys hsaid (d := d) (by simp [hroot, hkey, hlast])
      exact ⟨[], [e], d', .cons htable .nil, hsteps, by simp, .inr ⟨key, span, hkey, by simp [hroot', hroot]⟩⟩

/-- Sections of one group with a section of another table among them: the members of the group keep their order, and
the other table is in front of them or behind them. -/
theorem exists_root_of_sections {front back : List Section} {other : Option Section}
    (hgroup : ∀ s ∈ front ++ back, s.front = [group] ∧ (s.settings.map (·.1)).Nodup)
    (hother : ∀ s ∈ other, s.front = [] ∧ s.last ≠ group ∧ (s.settings.map (·.1)).Nodup)
    (hnames : ((front ++ back).map (·.last)).Nodup) {statements : List Statement}
    (hsaid : List.Forall₂ Says statements ((front ++ other.toList ++ back).flatMap Section.lines)) :
    ∃ root pre members post, ofStatements? statements = some root ∧ HasGroup group pre members post root
      ∧ List.Forall₂ IsTable members (front ++ back) ∧ List.Forall₂ IsTable (pre ++ post) other.toList := by
  rw [List.forall_mem_append] at hgroup
  simp only [List.flatMap_append, List.append_assoc] at hsaid
  obtain ⟨us, behind, rfl, hus, hbehind⟩ := exists_append_of_forall₂ hsaid
  obtain ⟨vs, ws, rfl, hvs, hws⟩ := exists_append_of_forall₂ hbehind
  have hstart : HasGroup group [] [] [] [] := ⟨by simp, .inl ⟨rfl, rfl, rfl⟩⟩
  have hfirst : (front.map (·.last)).Nodup := hnames.sublist ((List.sublist_append_left front back).map _)
  obtain ⟨early, d₁, hearly, hsteps₁, hgroup₁⟩ := steps_members (d := ⟨[], []⟩) hstart hgroup.1 hfirst hus
  obtain ⟨pre, post, d₂, htables, hsteps₂, hgroup₂⟩ := steps_other hgroup₁ hother hvs
  have hnew : ((([] : Entries) ++ early).map (·.1.value) ++ back.map (·.last)).Nodup := by
    have hkeys : early.map (·.1.value) = front.map (·.last) := map_eq_map_of_forall₂ (fun _ _ htable => htable.1) hearly
    simpa [hkeys] using hnames
  obtain ⟨late, d₃, hlate, hsteps₃, hgroup₃⟩ := steps_members hgroup₂ hgroup.2 hnew hws
  refine ⟨d₃.root, pre, early ++ late, post, ?_, hgroup₃, List.rel_append hearly hlate, htables⟩
  rw [ofStatements?, steps_append hsteps₁, steps_append hsteps₂, hsteps₃]
  rfl

end Document

end ValueObjects.Toml

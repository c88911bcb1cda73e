import Mathlib.Data.List.Perm.Basic
import ValueObjects.Proofs.Manifest.Written
import ValueObjects.Proofs.Results

/-!
# Records by position

A record that is read by position has the settings of a table with the same values under their keys, in whatever order
these are. A value object needs all its settings then, although some of them may be left out of a table.
-/

namespace ValueObjects

open Toml (Value Key Entries Setting Sets ArrayKind TableKind)

/-! ## Single settings -/

namespace Shape

variable {v : Located Value} {items rest : List (Located Value)} {α : Type} {a standard : α}
  {read : Located Value → Except ShapeError α}

theorem text_eq_ok {s : String} : text v = .ok s ↔ v.value = .text s := by
  unfold text
  cases v.value <;> simp

theorem path_eq_ok {s : String} : path v = .ok ⟨s⟩ ↔ v.value = .text s := by
  unfold path
  cases v.value <;> simp

theorem boolean_eq_ok {b : Bool} : boolean v = .ok b ↔ v.value = .boolean b := by
  unfold boolean
  cases v.value <;> simp

/-- An item that has to be there is the first one. -/
theorem required_eq_ok {span : Span} {kind : RecordKind} {index : Nat} :
    required span kind index read items = .ok (a, rest) ↔ ∃ v, items = v :: rest ∧ read v = .ok a := by
  cases items with
  | nil => simp [required]
  | cons v items =>
    simp only [required, bind_eq_ok, pure_eq_ok, Prod.mk.injEq, List.cons.injEq]
    constructor
    · rintro ⟨a, hread, rfl, rfl⟩
      exact ⟨v, ⟨rfl, rfl⟩, hread⟩
    · rintro ⟨v, ⟨rfl, rfl⟩, hread⟩
      exact ⟨a, hread, rfl, rfl⟩

/-- An item that may be missing is the first one, or there are no items at all. -/
theorem optional_eq_ok : optional standard read items = .ok (a, rest) ↔
    (items = [] ∧ a = standard ∧ rest = []) ∨ ∃ v, items = v :: rest ∧ read v = .ok a := by
  cases items with
  | nil => simp [optional, eq_comm]
  | cons v items =>
    simp only [optional, bind_eq_ok, pure_eq_ok, Prod.mk.injEq, List.cons.injEq, reduceCtorEq, false_and, false_or]
    constructor
    · rintro ⟨a, hread, rfl, rfl⟩
      exact ⟨v, ⟨rfl, rfl⟩, hread⟩
    · rintro ⟨v, ⟨rfl, rfl⟩, hread⟩
      exact ⟨a, hread, rfl, rfl⟩

end Shape

open Shape

/-! ## Items -/

/-- Only five items of the right kinds are settings of a value object. What follows them does not matter. -/
theorem ValueObjectSettings.ofItems_eq_ok {span : Span} {items : List (Located Value)} {x : ValueObjectSettings} :
    ofItems span items = .ok x ↔ ∃ s n value comparer guid,
      [.text s, .boolean n, .boolean value, .boolean comparer, .boolean guid] <+: items.map (·.value)
        ∧ x = ⟨s, some n, value, comparer, some guid⟩ := by
  constructor
  · intro h
    simp only [ofItems, bind_eq_ok, pure_eq_ok, Prod.exists] at h
    obtain ⟨s, items₁, hinner, n, items₂, hnullable, value, items₃, hvalue, comparer, items₄, hcomparer, guid, further,
      hguid, rfl⟩ := h
    rw [required_eq_ok] at hinner hnullable hguid
    rw [optional_eq_ok] at hvalue hcomparer
    simp only [text_eq_ok, boolean_eq_ok] at hinner hnullable hvalue hcomparer hguid
    obtain ⟨inner, rfl, hinner⟩ := hinner
    obtain ⟨nullable, rfl, hnullable⟩ := hnullable
    obtain ⟨last, rfl, hguid⟩ := hguid
    -- the last setting has to be there, so no setting in front of it is missing
    obtain ⟨-, -, hnone⟩ | ⟨fourth, rfl, hcomparer⟩ := hcomparer
    · cases hnone
    obtain ⟨-, -, hnone⟩ | ⟨third, rfl, hvalue⟩ := hvalue
    · cases hnone
    have hfirst : (inner :: nullable :: third :: fourth :: last :: further).map (·.value) =
        [.text s, .boolean n, .boolean value, .boolean comparer, .boolean guid] ++ further.map (·.value) := by
      simp [hinner, hnullable, hvalue, hcomparer, hguid]
    exact ⟨s, n, value, comparer, guid, ⟨further.map (·.value), hfirst.symm⟩, rfl⟩
  · rintro ⟨s, n, value, comparer, guid, ⟨further, hitems⟩, rfl⟩
    simp only [List.cons_append, List.nil_append] at hitems
    obtain ⟨inner, items, rfl, hinner, hitems⟩ := List.map_eq_cons_iff.mp hitems.symm
    obtain ⟨nullable, items, rfl, hnullable, hitems⟩ := List.map_eq_cons_iff.mp hitems
    obtain ⟨third, items, rfl, hvalue, hitems⟩ := List.map_eq_cons_iff.mp hitems
    obtain ⟨fourth, items, rfl, hcomparer, hitems⟩ := List.map_eq_cons_iff.mp hitems
    obtain ⟨last, items, rfl, hguid, -⟩ := List.map_eq_cons_iff.mp hitems
    refine bind_eq_ok.mpr ⟨_, required_eq_ok.mpr ⟨inner, rfl, text_eq_ok.mpr hinner⟩, ?_⟩
    refine bind_eq_ok.mpr ⟨_, required_eq_ok.mpr ⟨nullable, rfl, boolean_eq_ok.mpr hnullable⟩, ?_⟩
    refine bind_eq_ok.mpr ⟨_, optional_eq_ok.mpr (.inr ⟨third, rfl, boolean_eq_ok.mpr hvalue⟩), ?_⟩
    refine bind_eq_ok.mpr ⟨_, optional_eq_ok.mpr (.inr ⟨fourth, rfl, boolean_eq_ok.mpr hcomparer⟩), ?_⟩
    exact bind_eq_ok.mpr ⟨_, required_eq_ok.mpr ⟨last, rfl, boolean_eq_ok.mpr hguid⟩, rfl⟩

/-- A text, and behind it another one if there is anything, are settings of the generator. -/
theorem GeneratorSettings.ofItems_eq_ok {span : Span} {items : List (Located Value)} {x : GeneratorSettings} :
    ofItems span items = .ok x ↔ ∃ name,
      (items.map (·.value) = [.text name] ∧ x = ⟨some name, defaultOutput⟩)
        ∨ ∃ output, [.text name, .text output] <+: items.map (·.value) ∧ x = ⟨some name, ⟨output⟩⟩ := by
  constructor
  · intro h
    simp only [ofItems, bind_eq_ok, pure_eq_ok, Prod.exists] at h
    obtain ⟨name, items₁, hname, ⟨output⟩, further, houtput, rfl⟩ := h
    rw [required_eq_ok] at hname
    rw [optional_eq_ok] at houtput
    simp only [text_eq_ok, path_eq_ok] at hname houtput
    obtain ⟨first, rfl, hname⟩ := hname
    obtain ⟨rfl, hstandard, -⟩ | ⟨second, rfl, houtput⟩ := houtput
    · exact ⟨name, .inl ⟨by simp [hname], by rw [hstandard]⟩⟩
    · exact ⟨name, .inr ⟨output, ⟨further.map (·.value), by simp [hname, houtput]⟩, rfl⟩⟩
  · rintro ⟨name, ⟨hitems, rfl⟩ | ⟨output, ⟨further, hitems⟩, rfl⟩⟩
    · obtain ⟨first, items, rfl, hname, hitems⟩ := List.map_eq_cons_iff.mp hitems
      obtain rfl := List.map_eq_nil_iff.mp hitems
      refine bind_eq_ok.mpr ⟨_, required_eq_ok.mpr ⟨first, rfl, text_eq_ok.mpr hname⟩, ?_⟩
      exact bind_eq_ok.mpr ⟨_, optional_eq_ok.mpr (.inl ⟨rfl, rfl, rfl⟩), rfl⟩
    · simp only [List.cons_append, List.nil_append] at hitems
      obtain ⟨first, items, rfl, hname, hitems⟩ := List.map_eq_cons_iff.mp hitems.symm
      obtain ⟨second, items, rfl, houtput, -⟩ := List.map_eq_cons_iff.mp hitems
      refine bind_eq_ok.mpr ⟨_, required_eq_ok.mpr ⟨first, rfl, text_eq_ok.mpr hname⟩, ?_⟩
      exact bind_eq_ok.mpr ⟨_, optional_eq_ok.mpr (.inr ⟨second, rfl, path_eq_ok.mpr houtput⟩), rfl⟩

/-! ## Keys -/

/-- A table has some keys with their values, each once, in any order. -/
def HasKeys (entries : Entries) (settings : List (String × Value)) : Prop :=
  (entries.map fun (key, v) => (key.value, v.value)).Perm settings

theorem hasKeys_of_eq_reverse {entries : Entries} {settings : List (String × Value)}
    (h : (entries.map fun (key, v) => (key.value, v.value)) = settings.reverse) : HasKeys entries settings := by
  rw [HasKeys, h]
  exact settings.reverse_perm

/-- The entries of such a table are those of some lines, in any order. -/
theorem HasKeys.exists_lines {β : Type} (setting : β → Setting) (ys : List β) {entries : Entries}
    (h : HasKeys entries (ys.map fun l => ((setting l).1, (setting l).2.value))) :
    ∃ xs : List β, xs.Perm ys ∧ List.Forall₂ Sets entries (xs.map setting) := by
  have hlines : List.Forall₂ (fun s l => s = ((setting l).1, (setting l).2.value))
      (ys.map fun l => ((setting l).1, (setting l).2.value)) ys :=
    List.forall₂_map_left_iff.mpr (List.forall₂_same.mpr fun _ _ => rfl)
  obtain ⟨xs, hxs, hperm⟩ := List.perm_comp_forall₂ h hlines
  refine ⟨xs, hperm, List.forall₂_map_right_iff.mpr ((List.forall₂_map_left_iff.mp hxs).imp ?_)⟩
  rintro ⟨key, v⟩ l heq
  exact ⟨congrArg Prod.fst heq, congrArg Prod.snd heq⟩

theorem ValueObjectDeclaration.ofEntries_eq_ok_of_hasKeys (d : ValueObjectDeclaration) {entries : Entries}
    (h : HasKeys entries (d.lines.map fun l => (l.setting.1, l.setting.2.value))) (span : Span) :
    ValueObjectSettings.ofEntries span entries = .ok d.settings := by
  obtain ⟨lines, hperm, hsets⟩ := HasKeys.exists_lines ValueObjectLine.setting d.lines h
  exact ofEntries_eq_ok hperm hsets span

theorem GeneratorDeclaration.ofEntries_eq_ok_of_hasKeys (d : GeneratorDeclaration) {entries : Entries}
    (h : HasKeys entries (d.lines.map fun l => (l.setting.1, l.setting.2.value))) :
    GeneratorSettings.ofEntries entries = .ok d.settings := by
  obtain ⟨lines, hperm, hsets⟩ := HasKeys.exists_lines GeneratorLine.setting d.lines h
  exact ofEntries_eq_ok hperm hsets

/-! ## Agreement -/

section Agreement

variable {place place' : Span} {kind : ArrayKind} {kind' : TableKind} {items : List (Located Value)} {entries : Entries}

/-- Five settings of a value object are read alike from an array and from a table. -/
theorem ValueObjectSettings.ofValue_eq_ok_of_five {s : String} {n value comparer guid : Bool}
    (hitems : [.text s, .boolean n, .boolean value, .boolean comparer, .boolean guid] <+: items.map (·.value))
    (hentries : HasKeys entries [("inner", .text s), ("nullable", .boolean n), ("default_value", .boolean value),
      ("default_equality_comparer", .boolean comparer), ("guid", .boolean guid)]) :
    ofValue ⟨place, .array kind items⟩ = .ok ⟨s, some n, value, comparer, some guid⟩
      ∧ ofValue ⟨place', .table kind' entries⟩ = .ok ⟨s, some n, value, comparer, some guid⟩ := by
  let d : ValueObjectDeclaration := ⟨"", s, some n, some value, some comparer, some guid⟩
  exact ⟨ofItems_eq_ok.mpr ⟨s, n, value, comparer, guid, hitems, rfl⟩, d.ofEntries_eq_ok_of_hasKeys hentries place'⟩

/-- No setting of a value object in an array may be missing. -/
theorem ValueObjectSettings.ofValue_eq_error_of_length_lt (h : items.length < 5) :
    ∃ problem, ofValue ⟨place, .array kind items⟩ = .error problem := by
  cases hread : ofValue ⟨place, .array kind items⟩ with
  | error problem => exact ⟨problem, rfl⟩
  | ok x =>
    obtain ⟨s, n, value, comparer, guid, hprefix, -⟩ := ofItems_eq_ok.mp hread
    have hlength := hprefix.length_le
    simp at hlength
    omega

/-- The namespace and the output are read alike from an array and from a table. -/
theorem GeneratorSettings.ofValue_eq_ok_of_two {name output : String}
    (hitems : [.text name, .text output] <+: items.map (·.value))
    (hentries : HasKeys entries [("namespace", .text name), ("output", .text output)]) :
    ofValue ⟨place, .array kind items⟩ = .ok ⟨some name, ⟨output⟩⟩
      ∧ ofValue ⟨place', .table kind' entries⟩ = .ok ⟨some name, ⟨output⟩⟩ := by
  let d : GeneratorDeclaration := ⟨some name, some output⟩
  exact ⟨ofItems_eq_ok.mpr ⟨name, .inr ⟨output, hitems, rfl⟩⟩, d.ofEntries_eq_ok_of_hasKeys hentries⟩

/-- The namespace alone is read alike from an array and from a table. -/
theorem GeneratorSettings.ofValue_eq_ok_of_one {name : String} (hitems : items.map (·.value) = [.text name])
    (hentries : HasKeys entries [("namespace", .text name)]) :
    ofValue ⟨place, .array kind items⟩ = .ok ⟨some name, defaultOutput⟩
      ∧ ofValue ⟨place', .table kind' entries⟩ = .ok ⟨some name, defaultOutput⟩ := by
  let d : GeneratorDeclaration := ⟨some name, none⟩
  exact ⟨ofItems_eq_ok.mpr ⟨name, .inl ⟨hitems, rfl⟩⟩, d.ofEntries_eq_ok_of_hasKeys hentries⟩

/-- The settings of a value object are the same from an array that starts with them as from a table that has them under
its five keys in any order, and they leave nothing open. So are those of the generator, with an output or without one.
A shorter array is neither. -/
theorem positions_agree_with_keys (place place' : Span) (kind : ArrayKind) (kind' : TableKind)
    (items : List (Located Value)) (entries : Entries) :
    (∀ s n value comparer guid,
        [.text s, .boolean n, .boolean value, .boolean comparer, .boolean guid] <+: items.map (·.value) →
        HasKeys entries [("inner", .text s), ("nullable", .boolean n), ("default_value", .boolean value),
          ("default_equality_comparer", .boolean comparer), ("guid", .boolean guid)] →
        ∃ x, ValueObjectSettings.ofValue ⟨place, .array kind items⟩ = .ok x
          ∧ ValueObjectSettings.ofValue ⟨place', .table kind' entries⟩ = .ok x
          ∧ x = ⟨s, some n, value, comparer, some guid⟩
          ∧ (∀ name, x.descriptor name = ⟨name, s, if n then "?" else "", value, comparer, guid⟩)
          ∧ x.capabilities = (if value then ["default value"] else [])
            ++ (if comparer then ["equality comparer"] else []) ++ if guid then ["guid"] else [])
      ∧ (∀ name output, [.text name, .text output] <+: items.map (·.value) →
        HasKeys entries [("namespace", .text name), ("output", .text output)] →
        GeneratorSettings.ofValue ⟨place, .array kind items⟩ = .ok ⟨some name, ⟨output⟩⟩
          ∧ GeneratorSettings.ofValue ⟨place', .table kind' entries⟩ = .ok ⟨some name, ⟨output⟩⟩)
      ∧ (∀ name, items.map (·.value) = [.text name] → HasKeys entries [("namespace", .text name)] →
        GeneratorSettings.ofValue ⟨place, .array kind items⟩ = .ok ⟨some name, defaultOutput⟩
          ∧ GeneratorSettings.ofValue ⟨place', .table kind' entries⟩ = .ok ⟨some name, defaultOutput⟩)
      ∧ (items.length < 5 → ∃ problem, ValueObjectSettings.ofValue ⟨place, .array kind items⟩ = .error problem)
      ∧ (items = [] → ∃ problem, GeneratorSettings.ofValue ⟨place, .array kind items⟩ = .error problem) := by
  refine ⟨?_, fun name output => GeneratorSettings.ofValue_eq_ok_of_two, fun name =>
    GeneratorSettings.ofValue_eq_ok_of_one, ValueObjectSettings.ofValue_eq_error_of_length_lt, ?_⟩
  · intro s n value comparer guid hitems hentries
    obtain ⟨harray, htable⟩ := ValueObjectSettings.ofValue_eq_ok_of_five hitems hentries
    exact ⟨_, harray, htable, rfl, fun _ => rfl, rfl⟩
  · rintro rfl
    exact ⟨_, rfl⟩

end Agreement

/-- The namespace, and the output behind it. -/
def generatorItems : List (Located Value) := [⟨⟨13, 6⟩, .text "Shop"⟩, ⟨⟨21, 5⟩, .text "out"⟩]

/-- A value object of five settings, with a number behind them. -/
def orderItems : List (Located Value) :=
  [⟨⟨5, 6⟩, .text "Guid"⟩, ⟨⟨13, 4⟩, .boolean true⟩, ⟨⟨19, 5⟩, .boolean false⟩, ⟨⟨26, 5⟩, .boolean false⟩,
    ⟨⟨33, 4⟩, .boolean true⟩, ⟨⟨39, 1⟩, .integer ⟨false, 10, ['7']⟩⟩]

/-- The same value object in a table that has its keys backwards. -/
def orderEntries : Entries :=
  [(⟨⟨0, 4⟩, "guid"⟩, ⟨⟨7, 4⟩, .boolean true⟩),
    (⟨⟨12, 25⟩, "default_equality_comparer"⟩, ⟨⟨40, 5⟩, .boolean false⟩),
    (⟨⟨46, 13⟩, "default_value"⟩, ⟨⟨62, 5⟩, .boolean false⟩), (⟨⟨68, 8⟩, "nullable"⟩, ⟨⟨79, 4⟩, .boolean true⟩),
    (⟨⟨84, 5⟩, "inner"⟩, ⟨⟨92, 6⟩, .text "Guid"⟩)]

theorem orderItems_agree_with_orderEntries :
    (∃ x, ValueObjectSettings.ofValue ⟨⟨4, 37⟩, .array .written orderItems⟩ = .ok x
        ∧ ValueObjectSettings.ofValue ⟨⟨0, 99⟩, .table .headed orderEntries⟩ = .ok x
        ∧ x.capabilities = ["guid"])
      ∧ GeneratorSettings.ofValue ⟨⟨12, 15⟩, .array .written generatorItems⟩ = .ok ⟨some "Shop", ⟨"out"⟩⟩
      ∧ GeneratorSettings.ofValue ⟨⟨12, 8⟩, .array .written (generatorItems.take 1)⟩ =
        .ok ⟨some "Shop", ⟨"Generated"⟩⟩
      ∧ ∃ problem, ValueObjectSettings.ofValue ⟨⟨4, 28⟩, .array .written (orderItems.take 4)⟩ = .error problem := by
  obtain ⟨horder, -⟩ := positions_agree_with_keys ⟨4, 37⟩ ⟨0, 99⟩ .written .headed orderItems orderEntries
  obtain ⟨-, htwo, -⟩ := positions_agree_with_keys ⟨12, 15⟩ ⟨0, 0⟩ .written .headed generatorItems
    [(⟨⟨0, 6⟩, "output"⟩, ⟨⟨9, 5⟩, .text "out"⟩), (⟨⟨15, 9⟩, "namespace"⟩, ⟨⟨27, 6⟩, .text "Shop"⟩)]
  obtain ⟨-, -, hone, -⟩ := positions_agree_with_keys ⟨12, 8⟩ ⟨0, 0⟩ .written .headed (generatorItems.take 1)
    [(⟨⟨0, 9⟩, "namespace"⟩, ⟨⟨12, 6⟩, .text "Shop"⟩)]
  obtain ⟨-, -, -, hshort, -⟩ := positions_agree_with_keys ⟨4, 28⟩ ⟨0, 0⟩ .written .headed (orderItems.take 4) []
  obtain ⟨x, harray, htable, -, -, hcapabilities⟩ := horder "Guid" true false false true
    ⟨[.integer ⟨false, 10, ['7']⟩], rfl⟩ (hasKeys_of_eq_reverse rfl)
  refine ⟨⟨x, harray, htable, hcapabilities⟩, ?_, ?_, hshort (by decide)⟩
  · exact (htwo "Shop" "out" ⟨[], rfl⟩ (hasKeys_of_eq_reverse rfl)).1
  · exact (hone "Shop" rfl (hasKeys_of_eq_reverse rfl)).1

end ValueObjects

import Mathlib.Data.List.Nodup
import ValueObjects.Manifest.Shape
import ValueObjects.Proofs.Toml.Sections

/-!
# Written declarations

What may be written about value objects and the generator, line by line, and the settings that are meant. Each key has
at most one line, and the lines below one header may stand in any order: whatever it is, they are read as the same
settings.
-/

namespace ValueObjects

open Toml (Literal Section Setting Sets IsTable Key Entries)

/-! ## Records read in any order -/

section Lines

variable {σ β : Type} {read : σ → Key × Located Toml.Value → Except ShapeError σ} {add : σ → β → σ}
  {setting : β → Setting} {xs ys : List β}

/-- Entries are read one by one as the lines that they were written as. -/
theorem foldlM_eq_ok_of_sets (hread : ∀ s e l, Sets e (setting l) → read s e = .ok (add s l)) {entries : Entries}
    (h : List.Forall₂ Sets entries (xs.map setting)) (s : σ) : entries.foldlM read s = .ok (xs.foldl add s) := by
  induction xs generalizing entries s with
  | nil =>
    cases h
    rfl
  | cons x xs ih =>
    obtain ⟨e, entries, he, hrest, rfl⟩ := List.forall₂_cons_right_iff.mp h
    rw [List.foldlM_cons, hread s e x he]
    exact ih hrest _

/-- Lines with different keys add up to the same in any order, if no line interferes with one of another key. -/
theorem foldl_eq_of_perm (hadd : ∀ s x y, ((setting x).1 = (setting y).1 → x = y) → add (add s x) y = add (add s y) x)
    (h : xs.Perm ys) (hkeys : (ys.map fun l => (setting l).1).Nodup) (s : σ) : xs.foldl add s = ys.foldl add s := by
  apply h.foldl_eq'
  intro x hx y hy s
  exact hadd s x y fun hxy => List.inj_on_of_nodup_map hkeys (h.subset hx) (h.subset hy) hxy

/-- However lines with different keys are ordered, they are read as what they add up to. -/
theorem foldlM_eq_ok_of_perm (hread : ∀ s e l, Sets e (setting l) → read s e = .ok (add s l))
    (hadd : ∀ s x y, ((setting x).1 = (setting y).1 → x = y) → add (add s x) y = add (add s y) x)
    (h : xs.Perm ys) (hkeys : (ys.map fun l => (setting l).1).Nodup) {entries : Entries}
    (hentries : List.Forall₂ Sets entries (xs.map setting)) (s : σ) :
    entries.foldlM read s = .ok (ys.foldl add s) := by
  rw [foldlM_eq_ok_of_sets hread hentries, foldl_eq_of_perm hadd h hkeys]

/-- The keys of lines are different in any order. -/
theorem nodup_keys_of_perm (h : xs.Perm ys) (hkeys : (ys.map fun l => (setting l).1).Nodup) :
    ((xs.map setting).map (·.1)).Nodup := by
  rw [List.map_map]
  exact (h.map _).nodup_iff.mpr hkeys

end Lines

/-! ## Value objects -/

/-- What is written about a value object. Everything but the name and the inner type may be left out. -/
structure ValueObjectDeclaration where
  name : String
  inner : String
  nullable : Option Bool
  defaultValue : Option Bool
  defaultEqualityComparer : Option Bool
  guid : Option Bool
deriving DecidableEq, Repr

/-- A line about a value object. -/
inductive ValueObjectLine
  | inner (type : String)
  | nullable (b : Bool)
  | defaultValue (b : Bool)
  | defaultEqualityComparer (b : Bool)
  | guid (b : Bool)
deriving DecidableEq, Repr

namespace ValueObjectLine

/-- What stands on the line. -/
def setting : ValueObjectLine → Setting
  | inner type => ("inner", .text type)
  | nullable b => ("nullable", .flag b)
  | defaultValue b => ("default_value", .flag b)
  | defaultEqualityComparer b => ("default_equality_comparer", .flag b)
  | guid b => ("guid", .flag b)

/-- What is known once the line was read. -/
def addTo (d : ValueObjectSettings.Draft) : ValueObjectLine → ValueObjectSettings.Draft
  | inner type => { d with inner := some type }
  | nullable b => { d with nullable := some b }
  | defaultValue b => { d with defaultValue := b }
  | defaultEqualityComparer b => { d with defaultEqualityComparer := b }
  | guid b => { d with guid := some b }

theorem withEntry_eq_ok (d : ValueObjectSettings.Draft) (e : Key × Located Toml.Value) (l : ValueObjectLine)
    (h : Sets e l.setting) : d.withEntry e = .ok (addTo d l) := by
  obtain ⟨key, v⟩ := e
  cases l <;>
  · obtain ⟨hkey, hvalue⟩ := h
    dsimp only [setting] at hkey hvalue
    simp [ValueObjectSettings.Draft.withEntry, hkey, hvalue, Literal.value, Shape.text, Shape.boolean, addTo]

theorem addTo_comm (d : ValueObjectSettings.Draft) (x y : ValueObjectLine) (h : x.setting.1 = y.setting.1 → x = y) :
    addTo (addTo d x) y = addTo (addTo d y) x := by
  cases x <;> cases y <;> first | rfl | rw [h rfl]

end ValueObjectLine

namespace ValueObjectDeclaration

/-- The lines of a declaration, in the order of a record. -/
def lines (d : ValueObjectDeclaration) : List ValueObjectLine :=
  .inner d.inner :: ((d.nullable.map .nullable).toList ++ (d.defaultValue.map .defaultValue).toList
    ++ (d.defaultEqualityComparer.map .defaultEqualityComparer).toList ++ (d.guid.map .guid).toList)

/-- The settings that are meant: some flags that are left out are off, the others are open. -/
def settings (d : ValueObjectDeclaration) : ValueObjectSettings where
  inner := d.inner
  nullable := d.nullable
  defaultValue := d.defaultValue.getD false
  defaultEqualityComparer := d.defaultEqualityComparer.getD false
  guid := d.guid

/-- The section that declares a value object by some lines. -/
def toSection (d : ValueObjectDeclaration) (lines : List ValueObjectLine) : Section :=
  ⟨["value_objects"], d.name, lines.map (·.setting)⟩

/-- A section declares a value object by one line for each of its settings, in any order. -/
def WrittenAs (d : ValueObjectDeclaration) (s : Section) : Prop :=
  ∃ lines : List ValueObjectLine, lines.Perm d.lines ∧ s = d.toSection lines

theorem nodup_keys_lines (d : ValueObjectDeclaration) : (d.lines.map (·.setting.1)).Nodup := by
  have hkeys : (d.lines.map (·.setting.1)).Sublist (RecordKind.keys .valueObject) := by
    obtain ⟨_, _, nullable, defaultValue, defaultEqualityComparer, guid⟩ := d
    cases nullable <;> cases defaultValue <;> cases defaultEqualityComparer <;> cases guid <;>
      simp [lines, ValueObjectLine.setting, RecordKind.keys]
  exact hkeys.nodup (by decide)

theorem WrittenAs.last {d : ValueObjectDeclaration} {s : Section} (h : d.WrittenAs s) : s.last = d.name := by
  obtain ⟨lines, -, rfl⟩ := h
  rfl

theorem WrittenAs.nodup_keys {d : ValueObjectDeclaration} {s : Section} (h : d.WrittenAs s) :
    (s.settings.map (·.1)).Nodup := by
  obtain ⟨lines, hperm, rfl⟩ := h
  exact nodup_keys_of_perm hperm d.nodup_keys_lines

theorem foldl_lines (d : ValueObjectDeclaration) :
    d.lines.foldl ValueObjectLine.addTo ⟨none, none, false, false, none⟩ =
      ⟨some d.inner, d.nullable, d.defaultValue.getD false, d.defaultEqualityComparer.getD false, d.guid⟩ := by
  obtain ⟨_, _, nullable, defaultValue, defaultEqualityComparer, guid⟩ := d
  cases nullable <;> cases defaultValue <;> cases defaultEqualityComparer <;> cases guid <;> rfl

/-- Entries for the lines of a declaration, in any order, are read as its settings. -/
theorem ofEntries_eq_ok {d : ValueObjectDeclaration} {lines : List ValueObjectLine} (hperm : lines.Perm d.lines)
    {entries : Entries} (hsets : List.Forall₂ Sets entries (lines.map (·.setting))) (span : Span) :
    ValueObjectSettings.ofEntries span entries = .ok d.settings := by
  have hdraft := foldlM_eq_ok_of_perm ValueObjectLine.withEntry_eq_ok ValueObjectLine.addTo_comm hperm d.nodup_keys_lines
    hsets ⟨none, none, false, false, none⟩
  rw [foldl_lines] at hdraft
  simp only [ValueObjectSettings.ofEntries, hdraft]
  rfl

/-- A section that declares a value object is read as its settings. -/
theorem WrittenAs.ofValue_eq_ok {d : ValueObjectDeclaration} {s : Section} (h : d.WrittenAs s)
    {e : Key × Located Toml.Value} (he : IsTable e s) : ValueObjectSettings.ofValue e.2 = .ok d.settings := by
  obtain ⟨lines, hperm, rfl⟩ := h
  obtain ⟨-, body, hbody, hsets⟩ := he
  simp only [ValueObjectSettings.ofValue, Shape.record, hbody]
  exact ofEntries_eq_ok hperm hsets e.2.span

end ValueObjectDeclaration

/-! ## The generator -/

/-- What is written about the generator. Everything may be left out. -/
structure GeneratorDeclaration where
  namespaceName : Option String
  output : Option String
deriving DecidableEq, Repr

/-- A line about the generator. -/
inductive GeneratorLine
  | namespaceName (name : String)
  | output (path : String)
deriving DecidableEq, Repr

namespace GeneratorLine

/-- What stands on the line. -/
def setting : GeneratorLine → Setting
  | namespaceName name => ("namespace", .text name)
  | output path => ("output", .text path)

/-- What is known once the line was read. -/
def addTo (s : GeneratorSettings) : GeneratorLine → GeneratorSettings
  | namespaceName name => { s with namespaceName := some name }
  | output path => { s with output := ⟨path⟩ }

theorem withEntry_eq_ok (s : GeneratorSettings) (e : Key × Located Toml.Value) (l : GeneratorLine)
    (h : Sets e l.setting) : s.withEntry e = .ok (addTo s l) := by
  obtain ⟨key, v⟩ := e
  cases l <;>
  · obtain ⟨hkey, hvalue⟩ := h
    dsimp only [setting] at hkey hvalue
    simp [GeneratorSettings.withEntry, hkey, hvalue, Literal.value, Shape.text, Shape.path, addTo]

theorem addTo_comm (s : GeneratorSettings) (x y : GeneratorLine) (h : x.setting.1 = y.setting.1 → x = y) :
    addTo (addTo s x) y = addTo (addTo s y) x := by
  cases x <;> cases y <;> first | rfl | rw [h rfl]

end GeneratorLine

namespace GeneratorDeclaration

/-- The lines of a declaration, in the order of a record. -/
def lines (d : GeneratorDeclaration) : List GeneratorLine :=
  (d.namespaceName.map .namespaceName).toList ++ (d.output.map .output).toList

/-- The settings that are meant. -/
def settings (d : GeneratorDeclaration) : GeneratorSettings :=
  ⟨d.namespaceName, (d.output.map Path.mk).getD defaultOutput⟩

/-- The section that declares the generator by some lines. -/
def toSection (lines : List GeneratorLine) : Section := ⟨[], "generator", lines.map (·.setting)⟩

/-- A section declares the generator by one line for each setting, in any order. Where nothing is to be said there need
not be a section. -/
def WrittenAs (d : GeneratorDeclaration) : Option Section → Prop
  | some s => ∃ lines : List GeneratorLine, lines.Perm d.lines ∧ s = toSection lines
  | none => d.lines = []

theorem nodup_keys_lines (d : GeneratorDeclaration) : (d.lines.map (·.setting.1)).Nodup := by
  have hkeys : (d.lines.map (·.setting.1)).Sublist (RecordKind.keys .generator) := by
    obtain ⟨namespaceName, output⟩ := d
    cases namespaceName <;> cases output <;> simp [lines, GeneratorLine.setting, RecordKind.keys]
  exact hkeys.nodup (by decide)

theorem WrittenAs.nodup_keys {d : GeneratorDeclaration} {s : Section} (h : d.WrittenAs (some s)) :
    (s.settings.map (·.1)).Nodup := by
  obtain ⟨lines, hperm, rfl⟩ := h
  exact nodup_keys_of_perm hperm d.nodup_keys_lines

theorem foldl_lines (d : GeneratorDeclaration) : d.lines.foldl GeneratorLine.addTo .standard = d.settings := by
  obtain ⟨namespaceName, output⟩ := d
  cases namespaceName <;> cases output <;> rfl

/-- Entries for the lines of a declaration, in any order, are read as its settings. -/
theorem ofEntries_eq_ok {d : GeneratorDeclaration} {lines : List GeneratorLine} (hperm : lines.Perm d.lines)
    {entries : Entries} (hsets : List.Forall₂ Sets entries (lines.map (·.setting))) :
    GeneratorSettings.ofEntries entries = .ok d.settings := by
  have hread := foldlM_eq_ok_of_perm GeneratorLine.withEntry_eq_ok GeneratorLine.addTo_comm hperm d.nodup_keys_lines
    hsets .standard
  rwa [foldl_lines] at hread

/-- A section that declares the generator is read as its settings. -/
theorem WrittenAs.ofValue_eq_ok {d : GeneratorDeclaration} {s : Section} (h : d.WrittenAs (some s))
    {e : Key × Located Toml.Value} (he : IsTable e s) : GeneratorSettings.ofValue e.2 = .ok d.settings := by
  obtain ⟨lines, hperm, rfl⟩ := h
  obtain ⟨-, body, hbody, hsets⟩ := he
  simp only [GeneratorSettings.ofValue, Shape.record, hbody]
  exact ofEntries_eq_ok hperm hsets

/-- Without a section the settings are the standard ones. -/
theorem WrittenAs.settings_eq_standard {d : GeneratorDeclaration} (h : d.WrittenAs none) : d.settings = .standard := by
  have hlines : d.lines = [] := h
  rw [← foldl_lines, hlines]
  rfl

end GeneratorDeclaration

end ValueObjects

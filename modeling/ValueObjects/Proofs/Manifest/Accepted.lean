import ValueObjects.Manifest.Load
import ValueObjects.Proofs.Manifest.Identifiers
import ValueObjects.Proofs.Results
import ValueObjects.Proofs.Toml.DistinctKeys

/-!
# Accepted manifests

What a manifest is known to satisfy once it was read from a text without an error: its value objects have distinct
names, all names are identifiers, wrapped types are type expressions, and nothing wraps itself.
-/

namespace ValueObjects

/-! ## Checks -/

/-- The settings of a value object fit its name. -/
structure ValueObjectSettings.Fits (name : String) (s : ValueObjectSettings) : Prop where
  isIdentifier : IsIdentifier name
  inner : typeFlaw? s.inner = none
  inner_ne : s.inner ≠ name

namespace ManifestText

variable {t : ManifestText}

theorem checkTypeName_eq_ok {name : String} : t.checkTypeName name = .ok () ↔ IsIdentifier name := by
  rw [checkTypeName, ← ofName?_eq_none .valueObject]
  split <;> simp_all

theorem checkNamespace_eq_ok {name : String} :
    t.checkNamespace name = .ok () ↔ ∀ segment ∈ namespaceSegments name, IsIdentifier segment := by
  have hsegments : (namespaceSegments name).findSome? (Cause.ofName? · .namespaceSegment) = none ↔
      ∀ segment ∈ namespaceSegments name, IsIdentifier segment := by
    simp only [List.findSome?_eq_none_iff, ofName?_eq_none]
  rw [checkNamespace, ← hsegments]
  split <;> simp_all

theorem checkInnerType_eq_ok {valueObject inner : String} :
    t.checkInnerType valueObject inner = .ok () ↔ typeFlaw? inner = none := by
  unfold checkInnerType
  split <;> simp_all

theorem checkValueObject_eq_ok {name : String} {s : ValueObjectSettings} :
    t.checkValueObject name s = .ok () ↔ s.Fits name := by
  simp only [checkValueObject, bind_eq_ok, exists_done, checkTypeName_eq_ok, checkInnerType_eq_ok]
  constructor
  · rintro ⟨hname, hinner, hself⟩
    refine ⟨hname, hinner, ?_⟩
    intro heq
    simp [heq] at hself
  · rintro ⟨hname, hinner, hself⟩
    exact ⟨hname, hinner, by simp [hself, pure, Except.pure]⟩

theorem forM_eq_ok {α : Type} {check : α → Except Diagnostic Unit} {l : List α} :
    l.forM check = .ok () ↔ ∀ a ∈ l, check a = .ok () := by
  induction l with
  | nil => simp [List.forM, pure, Except.pure]
  | cons a l ih =>
    have hcons : (a :: l).forM check = (do check a; l.forM check) := rfl
    rw [hcons, bind_eq_ok, exists_done, ih, List.forall_mem_cons]

theorem exists_mem_of_forM_eq_error {α : Type} {check : α → Except Diagnostic Unit} {l : List α} {d : Diagnostic}
    (h : l.forM check = .error d) : ∃ a ∈ l, check a = .error d := by
  induction l with
  | nil => cases h
  | cons a l ih =>
    have hcons : (a :: l).forM check = (do check a; l.forM check) := rfl
    rw [hcons, bind_eq_error] at h
    obtain hfirst | ⟨-, -, hrest⟩ := h
    · exact ⟨a, by simp, hfirst⟩
    · obtain ⟨b, hb, hrefused⟩ := ih hrest
      exact ⟨b, by simp [hb], hrefused⟩

theorem checkManifest_eq_ok {m : Manifest} :
    t.checkManifest m = .ok () ↔
      (∀ name, m.generator.namespaceName = some name → ∀ segment ∈ namespaceSegments name, IsIdentifier segment)
        ∧ ∀ e ∈ m.valueObjects, e.2.Fits e.1 := by
  simp only [checkManifest, bind_eq_ok, exists_done, forM_eq_ok, checkValueObject_eq_ok]
  refine and_congr_left fun _ => ?_
  cases m.generator.namespaceName with
  | none => simp [Option.forM, pure, Except.pure]
  | some name => simp [Option.forM, checkNamespace_eq_ok]

end ManifestText

/-! ## Declarations -/

namespace Manifest

/-- Declarations have the names that are the keys of their table. -/
theorem names_of_mapM {entries : Toml.Entries} {declared : List (String × ValueObjectSettings)}
    (h : (entries.mapM fun (key, v) => do return (key.value, ← ValueObjectSettings.ofValue v)) =
      (.ok declared : Except ShapeError _)) :
    declared.map (·.1) = entries.map (·.1.value) := by
  induction entries generalizing declared with
  | nil =>
    cases h
    rfl
  | cons e entries ih =>
    simp only [List.mapM_cons, bind_eq_ok, pure_eq_ok] at h
    obtain ⟨first, ⟨settings, -, rfl⟩, rest, hrest, rfl⟩ := h
    simp [ih hrest]

theorem nodup_names_of_declarations {v : Located Toml.Value} {declared : List (String × ValueObjectSettings)}
    (hv : v.value.Distinct) (h : declarations v = .ok declared) : (declared.map (·.1)).Nodup := by
  unfold declarations at h
  split at h
  · rename_i kind entries hvalue
    rw [names_of_mapM h]
    exact (Toml.Entries.distinct_of_table (hvalue ▸ hv)).keys
  · cases h
  · cases h

theorem nodup_names_of_withEntry {m m' : Manifest} {e : Toml.Key × Located Toml.Value}
    (hm : (m.valueObjects.map (·.1)).Nodup) (he : e.2.value.Distinct) (h : m.withEntry e = .ok m') :
    (m'.valueObjects.map (·.1)).Nodup := by
  obtain ⟨key, v⟩ := e
  unfold withEntry at h
  dsimp only at h
  split at h
  · simp only [bind_eq_ok, pure_eq_ok] at h
    obtain ⟨settings, -, rfl⟩ := h
    exact hm
  · simp only [bind_eq_ok, pure_eq_ok] at h
    obtain ⟨declared, hdeclared, rfl⟩ := h
    exact nodup_names_of_declarations he hdeclared
  · cases h

theorem nodup_names_of_foldlM {m m' : Manifest} {entries : Toml.Entries} (hm : (m.valueObjects.map (·.1)).Nodup)
    (hentries : ∀ e ∈ entries, e.2.value.Distinct) (h : entries.foldlM withEntry m = .ok m') :
    (m'.valueObjects.map (·.1)).Nodup := by
  induction entries generalizing m with
  | nil =>
    cases h
    exact hm
  | cons e entries ih =>
    simp only [List.foldlM_cons, bind_eq_ok] at h
    obtain ⟨mid, hmid, h⟩ := h
    exact ih (nodup_names_of_withEntry hm (hentries e (by simp)) hmid) (fun e he => hentries e (by simp [he])) h

end Manifest

/-! ## Acceptance -/

/-- All that reading a manifest checks, and that its value objects have distinct names. -/
structure Manifest.WellFormed (m : Manifest) : Prop where
  names : (m.valueObjects.map (·.1)).Nodup
  segments : ∀ name, m.generator.namespaceName = some name → ∀ segment ∈ namespaceSegments name, IsIdentifier segment
  valueObjects : ∀ e ∈ m.valueObjects, e.2.Fits e.1

namespace ManifestText

theorem load_eq_ok {t : ManifestText} {m : Manifest} : t.load = .ok m ↔ t.decode = .ok m ∧ t.checkManifest m = .ok () := by
  simp only [load, bind_eq_ok, exists_done, pure_eq_ok]
  constructor
  · rintro ⟨m', hdecode, hcheck, rfl⟩
    exact ⟨hdecode, hcheck⟩
  · rintro ⟨hdecode, hcheck⟩
    exact ⟨m, hdecode, hcheck, rfl⟩

/-- A manifest that is accepted is well formed. -/
theorem wellFormed_of_load {t : ManifestText} {m : Manifest} (h : t.load = .ok m) : m.WellFormed := by
  obtain ⟨hdecode, hcheck⟩ := load_eq_ok.mp h
  obtain ⟨hsegments, hvalueObjects⟩ := checkManifest_eq_ok.mp hcheck
  refine ⟨?_, hsegments, hvalueObjects⟩
  -- no check compares names with each other: they are distinct because they are the keys of one table
  unfold decode at hdecode
  split at hdecode
  · cases hdecode
  · rename_i entries hparse
    split at hdecode
    · cases hdecode
    · rename_i m' hentries
      cases hdecode
      have hstart : (([] : List (String × ValueObjectSettings)).map (·.1)).Nodup := List.nodup_nil
      exact Manifest.nodup_names_of_foldlM hstart (Toml.Document.distinct_of_parse? hparse).values hentries

end ManifestText

end ValueObjects

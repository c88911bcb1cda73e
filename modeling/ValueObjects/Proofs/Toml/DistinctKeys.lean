import ValueObjects.Proofs.Toml.Reading

/-!
# Distinct keys

No table of a document has two entries with the same key. Tables grow in three ways: by headers, by assignments, and
entry by entry where a table is written as a value. Each of them looks for the key first, so tables whose keys are
distinct, on all levels, stay so from one entry and from one statement to the next.
-/

namespace ValueObjects.Toml

/-! ## Values -/

/-- The keys of a table are distinct, and so are those of all tables inside it. -/
inductive Value.Distinct : Value → Prop
  | text (s : String) : Distinct (.text s)
  | integer (x : IntegerLiteral) : Distinct (.integer x)
  | float (x : FloatLiteral) : Distinct (.float x)
  | boolean (b : Bool) : Distinct (.boolean b)
  | dateTime (d : DateTime) : Distinct (.dateTime d)
  | array {kind : ArrayKind} {items : List (Located Value)} (values : ∀ v ∈ items, Distinct v.value) :
    Distinct (.array kind items)
  | table {kind : TableKind} {entries : List (Key × Located Value)} (keys : (entries.map (·.1.value)).Nodup)
    (values : ∀ e ∈ entries, Distinct e.2.value) : Distinct (.table kind entries)

theorem Value.distinct_of_ofScalar? {cs : List Char} {v : Value} (h : Value.ofScalar? cs = some v) : v.Distinct := by
  unfold ofScalar? at h
  split at h
  · cases h; exact .boolean _
  · split at h
    · cases h; exact .boolean _
    · simp only [Option.or_eq_some_iff, Option.map_eq_some_iff] at h
      rcases h with ⟨x, -, rfl⟩ | ⟨-, ⟨x, -, rfl⟩ | ⟨-, d, -, rfl⟩⟩
      · exact .integer x
      · exact .float x
      · exact .dateTime d

namespace Entries

/-- The keys of entries are distinct, on all levels. -/
structure Distinct (entries : Entries) : Prop where
  keys : (entries.map (·.1.value)).Nodup
  values : ∀ e ∈ entries, e.2.value.Distinct

theorem Distinct.nil : Distinct [] := ⟨List.nodup_nil, by simp⟩

theorem Distinct.table {entries : Entries} (h : entries.Distinct) (kind : TableKind) :
    (Value.table kind entries).Distinct :=
  .table h.keys h.values

theorem distinct_of_table {kind : TableKind} {entries : Entries} (h : (Value.table kind entries).Distinct) :
    entries.Distinct := by
  cases h with
  | table keys values => exact ⟨keys, values⟩

/-! ## Single keys -/

theorem get?_eq_none {name : String} {entries : Entries} :
    get? name entries = none ↔ name ∉ entries.map (·.1.value) := by
  induction entries with
  | nil => simp [get?]
  | cons e entries ih =>
    obtain ⟨key, value⟩ := e
    by_cases h : key.value = name
    · simp [get?, h]
    · simp [get?, h, ih, Ne.symm h]

theorem mem_of_get? {name : String} {value : Located Value} {entries : Entries} (h : get? name entries = some value) :
    ∃ key, (key, value) ∈ entries ∧ key.value = name := by
  induction entries with
  | nil => simp [get?] at h
  | cons e entries ih =>
    obtain ⟨key, first⟩ := e
    by_cases hkey : key.value = name
    · simp only [get?, hkey, if_true, Option.some.injEq] at h
      exact ⟨key, by simp [h], hkey⟩
    · simp only [get?, hkey, if_false] at h
      obtain ⟨other, hmem, hother⟩ := ih h
      exact ⟨other, by simp [hmem], hother⟩

theorem Distinct.get? {name : String} {value : Located Value} {entries : Entries} (h : entries.Distinct)
    (hget : Entries.get? name entries = some value) : value.value.Distinct := by
  obtain ⟨key, hmem, -⟩ := mem_of_get? hget
  exact h.values _ hmem

/-- An entry may be added if its key is new. -/
theorem Distinct.append {entries : Entries} {key : Key} {value : Located Value} (h : entries.Distinct)
    (hnew : key.value ∉ entries.map (·.1.value)) (hvalue : value.value.Distinct) :
    Distinct (entries ++ [(key, value)]) where
  keys := by
    rw [List.map_append, List.nodup_append]
    refine ⟨h.keys, by simp, ?_⟩
    rintro name hname other hother rfl
    simp only [List.map_cons, List.map_nil, List.mem_singleton] at hother
    exact hnew (hother ▸ hname)
  values e he := by
    rcases List.mem_append.mp he with he | he
    · exact h.values e he
    · rw [List.mem_singleton.mp he]
      exact hvalue

theorem map_fst_set (name : String) (value : Located Value) (entries : Entries) :
    (set name value entries).map (·.1) = entries.map (·.1) := by
  induction entries with
  | nil => rfl
  | cons e entries ih =>
    obtain ⟨key, old⟩ := e
    by_cases h : key.value = name
    · simp [set, h]
    · simp [set, h, ih]

/-- With distinct keys, only the entry of the key is changed. -/
theorem mem_set_of_nodup {name : String} {value : Located Value} {entries : Entries}
    (hnodup : (entries.map (·.1.value)).Nodup) {e : Key × Located Value} (h : e ∈ set name value entries) :
    e.1.value = name ∧ e.2 = value ∨ e.1.value ≠ name ∧ e ∈ entries := by
  induction entries with
  | nil => simp [set] at h
  | cons first entries ih =>
    obtain ⟨key, old⟩ := first
    rw [List.map_cons, List.nodup_cons] at hnodup
    by_cases hkey : key.value = name
    · simp only [set, hkey, if_true, List.mem_cons] at h
      rcases h with rfl | h
      · exact .inl ⟨hkey, rfl⟩
      · exact .inr ⟨fun heq => hnodup.1 (hkey ▸ heq ▸ List.mem_map_of_mem h), by simp [h]⟩
    · simp only [set, hkey, if_false, List.mem_cons] at h
      rcases h with rfl | h
      · exact .inr ⟨hkey, by simp⟩
      · exact (ih hnodup.2 h).imp id fun h => ⟨h.1, by simp [h.2]⟩

theorem Distinct.set {name : String} {value : Located Value} {entries : Entries} (h : entries.Distinct)
    (hvalue : value.value.Distinct) : Distinct (Entries.set name value entries) where
  keys := by
    have hkeys := congrArg (List.map (·.value)) (map_fst_set name value entries)
    rw [List.map_map, List.map_map] at hkeys
    exact hkeys ▸ h.keys
  values e he := by
    rcases mem_set_of_nodup h.keys he with ⟨-, rfl⟩ | ⟨-, he⟩
    · exact hvalue
    · exact h.values e he

theorem Distinct.erase {name : String} {entries : Entries} (h : entries.Distinct) : Distinct (entries.erase name) where
  keys := h.keys.sublist (List.filter_sublist.map _)
  values e he := h.values e (List.mem_filter.mp he).1

theorem notMem_erase (name : String) (entries : Entries) : name ∉ (entries.erase name).map (·.1.value) := by
  simp [erase]

theorem Distinct.add? {entries more : Entries} {key : Key} {value : Located Value} (h : entries.Distinct)
    (hvalue : value.value.Distinct) (hadd : entries.add? key value = some more) : more.Distinct := by
  unfold Entries.add? at hadd
  split at hadd
  · cases hadd
  · rename_i hnone
    cases hadd
    exact h.append (get?_eq_none.mp hnone) hvalue

/-! ## Paths -/

/-- A change that keeps keys distinct where a path leads keeps them distinct above it. -/
theorem Distinct.under? {dots : Bool} {change : TableKind → Entries → Option Entries}
    (hchange : ∀ kind old new, Distinct old → change kind old = some new → Distinct new)
    {path : List Key} {kind : TableKind} {entries more : Entries} (h : entries.Distinct)
    (hunder : Entries.under? dots change path kind entries = some more) : more.Distinct := by
  induction path generalizing kind entries more with
  | nil => exact hchange kind entries more h hunder
  | cons key path ih =>
    simp only [Entries.under?] at hunder
    split at hunder
    · -- the table is not there yet
      rename_i hnone
      simp only [bind, Option.bind_eq_some_iff, pure, Option.some.injEq] at hunder
      obtain ⟨body, hbody, rfl⟩ := hunder
      exact h.append (get?_eq_none.mp hnone) ((ih .nil hbody).table _)
    · rename_i span kind body hget
      split at hunder
      · cases hunder
      · simp only [bind, Option.bind_eq_some_iff, pure, Option.some.injEq] at hunder
        obtain ⟨body', hbody, rfl⟩ := hunder
        exact h.set ((ih (distinct_of_table (h.get? hget)) hbody).table _)
    · -- the last of a list of tables
      rename_i span items hget
      have hitems : ∀ v ∈ items, v.value.Distinct := by
        cases h.get? hget with
        | array values => exact values
      split at hunder
      · rename_i itemSpan kind body hlast
        simp only [bind, Option.bind_eq_some_iff, pure, Option.some.injEq] at hunder
        obtain ⟨body', hbody, rfl⟩ := hunder
        have hitem := ih (distinct_of_table (hitems _ (List.mem_of_getLast? hlast))) hbody
        apply h.set
        apply Value.Distinct.array
        intro v hv
        rcases List.mem_append.mp hv with hv | hv
        · exact hitems v ((List.dropLast_prefix items).subset hv)
        · rw [List.mem_singleton.mp hv]
          exact hitem.table _
      · cases hunder
    · cases hunder

theorem Distinct.assign? {path : KeyPath} {value : Located Value} {kind : TableKind} {entries more : Entries}
    (h : entries.Distinct) (hvalue : value.value.Distinct)
    (hassign : Entries.assign? path value kind entries = some more) : more.Distinct := by
  apply h.under? _ hassign
  intro kind old new hold hnew
  split at hnew
  · exact hold.add? hvalue hnew
  · cases hnew

theorem Distinct.openTable? {path : KeyPath} {span : Span} {root more : Entries} (h : root.Distinct)
    (hopen : Entries.openTable? path span root = some more) : more.Distinct := by
  apply h.under? _ hopen
  intro kind old new hold hnew
  split at hnew
  · rename_i hnone
    cases hnew
    exact hold.append (get?_eq_none.mp hnone) (Distinct.nil.table _)
  · rename_i span' body hget
    cases hnew
    exact hold.erase.append (notMem_erase _ _) ((distinct_of_table (hold.get? hget)).table _)
  · cases hnew

theorem Distinct.openElement? {path : KeyPath} {span : Span} {root more : Entries} (h : root.Distinct)
    (hopen : Entries.openElement? path span root = some more) : more.Distinct := by
  apply h.under? _ hopen
  intro kind old new hold hnew
  split at hnew
  · rename_i hnone
    cases hnew
    apply hold.append (get?_eq_none.mp hnone)
    apply Value.Distinct.array
    intro v hv
    rw [List.mem_singleton.mp hv]
    exact Distinct.nil.table _
  · rename_i first items hget
    cases hnew
    have hitems : ∀ v ∈ items, v.value.Distinct := by
      cases hold.get? hget with
      | array values => exact values
    apply hold.set
    apply Value.Distinct.array
    intro v hv
    rcases List.mem_append.mp hv with hv | hv
    · exact hitems v hv
    · rw [List.mem_singleton.mp hv]
      exact Distinct.nil.table _
  · cases hnew

end Entries

/-! ## Reading -/

/-- A value that was read has distinct keys. -/
theorem Value.Mentions.distinct {v : Value} {ms : List Mention} (h : v.Mentions ms) : v.Distinct := by
  induction h with
  | text s => exact .text s
  | scalar h => exact distinct_of_ofScalar? h
  | noItems => exact .array (by simp)
  | item _ _ hfront hlast =>
    cases hfront with
    | array values =>
      apply Distinct.array
      simpa [or_imp, forall_and] using ⟨values, hlast⟩
  | noEntries => exact Entries.Distinct.nil.table _
  | entry _ _ assigned hfront hlast => exact ((Entries.distinct_of_table hfront).assign? hlast assigned).table _

namespace Document

/-- What statements make that were read has distinct keys. -/
theorem Mentions.distinct {statements : List Statement} {current : List Key} {ms : List Mention}
    (h : Mentions statements current ms) {d : Draft} (hsteps : statements.foldlM Draft.step? ⟨[], []⟩ = some d) :
    d.root.Distinct := by
  induction h generalizing d with
  | nil =>
    cases hsteps
    exact .nil
  | table _ path span ih =>
    obtain ⟨mid, hmid, hstep⟩ := foldlM_step?_concat.mp hsteps
    obtain ⟨root, hroot, rfl⟩ := Option.map_eq_some_iff.mp hstep
    exact (ih hmid).openTable? hroot
  | element _ path span ih =>
    obtain ⟨mid, hmid, hstep⟩ := foldlM_step?_concat.mp hsteps
    obtain ⟨root, hroot, rfl⟩ := Option.map_eq_some_iff.mp hstep
    exact (ih hmid).openElement? hroot
  | assignment _ path value ih =>
    obtain ⟨mid, hmid, hstep⟩ := foldlM_step?_concat.mp hsteps
    obtain ⟨root, hroot, rfl⟩ := Option.map_eq_some_iff.mp hstep
    exact (ih hmid).under? (fun kind old new hold hnew => hold.assign? value.distinct hnew) hroot

/-- The keys of a document that is read are distinct, and so are those of all tables in it. -/
theorem distinct_of_parse? {text : String} {entries : Entries} (h : parse? text = some entries) : entries.Distinct := by
  rw [parse?_eq_bind, Option.bind_eq_some_iff] at h
  obtain ⟨statements, hstatements, h⟩ := h
  obtain ⟨d, hd, rfl⟩ := Option.map_eq_some_iff.mp h
  obtain ⟨current, ms, hms, -⟩ := exists_mentions_of_statements? hstatements
  exact hms.distinct hd

end Document

end ValueObjects.Toml

import Mathlib.Data.List.Basic
import ValueObjects.Manifest.Shape
import ValueObjects.Proofs.Results

/-!
# A walk through a document

Everything in a document that may keep it from being a manifest as one list: keys and values, from the first key of the
document on and inside each table before the next key, and at the end of the table of a value object whether it has an
inner type. A document is taken for a manifest exactly if nothing in the list offends; otherwise the first entry that
does is reported.
-/

namespace ValueObjects

open Toml (Value Key Entries)

/-! ## What is wanted -/

/-- Decide whether a value is of a wanted kind. -/
def Wanted.accepts : Wanted → Value → Bool
  | text, .text _ | path, .text _ | boolean, .boolean _ | table, .table _ _ | record _, .table _ _ => true
  | _, _ => false

/-- What is wanted for a key of a record. -/
def RecordKind.wanted? : RecordKind → String → Option Wanted
  | generator, "namespace" => some .text
  | generator, "output" => some .path
  | valueObject, "inner" => some .text
  | valueObject, "nullable" | valueObject, "default_value" | valueObject, "default_equality_comparer"
  | valueObject, "guid" => some .boolean
  | _, _ => none

/-! ## Visits -/

/-- One stop on the way through a document. -/
inductive Visit
  /-- A key of a table that has only certain keys. -/
  | key (k : Key) (known : List String)
  | value (wanted : Wanted) (v : Located Value)
  /-- The end of the table of a value object. -/
  | inner (span : Span) (entries : Entries)

namespace Visit

/-- Something is wrong there. -/
def Offends : Visit → Prop
  | key k known => k.value ∉ known
  | value wanted v => ¬ wanted.accepts v.value
  | inner _ entries => "inner" ∉ entries.map (·.1.value)

instance decidableOffends : (visit : Visit) → Decidable visit.Offends
  | key k known => inferInstanceAs (Decidable (k.value ∉ known))
  | value wanted v => inferInstanceAs (Decidable (¬ wanted.accepts v.value))
  | inner _ entries => inferInstanceAs (Decidable ("inner" ∉ entries.map (·.1.value)))

/-- What is reported if something is wrong there. A date is neither a record nor a table, but it is taken for one that
has a single key. -/
def report : Visit → ShapeError
  | key k known => ⟨k.span, .unknownKey k.value known⟩
  | value (.record kind) ⟨span, .dateTime _⟩ => ⟨span, .unknownKey Shape.dateKey kind.keys⟩
  | value .table ⟨span, .dateTime d⟩ => ⟨span, .wrongKind (.text d.text) (.record .valueObject)⟩
  | value wanted v => mismatch v wanted
  | inner span _ => ⟨span, .missingKey "inner"⟩

/-- A setting of a record: its key, and its value if the key means something. -/
def ofSetting (kind : RecordKind) : Key × Located Value → List Visit
  | (k, v) => key k kind.keys :: ((kind.wanted? k.value).map (value · v)).toList

/-- A record: that it is a table, and its settings one after another. -/
def ofRecord (kind : RecordKind) (v : Located Value) : List Visit :=
  value (.record kind) v ::
    match v.value with
    | .table _ entries => entries.flatMap (ofSetting kind) ++ if kind = .valueObject then [inner v.span entries] else []
    | _ => []

/-- The declarations of value objects: that they are a table, and the value objects one after another. -/
def ofDeclarations (v : Located Value) : List Visit :=
  value .table v ::
    match v.value with
    | .table _ entries => entries.flatMap fun (_, v) => ofRecord .valueObject v
    | _ => []

/-- A part of a manifest: its key, and what is under it if the key means something. -/
def ofPart : Key × Located Value → List Visit
  | (k, v) => key k Manifest.keys ::
    match k.value with
    | "generator" => ofRecord .generator v
    | "value_objects" => ofDeclarations v
    | _ => []

end Visit

/-- The way through a document, which is taken table by table in depth. -/
def Toml.Entries.walk (entries : Entries) : List Visit := entries.flatMap Visit.ofPart

/-! ## Searching -/

namespace Visit

/-- The report of the first visit where something is wrong. -/
def first? (visits : List Visit) : Option ShapeError := (visits.find? (·.Offends)).map report

theorem first?_append (vs ws : List Visit) : first? (vs ++ ws) = (first? vs).or (first? ws) := by
  rw [first?, List.find?_append]
  cases hfind : vs.find? (·.Offends) <;> simp [first?, hfind]

theorem first?_eq_some {visits : List Visit} {e : ShapeError} :
    first? visits = some e ↔ ∃ before visit after, visits = before ++ visit :: after
      ∧ (∀ w ∈ before, ¬ w.Offends) ∧ visit.Offends ∧ e = visit.report := by
  simp only [first?, Option.map_eq_some_iff, List.find?_eq_some_iff_append, decide_eq_true_eq, Bool.not_eq_true',
    decide_eq_false_iff_not]
  constructor
  · rintro ⟨visit, ⟨hoffends, before, after, hsplit, hbefore⟩, rfl⟩
    exact ⟨before, visit, after, hsplit, hbefore, hoffends, rfl⟩
  · rintro ⟨before, visit, after, hsplit, hbefore, hoffends, rfl⟩
    exact ⟨visit, ⟨hoffends, before, after, hsplit, hbefore⟩, rfl⟩

theorem first?_eq_none {visits : List Visit} : first? visits = none ↔ ∀ visit ∈ visits, ¬ visit.Offends := by
  simp [first?]

theorem first?_singleton (visit : Visit) : first? [visit] = if visit.Offends then some visit.report else none := by
  by_cases h : visit.Offends <;> simp [first?, h]

/-- Where nothing is wrong, one goes on. -/
theorem first?_cons_of_neg {visit : Visit} (h : ¬ visit.Offends) (visits : List Visit) :
    first? (visit :: visits) = first? visits := by
  simp [first?, h]

theorem first?_cons_of_pos {visit : Visit} (h : visit.Offends) (visits : List Visit) :
    first? (visit :: visits) = some visit.report := by
  simp [first?, h]

end Visit

/-! ## Computations that walk -/

open Visit

section Computations

variable {α β σ : Type}

theorem refusal?_bind {x : Except ShapeError α} {f : α → Except ShapeError β} {vs ws : List Visit}
    (hx : refusal? x = first? vs) (hf : ∀ a, x = .ok a → refusal? (f a) = first? ws) :
    refusal? (x >>= f) = first? (vs ++ ws) := by
  rw [first?_append, ← hx]
  cases x with
  | error e => rfl
  | ok a => exact hf a rfl

theorem refusal?_map (x : Except ShapeError α) (f : α → β) :
    refusal? (do return f (← x)) = refusal? x := by
  cases x <;> rfl

theorem refusal?_foldlM {step : σ → α → Except ShapeError σ} {visit : α → List Visit}
    {l : List α} (h : ∀ s, ∀ a ∈ l, refusal? (step s a) = first? (visit a)) (s : σ) :
    refusal? (l.foldlM step s) = first? (l.flatMap visit) := by
  induction l generalizing s with
  | nil => rfl
  | cons a l ih =>
    rw [List.foldlM_cons, List.flatMap_cons]
    exact refusal?_bind (h s a (by simp)) fun s _ => ih (fun s a ha => h s a (by simp [ha])) s

theorem refusal?_mapM {f : α → Except ShapeError β} {visit : α → List Visit} {l : List α}
    (h : ∀ a ∈ l, refusal? (f a) = first? (visit a)) : refusal? (l.mapM f) = first? (l.flatMap visit) := by
  induction l with
  | nil => rfl
  | cons a l ih =>
    rw [List.mapM_cons, List.flatMap_cons]
    refine refusal?_bind (h a (by simp)) fun b _ => ?_
    rw [refusal?_map]
    exact ih fun a ha => h a (by simp [ha])

end Computations

/-! ## Settings -/

namespace Shape

theorem refusal?_text (v : Located Value) : refusal? (text v) = first? [value .text v] := by
  rw [first?_singleton]
  unfold text
  split <;> simp_all [Offends, Wanted.accepts, report, refusal?]

theorem refusal?_path (v : Located Value) : refusal? (path v) = first? [value .path v] := by
  rw [first?_singleton]
  unfold path
  split <;> simp_all [Offends, Wanted.accepts, report, refusal?]

theorem refusal?_boolean (v : Located Value) : refusal? (boolean v) = first? [value .boolean v] := by
  rw [first?_singleton]
  unfold boolean
  split <;> simp_all [Offends, Wanted.accepts, report, refusal?]

/-- A record that is no array is read as its table is, if it is one. -/
theorem refusal?_record {α : Type} {kind : RecordKind} {ofEntries : Entries → Except ShapeError α}
    {ofItems : List (Located Value) → Except ShapeError α} {v : Located Value} {visits : Entries → List Visit}
    (harray : ∀ kind items, v.value ≠ .array kind items)
    (h : ∀ entries, refusal? (ofEntries entries) = first? (visits entries)) :
    refusal? (record kind ofEntries ofItems v) =
      first? (value (.record kind) v :: match v.value with | .table _ entries => visits entries | _ => []) := by
  obtain ⟨span, v⟩ := v
  cases v with
  | table tableKind entries =>
    have haccepted : ¬ (value (.record kind) ⟨span, .table tableKind entries⟩).Offends := by
      simp [Offends, Wanted.accepts]
    rw [first?_cons_of_neg haccepted]
    exact h entries
  | array arrayKind items => exact absurd rfl (harray arrayKind items)
  | _ =>
    rw [first?_cons_of_pos (by simp [Offends, Wanted.accepts])]
    rfl

end Shape

theorem GeneratorSettings.refusal?_withEntry (s : GeneratorSettings) (e : Key × Located Value) :
    refusal? (s.withEntry e) = first? (ofSetting .generator e) := by
  obtain ⟨key, v⟩ := e
  unfold withEntry ofSetting
  dsimp only
  split <;> rename_i hkey
  · rw [first?_cons_of_neg (by simp [Offends, hkey, RecordKind.keys]), refusal?_map, Shape.refusal?_text, hkey]
    rfl
  · rw [first?_cons_of_neg (by simp [Offends, hkey, RecordKind.keys]), refusal?_map, Shape.refusal?_path, hkey]
    rfl
  · rw [first?_cons_of_pos (by simp_all [Offends, RecordKind.keys])]
    rfl

namespace ValueObjectSettings

theorem Draft.refusal?_withEntry (d : Draft) (e : Key × Located Value) :
    refusal? (d.withEntry e) = first? (ofSetting .valueObject e) := by
  obtain ⟨key, v⟩ := e
  unfold withEntry ofSetting
  dsimp only
  split <;> rename_i hkey
  · rw [first?_cons_of_neg (by simp [Offends, hkey, RecordKind.keys]), refusal?_map, Shape.refusal?_text, hkey]
    rfl
  case h_6 =>
    rw [first?_cons_of_pos (by simp_all [Offends, RecordKind.keys])]
    rfl
  all_goals
    rw [first?_cons_of_neg (by simp [Offends, hkey, RecordKind.keys]), refusal?_map, Shape.refusal?_boolean, hkey]
    rfl

/-- Behind a setting there is an inner type if there was one in front of it or this was it. -/
theorem Draft.isSome_inner_withEntry {d d' : Draft} {e : Key × Located Value} (h : d.withEntry e = .ok d') :
    d'.inner.isSome ↔ d.inner.isSome ∨ e.1.value = "inner" := by
  obtain ⟨key, v⟩ := e
  unfold withEntry at h
  dsimp only at h ⊢
  split at h <;> simp_all only [bind_eq_ok, pure_eq_ok, reduceCtorEq]
  all_goals
    obtain ⟨x, -, rfl⟩ := h
    simp

theorem Draft.isSome_inner_foldlM {d d' : Draft} {entries : Entries} (h : entries.foldlM withEntry d = .ok d') :
    d'.inner.isSome ↔ d.inner.isSome ∨ "inner" ∈ entries.map (·.1.value) := by
  induction entries generalizing d with
  | nil =>
    cases h
    simp
  | cons e entries ih =>
    simp only [List.foldlM_cons, bind_eq_ok] at h
    obtain ⟨mid, hmid, h⟩ := h
    rw [ih h, isSome_inner_withEntry hmid, List.map_cons, List.mem_cons, or_assoc, @eq_comm _ e.1.value]

theorem Draft.refusal?_complete {d : Draft} {span : Span} {entries : Entries}
    (h : d.inner.isSome ↔ "inner" ∈ entries.map (·.1.value)) :
    refusal? (d.complete span) = first? [.inner span entries] := by
  unfold complete
  cases hinner : d.inner with
  | none =>
    have hmissing : (Visit.inner span entries).Offends := by simpa [Offends, hinner] using h
    rw [first?_cons_of_pos hmissing]
    rfl
  | some _ =>
    have hthere : ¬ (Visit.inner span entries).Offends := by simpa [Offends, hinner] using h
    rw [first?_cons_of_neg hthere]
    rfl

theorem refusal?_ofEntries (span : Span) (entries : Entries) :
    refusal? (ofEntries span entries) = first? (entries.flatMap (ofSetting .valueObject) ++ [.inner span entries]) := by
  refine refusal?_bind (refusal?_foldlM (fun d e _ => d.refusal?_withEntry e) _) fun d hd => Draft.refusal?_complete ?_
  rw [Draft.isSome_inner_foldlM hd]
  simp

theorem refusal?_ofValue {v : Located Value} (harray : ∀ kind items, v.value ≠ .array kind items) :
    refusal? (ofValue v) = first? (ofRecord .valueObject v) :=
  Shape.refusal?_record harray (refusal?_ofEntries v.span)

end ValueObjectSettings

theorem GeneratorSettings.refusal?_ofValue {v : Located Value} (harray : ∀ kind items, v.value ≠ .array kind items) :
    refusal? (ofValue v) = first? (ofRecord .generator v) := by
  refine Shape.refusal?_record harray fun entries => ?_
  rw [if_neg (by decide), List.append_nil]
  exact refusal?_foldlM (fun s e _ => s.refusal?_withEntry e) _

/-! ## Documents -/

/-- No array stands where a record is wanted. -/
def Toml.Entries.NoArrays (entries : Entries) : Prop :=
  ∀ e ∈ entries,
    (e.1.value = "generator" → ∀ kind items, e.2.value ≠ .array kind items)
      ∧ (e.1.value = "value_objects" → ∀ kind declared, e.2.value = .table kind declared →
        ∀ d ∈ declared, ∀ kind items, d.2.value ≠ .array kind items)

namespace Manifest

theorem refusal?_declarations {v : Located Value}
    (harrays : ∀ kind declared, v.value = .table kind declared →
      ∀ d ∈ declared, ∀ kind items, d.2.value ≠ .array kind items) :
    refusal? (declarations v) = first? (ofDeclarations v) := by
  obtain ⟨span, v⟩ := v
  unfold ofDeclarations
  cases v with
  | table kind declared =>
    rw [first?_cons_of_neg (by simp [Offends, Wanted.accepts])]
    refine refusal?_mapM fun e he => ?_
    rw [refusal?_map]
    exact ValueObjectSettings.refusal?_ofValue (harrays kind declared rfl e he)
  | _ =>
    rw [first?_cons_of_pos (by simp [Offends, Wanted.accepts])]
    rfl

/-- A document is taken for a manifest by walking through it. -/
theorem refusal?_ofEntries {entries : Entries} (h : entries.NoArrays) :
    refusal? (ofEntries entries) = first? entries.walk := by
  refine refusal?_foldlM (fun m e he => ?_) _
  obtain ⟨hgenerator, hdeclared⟩ := h e he
  obtain ⟨⟨span, name⟩, v⟩ := e
  rcases eq_or_ne name "generator" with rfl | hgen
  · have hstep : m.withEntry (⟨span, "generator"⟩, v) = do
        return { m with generator := ← GeneratorSettings.ofValue v } := rfl
    have hpart : ofPart (⟨span, "generator"⟩, v) = .key ⟨span, "generator"⟩ keys :: ofRecord .generator v := rfl
    rw [hstep, hpart, first?_cons_of_neg (by simp [Offends, keys]), refusal?_map]
    exact GeneratorSettings.refusal?_ofValue (hgenerator rfl)
  rcases eq_or_ne name "value_objects" with rfl | hobjects
  · have hstep : m.withEntry (⟨span, "value_objects"⟩, v) = do
        return { m with valueObjects := ← declarations v } := rfl
    have hpart : ofPart (⟨span, "value_objects"⟩, v) = .key ⟨span, "value_objects"⟩ keys :: ofDeclarations v := rfl
    rw [hstep, hpart, first?_cons_of_neg (by simp [Offends, keys]), refusal?_map]
    exact refusal?_declarations (hdeclared rfl)
  · have hunknown : (Visit.key ⟨span, name⟩ keys).Offends := by simp [Offends, keys, hgen, hobjects]
    rw [ofPart, first?_cons_of_pos hunknown]
    unfold withEntry
    dsimp only
    split
    · exact absurd rfl hgen
    · exact absurd rfl hobjects
    · rfl

end Manifest

/-! ## The declared shape -/

/-- A table has the settings of a value object: a text for the inner type, and besides it truth values only. -/
structure Toml.Entries.HasSettings (entries : Entries) : Prop where
  inner : ∃ s ∈ entries, s.1.value = "inner"
  settings : ∀ s ∈ entries, s.1.value = "inner" ∧ (∃ text, s.2.value = .text text)
    ∨ s.1.value ∈ ["nullable", "default_value", "default_equality_comparer", "guid"] ∧ ∃ b, s.2.value = .boolean b

/-- A document has the shape of a manifest. -/
structure Toml.Entries.Shaped (entries : Entries) : Prop where
  keys : ∀ e ∈ entries, e.1.value ∈ ["generator", "value_objects"]
  generator : ∀ e ∈ entries, e.1.value = "generator" → ∃ kind settings, e.2.value = .table kind settings
    ∧ ∀ s ∈ settings, s.1.value ∈ ["namespace", "output"] ∧ ∃ text, s.2.value = .text text
  valueObjects : ∀ e ∈ entries, e.1.value = "value_objects" → ∃ kind declared, e.2.value = .table kind declared
    ∧ ∀ d ∈ declared, ∃ kind settings, d.2.value = .table kind settings ∧ Toml.Entries.HasSettings settings

namespace Wanted

theorem accepts_text {v : Value} : text.accepts v ↔ ∃ s, v = .text s := by
  cases v <;> simp [accepts]

theorem accepts_path {v : Value} : path.accepts v ↔ ∃ s, v = .text s := by
  cases v <;> simp [accepts]

theorem accepts_boolean {v : Value} : boolean.accepts v ↔ ∃ b, v = .boolean b := by
  cases v <;> simp [accepts]

theorem accepts_table {v : Value} : table.accepts v ↔ ∃ kind entries, v = .table kind entries := by
  cases v <;> simp [accepts]

theorem accepts_record {kind : RecordKind} {v : Value} :
    (record kind).accepts v ↔ ∃ kind entries, v = .table kind entries := by
  cases v <;> simp [accepts]

end Wanted

namespace Visit

/-- Nothing is wrong with any visit. -/
def AllFine (visits : List Visit) : Prop := ∀ visit ∈ visits, ¬ visit.Offends

theorem allFine_ofSetting_generator {e : Key × Located Value} : AllFine (ofSetting .generator e) ↔
    e.1.value ∈ ["namespace", "output"] ∧ ∃ text, e.2.value = .text text := by
  obtain ⟨key, v⟩ := e
  unfold AllFine ofSetting
  by_cases hnamespace : key.value = "namespace"
  · simp [hnamespace, RecordKind.wanted?, RecordKind.keys, Offends, Wanted.accepts_text]
  by_cases houtput : key.value = "output"
  · simp [houtput, RecordKind.wanted?, RecordKind.keys, Offends, Wanted.accepts_path]
  · simp [hnamespace, houtput, RecordKind.keys, Offends]

theorem allFine_ofSetting_valueObject {e : Key × Located Value} : AllFine (ofSetting .valueObject e) ↔
    e.1.value = "inner" ∧ (∃ text, e.2.value = .text text)
      ∨ e.1.value ∈ ["nullable", "default_value", "default_equality_comparer", "guid"]
        ∧ ∃ b, e.2.value = .boolean b := by
  obtain ⟨key, v⟩ := e
  unfold AllFine ofSetting
  by_cases hinner : key.value = "inner"
  · simp [hinner, RecordKind.wanted?, RecordKind.keys, Offends, Wanted.accepts_text]
  by_cases hboolean : key.value ∈ ["nullable", "default_value", "default_equality_comparer", "guid"]
  · have hwanted : RecordKind.valueObject.wanted? key.value = some .boolean := by
      simp only [List.mem_cons, List.not_mem_nil, or_false] at hboolean
      rcases hboolean with h | h | h | h <;> rw [h] <;> rfl
    have hknown : key.value ∈ RecordKind.valueObject.keys := List.mem_cons_of_mem _ hboolean
    simp [hwanted, hknown, hinner, hboolean, Offends, Wanted.accepts_boolean]
  · have hunknown : key.value ∉ RecordKind.valueObject.keys := by simpa [RecordKind.keys, hinner] using hboolean
    simp [hinner, hboolean, hunknown, Offends]

theorem allFine_append {vs ws : List Visit} : AllFine (vs ++ ws) ↔ AllFine vs ∧ AllFine ws := List.forall_mem_append

theorem allFine_flatMap {α : Type} {visits : α → List Visit} {l : List α} :
    AllFine (l.flatMap visits) ↔ ∀ a ∈ l, AllFine (visits a) := List.forall_mem_flatMap

theorem allFine_key {key : Key} {known : List String} {visits : List Visit} :
    AllFine (Visit.key key known :: visits) ↔ key.value ∈ known ∧ AllFine visits := by
  simp [AllFine, Offends]

/-- Where a table is wanted, all is fine if there is one and all is fine in it. -/
theorem allFine_table {wanted : Wanted} (hwanted : ∀ v, wanted.accepts v ↔ ∃ kind entries, v = .table kind entries)
    {v : Located Value} {visits : Entries → List Visit} :
    AllFine (value wanted v :: match v.value with | .table _ entries => visits entries | _ => []) ↔
      ∃ kind entries, v.value = .table kind entries ∧ AllFine (visits entries) := by
  obtain ⟨span, v⟩ := v
  have haccepts := hwanted v
  cases v <;> simp_all [AllFine, Offends]

theorem allFine_ofRecord_generator {v : Located Value} : AllFine (ofRecord .generator v) ↔
    ∃ kind settings, v.value = .table kind settings
      ∧ ∀ s ∈ settings, s.1.value ∈ ["namespace", "output"] ∧ ∃ text, s.2.value = .text text := by
  refine (allFine_table fun _ => Wanted.accepts_record).trans ?_
  simp only [if_neg (show ¬ RecordKind.generator = .valueObject by decide), List.append_nil, allFine_flatMap,
    allFine_ofSetting_generator]

theorem allFine_ofRecord_valueObject {v : Located Value} : AllFine (ofRecord .valueObject v) ↔
    ∃ kind settings, v.value = .table kind settings ∧ Toml.Entries.HasSettings settings := by
  refine (allFine_table fun _ => Wanted.accepts_record).trans ?_
  have hinner : ∀ settings : Entries, AllFine [.inner v.span settings] ↔ ∃ s ∈ settings, s.1.value = "inner" := by
    simp [AllFine, Offends]
  simp only [if_true, allFine_append, allFine_flatMap, allFine_ofSetting_valueObject, hinner]
  exact exists_congr fun kind => exists_congr fun settings =>
    and_congr_right fun _ => ⟨fun h => ⟨h.2, h.1⟩, fun h => ⟨h.settings, h.inner⟩⟩

theorem allFine_ofDeclarations {v : Located Value} : AllFine (ofDeclarations v) ↔
    ∃ kind declared, v.value = .table kind declared
      ∧ ∀ d ∈ declared, ∃ kind settings, d.2.value = .table kind settings ∧ Toml.Entries.HasSettings settings := by
  refine (allFine_table fun _ => Wanted.accepts_table).trans ?_
  simp only [allFine_flatMap, allFine_ofRecord_valueObject]

/-- On the way through a document nothing is wrong exactly if it has the shape of a manifest. -/
theorem allFine_walk {entries : Entries} : AllFine entries.walk ↔ entries.Shaped := by
  have hpart : ∀ e : Key × Located Value, AllFine (ofPart e) ↔ e.1.value ∈ ["generator", "value_objects"]
      ∧ (e.1.value = "generator" → AllFine (ofRecord .generator e.2))
      ∧ (e.1.value = "value_objects" → AllFine (ofDeclarations e.2)) := by
    rintro ⟨key, v⟩
    rw [ofPart, allFine_key, Manifest.keys]
    refine and_congr_right fun _ => ?_
    dsimp only
    split <;> rename_i hkey
    · simp [hkey]
    · simp [hkey]
    · simp_all [AllFine]
  simp only [Toml.Entries.walk, allFine_flatMap, hpart, allFine_ofRecord_generator, allFine_ofDeclarations]
  constructor
  · intro h
    exact ⟨fun e he => (h e he).1, fun e he => (h e he).2.1, fun e he => (h e he).2.2⟩
  · intro h e he
    exact ⟨h.keys e he, h.generator e he, h.valueObjects e he⟩

end Visit

/-! ## Decoding -/

namespace Manifest

variable {entries : Entries}

/-- A document is a manifest exactly if it has the shape of one. -/
theorem exists_ofEntries_iff (h : entries.NoArrays) : (∃ m, ofEntries entries = .ok m) ↔ entries.Shaped := by
  have hok : (∃ m, ofEntries entries = .ok m) ↔ refusal? (ofEntries entries) = none := by
    cases ofEntries entries <;> simp [refusal?]
  rw [hok, refusal?_ofEntries h, first?_eq_none, ← allFine_walk]
  rfl

/-- The first visit where something is wrong is reported. -/
theorem ofEntries_eq_error (h : entries.NoArrays) {e : ShapeError} :
    ofEntries entries = .error e ↔ ∃ before visit after, entries.walk = before ++ visit :: after
      ∧ (∀ w ∈ before, ¬ w.Offends) ∧ visit.Offends ∧ e = visit.report := by
  have herror : ofEntries entries = .error e ↔ refusal? (ofEntries entries) = some e := by
    cases ofEntries entries <;> simp [refusal?]
  rw [herror, refusal?_ofEntries h, first?_eq_some]

end Manifest

end ValueObjects

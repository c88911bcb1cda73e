import Mathlib.Data.List.Induction
import ValueObjects.Proofs.Toml.DistinctKeys

/-!
# The order of keys

In every table of a document the keys come in the order in which the text mentions them first. There is one exception:
a table that was only implied by what is inside it goes to the end when its own header follows. The same holds in tables
that are written as values, where there are no headers.
-/

namespace ValueObjects.Toml

/-! ## Orders -/

namespace Mention

/-- The first key of a mention, and whether it is the header of the table under this key. -/
def head : Mention → Key × Bool
  | ⟨⟨[], last⟩, own⟩ => (last, own)
  | ⟨⟨first :: _, _⟩, _⟩ => (first, false)

/-- What is mentioned of the table under a key. -/
def inside? (name : String) : Mention → Option Mention
  | ⟨⟨[], _⟩, _⟩ => none
  | ⟨⟨first :: front, last⟩, own⟩ => if first.value = name then some ⟨⟨front, last⟩, own⟩ else none

/-- What is mentioned of the table under a key, in order. -/
def inside (name : String) (ms : List Mention) : List Mention := ms.filterMap (inside? name)

/-- The next key comes behind the others, if it is not among them. With its own header it does so anyway. -/
def enter (keys : List Key) : Key × Bool → List Key
  | (key, false) => if key.value ∈ keys.map (·.value) then keys else keys ++ [key]
  | (key, true) => keys.filter (·.value != key.value) ++ [key]

/-- The keys of the table that mentions are meant in. -/
def order (ms : List Mention) : List Key := (ms.map head).foldl enter []

/-! ## Mentions of a single key -/

@[simp] theorem head_under (key : Key) (path : List Key) (m : Mention) : (m.under (key :: path)).head = (key, false) :=
  rfl

@[simp] theorem inside?_under (name : String) (key : Key) (path : List Key) (m : Mention) :
    (m.under (key :: path)).inside? name = if key.value = name then some (m.under path) else none :=
  rfl

/-- The mentions are of one key or of what is inside its table, and none is its header. -/
def AllOf (key : Key) (ms : List Mention) : Prop := ∀ m ∈ ms, m.head = (key, false)

theorem allOf_map_under (key : Key) (path : List Key) (ms : List Mention) :
    AllOf key (ms.map (·.under (key :: path))) := by
  simp [AllOf]

theorem allOf_mentions (key : Key) (vs : List Mention) : AllOf key (KeyPath.mentions ⟨[], key⟩ vs) :=
  List.forall_mem_cons.mpr ⟨rfl, allOf_map_under key [] vs⟩

/-- A key with dots is mentioned where the keys in front of its last one lead. -/
theorem map_under_single (path : KeyPath) (own : Bool) :
    [(⟨⟨[], path.last⟩, own⟩ : Mention)].map (·.under path.front) = [⟨path, own⟩] := by
  simp [under]

theorem map_under_mentions (path : KeyPath) (vs : List Mention) :
    (KeyPath.mentions ⟨[], path.last⟩ vs).map (·.under path.front) = path.mentions vs := by
  simp [KeyPath.mentions, KeyPath.keys, under]

/-- What has a name is mentioned inside it only. -/
theorem inside_eq_nil {name : String} {ms : List Mention} (h : ∀ m ∈ ms, m.head.1.value ≠ name) :
    inside name ms = [] := by
  refine List.filterMap_eq_nil_iff.mpr fun m hm => ?_
  obtain ⟨⟨front, last⟩, own⟩ := m
  cases front with
  | nil => rfl
  | cons first front => exact if_neg (h _ hm)

theorem inside_append (name : String) (ms ns : List Mention) :
    inside name (ms ++ ns) = inside name ms ++ inside name ns :=
  List.filterMap_append

theorem inside_map_under (key : Key) (path : List Key) (ms : List Mention) :
    inside key.value (ms.map (·.under (key :: path))) = ms.map (·.under path) := by
  induction ms with
  | nil => rfl
  | cons m ms ih => simpa [inside] using ih

theorem inside_mentions (key : Key) (vs : List Mention) : inside key.value (KeyPath.mentions ⟨[], key⟩ vs) = vs := by
  have hvs := inside_map_under key [] vs
  simp only [under, List.nil_append, List.map_id'] at hvs
  exact hvs

theorem AllOf.inside_ne {key : Key} {ms : List Mention} (h : AllOf key ms) {name : String} (hname : name ≠ key.value) :
    inside name ms = [] :=
  inside_eq_nil fun m hm => by rw [h m hm]; exact hname.symm

/-! ## Names -/

theorem order_append (ms ns : List Mention) : order (ms ++ ns) = (ns.map head).foldl enter (order ms) := by
  simp [order]

theorem mem_names_enter {name : String} {keys : List Key} {h : Key × Bool} :
    name ∈ (enter keys h).map (·.value) ↔ name ∈ keys.map (·.value) ∨ name = h.1.value := by
  obtain ⟨key, own⟩ := h
  cases own with
  | false =>
    by_cases hmem : key.value ∈ keys.map (·.value)
    · simp only [enter, hmem, if_true]
      exact ⟨.inl, fun h => h.elim id fun h => h ▸ hmem⟩
    · simp [enter, hmem]
  | true =>
    by_cases hname : name = key.value
    · simp [enter, hname]
    · simp only [enter, List.map_append, List.mem_append, List.mem_map, List.mem_filter, hname, or_false]
      simp only [List.mem_singleton, exists_eq_left, Ne.symm hname, or_false]
      refine exists_congr fun k => ⟨fun h => ⟨h.1.1, h.2⟩, fun h => ⟨⟨h.1, ?_⟩, h.2⟩⟩
      simpa [h.2] using hname

/-- The names in the order of keys are those that are mentioned. -/
theorem mem_names_order {name : String} {ms : List Mention} :
    name ∈ (order ms).map (·.value) ↔ ∃ m ∈ ms, m.head.1.value = name := by
  induction ms using List.reverseRecOn with
  | nil => simp [order]
  | append_singleton ms m ih =>
    rw [order_append, List.map_singleton, List.foldl_cons, List.foldl_nil, mem_names_enter, ih]
    simp [or_and_right, exists_or, eq_comm]

theorem nodup_enter {keys : List Key} (h : (keys.map (·.value)).Nodup) (next : Key × Bool) :
    ((enter keys next).map (·.value)).Nodup := by
  obtain ⟨key, own⟩ := next
  have hconcat : ∀ front : List Key, (front.map (·.value)).Nodup → key.value ∉ front.map (·.value) →
      ((front ++ [key]).map (·.value)).Nodup := by
    intro front hfront hnew
    rw [List.map_append, List.map_singleton, List.nodup_append]
    refine ⟨hfront, by simp, ?_⟩
    rintro a ha b hb rfl
    exact hnew (List.mem_singleton.mp hb ▸ ha)
  cases own with
  | false =>
    by_cases hmem : key.value ∈ keys.map (·.value)
    · rwa [enter, if_pos hmem]
    · rw [enter, if_neg hmem]
      exact hconcat keys h hmem
  | true => exact hconcat _ (h.sublist (List.filter_sublist.map _)) (by simp)

theorem nodup_order (ms : List Mention) : ((order ms).map (·.value)).Nodup := by
  induction ms using List.reverseRecOn with
  | nil => exact List.nodup_nil
  | append_singleton ms m ih =>
    rw [order_append]
    exact nodup_enter ih m.head

/-! ## Next keys -/

/-- What has its place keeps it. -/
theorem foldl_enter_of_mem {key : Key} {keys : List Key} (h : key.value ∈ keys.map (·.value)) {ns : List Mention}
    (hns : AllOf key ns) : (ns.map head).foldl enter keys = keys := by
  induction ns with
  | nil => rfl
  | cons n ns ih =>
    rw [AllOf, List.forall_mem_cons] at hns
    rw [List.map_cons, List.foldl_cons, hns.1, enter, if_pos h]
    exact ih hns.2

/-- What is mentioned the first time comes last. -/
theorem foldl_enter_of_notMem {key : Key} {keys : List Key} (h : key.value ∉ keys.map (·.value)) {ns : List Mention}
    (hnone : ns ≠ []) (hns : AllOf key ns) : (ns.map head).foldl enter keys = keys ++ [key] := by
  obtain ⟨n, ns, rfl⟩ := List.exists_cons_of_ne_nil hnone
  rw [AllOf, List.forall_mem_cons] at hns
  rw [List.map_cons, List.foldl_cons, hns.1, enter, if_neg h]
  exact foldl_enter_of_mem (by simp) hns.2

end Mention

namespace Entries

open Mention

/-- The keys of a table come in the order of mentions, and so do those of all tables inside it. -/
inductive Follows : Entries → List Mention → Prop
  | intro {entries : Entries} {ms : List Mention} (keys : entries.map (·.1) = order ms)
    (tables : ∀ e ∈ entries, ∀ kind body, e.2.value = .table kind body → Follows body (inside e.1.value ms)) :
    Follows entries ms

variable {entries more : Entries} {ms ns : List Mention} {key : Key} {v : Located Value}

theorem Follows.nil : Follows [] [] := ⟨rfl, by simp⟩

theorem Follows.keys (h : entries.Follows ms) : entries.map (·.1) = order ms := by
  cases h with
  | intro keys tables => exact keys

theorem Follows.tables (h : entries.Follows ms) {e : Key × Located Value} (he : e ∈ entries) {kind : TableKind}
    {body : Entries} (hvalue : e.2.value = .table kind body) : body.Follows (inside e.1.value ms) := by
  cases h with
  | intro keys tables => exact tables e he kind body hvalue

theorem Follows.names (h : entries.Follows ms) : entries.map (·.1.value) = (order ms).map (·.value) := by
  rw [← h.keys, List.map_map]
  rfl

/-- The table under a key follows what is mentioned of it. -/
theorem Follows.get? (h : entries.Follows ms) {name : String} {span : Span} {kind : TableKind} {body : Entries}
    (hget : Entries.get? name entries = some ⟨span, .table kind body⟩) : body.Follows (inside name ms) := by
  obtain ⟨key, hmem, rfl⟩ := mem_of_get? hget
  exact h.tables hmem rfl

/-- What is not there has not been mentioned. -/
theorem Follows.inside_of_notMem (h : entries.Follows ms) {name : String} (hnew : name ∉ entries.map (·.1.value)) :
    inside name ms = [] := by
  rw [h.names, mem_names_order] at hnew
  exact inside_eq_nil fun m hm heq => hnew ⟨m, hm, heq⟩

/-! ## Single keys -/

/-- An entry may be added when its key is mentioned the first time. -/
theorem Follows.append (h : entries.Follows ms) (hnew : key.value ∉ entries.map (·.1.value)) (hnone : ns ≠ [])
    (hns : AllOf key ns) (hvalue : ∀ kind body, v.value = .table kind body → Follows body (inside key.value ns)) :
    Follows (entries ++ [(key, v)]) (ms ++ ns) := by
  constructor
  · have hkeys : key.value ∉ (order ms).map (·.value) := h.names ▸ hnew
    rw [List.map_append, h.keys, order_append, foldl_enter_of_notMem hkeys hnone hns]
    rfl
  · intro e he kind body hbody
    rw [inside_append]
    rcases List.mem_append.mp he with he | he
    · have hne : e.1.value ≠ key.value := fun heq => hnew (heq ▸ List.mem_map_of_mem he)
      rw [hns.inside_ne hne, List.append_nil]
      exact h.tables he hbody
    · obtain rfl := List.mem_singleton.mp he
      rw [h.inside_of_notMem hnew]
      exact hvalue kind body hbody

theorem mem_names_of_get? {name : String} {value : Located Value} (h : Entries.get? name entries = some value) :
    name ∈ entries.map (·.1.value) := by
  obtain ⟨key, hmem, rfl⟩ := mem_of_get? h
  exact List.mem_map.mpr ⟨_, hmem, rfl⟩

theorem erase_of_notMem {name : String} (h : name ∉ entries.map (·.1.value)) : entries.erase name = entries := by
  refine List.filter_eq_self.mpr fun e he => ?_
  simp only [bne_iff_ne, ne_eq]
  exact fun heq => h (heq ▸ List.mem_map_of_mem he)

/-- A value may be changed when its key is mentioned again. -/
theorem Follows.set (h : entries.Follows ms) (hold : key.value ∈ entries.map (·.1.value)) (hns : AllOf key ns)
    (hvalue : ∀ kind body, v.value = .table kind body → Follows body (inside key.value (ms ++ ns))) :
    Follows (Entries.set key.value v entries) (ms ++ ns) := by
  constructor
  · rw [map_fst_set, h.keys, order_append, foldl_enter_of_mem (h.names ▸ hold) hns]
  · intro e he kind body hbody
    rcases mem_set_of_nodup (h.names ▸ nodup_order ms) he with ⟨hkey, rfl⟩ | ⟨hne, he⟩
    · rw [hkey]
      exact hvalue kind body hbody
    · rw [inside_append, hns.inside_ne hne, List.append_nil]
      exact h.tables he hbody

/-- A header of its own puts a table to the end. -/
theorem Follows.move (h : entries.Follows ms)
    (hvalue : ∀ kind body, v.value = .table kind body → Follows body (inside key.value ms)) :
    Follows (entries.erase key.value ++ [(key, v)]) (ms ++ [⟨⟨[], key⟩, true⟩]) := by
  constructor
  · rw [List.map_append, order_append, ← h.keys]
    simp only [erase, List.map_cons, List.map_nil, List.foldl_cons, List.foldl_nil, head, enter, List.filter_map]
    rfl
  · intro e he kind body hbody
    have hown : inside e.1.value [⟨⟨[], key⟩, true⟩] = [] := rfl
    rw [inside_append, hown, List.append_nil]
    rcases List.mem_append.mp he with he | he
    · exact h.tables (List.mem_filter.mp he).1 hbody
    · obtain rfl := List.mem_singleton.mp he
      exact hvalue kind body hbody

/-! ## Paths -/

/-- A change that follows what is mentioned where a path leads follows it above as well. -/
theorem Follows.under? {dots : Bool} {change : TableKind → Entries → Option Entries} (hnone : ns ≠ [])
    (hchange : ∀ kind old new ms, Follows old ms → change kind old = some new → Follows new (ms ++ ns))
    {path : List Key} {kind : TableKind} (h : entries.Follows ms)
    (hunder : Entries.under? dots change path kind entries = some more) :
    more.Follows (ms ++ ns.map (·.under path)) := by
  induction path generalizing kind entries more ms with
  | nil =>
    have hns : ns.map (·.under []) = ns := List.map_id' ns
    rw [hns]
    exact hchange kind entries more ms h hunder
  | cons key path ih =>
    have hmap : ns.map (·.under (key :: path)) ≠ [] := by simpa using hnone
    have hall := allOf_map_under key path ns
    simp only [Entries.under?] at hunder
    split at hunder
    · -- the table is mentioned the first time
      rename_i hget
      simp only [bind, Option.bind_eq_some_iff, pure, Option.some.injEq] at hunder
      obtain ⟨body, hbody, rfl⟩ := hunder
      refine h.append (get?_eq_none.mp hget) hmap hall fun _ _ hvalue => ?_
      cases hvalue
      rw [inside_map_under]
      exact ih .nil hbody
    · rename_i span kind body hget
      split at hunder
      · cases hunder
      · simp only [bind, Option.bind_eq_some_iff, pure, Option.some.injEq] at hunder
        obtain ⟨body', hbody, rfl⟩ := hunder
        refine h.set (mem_names_of_get? hget) hall fun _ _ hvalue => ?_
        cases hvalue
        rw [inside_append, inside_map_under]
        exact ih (h.get? hget) hbody
    · -- nothing is said about the tables of a list
      rename_i span items hget
      split at hunder
      · simp only [bind, Option.bind_eq_some_iff, pure, Option.some.injEq] at hunder
        obtain ⟨body', -, rfl⟩ := hunder
        exact h.set (mem_names_of_get? hget) hall (by simp)
      · cases hunder
    · cases hunder

theorem Follows.assign? {path : KeyPath} {kind : TableKind} {vs : List Mention} (h : entries.Follows ms)
    (hvalue : ∀ kind body, v.value = .table kind body → Follows body vs)
    (hassign : Entries.assign? path v kind entries = some more) : more.Follows (ms ++ path.mentions vs) := by
  rw [← map_under_mentions]
  refine h.under? (by simp [KeyPath.mentions]) (fun kind old new ms hold hnew => ?_) hassign
  split at hnew
  · unfold Entries.add? at hnew
    split at hnew
    · cases hnew
    · rename_i hget
      cases hnew
      refine hold.append (get?_eq_none.mp hget) (by simp [KeyPath.mentions]) (allOf_mentions path.last vs) ?_
      rwa [inside_mentions]
  · cases hnew

theorem Follows.openTable? {path : KeyPath} {span : Span} (h : entries.Follows ms)
    (hopen : Entries.openTable? path span entries = some more) : more.Follows (ms ++ [⟨path, true⟩]) := by
  rw [← map_under_single]
  refine h.under? (by simp) (fun kind old new ms hold hnew => ?_) hopen
  split at hnew
  · rename_i hget
    have hnotMem := get?_eq_none.mp hget
    cases hnew
    rw [← erase_of_notMem hnotMem]
    refine hold.move fun _ _ hvalue => ?_
    cases hvalue
    rw [hold.inside_of_notMem hnotMem]
    exact .nil
  · rename_i hget
    cases hnew
    refine hold.move fun _ _ hvalue => ?_
    cases hvalue
    exact hold.get? hget
  · cases hnew

theorem Follows.openElement? {path : KeyPath} {span : Span} (h : entries.Follows ms)
    (hopen : Entries.openElement? path span entries = some more) : more.Follows (ms ++ [⟨path, false⟩]) := by
  have hall : AllOf path.last [⟨⟨[], path.last⟩, false⟩] := by simp [AllOf, head]
  rw [← map_under_single]
  refine h.under? (by simp) (fun kind old new ms hold hnew => ?_) hopen
  split at hnew
  · rename_i hget
    cases hnew
    exact hold.append (get?_eq_none.mp hget) (by simp) hall (by simp)
  · rename_i hget
    cases hnew
    exact hold.set (mem_names_of_get? hget) hall (by simp)
  · cases hnew

end Entries

/-! ## Reading -/

theorem Value.ofScalar?_ne_table {cs : List Char} {v : Value} (h : Value.ofScalar? cs = some v) (kind : TableKind)
    (body : Entries) : v ≠ .table kind body := by
  unfold ofScalar? at h
  rintro rfl
  split at h
  · cases h
  · split at h
    · cases h
    · simp at h

/-- A table that is written as a value follows what is mentioned in it. -/
theorem Value.Mentions.follows {v : Value} {ms : List Mention} (h : v.Mentions ms) :
    ∀ kind body, v = .table kind body → Entries.Follows body ms := by
  induction h with
  | text => simp
  | scalar h => exact fun kind body heq => absurd heq (ofScalar?_ne_table h kind body)
  | noItems => simp
  | item => simp
  | noEntries =>
    rintro kind body ⟨⟩
    exact .nil
  | entry _ _ assigned hfront hlast =>
    rintro kind body ⟨⟩
    exact (hfront _ _ rfl).assign? hlast assigned

namespace Document

/-- What statements make follows what they mention. -/
theorem Mentions.follows {statements : List Statement} {current : List Key} {ms : List Mention}
    (h : Mentions statements current ms) {d : Draft} (hsteps : statements.foldlM Draft.step? ⟨[], []⟩ = some d) :
    d.current = current ∧ d.root.Follows ms := by
  induction h generalizing d with
  | nil =>
    cases hsteps
    exact ⟨rfl, .nil⟩
  | table _ path span ih =>
    obtain ⟨mid, hmid, hstep⟩ := foldlM_step?_concat.mp hsteps
    obtain ⟨root, hroot, rfl⟩ := Option.map_eq_some_iff.mp hstep
    exact ⟨rfl, (ih hmid).2.openTable? hroot⟩
  | element _ path span ih =>
    obtain ⟨mid, hmid, hstep⟩ := foldlM_step?_concat.mp hsteps
    obtain ⟨root, hroot, rfl⟩ := Option.map_eq_some_iff.mp hstep
    exact ⟨rfl, (ih hmid).2.openElement? hroot⟩
  | assignment _ path value ih =>
    obtain ⟨mid, hmid, hstep⟩ := foldlM_step?_concat.mp hsteps
    obtain ⟨root, hroot, rfl⟩ := Option.map_eq_some_iff.mp hstep
    obtain ⟨rfl, hfollows⟩ := ih hmid
    refine ⟨rfl, hfollows.under? (by simp [KeyPath.mentions]) (fun kind old new ms hold hnew => ?_) hroot⟩
    exact hold.assign? value.follows hnew

/-- In a document that is read the keys follow what its text mentions. -/
theorem exists_follows_of_parse? {text : String} {entries : Entries} (h : parse? text = some entries) :
    ∃ ms, TextMentions text ms ∧ (ms.map (·.place.offset)).Pairwise (· < ·) ∧ entries.Follows ms := by
  rw [parse?_eq_bind, Option.bind_eq_some_iff] at h
  obtain ⟨statements, hstatements, h⟩ := h
  obtain ⟨d, hd, rfl⟩ := Option.map_eq_some_iff.mp h
  obtain ⟨current, ms, hms, hsorted⟩ := exists_mentions_of_statements? hstatements
  exact ⟨ms, ⟨statements, current, hstatements, hms⟩, hsorted, (hms.follows hd).2⟩

end Document

end ValueObjects.Toml

import ValueObjects.Toml.Document

/-!
# Mentioned keys

What a document is made of: the keys with dots that stand in its text, one behind the other, in headers, in front of
values, and in tables that are written as values. Such a table is what its assignments make of an empty one, as a
document is what its statements make. Reading finds the keys in the order of the text.
-/

namespace ValueObjects.Toml

/-! ## Mentions -/

/-- A key with dots that stands in a text, behind the keys of the tables that it is meant in. -/
structure Mention extends KeyPath where
  /-- It stands in a header in single brackets, so it is the table's own. -/
  own : Bool

namespace Mention

/-- A mention is meant in a table that some keys lead to. -/
def under (path : List Key) (m : Mention) : Mention := { m with front := path ++ m.front }

/-- The place of a mention is that of its last key. -/
def place (m : Mention) : Span := m.last.span

@[simp] theorem place_under (path : List Key) (m : Mention) : (m.under path).place = m.place := rfl

/-- The places of mentions. -/
def places (ms : List Mention) : List Span := ms.map place

@[simp] theorem places_nil : places [] = [] := rfl

@[simp] theorem places_cons (m : Mention) (ms : List Mention) : places (m :: ms) = m.place :: places ms := rfl

@[simp] theorem places_append (ms ns : List Mention) : places (ms ++ ns) = places ms ++ places ns := List.map_append

@[simp] theorem places_map_under (path : List Key) (ms : List Mention) :
    places (ms.map (·.under path)) = places ms := by
  simp [places, Function.comp_def]

end Mention

/-- A key that a value is assigned to, with the keys that the value mentions. -/
def KeyPath.mentions (path : KeyPath) (inside : List Mention) : List Mention :=
  ⟨path, false⟩ :: inside.map (·.under path.keys)

@[simp] theorem KeyPath.places_mentions (path : KeyPath) (inside : List Mention) :
    Mention.places (path.mentions inside) = path.last.span :: Mention.places inside := by
  simp [mentions, Mention.place]

/-- A value was read, and these are the keys in it, in order. Those in the items of an array are not told apart by
item. -/
inductive Value.Mentions : Value → List Mention → Prop
  | text (s : String) : Mentions (.text s) []
  | scalar {cs : List Char} {v : Value} (h : Value.ofScalar? cs = some v) : Mentions v []
  | noItems : Mentions (.array .written []) []
  | item {items : List (Located Value)} {v : Located Value} {ms vs : List Mention}
    (front : Mentions (.array .written items) ms) (last : Mentions v.value vs) :
    Mentions (.array .written (items ++ [v])) (ms ++ vs)
  | noEntries : Mentions (.table .written []) []
  | entry {entries more : Entries} {path : KeyPath} {v : Located Value} {ms vs : List Mention}
    (front : Mentions (.table .written entries) ms) (last : Mentions v.value vs)
    (assigned : entries.assign? path v .written = some more) :
    Mentions (.table .written more) (ms ++ path.mentions vs)

/-- A value was read, and the keys in it have some places. -/
def Value.At (v : Value) (ps : List Span) : Prop := ∃ ms, v.Mentions ms ∧ ps = Mention.places ms

/-- Statements were read, and these are the keys in them, in order, each with the keys of the header that it stands
below. The keys of the last header come second. -/
inductive Document.Mentions : List Statement → List Key → List Mention → Prop
  | nil : Mentions [] [] []
  | table {statements : List Statement} {current : List Key} {ms : List Mention}
    (front : Mentions statements current ms) (path : KeyPath) (span : Span) :
    Mentions (statements ++ [.table path span]) path.keys (ms ++ [⟨path, true⟩])
  | element {statements : List Statement} {current : List Key} {ms : List Mention}
    (front : Mentions statements current ms) (path : KeyPath) (span : Span) :
    Mentions (statements ++ [.element path span]) path.keys (ms ++ [⟨path, false⟩])
  | assignment {statements : List Statement} {current : List Key} {ms vs : List Mention}
    (front : Mentions statements current ms) (path : KeyPath) {v : Located Value} (value : v.value.Mentions vs) :
    Mentions (statements ++ [.assignment path v]) current (ms ++ (path.mentions vs).map (·.under current))

/-! ## Tokens -/

/-- Tokens, the latest first, begin one behind the other and in front of an offset. -/
structure TokensBefore (tokens : List (Located Token)) (bound : Nat) : Prop where
  sorted : tokens.Pairwise fun later earlier => earlier.span.offset < later.span.offset
  before : ∀ t ∈ tokens, t.span.offset < bound

namespace TokensBefore

variable {tokens : List (Located Token)} {bound start : Nat}

theorem nil (bound : Nat) : TokensBefore [] bound := ⟨.nil, by simp⟩

theorem mono (h : TokensBefore tokens start) (hle : start ≤ bound) : TokensBefore tokens bound :=
  ⟨h.sorted, fun t ht => Nat.lt_of_lt_of_le (h.before t ht) hle⟩

theorem cons {t : Located Token} (h : TokensBefore tokens t.span.offset) (hlt : t.span.offset < bound) :
    TokensBefore (t :: tokens) bound :=
  ⟨List.pairwise_cons.mpr ⟨h.before, h.sorted⟩,
    List.forall_mem_cons.mpr ⟨hlt, fun u hu => Nat.lt_trans (h.before u hu) hlt⟩⟩

end TokensBefore

namespace Scanner

/-- The invariant of scanning: the tokens so far begin in front of what is being read, which has begun. -/
def InOrder (s : Scanner) : Prop :=
  match s.mode with
  | .word start _ | .quoted start _ => TokensBefore s.tokens start ∧ start < s.offset
  | _ => TokensBefore s.tokens s.offset

theorem inOrder_begin {s : Scanner} (h : TokensBefore s.tokens s.offset) (c : Char) : (s.begin c).InOrder := by
  have hlt : s.offset < s.offset + c.utf8Size := Nat.lt_add_of_pos_right c.utf8Size_pos
  have hsingle : ∀ token, (s.single c token).InOrder := fun token => h.cons hlt
  have hmono := h.mono (Nat.le_of_lt hlt)
  unfold begin
  split
  · exact hsingle _
  · split
    · exact hsingle _
    · split
      · exact hsingle _
      · split
        · exact hsingle _
        · split
          · exact hmono
          · split
            · exact hmono
            · split
              · exact ⟨h, hlt⟩
              · exact ⟨h, hlt⟩

/-- One character keeps the order of the tokens. -/
theorem InOrder.step? {s s' : Scanner} (h : s.InOrder) {c : Char} (hstep : s.step? c = some s') : s'.InOrder := by
  have hlt : s.offset < s.offset + c.utf8Size := Nat.lt_add_of_pos_right c.utf8Size_pos
  unfold InOrder at h
  unfold Scanner.step? at hstep
  cases hmode : s.mode with
  | between =>
    simp only [hmode] at h hstep
    cases hstep
    exact inOrder_begin h c
  | word start reversed =>
    simp only [hmode] at h hstep
    split at hstep <;> cases hstep
    · exact ⟨h.1, Nat.lt_trans h.2 hlt⟩
    · exact inOrder_begin (h.1.cons h.2) c
  | quoted start q =>
    simp only [hmode] at h hstep
    split at hstep <;> cases hstep
    · exact ⟨h.1, Nat.lt_trans h.2 hlt⟩
    · exact h.1.cons (Nat.lt_trans h.2 hlt)
    · exact inOrder_begin (h.1.cons h.2) c
  | comment =>
    simp only [hmode] at h hstep
    split at hstep
    · cases hstep
      exact h.cons hlt
    split at hstep
    · cases hstep
      exact h.mono (Nat.le_of_lt hlt)
    split at hstep <;> cases hstep
    have hcomment : (s.advance c).mode = .comment := hmode
    simp only [InOrder, hcomment]
    exact h.mono (Nat.le_of_lt hlt)
  | lineReturn =>
    simp only [hmode] at h hstep
    split at hstep <;> cases hstep
    exact h.cons hlt

/-- Any number of characters keep the order of the tokens. -/
theorem InOrder.steps {s s' : Scanner} (h : s.InOrder) {cs : List Char} (hsteps : cs.foldlM Scanner.step? s = some s') :
    s'.InOrder := by
  induction cs generalizing s with
  | nil =>
    cases hsteps
    exact h
  | cons c cs ih =>
    simp only [List.foldlM_cons, bind, Option.bind_eq_some_iff] at hsteps
    obtain ⟨mid, hmid, hsteps⟩ := hsteps
    exact ih (h.step? hmid) hsteps

theorem InOrder.finish? {s s' : Scanner} (h : s.InOrder) (hfinish : s.finish? = some s') :
    TokensBefore s'.tokens s'.offset := by
  unfold InOrder at h
  unfold Scanner.finish? at hfinish
  cases hmode : s.mode with
  | between =>
    simp only [hmode] at h hfinish
    cases hfinish
    exact h
  | word start reversed =>
    simp only [hmode] at h hfinish
    cases hfinish
    exact h.1.cons h.2
  | quoted start q =>
    simp only [hmode] at h hfinish
    obtain ⟨_, -, rfl⟩ := Option.map_eq_some_iff.mp hfinish
    exact h.1.cons h.2
  | comment =>
    simp only [hmode] at h hfinish
    cases hfinish
    exact h
  | lineReturn => simp [hmode] at hfinish

end Scanner

/-- Tokens begin one behind the other. -/
theorem pairwise_offset_of_tokens? {offset : Nat} {cs : List Char} {tokens : List (Located Token)}
    (h : tokens? offset cs = some tokens) : (tokens.map (·.span.offset)).Pairwise (· < ·) := by
  simp only [tokens?, bind, Option.bind_eq_some_iff, pure, Option.some.injEq] at h
  obtain ⟨s, hs, last, hlast, rfl⟩ := h
  have hstart : (Scanner.start offset).InOrder := TokensBefore.nil offset
  have htokens := (hstart.steps hs).finish? hlast
  rw [List.pairwise_map, List.pairwise_reverse]
  exact (htokens.cons (Nat.lt_succ_self _)).sorted

/-! ## The keys of a reader -/

namespace Statement

open Mention

/-- The keys that were read for what a key is read for have some places. -/
def Purpose.At : Purpose → List Span → Prop
  | .entry _ entries, ps => (Value.table .written entries).At ps
  | _, ps => ps = []

/-- The keys that were read for what is being read have some places. -/
def Position.At : Position → List Span → Prop
  | .key purpose _, ps => purpose.At ps
  | .keyDone purpose path, ps => ∃ qs, purpose.At qs ∧ ps = qs ++ [path.last.span]
  | .headerEnd _ path, ps => ps = [path.last.span]
  | .equals _ entries path, ps => ∃ qs, (Value.table .written entries).At qs ∧ ps = qs ++ [path.last.span]
  | .item _ items, ps | .itemDone _ items, ps => (Value.array .written items.reverse).At ps
  | .entry _ entries, ps | .entryDone _ entries, ps => (Value.table .written entries).At ps
  | _, ps => ps = []

/-- No value has begun, so nothing waits for one. -/
def Position.Outside : Position → Prop
  | .lineStart | .lineDone | .headerStart _ | .key .line _ | .key (.header ..) _ | .keyDone .line _
  | .keyDone (.header ..) _ | .headerEnd .. => True
  | _ => False

/-- What is read for a key decides whether it is outside, and not how much of it was read. -/
theorem Position.outside_key {purpose : Purpose} (front : List Key) (path : KeyPath) :
    (Position.key purpose front).Outside ↔ (Position.keyDone purpose path).Outside := by
  cases purpose <;> rfl

namespace Reader

/-- The keys of the statements so far, and of all that waits for a value, have some places, in order. An assignment
waits outside of everything else. -/
inductive Holds (statements : List Statement) : List Frame → List Span → Prop
  | statements {current : List Key} {ms : List Mention} (h : Document.Mentions statements.reverse current ms) :
    Holds statements [] (places ms)
  | line {ps : List Span} (h : Holds statements [] ps) (path : KeyPath) :
    Holds statements [.line path] (ps ++ [path.last.span])
  | item {frames : List Frame} {ps qs : List Span} {items : List (Located Value)} (h : Holds statements frames ps)
    (start : Nat) (hitems : (Value.array .written items.reverse).At qs) :
    Holds statements (.item start items :: frames) (ps ++ qs)
  | entry {frames : List Frame} {ps qs : List Span} {entries : Entries} (h : Holds statements frames ps)
    (start : Nat) (hentries : (Value.table .written entries).At qs) (path : KeyPath) :
    Holds statements (.entry start entries path :: frames) (ps ++ qs ++ [path.last.span])

/-- The invariant of reading: the keys that were read so far have some places, in order. -/
structure At (r : Reader) (ps : List Span) : Prop where
  held : ∃ qs ts, Holds r.statements r.frames qs ∧ r.position.At ts ∧ ps = qs ++ ts
  outside : r.position.Outside → r.frames = []

/-- The keys that were read so far are among some places, in the same order. -/
def Among (r : Reader) (ps : List Span) : Prop := ∃ ts, r.At ts ∧ ts.Sublist ps

variable {r r' : Reader} {t : Located Token} {ps qs : List Span}

theorem At.among (h : r.At ps) : r.Among ps := ⟨ps, h, .refl ps⟩

theorem Among.append (h : r.Among ps) (qs : List Span) : r.Among (ps ++ qs) := by
  obtain ⟨ts, hts, hsublist⟩ := h
  exact ⟨ts, hts, hsublist.trans (List.sublist_append_left ..)⟩

theorem at_start : start.At [] := by
  have hnone : Document.Mentions ([] : List Statement).reverse [] [] := .nil
  exact ⟨⟨[], [], .statements hnone, rfl, rfl⟩, fun _ => rfl⟩

/-- A header is said outside of everything else. -/
theorem Holds.say {s : Statement} {new : List Mention} (h : Holds r.statements r.frames qs)
    (hsay : r.say s = some r') (houtside : r.frames = [])
    (hs : ∀ statements current ms, Document.Mentions statements current ms →
      ∃ current, Document.Mentions (statements ++ [s]) current (ms ++ new)) : r'.At (qs ++ places new) := by
  cases hsay
  rw [houtside] at h
  cases h with
  | @statements _ ms h =>
    obtain ⟨current, hnew⟩ := hs _ _ _ h
    rw [← List.reverse_cons] at hnew
    refine ⟨⟨places (ms ++ new), [], ?_, rfl, by simp⟩, fun _ => houtside⟩
    simpa only [houtside] using Holds.statements hnew

/-! ## Values -/

/-- Going to another position keeps what is held. -/
theorem Holds.goto {position : Position} (h : Holds r.statements r.frames qs) (hgoto : r.goto position = some r')
    (hposition : position.At ps) (houtside : position.Outside → r.frames = []) : r'.At (qs ++ ps) := by
  cases hgoto
  exact ⟨⟨qs, ps, h, hposition, rfl⟩, houtside⟩

theorem Holds.finish? {value : Located Value} (h : Holds r.statements r.frames qs) (hvalue : value.value.At ps)
    (hfinish : r.finish? value = some r') : r'.At (qs ++ ps) := by
  obtain ⟨position, frames, statements⟩ := r
  obtain ⟨vs, hvs, rfl⟩ := hvalue
  unfold Reader.finish? at hfinish
  cases h with
  | statements => cases hfinish
  | line h path =>
    cases h with
    | statements h =>
      cases hfinish
      refine ⟨⟨_, [], .statements (List.reverse_cons ▸ h.assignment path hvs), rfl, ?_⟩, fun _ => rfl⟩
      simp
  | item h start hitems =>
    obtain ⟨ms, hms, rfl⟩ := hitems
    cases hfinish
    refine ⟨⟨_, places (ms ++ vs), h, ⟨_, ?_, rfl⟩, by simp⟩, False.elim⟩
    rw [List.reverse_cons]
    exact hms.item hvs
  | entry h start hentries path =>
    obtain ⟨ms, hms, rfl⟩ := hentries
    simp only [bind, Option.bind_eq_some_iff, pure, Option.some.injEq] at hfinish
    obtain ⟨more, hmore, rfl⟩ := hfinish
    exact ⟨⟨_, places (ms ++ path.mentions vs), h, ⟨_, hms.entry hvs hmore, rfl⟩, by simp⟩, False.elim⟩

theorem Holds.finishArray? {start stop : Nat} {items : List (Located Value)} (h : Holds r.statements r.frames qs)
    (hitems : (Value.array .written items.reverse).At ps) (hfinish : r.finishArray? start stop items = some r') :
    r'.At (qs ++ ps) :=
  h.finish? hitems hfinish

theorem Holds.finishTable? {start stop : Nat} {entries : Entries} (h : Holds r.statements r.frames qs)
    (hentries : (Value.table .written entries).At ps) (hfinish : r.finishTable? start stop entries = some r') :
    r'.At (qs ++ ps) :=
  h.finish? hentries hfinish

theorem Holds.finishScalar? {span : Span} {text : List Char} (h : Holds r.statements r.frames qs)
    (hfinish : r.finishScalar? span text = some r') : r'.At qs := by
  simp only [Reader.finishScalar?, bind, Option.bind_eq_some_iff] at hfinish
  obtain ⟨v, hv, hfinish⟩ := hfinish
  simpa using h.finish? ⟨[], .scalar hv, rfl⟩ hfinish

/-- The first token of a value is no key. -/
theorem Holds.beginValue? (h : Holds r.statements r.frames qs) (hbegin : r.beginValue? t = some r') : r'.At qs := by
  rw [← List.append_nil qs]
  unfold Reader.beginValue? at hbegin
  split at hbegin
  · exact h.goto hbegin rfl False.elim
  · exact h.finish? ⟨[], .text _, rfl⟩ hbegin
  · split at hbegin
    · exact h.goto hbegin ⟨[], .noItems, rfl⟩ False.elim
    · cases hbegin
  · split at hbegin
    · exact h.goto hbegin ⟨[], .noEntries, rfl⟩ False.elim
    · cases hbegin
  · cases hbegin

/-- What stands between values is no key. -/
theorem At.afterValue? (h : r.At ps) (hafter : r.afterValue? t = some r') : r'.At ps := by
  obtain ⟨⟨qs, ts, hheld, hposition, rfl⟩, houtside⟩ := h
  have hsame : r.At (qs ++ ts) := ⟨⟨qs, ts, hheld, hposition, rfl⟩, houtside⟩
  unfold Reader.afterValue? at hafter
  split at hafter <;> rename_i hpos _ <;> (try rw [hpos] at hposition houtside)
  · cases hafter
    exact ⟨⟨qs, ts, hheld, hposition, rfl⟩, fun _ => houtside trivial⟩
  · cases hafter; exact hsame
  · cases hafter; exact hsame
  · exact hheld.goto hafter hposition False.elim
  · exact hheld.finishArray? hposition hafter
  · cases hafter; exact hsame
  · cases hafter; exact hsame
  · cases hafter; exact hsame
  · exact hheld.goto hafter hposition False.elim
  · exact hheld.finishTable? hposition hafter
  · cases hafter; exact hsame
  · cases hafter; exact hsame
  · cases hafter; exact hsame
  · cases hafter

/-! ## Keys -/

/-- A part of a key is the next key. -/
theorem Holds.key? {purpose : Purpose} {front : List Key} (h : Holds r.statements r.frames qs)
    (hkey : r.key? purpose front t = some r') (hpurpose : purpose.At ps)
    (houtside : (Position.key purpose front).Outside → r.frames = []) : r'.Among (qs ++ ps ++ [t.span]) := by
  have hblank : r.goto (.key purpose front) = some r' → r'.Among (qs ++ ps ++ [t.span]) :=
    fun hgoto => (h.goto hgoto hpurpose houtside).among.append [t.span]
  have hdone : ∀ name, r.goto (.keyDone purpose ⟨front, t.span, name⟩) = some r' →
      r'.Among (qs ++ ps ++ [t.span]) := by
    intro name hgoto
    rw [List.append_assoc]
    exact (h.goto hgoto ⟨ps, hpurpose, rfl⟩ (houtside ∘ (Position.outside_key _ _).mpr)).among
  unfold Reader.key? at hkey
  split at hkey
  · split at hkey
    · exact hdone _ hkey
    · cases hkey
  · exact hdone _ hkey
  · exact hblank hkey
  · exact hblank hkey
  · cases hkey

/-- The value of an entry waits behind its key. -/
theorem Holds.beginEntry {start : Nat} {entries : Entries} {path : KeyPath} (h : Holds r.statements r.frames qs)
    (hentries : (Value.table .written entries).At ps) :
    (r.beginEntry start entries path).At (qs ++ ps ++ [path.last.span]) :=
  ⟨⟨_, [], h.entry start hentries path, rfl, by simp⟩, False.elim⟩

/-- Behind a key there is no other key. -/
theorem Holds.afterKey? {purpose : Purpose} {path : KeyPath} (h : Holds r.statements r.frames qs)
    (hposition : r.position = .keyDone purpose path) (hpurpose : purpose.At ps)
    (houtside : (Position.keyDone purpose path).Outside → r.frames = [])
    (hafter : r.afterKey? purpose path t = some r') : r'.Among (qs ++ ps ++ [path.last.span]) := by
  have hsame : r.At (qs ++ ps ++ [path.last.span]) := by
    refine ⟨⟨qs, ps ++ [path.last.span], h, ?_, List.append_assoc ..⟩, ?_⟩ <;> rw [hposition]
    · exact ⟨ps, hpurpose, rfl⟩
    · exact houtside
  unfold Reader.afterKey? at hafter
  split at hafter
  · cases hafter
    exact hsame.among
  · cases hafter
    exact hsame.among
  · split at hafter
    · -- the key goes on, and only its last part will have a place
      have houtside := houtside ∘ (Position.outside_key path.keys path).mp
      exact (h.goto hafter hpurpose houtside).among.append [path.last.span]
    · cases hafter
  · -- an assignment waits for its value, outside of everything else
    cases hafter
    obtain rfl : ps = [] := hpurpose
    rw [houtside trivial] at h
    refine ⟨qs ++ [path.last.span], ⟨⟨_, [], ?_, rfl, (List.append_nil _).symm⟩, False.elim⟩, by simp⟩
    simpa [houtside trivial] using h.line path
  · cases hafter
    exact (h.beginEntry hpurpose).among
  · rw [List.append_assoc]
    exact (h.goto hafter ⟨ps, hpurpose, rfl⟩ False.elim).among
  · obtain rfl : ps = [] := hpurpose
    rw [List.append_nil]
    exact (h.say hafter (houtside trivial) fun _ _ _ h => ⟨_, h.table path _⟩).among
  · obtain rfl : ps = [] := hpurpose
    rw [List.append_nil]
    exact (h.goto hafter rfl fun _ => houtside trivial).among
  · cases hafter

/-! ## All positions -/

/-- What is read at the beginning of a line is nothing, a header or a key. -/
theorem At.step?_lineStart (h : r.At ps) (hpos : r.position = .lineStart) (hstep : r.step? t = some r') :
    r'.Among (ps ++ [t.span]) := by
  have hsame := h.among.append [t.span]
  obtain ⟨⟨qs, ts, hheld, hposition, rfl⟩, houtside⟩ := h
  simp only [Reader.step?, hpos] at hstep hposition houtside
  split at hstep
  · cases hstep; exact hsame
  · cases hstep; exact hsame
  · cases hstep; exact hsame
  · exact (hheld.goto hstep hposition houtside).among.append [t.span]
  · exact hheld.key? hstep hposition houtside

/-- Behind the bracket of a header there is a second one or a key. -/
theorem At.step?_headerStart {start : Nat} (h : r.At ps) (hpos : r.position = .headerStart start)
    (hstep : r.step? t = some r') : r'.Among (ps ++ [t.span]) := by
  obtain ⟨⟨qs, ts, hheld, hposition, rfl⟩, houtside⟩ := h
  simp only [Reader.step?, hpos] at hstep hposition houtside
  split at hstep
  · exact (hheld.goto hstep hposition houtside).among.append [t.span]
  · exact hheld.key? hstep hposition houtside

/-- The second of two closing brackets says that there is a new table. -/
theorem At.step?_headerEnd {start : Nat} {path : KeyPath} (h : r.At ps) (hpos : r.position = .headerEnd start path)
    (hstep : r.step? t = some r') : r'.Among (ps ++ [t.span]) := by
  obtain ⟨⟨qs, ts, hheld, hposition, rfl⟩, houtside⟩ := h
  simp only [Reader.step?, hpos] at hstep hposition houtside
  split at hstep
  · obtain rfl : ts = [path.last.span] := hposition
    have hsaid := hheld.say hstep (houtside trivial) fun _ _ _ h => ⟨_, h.element path _⟩
    exact hsaid.among.append [t.span]
  · cases hstep

/-- In front of a value there may be blanks, and in an entry the line may end. -/
theorem At.step?_value (h : r.At ps) (hpos : r.position = .value) (hstep : r.step? t = some r') :
    r'.Among (ps ++ [t.span]) := by
  have hsame := h.among.append [t.span]
  obtain ⟨⟨qs, ts, hheld, hposition, rfl⟩, -⟩ := h
  simp only [Reader.step?, hpos] at hstep hposition
  split at hstep
  · cases hstep; exact hsame
  · cases hstep; exact hsame
  · split at hstep <;> cases hstep
    exact hsame
  · obtain rfl : ts = [] := hposition
    rw [List.append_nil]
    exact (hheld.beginValue? hstep).among.append [t.span]

/-- Behind the key of an entry there may be blanks and line ends. -/
theorem At.step?_equals {start : Nat} {entries : Entries} {path : KeyPath} (h : r.At ps)
    (hpos : r.position = .equals start entries path) (hstep : r.step? t = some r') : r'.Among (ps ++ [t.span]) := by
  have hsame := h.among.append [t.span]
  obtain ⟨⟨qs, ts, hheld, hposition, rfl⟩, -⟩ := h
  simp only [Reader.step?, hpos] at hstep hposition
  split at hstep <;> cases hstep
  · exact hsame
  · exact hsame
  · exact hsame
  · obtain ⟨us, hentries, rfl⟩ := hposition
    rw [← List.append_assoc]
    exact (hheld.beginEntry hentries).among.append [t.span]

/-- An unquoted value is no key, and no key ends it. -/
theorem Holds.afterScalar {span : Span} {text : List Char} (h : Holds r.statements r.frames qs)
    (hafter : (do (← r.finishScalar? span text).afterValue? t) = some r') : r'.At qs := by
  simp only [bind, Option.bind_eq_some_iff] at hafter
  obtain ⟨mid, hmid, hafter⟩ := hafter
  exact (h.finishScalar? hmid).afterValue? hafter

/-- An unquoted value goes on, or what ends it is looked at. -/
theorem At.step?_scalar {span : Span} {text : List Char} (h : r.At ps) (hpos : r.position = .scalar span text)
    (hstep : r.step? t = some r') : r'.Among (ps ++ [t.span]) := by
  obtain ⟨⟨qs, ts, hheld, hposition, rfl⟩, -⟩ := h
  simp only [Reader.step?, hpos] at hstep hposition
  obtain rfl : ts = [] := hposition
  split at hstep
  · exact (hheld.goto hstep rfl False.elim).among.append [t.span]
  · exact (hheld.goto hstep rfl False.elim).among.append [t.span]
  · exact (hheld.goto hstep rfl False.elim).among.append [t.span]
  · exact (hheld.goto hstep rfl False.elim).among.append [t.span]
  · rw [List.append_nil]
    exact (hheld.afterScalar hstep).among.append [t.span]

theorem At.step?_scalarBlanks {span : Span} {text blanks : List Char} (h : r.At ps)
    (hpos : r.position = .scalarBlanks span text blanks) (hstep : r.step? t = some r') :
    r'.Among (ps ++ [t.span]) := by
  obtain ⟨⟨qs, ts, hheld, hposition, rfl⟩, -⟩ := h
  simp only [Reader.step?, hpos] at hstep hposition
  obtain rfl : ts = [] := hposition
  split at hstep
  · exact (hheld.goto hstep rfl False.elim).among.append [t.span]
  · exact (hheld.goto hstep rfl False.elim).among.append [t.span]
  · exact (hheld.goto hstep rfl False.elim).among.append [t.span]
  · rw [List.append_nil]
    exact (hheld.afterScalar hstep).among.append [t.span]

/-- An array ends, or a value begins inside the list that waits for it. -/
theorem At.step?_item {start : Nat} {items : List (Located Value)} (h : r.At ps) (hpos : r.position = .item start items)
    (hstep : r.step? t = some r') : r'.Among (ps ++ [t.span]) := by
  have hsame := h.among.append [t.span]
  obtain ⟨⟨qs, ts, hheld, hposition, rfl⟩, -⟩ := h
  simp only [Reader.step?, hpos] at hstep hposition
  split at hstep
  · cases hstep; exact hsame
  · cases hstep; exact hsame
  · cases hstep; exact hsame
  · exact (hheld.finishArray? hposition hstep).among.append [t.span]
  · exact (Holds.beginValue? (hheld.item start hposition) hstep).among.append [t.span]

/-- A table ends, or there is another key in it. -/
theorem At.step?_entry {start : Nat} {entries : Entries} (h : r.At ps) (hpos : r.position = .entry start entries)
    (hstep : r.step? t = some r') : r'.Among (ps ++ [t.span]) := by
  have hsame := h.among.append [t.span]
  obtain ⟨⟨qs, ts, hheld, hposition, rfl⟩, -⟩ := h
  simp only [Reader.step?, hpos] at hstep hposition
  split at hstep
  · cases hstep; exact hsame
  · cases hstep; exact hsame
  · cases hstep; exact hsame
  · exact (hheld.finishTable? hposition hstep).among.append [t.span]
  · exact hheld.key? hstep hposition False.elim

/-- One token keeps the invariant: if it is a key, it comes behind the keys that were read before. -/
theorem At.step? (h : r.At ps) (hstep : r.step? t = some r') : r'.Among (ps ++ [t.span]) := by
  have hafterValue : r.afterValue? t = some r' → r'.Among (ps ++ [t.span]) :=
    fun hafter => (h.afterValue? hafter).among.append [t.span]
  cases hpos : r.position with
  | lineStart => exact h.step?_lineStart hpos hstep
  | lineDone => exact hafterValue (by simpa only [Reader.step?, hpos] using hstep)
  | headerStart start => exact h.step?_headerStart hpos hstep
  | key purpose front =>
    obtain ⟨⟨qs, ts, hheld, hposition, rfl⟩, houtside⟩ := h
    simp only [Reader.step?, hpos] at hstep hposition houtside
    exact hheld.key? hstep hposition houtside
  | keyDone purpose path =>
    obtain ⟨⟨qs, ts, hheld, hposition, rfl⟩, houtside⟩ := h
    simp only [Reader.step?, hpos] at hstep hposition houtside
    obtain ⟨us, hpurpose, rfl⟩ := hposition
    rw [← List.append_assoc]
    exact (hheld.afterKey? hpos hpurpose houtside hstep).append [t.span]
  | headerEnd start path => exact h.step?_headerEnd hpos hstep
  | value => exact h.step?_value hpos hstep
  | equals start entries path => exact h.step?_equals hpos hstep
  | scalar span text => exact h.step?_scalar hpos hstep
  | scalarBlanks span text blanks => exact h.step?_scalarBlanks hpos hstep
  | item start items => exact h.step?_item hpos hstep
  | itemDone start items => exact hafterValue (by simpa only [Reader.step?, hpos] using hstep)
  | entry start entries => exact h.step?_entry hpos hstep
  | entryDone start entries => exact hafterValue (by simpa only [Reader.step?, hpos] using hstep)

/-- Any number of tokens keep the invariant: the keys among them come in their order. -/
theorem At.steps {tokens : List (Located Token)} (h : r.At ps) (hsteps : tokens.foldlM Reader.step? r = some r') :
    r'.Among (ps ++ tokens.map (·.span)) := by
  induction tokens generalizing r ps with
  | nil =>
    cases hsteps
    exact ⟨ps, h, by simp⟩
  | cons t tokens ih =>
    simp only [List.foldlM_cons, bind, Option.bind_eq_some_iff] at hsteps
    obtain ⟨mid, hmid, hsteps⟩ := hsteps
    obtain ⟨qs, hqs, hfirst⟩ := h.step? hmid
    obtain ⟨ts, hts, hrest⟩ := ih hqs hsteps
    refine ⟨ts, hts, hrest.trans ?_⟩
    simpa using hfirst.append_right (tokens.map (·.span))

end Reader

/-- Tokens are read as statements whose keys are among the tokens, in the same order. -/
theorem exists_mentions_of_ofTokens? {tokens : List (Located Token)} {statements : List Statement}
    (h : ofTokens? tokens = some statements) :
    ∃ current ms, Document.Mentions statements current ms ∧ (places ms).Sublist (tokens.map (·.span)) := by
  simp only [ofTokens?, bind, Option.bind_eq_some_iff] at h
  obtain ⟨r, hr, h⟩ := h
  split at h
  · rename_i hposition
    cases h
    obtain ⟨ts, ⟨⟨qs, us, hheld, hnone, rfl⟩, houtside⟩, hsublist⟩ := Reader.at_start.steps hr
    rw [hposition] at hnone houtside
    obtain rfl : us = [] := hnone
    rw [houtside trivial] at hheld
    cases hheld with
    | statements hheld => exact ⟨_, _, hheld, by simpa using hsublist⟩
  · cases h

end Statement

/-! ## Texts -/

namespace Document

/-- Read a text as statements. -/
def statements? (text : String) : Option (List Statement) := do
  let (offset, cs) := withoutMark text.toList
  Statement.ofTokens? (← tokens? offset cs)

theorem foldlM_step?_concat {statements : List Statement} {s : Statement} {d d' : Draft} :
    (statements ++ [s]).foldlM Draft.step? d = some d' ↔
      ∃ mid, statements.foldlM Draft.step? d = some mid ∧ mid.step? s = some d' := by
  simp [List.foldlM_append, Option.bind_eq_some_iff]

theorem parse?_eq_bind (text : String) : parse? text = (statements? text).bind ofStatements? := by
  simp only [parse?, statements?, bind, Option.bind_assoc]

/-- The keys in a text, in order. -/
def TextMentions (text : String) (ms : List Mention) : Prop :=
  ∃ statements current, statements? text = some statements ∧ Mentions statements current ms

/-- The statements of a text mention keys, each behind the one in front of it. -/
theorem exists_mentions_of_statements? {text : String} {statements : List Statement}
    (h : statements? text = some statements) :
    ∃ current ms, Mentions statements current ms ∧ (ms.map (·.place.offset)).Pairwise (· < ·) := by
  simp only [statements?, bind, Option.bind_eq_some_iff] at h
  obtain ⟨tokens, htokens, h⟩ := h
  obtain ⟨current, ms, hms, hsublist⟩ := Statement.exists_mentions_of_ofTokens? h
  refine ⟨current, ms, hms, ?_⟩
  have hoffsets : (ms.map (·.place.offset)).Sublist (tokens.map (·.span.offset)) := by
    simpa [Mention.places, Function.comp_def] using hsublist.map (·.offset)
  exact (pairwise_offset_of_tokens? htokens).sublist hoffsets

end Document

end ValueObjects.Toml

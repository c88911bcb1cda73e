import Mathlib.Data.List.Forall2
import Mathlib.Data.List.ReduceOption
import ValueObjects.Proofs.Toml.Spelling
import ValueObjects.Text.Split
import ValueObjects.Toml.Document

/-!
# Lines of a document

Headers and assignments as they are usually written, each on a line of its own, with empty lines anywhere. Such a text
is read as the statements that its lines make, one for each line that is not empty.
-/

namespace ValueObjects.Toml

/-! ## Written lines -/

/-- A value of one token. -/
inductive Literal
  | text (s : String)
  | flag (b : Bool)
deriving DecidableEq, Repr

namespace Literal

/-- What is meant. -/
def value : Literal → Value
  | text s => .text s
  | flag b => .boolean b

/-- A flag as a word. -/
def flagWord (b : Bool) : String := if b then "true" else "false"

/-- What is written: a text between double quotes, or a word. -/
def chars : Literal → List Char
  | text s => '"' :: (s.toList ++ ['"'])
  | flag b => (flagWord b).toList

def token : Literal → Token
  | text s => .quoted s false
  | flag b => .word (flagWord b).toList

/-- Nothing in a text has a meaning between quotes. -/
def IsPlain : Literal → Prop
  | text s => IsVerbatim s.toList
  | flag _ => True

end Literal

/-- A line that says something. -/
inductive Line
  /-- A table by its name, behind the names of the tables that it is in. -/
  | header (front : List String) (last : String)
  | assignment (key : String) (value : Literal)
deriving DecidableEq, Repr

/-- A name that is a key as it is. -/
structure IsBareName (name : String) : Prop where
  nonempty : name.toList ≠ []
  bare : Statement.Reader.isBareKey name.toList

namespace Line

def chars : Line → List Char
  | header front last => '[' :: (front.flatMap (fun name => name.toList ++ ['.']) ++ (last.toList ++ [']']))
  | assignment key value => key.toList ++ (' ' :: '=' :: ' ' :: value.chars)

def tokens : Line → List Token
  | header front last =>
    .mark .openBracket :: (front.flatMap (fun name => [.word name.toList, .mark .dot]) ++
      [.word last.toList, .mark .closeBracket])
  | assignment key value => [.word key.toList, .space, .mark .equals, .space, value.token]

/-- What may stand on a line: names that need no quotes, of no more tables than a header can go through, and values
without anything special in them. -/
def IsPlain : Line → Prop
  | header front last => (∀ name ∈ front, IsBareName name) ∧ IsBareName last ∧ front.length < Statement.maxDepth
  | assignment key value => IsBareName key ∧ value.IsPlain

end Line

/-- A text has these lines; those that are missing are empty. -/
def HasLines (text : String) (rows : List (Option Line)) : Prop :=
  Text.split '\n' text.toList = rows.map (·.elim [] Line.chars)

instance (text : String) (rows : List (Option Line)) : Decidable (HasLines text rows) :=
  inferInstanceAs (Decidable (Text.split '\n' text.toList = rows.map (·.elim [] Line.chars)))

/-! ## Tokens -/

theorem isWordCharacter_of_isBare {c : Char} (hc : c.isAlphanum || c == '_' || c == '-') :
    isWordCharacter c ∧ c ≠ '"' ∧ c ≠ '\'' := by
  have hne : ∀ d : Char, (d.isAlphanum || d == '_' || d == '-') = false → c ≠ d := by
    rintro d hd rfl
    rw [hc] at hd
    cases hd
  have hmark : Mark.ofChar? c = none := by
    unfold Mark.ofChar?
    split <;> first | rfl | exact absurd rfl (hne _ (by decide))
  refine ⟨?_, hne _ (by decide), hne _ (by decide)⟩
  simp [isWordCharacter, hmark, hne ' ' (by decide), hne '\t' (by decide), hne '\n' (by decide), hne '\r' (by decide),
    hne '#' (by decide)]

theorem IsBareName.isWord {name : String} (h : IsBareName name) : IsWord name.toList := by
  have hcharacters : ∀ c ∈ name.toList, isWordCharacter c ∧ c ≠ '"' ∧ c ≠ '\'' := by
    intro c hc
    exact isWordCharacter_of_isBare (List.all_eq_true.mp h.bare c hc)
  exact ⟨h.nonempty, fun c hc => (hcharacters c hc).1, fun c hc => (hcharacters c hc).2⟩

/-- A token that is a character of its own needs nothing behind it. -/
theorem Spells.cons_of_token {c : Char} {cs : List Char} {ts : List Token} (h : Spells cs ts) {t : Token}
    (ht : Token.ofChar? c = some t) : Spells (c :: cs) (t :: ts) ∧ Apart (c :: cs) :=
  ⟨.single ht h, apart_cons.mpr (isWordCharacter_of_ofChar? ht)⟩

namespace Literal

theorem spells {v : Literal} (h : v.IsPlain) : Spells v.chars [v.token] := by
  cases v with
  | text s => simpa [chars, token] using Spells.quoted h apart_nil .nil
  | flag b =>
    have hword : IsWord (flagWord b).toList := by
      apply IsBareName.isWord
      cases b <;> exact ⟨by decide, by decide⟩
    simpa [chars, token] using Spells.word hword apart_nil .nil

end Literal

namespace Line

theorem spells_names {names : List String} (h : ∀ name ∈ names, IsBareName name) {cs : List Char} {ts : List Token}
    (hcs : Spells cs ts) :
    Spells (names.flatMap (fun name => name.toList ++ ['.']) ++ cs)
      (names.flatMap (fun name => [.word name.toList, .mark .dot]) ++ ts) := by
  induction names with
  | nil => exact hcs
  | cons name names ih =>
    rw [List.forall_mem_cons] at h
    obtain ⟨hdot, hapart⟩ := (ih h.2).cons_of_token (c := '.') rfl
    simpa using Spells.word h.1.isWord hapart hdot

theorem spells {l : Line} (h : l.IsPlain) : Spells l.chars l.tokens := by
  cases l with
  | header front last =>
    obtain ⟨hfront, hlast, -⟩ := h
    obtain ⟨hclose, hapart⟩ := Spells.nil.cons_of_token (c := ']') rfl
    exact ((spells_names hfront (.word hlast.isWord hapart hclose)).cons_of_token rfl).1
  | assignment key value =>
    obtain ⟨hkey, hvalue⟩ := h
    have hequals := ((Literal.spells hvalue).cons_of_token (c := ' ') rfl).1.cons_of_token (c := '=') rfl
    obtain ⟨hsign, hapart⟩ := hequals.1.cons_of_token (c := ' ') rfl
    exact .word hkey.isWord hapart hsign

/-- The tokens of a line, if there is one, and its end. -/
def rowTokens (row : Option Line) : List Token := row.elim [] tokens ++ [.lineEnd]

theorem spells_row {row : Option Line} (h : ∀ l ∈ row, l.IsPlain) :
    Spells (row.elim [] chars) (row.elim [] tokens) := by
  cases row with
  | none => exact .nil
  | some l => exact spells (h l rfl)

/-- Lines are the spelling of their tokens. -/
theorem spells_rows {rows : List (Option Line)} (hne : rows ≠ []) (h : ∀ row ∈ rows, ∀ l ∈ row, l.IsPlain) :
    ∃ ts, Spells (Text.join '\n' (rows.map (·.elim [] chars))) ts ∧ ts ++ [.lineEnd] = rows.flatMap rowTokens := by
  induction rows with
  | nil => exact absurd rfl hne
  | cons row rows ih =>
    rw [List.forall_mem_cons] at h
    cases rows with
    | nil => exact ⟨_, spells_row h.1, by simp [rowTokens]⟩
    | cons next rows =>
      obtain ⟨ts, hts, htokens⟩ := ih (by simp) h.2
      obtain ⟨hend, hapart⟩ := hts.cons_of_token (c := '\n') rfl
      exact ⟨_, (spells_row h.1).append hend hapart, by rw [List.flatMap_cons, ← htokens]; simp [rowTokens]⟩

end Line

/-! ## Statements -/

namespace Statement

/-- A statement is what a line says. -/
def Says : Statement → Line → Prop
  | table path _, .header front last => path.front.map (·.value) = front ∧ path.last.value = last
  | assignment path v, .assignment key value => path.front = [] ∧ path.last.value = key ∧ v.value = value.value
  | _, _ => False

namespace Reader

variable {r mid : Reader} {t : Located Token} {ts : List (Located Token)} {start : Nat} {front : List Key}

theorem steps_cons (h : r.step? t = some mid) : (t :: ts).foldlM step? r = ts.foldlM step? mid := by
  simp [List.foldlM_cons, h]

/-! ### Headers -/

/-- A reader that takes the next word for a part of a header's name. -/
def AwaitsName (r : Reader) (start : Nat) (front : List Key) : Prop :=
  ∀ (span : Span) (w : List Char), r.step? ⟨span, .word w⟩ = r.key? (.header false start) front ⟨span, .word w⟩

theorem AwaitsName.step_name (h : r.AwaitsName start front) {name : String} (hname : IsBareName name) (span : Span) :
    r.step? ⟨span, .word name.toList⟩ =
      some { r with position := .keyDone (.header false start) ⟨front, ⟨span, name⟩⟩ } := by
  rw [h]
  simp [key?, goto, hname.bare]

/-- Names with dots behind them are read one by one. -/
theorem AwaitsName.steps_names (h : r.AwaitsName start front) {names : List String}
    (hnames : ∀ name ∈ names, IsBareName name) (hlength : front.length + names.length < maxDepth)
    (hts : ts.map (·.value) = names.flatMap (fun name => [.word name.toList, .mark .dot])) :
    ∃ keys : List Key, keys.map (·.value) = names ∧ ∃ r', ts.foldlM step? r = some r'
      ∧ r'.AwaitsName start (front ++ keys) ∧ r'.frames = r.frames ∧ r'.statements = r.statements := by
  induction names generalizing r front ts with
  | nil =>
    obtain rfl : ts = [] := by simpa using hts
    exact ⟨[], rfl, r, rfl, by simpa using h, rfl, rfl⟩
  | cons name names ih =>
    rw [List.forall_mem_cons] at hnames
    simp only [List.flatMap_cons, List.cons_append, List.nil_append, List.map_eq_cons_iff] at hts
    obtain ⟨⟨span, _⟩, _, rfl, rfl, ⟨dot, _⟩, ts, rfl, rfl, hts⟩ := hts
    rw [List.length_cons] at hlength
    let key : Key := ⟨span, name⟩
    let named : Reader := { r with position := .keyDone (.header false start) ⟨front, key⟩ }
    let mid : Reader := { r with position := .key (.header false start) (front ++ [key]) }
    have hnamed : r.step? ⟨span, .word name.toList⟩ = some named := h.step_name hnames.1 span
    have hmid : named.step? ⟨dot, .mark .dot⟩ = some mid := by
      have hdepth : front.length + 1 < maxDepth := by omega
      simp [named, step?, afterKey?, KeyPath.keys, hdepth, goto, mid]
    have hawaits : mid.AwaitsName start (front ++ [key]) := fun _ _ => rfl
    obtain ⟨keys, hkeys, r', hr', hawaits, hframes, hstatements⟩ := ih hawaits hnames.2 (by simp; omega) hts
    refine ⟨key :: keys, by simp [hkeys, key], r', ?_, by simpa using hawaits, hframes, hstatements⟩
    rw [steps_cons hnamed, steps_cons hmid, hr']

/-- A header is read as the beginning of a table. -/
theorem steps_header {front : List String} {last : String} (h : (Line.header front last).IsPlain) (said : List Statement)
    (hts : ts.map (·.value) = (Line.header front last).tokens ++ [.lineEnd]) :
    ∃ s : Statement, s.Says (.header front last) ∧
      ts.foldlM step? ⟨.lineStart, [], said⟩ = some ⟨.lineStart, [], s :: said⟩ := by
  obtain ⟨hfront, hlast, hlength⟩ := h
  simp only [Line.tokens, List.cons_append, List.append_assoc, List.nil_append, List.map_eq_cons_iff,
    List.map_eq_append_iff, List.map_eq_nil_iff] at hts
  obtain ⟨⟨bracket, _⟩, _, rfl, rfl, names, _, rfl, hnames, ⟨span, _⟩, _, rfl, rfl, ⟨close, _⟩, _, rfl, rfl, ⟨stop, _⟩, _,
    rfl, rfl, rfl⟩ := hts
  let opened : Reader := ⟨.headerStart bracket.offset, [], said⟩
  have hopened : step? ⟨.lineStart, [], said⟩ ⟨bracket, .mark .openBracket⟩ = some opened := rfl
  have hawaits : opened.AwaitsName bracket.offset [] := fun _ _ => by simp [opened, step?]
  obtain ⟨keys, hkeys, r', hr', hawaits, hframes, hstatements⟩ := hawaits.steps_names hfront (by simpa using hlength) hnames
  let path : KeyPath := ⟨keys, ⟨span, last⟩⟩
  refine ⟨.table path (.between bracket.offset close.stop), ⟨hkeys, rfl⟩, ?_⟩
  rw [steps_cons hopened, List.foldlM_append, hr']
  change List.foldlM step? r' [⟨span, .word last.toList⟩, ⟨close, .mark .closeBracket⟩, ⟨stop, .lineEnd⟩] = _
  rw [steps_cons (hawaits.step_name hlast span)]
  simp [step?, afterKey?, say, afterValue?, goto, hframes, hstatements, opened, path]

/-! ### Assignments -/

theorem ofScalar?_flagWord (b : Bool) : Value.ofScalar? (Literal.flagWord b).toList = some (.boolean b) := by
  cases b <;> rfl

/-- An assignment is read as one. -/
theorem steps_assignment {key : String} {value : Literal} (h : IsBareName key) (said : List Statement)
    (hts : ts.map (·.value) = (Line.assignment key value).tokens ++ [.lineEnd]) :
    ∃ s : Statement, s.Says (.assignment key value) ∧
      ts.foldlM step? ⟨.lineStart, [], said⟩ = some ⟨.lineStart, [], s :: said⟩ := by
  simp only [Line.tokens, List.cons_append, List.nil_append, List.map_eq_cons_iff, List.map_eq_nil_iff] at hts
  obtain ⟨⟨span, _⟩, _, rfl, rfl, ⟨_, _⟩, _, rfl, rfl, ⟨_, _⟩, _, rfl, rfl, ⟨_, _⟩, _, rfl, rfl, ⟨place, _⟩, _, rfl, hvalue,
    ⟨_, _⟩, _, rfl, rfl, rfl⟩ := hts
  subst hvalue
  refine ⟨.assignment ⟨[], ⟨span, key⟩⟩ ⟨place, value.value⟩, ⟨rfl, rfl, rfl⟩, ?_⟩
  cases value with
  | text s =>
    simp [Literal.token, Literal.value, step?, key?, h.bare, goto, afterKey?, beginValue?, finish?, say, afterValue?]
  | flag b =>
    simp [Literal.token, Literal.value, step?, key?, h.bare, goto, afterKey?, beginValue?, finishScalar?,
      ofScalar?_flagWord, finish?, say, afterValue?]

/-! ### All lines -/

/-- A line is read as what it says, and an empty one as nothing. -/
theorem steps_row {row : Option Line} (h : ∀ l ∈ row, l.IsPlain) (said : List Statement)
    (hts : ts.map (·.value) = Line.rowTokens row) :
    ∃ more : List Statement, List.Forall₂ Says more row.toList ∧
      ts.foldlM step? ⟨.lineStart, [], said⟩ = some ⟨.lineStart, [], more.reverse ++ said⟩ := by
  cases row with
  | none =>
    obtain ⟨⟨span, _⟩, _, rfl, rfl, hnil⟩ := List.map_eq_cons_iff.mp hts
    obtain rfl := List.map_eq_nil_iff.mp hnil
    exact ⟨[], .nil, rfl⟩
  | some l =>
    have hline : ∃ s : Statement, s.Says l ∧
        ts.foldlM step? ⟨.lineStart, [], said⟩ = some ⟨.lineStart, [], s :: said⟩ := by
      cases l with
      | header front last => exact steps_header (h _ rfl) said hts
      | assignment key value => exact steps_assignment (h _ rfl).1 said hts
    obtain ⟨s, hs, hsteps⟩ := hline
    exact ⟨[s], .cons hs .nil, hsteps⟩

/-- Lines are read one by one. -/
theorem steps_rows {rows : List (Option Line)} (h : ∀ row ∈ rows, ∀ l ∈ row, l.IsPlain) (said : List Statement)
    (hts : ts.map (·.value) = rows.flatMap Line.rowTokens) :
    ∃ more : List Statement, List.Forall₂ Says more rows.reduceOption ∧
      ts.foldlM step? ⟨.lineStart, [], said⟩ = some ⟨.lineStart, [], more.reverse ++ said⟩ := by
  induction rows generalizing said ts with
  | nil =>
    obtain rfl : ts = [] := by simpa using hts
    exact ⟨[], .nil, rfl⟩
  | cons row rows ih =>
    rw [List.forall_mem_cons] at h
    obtain ⟨us, vs, rfl, hus, hvs⟩ := List.map_eq_append_iff.mp hts
    obtain ⟨first, hfirst, hsteps⟩ := steps_row h.1 said hus
    obtain ⟨rest, hrest, hsteps'⟩ := ih h.2 (first.reverse ++ said) hvs
    refine ⟨first ++ rest, ?_, ?_⟩
    · have hsplit : (row :: rows).reduceOption = row.toList ++ rows.reduceOption := by cases row <;> rfl
      rw [hsplit]
      exact List.rel_append hfirst hrest
    · rw [List.foldlM_append, hsteps]
      simpa using hsteps'

end Reader

end Statement

/-! ## Texts -/

theorem withoutMark_of_head? {cs : List Char} (h : cs.head? ≠ some '\ufeff') : Document.withoutMark cs = (0, cs) := by
  unfold Document.withoutMark
  split
  · exact absurd rfl h
  · rfl

/-- No line begins with a byte order mark. -/
theorem head?_row_ne_mark {row : Option Line} (h : ∀ l ∈ row, l.IsPlain) {cs : List Char}
    (hcs : cs.head? ≠ some '\ufeff') : (row.elim [] Line.chars ++ cs).head? ≠ some '\ufeff' := by
  cases row with
  | none => exact hcs
  | some l =>
    cases l with
    | header front last => simp [Line.chars]
    | assignment key value =>
      obtain ⟨⟨hnonempty, hbare⟩, -⟩ := h _ rfl
      obtain ⟨c, rest, hkey⟩ := List.exists_cons_of_ne_nil hnonempty
      have hc : c ≠ '\ufeff' := by
        rintro rfl
        rw [hkey] at hbare
        exact absurd hbare (by simp [Statement.Reader.isBareKey])
      simpa [Line.chars, hkey] using hc

/-- A text is read as what its lines say. -/
theorem exists_statements_of_hasLines {text : String} {rows : List (Option Line)} (h : HasLines text rows)
    (hplain : ∀ row ∈ rows, ∀ l ∈ row, l.IsPlain) :
    ∃ statements : List Statement, List.Forall₂ Statement.Says statements rows.reduceOption ∧
      Document.parse? text = Document.ofStatements? statements := by
  have hne : rows ≠ [] := by
    rintro rfl
    exact Text.split_ne_nil _ _ h
  have htext : text.toList = Text.join '\n' (rows.map (·.elim [] Line.chars)) := by rw [← h, Text.join_split]
  have hmark : text.toList.head? ≠ some '\ufeff' := by
    rw [htext]
    obtain ⟨row, rows, rfl⟩ := List.exists_cons_of_ne_nil hne
    have hrow := hplain row (by simp)
    cases rows with
    | nil =>
      have hnil : ([] : List Char).head? ≠ some '\ufeff' := by simp
      simpa [Text.join] using head?_row_ne_mark hrow hnil
    | cons next rows => exact head?_row_ne_mark hrow (by simp)
  obtain ⟨ts, hspells, htokens⟩ := Line.spells_rows hne hplain
  rw [← htext] at hspells
  obtain ⟨located, hlocated, hvalues⟩ := exists_tokens?_of_spells hspells 0
  obtain ⟨statements, hsaid, hsteps⟩ := Statement.Reader.steps_rows hplain [] (hvalues.trans htokens)
  refine ⟨statements, hsaid, ?_⟩
  have hread : Statement.ofTokens? located = some statements := by
    simp [Statement.ofTokens?, Statement.Reader.start, hsteps]
  simp [Document.parse?, withoutMark_of_head? hmark, hlocated, hread]

end ValueObjects.Toml

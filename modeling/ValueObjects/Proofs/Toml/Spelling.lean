import ValueObjects.Toml.Token

/-!
# Spelling

Texts whose tokens are known beforehand: marks, blanks and line ends as they are, words, and texts between double
quotes without anything in them that has a meaning there. A token that could go on needs a character behind it that is
no part of it. A scanner reads each such text as its tokens.
-/

namespace ValueObjects.Toml

/-! ## Spelled texts -/

/-- The token that a character is on its own. -/
def Token.ofChar? (c : Char) : Option Token :=
  match Mark.ofChar? c with
  | some found => some (.mark found)
  | none => if c = ' ' then some .space else if c = '\t' then some .tab else if c = '\n' then some .lineEnd else none

/-- A word as it stands in a text. -/
structure IsWord (cs : List Char) : Prop where
  nonempty : cs ≠ []
  characters : ∀ c ∈ cs, isWordCharacter c
  unquoted : ∀ c ∈ cs, c ≠ '"' ∧ c ≠ '\''

/-- A text that stands for itself between double quotes, on one line. -/
def IsVerbatim (cs : List Char) : Prop := ∀ c ∈ cs, Quotation.isPlain c ∧ c ≠ '"' ∧ c ≠ '\\'

/-- Nothing at the beginning of a text goes on with a word. -/
def Apart (cs : List Char) : Prop := ∀ c ∈ cs.head?, isWordCharacter c = false

/-- A text consists of the spellings of some tokens. -/
inductive Spells : List Char → List Token → Prop
  | nil : Spells [] []
  | single {c : Char} {t : Token} {cs : List Char} {ts : List Token} (token : Token.ofChar? c = some t)
    (rest : Spells cs ts) : Spells (c :: cs) (t :: ts)
  | word {w cs : List Char} {ts : List Token} (isWord : IsWord w) (apart : Apart cs) (rest : Spells cs ts) :
    Spells (w ++ cs) (.word w :: ts)
  | quoted {q cs : List Char} {ts : List Token} (isVerbatim : IsVerbatim q) (apart : Apart cs) (rest : Spells cs ts) :
    Spells ('"' :: (q ++ '"' :: cs)) (.quoted (String.ofList q) false :: ts)

theorem isWordCharacter_of_ofChar? {c : Char} {t : Token} (h : Token.ofChar? c = some t) : isWordCharacter c = false := by
  unfold Token.ofChar? at h
  split at h
  · rename_i hmark
    simp [isWordCharacter, hmark]
  · -- a blank or a line end
    repeat' split at h
    all_goals first | cases h; done | subst c; decide

theorem apart_nil : Apart [] := by simp [Apart]

theorem apart_cons {c : Char} {cs : List Char} : Apart (c :: cs) ↔ isWordCharacter c = false := by simp [Apart]

theorem Apart.append {cs ds : List Char} (hcs : Apart cs) (hds : Apart ds) : Apart (cs ++ ds) := by
  cases cs with
  | nil => exact hds
  | cons c cs => exact apart_cons.mpr (apart_cons.mp hcs)

theorem Spells.append {cs ds : List Char} {ts us : List Token} (h : Spells cs ts) (hds : Spells ds us)
    (hapart : Apart ds) : Spells (cs ++ ds) (ts ++ us) := by
  induction h with
  | nil => exact hds
  | single token rest ih => exact .single token ih
  | word isWord apart rest ih =>
    rw [List.append_assoc]
    exact .word isWord (apart.append hapart) ih
  | quoted isVerbatim apart rest ih =>
    have hquoted := Spells.quoted isVerbatim (apart.append hapart) ih
    simpa using hquoted

/-! ## Scanners -/

namespace Scanner

/-- The tokens so far, without their places. -/
def seen (s : Scanner) : List Token := (s.tokens.map (·.value)).reverse

/-- A scanner between two tokens. -/
structure Rests (s : Scanner) (seen : List Token) : Prop where
  mode : s.mode = .between
  tokens : s.seen = seen

/-- A scanner whose last token may go on. If it does not, the scanner does what one does that has ended it. -/
def Pauses (s : Scanner) (seen : List Token) : Prop :=
  ∃ e : Scanner, e.Rests seen ∧ s.finish? = some e ∧ ∀ c, isWordCharacter c = false → s.step? c = e.step? c

variable {s mid : Scanner} {seen : List Token} {c : Char} {cs ds : List Char}

theorem steps_cons (h : s.step? c = some mid) : (c :: cs).foldlM step? s = cs.foldlM step? mid := by
  simp [List.foldlM_cons, h]

theorem steps_append (h : cs.foldlM step? s = some mid) : (cs ++ ds).foldlM step? s = ds.foldlM step? mid := by
  simp [List.foldlM_append, h]

theorem Rests.pauses (h : s.Rests seen) : s.Pauses seen :=
  ⟨s, h, by simp [finish?, h.mode], fun _ _ => rfl⟩

theorem rests_emit (hseen : s.seen = seen) (start : Nat) (t : Token) : (s.emit start t).Rests (seen ++ [t]) :=
  ⟨rfl, by simp [← hseen, Scanner.seen, emit]⟩

/-- Behind a character that is a token the scanner is between tokens again. -/
theorem Rests.step_single (h : s.Rests seen) {t : Token} (htoken : Token.ofChar? c = some t) :
    ∃ s', s.step? c = some s' ∧ s'.Rests (seen ++ [t]) := by
  have hbegin : s.begin c = s.single c t := by
    unfold Token.ofChar? at htoken
    unfold begin
    cases hmark : Mark.ofChar? c with
    | some found =>
      simp only [hmark, Option.some.injEq] at htoken
      subst htoken
      rfl
    | none =>
      simp only [hmark] at htoken
      repeat' split at htoken
      all_goals first | cases htoken; done | (cases htoken; subst c; rfl)
  exact ⟨s.single c t, by simp [step?, h.mode, hbegin], rests_emit (s := s.advance c) h.tokens _ _⟩

/-! ## Words -/

/-- A scanner in a word. -/
structure InWord (s : Scanner) (seen : List Token) (start : Nat) (w : List Char) : Prop where
  mode : s.mode = .word start w.reverse
  tokens : s.seen = seen

theorem InWord.pauses {start : Nat} {w : List Char} (h : s.InWord seen start w) : s.Pauses (seen ++ [.word w]) := by
  refine ⟨s.emit start (.word w), rests_emit h.tokens _ _, by simp [finish?, h.mode], ?_⟩
  intro c hc
  simp [step?, h.mode, hc, emit]

theorem InWord.steps {start : Nat} {w : List Char} (h : s.InWord seen start w)
    (hcs : ∀ c ∈ cs, isWordCharacter c) : ∃ s', cs.foldlM step? s = some s' ∧ s'.InWord seen start (w ++ cs) := by
  induction cs generalizing s w with
  | nil => exact ⟨s, rfl, by simpa using h⟩
  | cons c cs ih =>
    rw [List.forall_mem_cons] at hcs
    let mid : Scanner := { s.advance c with mode := .word start (c :: w.reverse) }
    have hstep : s.step? c = some mid := by simp [step?, h.mode, hcs.1, mid]
    have hmid : mid.InWord seen start (w ++ [c]) := ⟨by simp [mid], h.tokens⟩
    obtain ⟨s', hs', hword⟩ := ih hmid hcs.2
    exact ⟨s', by rw [steps_cons hstep, hs'], by simpa using hword⟩

/-- Nothing in a word begins something else. -/
theorem begin_of_isWordCharacter (hc : isWordCharacter c) (hquote : c ≠ '"' ∧ c ≠ '\'') :
    s.begin c = { s.advance c with mode := .word s.offset [c] } := by
  simp only [isWordCharacter, Bool.and_eq_true, Option.isNone_iff_eq_none, Bool.not_eq_true', List.contains_eq_mem,
    decide_eq_false_iff_not, List.mem_cons, not_or] at hc
  obtain ⟨hmark, hspace, htab, hline, hreturn, hcomment, -⟩ := hc
  simp [begin, hmark, hspace, htab, hline, hreturn, hcomment, hquote]

theorem Rests.word (h : s.Rests seen) {w : List Char} (hw : IsWord w) :
    ∃ s', w.foldlM step? s = some s' ∧ s'.Pauses (seen ++ [.word w]) := by
  obtain ⟨hnonempty, hcharacters, hunquoted⟩ := hw
  obtain ⟨c, cs, rfl⟩ := List.exists_cons_of_ne_nil hnonempty
  rw [List.forall_mem_cons] at hcharacters hunquoted
  let mid : Scanner := { s.advance c with mode := .word s.offset [c] }
  have hstep : s.step? c = some mid := by
    simp only [step?, h.mode, begin_of_isWordCharacter hcharacters.1 hunquoted.1, mid]
  have hmid : mid.InWord seen s.offset [c] := ⟨rfl, h.tokens⟩
  obtain ⟨s', hs', hword⟩ := hmid.steps hcharacters.2
  exact ⟨s', by rw [steps_cons hstep, hs'], hword.pauses⟩

/-! ## Quoted texts -/

/-- A scanner in a text between double quotes. -/
structure InQuotes (s : Scanner) (seen : List Token) (q : List Char) : Prop where
  mode : ∃ start, s.mode = .quoted start ⟨'"', false, q.reverse, .content⟩
  tokens : s.seen = seen

theorem InQuotes.steps {q : List Char} (h : s.InQuotes seen q) (hcs : IsVerbatim cs) :
    ∃ s', cs.foldlM step? s = some s' ∧ s'.InQuotes seen (q ++ cs) := by
  induction cs generalizing s q with
  | nil => exact ⟨s, rfl, by simpa using h⟩
  | cons c cs ih =>
    obtain ⟨⟨hplain, hquote, hescape⟩, hcs⟩ := List.forall_mem_cons.mp hcs
    obtain ⟨start, hmode⟩ := h.mode
    let mid : Scanner := { s.advance c with mode := .quoted start ⟨'"', false, c :: q.reverse, .content⟩ }
    have hstep : s.step? c = some mid := by
      simp [step?, hmode, Quotation.step, Quotation.stepContent, Quotation.push, hplain, hquote, hescape, mid]
    have hmid : mid.InQuotes seen (q ++ [c]) := ⟨⟨start, by simp [mid]⟩, h.tokens⟩
    obtain ⟨s', hs', hquotes⟩ := ih hmid hcs
    exact ⟨s', by rw [steps_cons hstep, hs'], by simpa using hquotes⟩

/-- The second quote ends a text that is not empty. -/
theorem InQuotes.close {q : List Char} (h : s.InQuotes seen q) :
    ∃ s', s.step? '"' = some s' ∧ s'.Rests (seen ++ [.quoted (String.ofList q) false]) := by
  obtain ⟨start, hmode⟩ := h.mode
  refine ⟨(s.advance '"').emit start (.quoted (String.ofList q) false), ?_, rests_emit (s := s.advance '"') h.tokens _ _⟩
  simp [step?, hmode, Quotation.step, Quotation.stepContent, Quotation.text]

/-- Two quotes are an empty text, unless a third one follows. -/
theorem Rests.quoted_nil (h : s.Rests seen) :
    ∃ s', ['"', '"'].foldlM step? s = some s' ∧ s'.Pauses (seen ++ [.quoted "" false]) := by
  let opened : Scanner := { s.advance '"' with mode := .quoted s.offset (.start '"') }
  let twice : Scanner := { opened.advance '"' with mode := .quoted s.offset ⟨'"', false, [], .openedTwice⟩ }
  have hopened : s.step? '"' = some opened := by rw [step?, h.mode]; rfl
  have htwice : opened.step? '"' = some twice := rfl
  refine ⟨twice, by rw [steps_cons hopened, steps_cons htwice]; rfl, twice.emit s.offset (.quoted "" false), ?_, rfl, ?_⟩
  · exact rests_emit (s := twice) h.tokens _ _
  · intro c hc
    have hquote : c ≠ '"' := by
      rintro rfl
      exact absurd hc (by decide)
    simp [twice, step?, Quotation.step, hquote, emit]

theorem Rests.quoted (h : s.Rests seen) {q : List Char} (hq : IsVerbatim q) :
    ∃ s', ('"' :: (q ++ ['"'])).foldlM step? s = some s' ∧ s'.Pauses (seen ++ [.quoted (String.ofList q) false]) := by
  cases q with
  | nil => exact h.quoted_nil
  | cons c cs =>
    obtain ⟨⟨hplain, hquote, hescape⟩, hcs⟩ := List.forall_mem_cons.mp hq
    let opened : Scanner := { s.advance '"' with mode := .quoted s.offset (.start '"') }
    let inside : Scanner := { opened.advance c with mode := .quoted s.offset ⟨'"', false, [c], .content⟩ }
    have hopened : s.step? '"' = some opened := by rw [step?, h.mode]; rfl
    have hinside : opened.step? c = some inside := by
      simp [opened, inside, step?, Quotation.start, Quotation.step, Quotation.stepContent, Quotation.push, hplain, hquote,
        hescape]
    have hquotes : inside.InQuotes seen [c] := ⟨⟨s.offset, rfl⟩, h.tokens⟩
    obtain ⟨mid, hmid, hquotes⟩ := hquotes.steps hcs
    obtain ⟨s', hs', hrests⟩ := hquotes.close
    refine ⟨s', ?_, hrests.pauses⟩
    rw [steps_cons hopened, List.cons_append, steps_cons hinside, steps_append hmid, steps_cons hs']
    rfl

/-! ## Whole texts -/

/-- Whether a token has ended already makes no difference if the text goes on with something else. -/
theorem Pauses.resume (h : s.Pauses seen) (hapart : Apart cs) {more : List Token}
    (hcs : ∀ e : Scanner, e.Rests seen → ∃ s', cs.foldlM step? e = some s' ∧ s'.Pauses more) :
    ∃ s', cs.foldlM step? s = some s' ∧ s'.Pauses more := by
  obtain ⟨e, hrests, hfinish, hstep⟩ := h
  obtain ⟨s', hs', hpauses⟩ := hcs e hrests
  cases cs with
  | nil =>
    cases hs'
    obtain ⟨e', hrests', hfinish', -⟩ := hpauses
    have he' : e' = e := by simpa [finish?, hrests.mode] using hfinish'.symm
    exact ⟨s, rfl, e, he' ▸ hrests', hfinish, hstep⟩
  | cons c cs =>
    refine ⟨s', ?_, hpauses⟩
    rw [List.foldlM_cons, hstep c (apart_cons.mp hapart), ← List.foldlM_cons]
    exact hs'

/-- From between two tokens, a text is read as the tokens that it spells. -/
theorem Rests.steps_of_spells {cs : List Char} {ts : List Token} (hspells : Spells cs ts) (h : s.Rests seen) :
    ∃ s', cs.foldlM step? s = some s' ∧ s'.Pauses (seen ++ ts) := by
  induction hspells generalizing s seen with
  | nil => exact ⟨s, rfl, by simpa using h.pauses⟩
  | single token rest ih =>
    obtain ⟨mid, hmid, hrests⟩ := h.step_single token
    obtain ⟨s', hs', hpauses⟩ := ih hrests
    exact ⟨s', by rw [steps_cons hmid, hs'], by simpa using hpauses⟩
  | word isWord apart rest ih =>
    obtain ⟨mid, hmid, hpauses⟩ := h.word isWord
    obtain ⟨s', hs', hpauses⟩ := hpauses.resume apart fun e he => ih he
    exact ⟨s', by rw [steps_append hmid, hs'], by simpa using hpauses⟩
  | @quoted q cs ts isVerbatim apart rest ih =>
    obtain ⟨mid, hmid, hpauses⟩ := h.quoted isVerbatim
    obtain ⟨s', hs', hpauses⟩ := hpauses.resume apart fun e he => ih he
    have hsplit : '"' :: (q ++ '"' :: cs) = ('"' :: (q ++ ['"'])) ++ cs := by simp
    exact ⟨s', by rw [hsplit, steps_append hmid, hs'], by simpa using hpauses⟩

end Scanner

/-- A text is read as the tokens that it spells, and its last line is ended. -/
theorem exists_tokens?_of_spells {cs : List Char} {ts : List Token} (h : Spells cs ts) (offset : Nat) :
    ∃ located, tokens? offset cs = some located ∧ located.map (·.value) = ts ++ [.lineEnd] := by
  have hstart : (Scanner.start offset).Rests [] := ⟨rfl, rfl⟩
  obtain ⟨s, hs, e, hrests, hfinish, -⟩ := hstart.steps_of_spells h
  refine ⟨(e.emit e.offset .lineEnd).tokens.reverse, ?_, ?_⟩
  · simp [tokens?, hs, hfinish]
  · have hseen := (Scanner.rests_emit hrests.tokens e.offset .lineEnd).tokens
    simpa [Scanner.seen] using hseen

end ValueObjects.Toml

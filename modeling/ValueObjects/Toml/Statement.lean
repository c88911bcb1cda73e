import ValueObjects.Toml.Scalar
import ValueObjects.Toml.Table
import ValueObjects.Toml.Token

/-!
# Statements

A document as a sequence of headers and assignments. Tokens are read one after another; what a token means depends on
the position in the line and on the arrays and tables that are open around it.
-/

namespace ValueObjects.Toml

/-- What a document says in one place. -/
inductive Statement
  /-- What follows belongs to a table. -/
  | table (path : KeyPath) (span : Span)
  /-- What follows belongs to a new table at the end of a list. -/
  | element (path : KeyPath) (span : Span)
  | assignment (path : KeyPath) (value : Located Value)

namespace Statement

/-! ## State -/

/-- What a key is read for. -/
inductive Purpose
  /-- For a header that began at an offset, possibly one in double brackets. -/
  | header (double : Bool) (start : Nat)
  /-- For an assignment on a line of its own. -/
  | line
  /-- For an assignment in a table that began at an offset and has some entries. -/
  | entry (start : Nat) (entries : Entries)

/-- What has to come next. Items come with the latest first. -/
inductive Position
  | lineStart
  /-- Nothing more on this line. -/
  | lineDone
  /-- Behind an opening bracket, where a second one may follow. -/
  | headerStart (start : Nat)
  /-- The next part of a key. -/
  | key (purpose : Purpose) (front : List Key)
  /-- A dot, or what is behind a key. -/
  | keyDone (purpose : Purpose) (path : KeyPath)
  /-- Behind the first of two closing brackets. -/
  | headerEnd (start : Nat) (path : KeyPath)
  | value
  /-- Behind the key of an entry and a line end, where only an equals sign may follow. -/
  | equals (start : Nat) (entries : Entries) (path : KeyPath)
  /-- More of an unquoted value. -/
  | scalar (span : Span) (text : List Char)
  /-- Behind some blanks, the latest first, where an unquoted value may go on. -/
  | scalarBlanks (span : Span) (text blanks : List Char)
  /-- An item, or the end of an array. -/
  | item (start : Nat) (items : List (Located Value))
  /-- A comma, or the end of an array. -/
  | itemDone (start : Nat) (items : List (Located Value))
  /-- A key, or the end of a table. -/
  | entry (start : Nat) (entries : Entries)
  /-- A comma, or the end of a table. -/
  | entryDone (start : Nat) (entries : Entries)

/-- What the value that is being read is for. -/
inductive Frame
  | line (path : KeyPath)
  | item (start : Nat) (items : List (Located Value))
  | entry (start : Nat) (entries : Entries) (path : KeyPath)

/-- A reader of tokens, with the statements so far, the latest first. -/
structure Reader where
  position : Position
  frames : List Frame
  statements : List Statement

/-- How deep arrays and tables that are written as values may be nested, and how many parts a key may have. -/
def maxDepth : Nat := 80

namespace Reader

/-- A reader at the beginning of a document. -/
def start : Reader := ⟨.lineStart, [], []⟩

/-- Go to another position. -/
def goto (r : Reader) (position : Position) : Option Reader := some { r with position }

/-- Finish a statement. -/
def say (r : Reader) (s : Statement) : Option Reader :=
  some { r with position := .lineDone, statements := s :: r.statements }

/-! ## Values -/

/-- Use a value that was read. -/
def finish? (r : Reader) (value : Located Value) : Option Reader :=
  match r.frames with
  | [] => none
  | .line path :: frames => say { r with frames } (.assignment path value)
  | .item start items :: frames => some { r with position := .itemDone start (value :: items), frames }
  | .entry start entries path :: frames => do
    let entries ← entries.assign? path value .written
    return { r with position := .entryDone start entries, frames }

/-- Use an array that ends at an offset. -/
def finishArray? (r : Reader) (start stop : Nat) (items : List (Located Value)) : Option Reader :=
  r.finish? ⟨.between start stop, .array .written items.reverse⟩

/-- Use a table that ends at an offset. -/
def finishTable? (r : Reader) (start stop : Nat) (entries : Entries) : Option Reader :=
  r.finish? ⟨.between start stop, .table .written entries⟩

/-- Use an unquoted value. -/
def finishScalar? (r : Reader) (span : Span) (text : List Char) : Option Reader := do
  r.finish? ⟨span, ← Value.ofScalar? text⟩

/-- Decide whether a line may end in front of the value: it may in an entry. -/
def mayBreak (r : Reader) : Bool :=
  match r.frames with
  | .entry .. :: _ => true
  | _ => false

/-- Read the first token of a value. -/
def beginValue? (r : Reader) (t : Located Token) : Option Reader :=
  match t.value with
  | .word text => r.goto (.scalar t.span text)
  | .quoted text _ => r.finish? ⟨t.span, .text text⟩
  | .mark .openBracket => if r.frames.length ≤ maxDepth then r.goto (.item t.span.offset []) else none
  | .mark .openBrace => if r.frames.length ≤ maxDepth then r.goto (.entry t.span.offset []) else none
  | _ => none

/-- Read a token behind a value. -/
def afterValue? (r : Reader) (t : Located Token) : Option Reader :=
  match r.position, t.value with
  | .lineDone, .lineEnd => r.goto .lineStart
  | .lineDone, .space | .lineDone, .tab => some r
  | .itemDone start items, .mark .comma => r.goto (.item start items)
  | .itemDone start items, .mark .closeBracket => r.finishArray? start t.span.stop items
  | .itemDone .., .space | .itemDone .., .tab | .itemDone .., .lineEnd => some r
  | .entryDone start entries, .mark .comma => r.goto (.entry start entries)
  | .entryDone start entries, .mark .closeBrace => r.finishTable? start t.span.stop entries
  | .entryDone .., .space | .entryDone .., .tab | .entryDone .., .lineEnd => some r
  | _, _ => none

/-! ## Keys -/

/-- Decide whether a word can be a key: it has no sign but hyphens and underscores. -/
def isBareKey (text : List Char) : Bool := text.all fun c => c.isAlphanum || c == '_' || c == '-'

/-- Read a part of a key. -/
def key? (r : Reader) (purpose : Purpose) (front : List Key) (t : Located Token) : Option Reader :=
  match t.value with
  | .word text => if isBareKey text then r.goto (.keyDone purpose ⟨front, t.span, String.ofList text⟩) else none
  -- a text of several lines is no key
  | .quoted text false => r.goto (.keyDone purpose ⟨front, t.span, text⟩)
  | .space | .tab => r.goto (.key purpose front)
  | _ => none

/-- Go on to the value of an entry. -/
def beginEntry (r : Reader) (start : Nat) (entries : Entries) (path : KeyPath) : Reader :=
  { r with position := .value, frames := .entry start entries path :: r.frames }

/-- Read a token behind a key. The key of an entry may be the last of its line. -/
def afterKey? (r : Reader) (purpose : Purpose) (path : KeyPath) (t : Located Token) : Option Reader :=
  match t.value, purpose with
  | .space, _ | .tab, _ => some r
  | .mark .dot, _ => if path.keys.length < maxDepth then r.goto (.key purpose path.keys) else none
  | .mark .equals, .line => some { r with position := .value, frames := .line path :: r.frames }
  | .mark .equals, .entry start entries => some (r.beginEntry start entries path)
  | .lineEnd, .entry start entries => r.goto (.equals start entries path)
  | .mark .closeBracket, .header false start => r.say (.table path (.between start t.span.stop))
  | .mark .closeBracket, .header true start => r.goto (.headerEnd start path)
  | _, _ => none

/-! ## All positions -/

/-- Read one token. -/
def step? (r : Reader) (t : Located Token) : Option Reader :=
  match r.position with
  | .lineStart =>
    match t.value with
    | .space | .tab | .lineEnd => some r
    | .mark .openBracket => r.goto (.headerStart t.span.offset)
    | _ => r.key? .line [] t
  | .lineDone => r.afterValue? t
  | .headerStart start =>
    if t.value = .mark .openBracket then r.goto (.key (.header true start) [])
    else r.key? (.header false start) [] t
  | .key purpose front => r.key? purpose front t
  | .keyDone purpose path => r.afterKey? purpose path t
  | .headerEnd start path =>
    if t.value = .mark .closeBracket then r.say (.element path (.between start t.span.stop)) else none
  | .value =>
    match t.value with
    | .space | .tab => some r
    | .lineEnd => if r.mayBreak then some r else none
    | _ => r.beginValue? t
  | .equals start entries path =>
    match t.value with
    | .space | .tab | .lineEnd => some r
    | .mark .equals => some (r.beginEntry start entries path)
    | _ => none
  | .scalar span text =>
    match t.value with
    | .word more => r.goto (.scalar (.between span.offset t.span.stop) (text ++ more))
    | .mark .dot => r.goto (.scalar (.between span.offset t.span.stop) (text ++ ['.']))
    | .space => r.goto (.scalarBlanks span text [' '])
    | .tab => r.goto (.scalarBlanks span text ['\t'])
    -- what ends the value is looked at again behind it
    | _ => do (← r.finishScalar? span text).afterValue? t
  | .scalarBlanks span text blanks =>
    -- blanks belong to the value only if it goes on behind them
    match t.value with
    | .word more => r.goto (.scalar (.between span.offset t.span.stop) (text ++ blanks.reverse ++ more))
    | .space => r.goto (.scalarBlanks span text (' ' :: blanks))
    | .tab => r.goto (.scalarBlanks span text ('\t' :: blanks))
    | _ => do (← r.finishScalar? span text).afterValue? t
  | .item start items =>
    match t.value with
    | .space | .tab | .lineEnd => some r
    | .mark .closeBracket => r.finishArray? start t.span.stop items
    | _ => beginValue? { r with frames := .item start items :: r.frames } t
  | .itemDone .. => r.afterValue? t
  | .entry start entries =>
    match t.value with
    | .space | .tab | .lineEnd => some r
    | .mark .closeBrace => r.finishTable? start t.span.stop entries
    | _ => r.key? (.entry start entries) [] t
  | .entryDone .. => r.afterValue? t

end Reader

/-- Read tokens as statements. The last line has to be complete. -/
def ofTokens? (tokens : List (Located Token)) : Option (List Statement) := do
  let r ← tokens.foldlM Reader.step? Reader.start
  match r.position with
  | .lineStart => some r.statements.reverse
  | _ => none

end Statement

end ValueObjects.Toml

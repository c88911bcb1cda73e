import ValueObjects.Text.Digits

/-!
# Quoted texts

Texts between quotes, read character by character. There are double and single quotes, and both may be written once
around a text on one line or three times around a text of any number of lines. Only in double quotes a backslash has a
meaning.
-/

namespace ValueObjects.Toml

/-! ## State -/

/-- Where in a quoted text a reader is. -/
inductive Quotation.Phase
  /-- Behind the first quote. -/
  | opened
  /-- Behind two quotes at the beginning: an empty text, or more than one line. -/
  | openedTwice
  /-- Behind three quotes at the beginning, where a line end is dropped. -/
  | fresh
  /-- Behind a carriage return there. -/
  | freshReturn
  | content
  /-- Behind a carriage return in the text, which is part of a line end. -/
  | lineReturn
  /-- Behind a number of quotes that may be the end of a text of several lines. -/
  | closing (quotes : Nat)
  /-- Behind a backslash. -/
  | escape
  /-- In the digits of a character's number. -/
  | code (missing value : Nat)
  /-- In the blanks behind a backslash at the end of a line, on that line or on one of the next. -/
  | skipping (lineEnded : Bool)
  /-- Behind a carriage return among these blanks. -/
  | skippingReturn
deriving DecidableEq, Repr

/-- A quoted text that is being read. The characters of the text come latest first. -/
structure Quotation where
  quote : Char
  /-- The text may have several lines. -/
  long : Bool
  reversed : List Char
  phase : Quotation.Phase
deriving DecidableEq, Repr

/-- What a character does to a quoted text. -/
inductive Quotation.Outcome
  | more (state : Quotation)
  /-- The text ends with this character. -/
  | closed (text : String) (long : Bool)
  /-- The text has ended in front of this character. -/
  | closedBefore (text : String) (long : Bool)
  | malformed
deriving DecidableEq, Repr

namespace Quotation

/-- Begin behind the first quote. -/
def start (quote : Char) : Quotation := ⟨quote, false, [], .opened⟩

/-- The text without what is still to come. -/
def text (q : Quotation) : String := String.ofList q.reversed.reverse

/-- Go to another phase. -/
def goto (q : Quotation) (phase : Phase) : Outcome := .more { q with phase }

/-- Add a character to the text. -/
def push (q : Quotation) (c : Char) : Outcome := .more { q with reversed := c :: q.reversed, phase := .content }

/-! ## Characters -/

/-- Decide whether a character may stand in a comment or in a quoted text on one line. -/
def isPlain (c : Char) : Bool := c == '\t' || (0x20 ≤ c.toNat && c.toNat != 0x7F)

/-- A character of the text itself. -/
def stepContent (q : Quotation) (c : Char) : Outcome :=
  if c = q.quote then if q.long then q.goto (.closing 1) else .closed q.text false
  else if c = '\\' ∧ q.quote = '"' then q.goto .escape
  else if c = '\n' ∧ q.long then q.push c
  else if c = '\r' ∧ q.long then q.goto .lineReturn
  else if isPlain c then q.push c
  else .malformed

/-- The character behind a backslash. -/
def stepEscape (q : Quotation) (c : Char) : Outcome :=
  match c with
  | 'b' => q.push '\x08'
  | 't' => q.push '\t'
  | 'n' => q.push '\n'
  | 'f' => q.push '\x0c'
  | 'r' => q.push '\r'
  | 'e' => q.push '\x1b'
  | '"' => q.push '"'
  | '\\' => q.push '\\'
  | 'x' => q.goto (.code 2 0)
  | 'u' => q.goto (.code 4 0)
  | 'U' => q.goto (.code 8 0)
  | ' ' | '\t' => if q.long then q.goto (.skipping false) else .malformed
  | '\n' => if q.long then q.goto (.skipping true) else .malformed
  | '\r' => if q.long then q.goto .skippingReturn else .malformed
  | _ => .malformed

/-- Add the character with a number, unless there is none. -/
def pushCode (q : Quotation) (n : Nat) : Outcome :=
  if n < 0xD800 ∨ (0xDFFF < n ∧ n < 0x110000) then q.push (Char.ofNat n) else .malformed

/-- A digit of a character's number. -/
def stepCode (q : Quotation) (missing value : Nat) (c : Char) : Outcome :=
  match Text.hexDigit? c with
  | none => .malformed
  | some digit =>
    if missing ≤ 1 then q.pushCode (value * 16 + digit) else q.goto (.code (missing - 1) (value * 16 + digit))

/-- Add a number of quotes to the text. -/
def withQuotes (q : Quotation) (count : Nat) : Quotation :=
  { q with reversed := List.replicate count q.quote ++ q.reversed }

/-- A character behind quotes that may be the end. Three quotes are the end, and up to two in front of them belong to
the text. -/
def stepClosing (q : Quotation) (quotes : Nat) (c : Char) : Outcome :=
  -- with five quotes in a row nothing can be left open
  if c = q.quote then if quotes = 4 then .closed (q.withQuotes 2).text true else q.goto (.closing (quotes + 1))
  else if quotes < 3 then (q.withQuotes quotes).stepContent c
  else .closedBefore (q.withQuotes (quotes - 3)).text true

/-- Read one character. -/
def step (q : Quotation) (c : Char) : Outcome :=
  match q.phase with
  | .opened => if c = q.quote then q.goto .openedTwice else q.stepContent c
  | .openedTwice => if c = q.quote then .more { q with long := true, phase := .fresh } else .closedBefore "" false
  | .fresh =>
    if c = '\n' then q.goto .content else if c = '\r' then q.goto .freshReturn else q.stepContent c
  | .freshReturn => if c = '\n' then q.goto .content else .malformed
  | .content => q.stepContent c
  | .lineReturn =>
    if c = '\n' then .more { q with reversed := '\n' :: '\r' :: q.reversed, phase := .content } else .malformed
  | .closing quotes => q.stepClosing quotes c
  | .escape => q.stepEscape c
  | .code missing value => q.stepCode missing value c
  | .skipping lineEnded =>
    if c = ' ' ∨ c = '\t' then .more q
    else if c = '\n' then q.goto (.skipping true)
    else if c = '\r' then q.goto .skippingReturn
    -- a backslash in front of blanks has to be the last thing on its line
    else if lineEnded then q.stepContent c
    else .malformed
  | .skippingReturn => if c = '\n' then q.goto (.skipping true) else .malformed

/-- The text if the document ends here, and whether it may have several lines. -/
def finish? (q : Quotation) : Option (String × Bool) :=
  match q.phase with
  | .openedTwice => some ("", false)
  | .closing quotes => if quotes < 3 then none else some ((q.withQuotes (quotes - 3)).text, true)
  | _ => none

end Quotation

end ValueObjects.Toml

import ValueObjects.Span
import ValueObjects.Toml.Quotation

/-!
# Tokens

A document as a sequence of words, quoted texts, marks, blanks and line ends, each with its place. Comments are left
out. The text is read character by character; every character either goes on with the token that is being read or ends
it and begins the next.
-/

namespace ValueObjects.Toml

/-! ## Tokens -/

/-- The characters that stand for themselves. -/
inductive Mark
  | dot
  | equals
  | comma
  | openBracket
  | closeBracket
  | openBrace
  | closeBrace
deriving DecidableEq, Repr

/-- The smallest pieces of a document. -/
inductive Token
  /-- Whatever does not begin with a quote, up to the next mark, blank, line end or comment. -/
  | word (text : List Char)
  | quoted (text : String) (long : Bool)
  | mark (mark : Mark)
  | space
  | tab
  | lineEnd
deriving DecidableEq, Repr

/-- The mark that a character stands for. -/
def Mark.ofChar? : Char → Option Mark
  | '.' => some .dot
  | '=' => some .equals
  | ',' => some .comma
  | '[' => some .openBracket
  | ']' => some .closeBracket
  | '\x7b' => some .openBrace
  | '\x7d' => some .closeBrace
  | _ => none

/-- Decide whether a character can be part of a word. -/
def isWordCharacter (c : Char) : Bool := (Mark.ofChar? c).isNone && !([' ', '\t', '\n', '\r', '#'].contains c)

/-! ## Scanning -/

/-- What is being read. Words come with their latest character first. -/
inductive Scanner.Mode
  | between
  | word (start : Nat) (reversed : List Char)
  | quoted (start : Nat) (state : Quotation)
  | comment
  /-- Behind a carriage return, which begins a line end. -/
  | lineReturn
deriving DecidableEq, Repr

/-- A scanner at an offset, with the tokens so far, the latest first. -/
structure Scanner where
  offset : Nat
  mode : Scanner.Mode
  tokens : List (Located Token)

namespace Scanner

/-- Begin at an offset. -/
def start (offset : Nat) : Scanner := ⟨offset, .between, []⟩

/-- Add a token that began at an offset and ends here. -/
def emit (s : Scanner) (start : Nat) (token : Token) : Scanner :=
  { s with mode := .between, tokens := ⟨.between start s.offset, token⟩ :: s.tokens }

/-- Go past a character. -/
def advance (s : Scanner) (c : Char) : Scanner := { s with offset := s.offset + c.utf8Size }

/-- Go past a character that is a token. -/
def single (s : Scanner) (c : Char) (token : Token) : Scanner := (s.advance c).emit s.offset token

/-- Read a character that begins something. -/
def begin (s : Scanner) (c : Char) : Scanner :=
  match Mark.ofChar? c with
  | some mark => s.single c (.mark mark)
  | none =>
    if c = ' ' then s.single c .space
    else if c = '\t' then s.single c .tab
    else if c = '\n' then s.single c .lineEnd
    else if c = '\r' then { s.advance c with mode := .lineReturn }
    else if c = '#' then { s.advance c with mode := .comment }
    else if c = '"' ∨ c = '\'' then { s.advance c with mode := .quoted s.offset (.start c) }
    else { s.advance c with mode := .word s.offset [c] }

/-- Read one character. -/
def step? (s : Scanner) (c : Char) : Option Scanner :=
  match s.mode with
  | .between => some (s.begin c)
  | .word start reversed =>
    if isWordCharacter c then some { s.advance c with mode := .word start (c :: reversed) }
    -- the character that ends a word begins the next token
    else some ((s.emit start (.word reversed.reverse)).begin c)
  | .quoted start q =>
    match q.step c with
    | .more q => some { s.advance c with mode := .quoted start q }
    | .closed text long => some ((s.advance c).emit start (.quoted text long))
    | .closedBefore text long => some ((s.emit start (.quoted text long)).begin c)
    | .malformed => none
  | .comment =>
    if c = '\n' then some (s.single c .lineEnd)
    else if c = '\r' then some { s.advance c with mode := .lineReturn }
    else if Quotation.isPlain c then some (s.advance c)
    else none
  | .lineReturn => if c = '\n' then some (s.single c .lineEnd) else none

/-- Finish the last token. -/
def finish? (s : Scanner) : Option Scanner :=
  match s.mode with
  | .between => some s
  | .word start reversed => some (s.emit start (.word reversed.reverse))
  | .quoted start q => q.finish?.map fun (text, long) => s.emit start (.quoted text long)
  | .comment => some { s with mode := .between }
  | .lineReturn => none

end Scanner

/-- Split characters into tokens, the first of which is at an offset. The last line is ended too. -/
def tokens? (offset : Nat) (cs : List Char) : Option (List (Located Token)) := do
  let s ← cs.foldlM Scanner.step? (Scanner.start offset)
  let s ← s.finish?
  return (s.emit s.offset .lineEnd).tokens.reverse

end ValueObjects.Toml

import ValueObjects.Toml.Statement

/-!
# Documents

A whole text as a table. Statements are carried out one after another; an assignment goes into the table of the header
in front of it.
-/

namespace ValueObjects.Toml

namespace Document

/-- A document under construction: its table so far, and the keys that lead to the table of the latest header. -/
structure Draft where
  root : Entries
  current : List Key

/-- Carry out a statement. -/
def Draft.step? (d : Draft) : Statement → Option Draft
  | .table path span => (d.root.openTable? path span).map (⟨·, path.keys⟩)
  | .element path span => (d.root.openElement? path span).map (⟨·, path.keys⟩)
  | .assignment path value =>
    (d.root.under? false (Entries.assign? path value) d.current .headed).map ({ d with root := · })

/-- Carry out statements from the beginning. -/
def ofStatements? (statements : List Statement) : Option Entries :=
  (statements.foldlM Draft.step? ⟨[], []⟩).map (·.root)

/-- Split off a byte order mark, and tell how many bytes it takes. -/
def withoutMark : List Char → Nat × List Char
  | '\ufeff' :: cs => (3, cs)
  | cs => (0, cs)

/-- Read a text as a table. There is none if the text is not well formed. -/
def parse? (text : String) : Option Entries := do
  let (offset, cs) := withoutMark text.toList
  ofStatements? (← Statement.ofTokens? (← tokens? offset cs))

end Document

/-! ## Faults -/

/-- What is wrong with a text that is no document: where it stops being one, and why. -/
structure SyntaxError where
  span : Option Span
  message : String
deriving DecidableEq, Repr

/-- The account of a reader that refuses a text and does not say why. -/
def unexplained (_ : String) : SyntaxError := ⟨none, ""⟩

end ValueObjects.Toml

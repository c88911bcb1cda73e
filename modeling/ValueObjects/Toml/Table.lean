import ValueObjects.Toml.Value

/-!
# Tables under construction

The rules by which headers and assignments add to a document. A table may be named before it gets its header, but it
gets only one header; a table named by keys with dots gets none, and a value that is written out gets nothing added.
-/

namespace ValueObjects.Toml

/-- A key with dots: the last part, and the parts in front of it. -/
structure KeyPath where
  front : List Key
  last : Key
deriving Repr

/-- All parts of a key. -/
def KeyPath.keys (p : KeyPath) : List Key := p.front ++ [p.last]

namespace Entries

/-! ## Single keys -/

/-- Look up a key. -/
def get? (name : String) : Entries → Option (Located Value)
  | [] => none
  | (key, value) :: rest => if key.value = name then some value else get? name rest

/-- Give a key a new value and leave it in its place. -/
def set (name : String) (value : Located Value) : Entries → Entries
  | [] => []
  | (key, old) :: rest => if key.value = name then (key, value) :: rest else (key, old) :: set name value rest

/-- Forget a key. -/
def erase (name : String) (entries : Entries) : Entries := entries.filter fun (key, _) => key.value != name

/-- Add a key that is not there yet. -/
def add? (entries : Entries) (key : Key) (value : Located Value) : Option Entries :=
  match get? key.value entries with
  | some _ => none
  | none => some (entries ++ [(key, value)])

/-! ## Paths -/

/-- Change the table that a path leads to, starting in a table of some kind. In place of a list of tables the last of
them is meant. Tables that are not there yet are made; with `dots`, the path is part of a key with dots, which does not
lead into tables that have headers. -/
def under? (dots : Bool) (change : TableKind → Entries → Option Entries) :
    List Key → TableKind → Entries → Option Entries
  | [], kind, entries => change kind entries
  | key :: path, _, entries =>
    match get? key.value entries with
    | none => do
      let kind := if dots then .dotted else .implied
      let body ← under? dots change path kind []
      return entries ++ [(key, ⟨key.span, .table kind body⟩)]
    | some ⟨span, .table kind body⟩ =>
      -- nothing is added to a table that was written as a value
      if kind = .written ∨ (dots ∧ kind = .headed) then none
      else do
        let body ← under? dots change path kind body
        return set key.value ⟨span, .table kind body⟩ entries
    | some ⟨span, .array .tables items⟩ =>
      match items.getLast? with
      | some ⟨itemSpan, .table kind body⟩ => do
        let body ← under? dots change path kind body
        return set key.value ⟨span, .array .tables (items.dropLast ++ [⟨itemSpan, .table kind body⟩])⟩ entries
      | _ => none
    | _ => none

/-- Assign a value to a key of a table. The table that holds the value must have been named by dots if the key has
dots, and otherwise not. -/
def assign? (path : KeyPath) (value : Located Value) : TableKind → Entries → Option Entries :=
  under? true (fun kind entries =>
    if (kind = .dotted) = (path.front ≠ []) then entries.add? path.last value else none)
    path.front

/-- Add a table with a header. One that was only implied takes its place at the end and keeps what it holds. -/
def openTable? (path : KeyPath) (span : Span) (root : Entries) : Option Entries :=
  under? false (fun _ entries =>
    match get? path.last.value entries with
    | none => some (entries ++ [(path.last, ⟨span, .table .headed []⟩)])
    | some ⟨_, .table .implied body⟩ =>
      some (entries.erase path.last.value ++ [(path.last, ⟨span, .table .headed body⟩)])
    | _ => none)
    path.front .headed root

/-- Add a table to a list of tables. -/
def openElement? (path : KeyPath) (span : Span) (root : Entries) : Option Entries :=
  under? false (fun _ entries =>
    match get? path.last.value entries with
    | none => some (entries ++ [(path.last, ⟨span, .array .tables [⟨span, .table .headed []⟩]⟩)])
    | some ⟨first, .array .tables items⟩ =>
      some (set path.last.value ⟨first, .array .tables (items ++ [⟨span, .table .headed []⟩])⟩ entries)
    | _ => none)
    path.front .headed root

end Entries

end ValueObjects.Toml

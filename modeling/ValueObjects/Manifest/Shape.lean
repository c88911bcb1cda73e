import ValueObjects.Manifest.Basic
import ValueObjects.Manifest.ShapeProblem
import ValueObjects.Number.Shortest
import ValueObjects.Toml.Value

/-!
# The shape of a manifest

A document is taken for a manifest key by key, in the order of the text, and the first thing that does not fit is
reported. A record is a table, or an array that holds its settings by position.
-/

namespace ValueObjects

open Toml (Value Key Entries IntegerLiteral FloatLiteral)

/-- What does not fit, and where it is. -/
abbrev ShapeError := Located ShapeProblem

/-! ## What was found -/

namespace Found

/-- Describe an integer, unless it takes more than 128 bits. An integer without a value counts as too large. -/
def ofInteger (x : IntegerLiteral) : Except ShapeProblem Found :=
  match x.value? with
  | some n => if -Int.pow 2 127 ≤ n ∧ n < Int.pow 2 128 then .ok (.integer n) else .error .integerOverflow
  | none => .error .integerOverflow

/-- Describe a floating-point number, unless it is larger than all doubles. -/
def ofFloat : FloatLiteral → Except ShapeProblem Found
  | .notANumber => .ok (.float "NaN")
  | .infinite negative => .ok (.float (if negative then "-inf" else "inf"))
  | .decimal negative digits exponent =>
    match Number.Binary64.ofDecimal? digits exponent with
    | some x => .ok (.float ((if negative then "-" else "") ++ x.text))
    | none => .error .floatOverflow

/-- Describe a value. A date is described as a table. -/
def ofValue : Value → Except ShapeProblem Found
  | .text s => .ok (.text s)
  | .integer n => ofInteger n
  | .float x => ofFloat x
  | .boolean b => .ok (.boolean b)
  | .dateTime _ => .ok .table
  | .array _ _ => .ok .sequence
  | .table _ _ => .ok .table

end Found

/-- The problem of a value that is not of the wanted kind. -/
def mismatch (v : Located Value) (wanted : Wanted) : ShapeError :=
  match Found.ofValue v.value with
  | .ok found => ⟨v.span, .wrongKind found wanted⟩
  | .error problem => ⟨v.span, problem⟩

/-! ## Single settings -/

namespace Shape

/-- Take a value for a text. -/
def text (v : Located Value) : Except ShapeError String :=
  match v.value with
  | .text s => .ok s
  | _ => .error (mismatch v .text)

/-- Take a value for a path. -/
def path (v : Located Value) : Except ShapeError Path :=
  match v.value with
  | .text s => .ok ⟨s⟩
  | _ => .error (mismatch v .path)

/-- Take a value for a truth value. -/
def boolean (v : Located Value) : Except ShapeError Bool :=
  match v.value with
  | .boolean b => .ok b
  | _ => .error (mismatch v .boolean)

/-! ## Records -/

/-- The name of the only key that a date has when it is taken for a record. -/
def dateKey : String := "$__toml_private_datetime"

/-- Take a value for a record, from a table or by position. -/
def record {α : Type} (kind : RecordKind) (ofEntries : Entries → Except ShapeError α)
    (ofItems : List (Located Value) → Except ShapeError α) (v : Located Value) : Except ShapeError α :=
  match v.value with
  | .table _ entries => ofEntries entries
  | .array _ items => ofItems items
  -- a date is a table with one key, which no record has
  | .dateTime _ => .error ⟨v.span, .unknownKey dateKey kind.keys⟩
  | _ => .error (mismatch v (.record kind))

/-- The problem of a key that a record does not have. -/
def unknown (key : Key) (kind : RecordKind) : ShapeError := ⟨key.span, .unknownKey key.value kind.keys⟩

/-- Take the next item of a record read by position, which has to be there. -/
def required {α : Type} (span : Span) (kind : RecordKind) (index : Nat)
    (read : Located Value → Except ShapeError α) :
    List (Located Value) → Except ShapeError (α × List (Located Value))
  | [] => .error ⟨span, .tooShort index kind⟩
  | v :: rest => do return (← read v, rest)

/-- Take the next item of a record read by position, if it is there. -/
def optional {α : Type} (standard : α) (read : Located Value → Except ShapeError α) :
    List (Located Value) → Except ShapeError (α × List (Located Value))
  | [] => .ok (standard, [])
  | v :: rest => do return (← read v, rest)

end Shape

/-! ## Settings of the generator -/

namespace GeneratorSettings

/-- Add the setting of a key. -/
def withEntry (s : GeneratorSettings) : Key × Located Value → Except ShapeError GeneratorSettings
  | (key, v) =>
    match key.value with
    | "namespace" => do return { s with namespaceName := some (← Shape.text v) }
    | "output" => do return { s with output := ← Shape.path v }
    | _ => .error (Shape.unknown key .generator)

/-- Read the settings from a table. -/
def ofEntries (entries : Entries) : Except ShapeError GeneratorSettings := entries.foldlM withEntry standard

/-- Read the settings by position. The namespace has to be there. -/
def ofItems (span : Span) (items : List (Located Value)) : Except ShapeError GeneratorSettings := do
  let (name, items) ← Shape.required span .generator 0 Shape.text items
  let (output, _) ← Shape.optional defaultOutput Shape.path items
  return ⟨some name, output⟩

/-- Read the settings from a value. -/
def ofValue (v : Located Value) : Except ShapeError GeneratorSettings :=
  Shape.record .generator ofEntries (ofItems v.span) v

end GeneratorSettings

/-! ## Settings of value objects -/

namespace ValueObjectSettings

/-- Settings without the inner type, which may not have been read yet. -/
structure Draft where
  inner : Option String
  nullable : Option Bool
  defaultValue : Bool
  defaultEqualityComparer : Bool
  guid : Option Bool
deriving DecidableEq, Repr

/-- Add the setting of a key. -/
def Draft.withEntry (d : Draft) : Key × Located Value → Except ShapeError Draft
  | (key, v) =>
    match key.value with
    | "inner" => do return { d with inner := some (← Shape.text v) }
    | "nullable" => do return { d with nullable := some (← Shape.boolean v) }
    | "default_value" => do return { d with defaultValue := ← Shape.boolean v }
    | "default_equality_comparer" => do return { d with defaultEqualityComparer := ← Shape.boolean v }
    | "guid" => do return { d with guid := some (← Shape.boolean v) }
    | _ => .error (Shape.unknown key .valueObject)

/-- Settings are complete when there is an inner type. The place of a table without one is the table. -/
def Draft.complete (d : Draft) (span : Span) : Except ShapeError ValueObjectSettings :=
  match d.inner with
  | some inner => .ok ⟨inner, d.nullable, d.defaultValue, d.defaultEqualityComparer, d.guid⟩
  | none => .error ⟨span, .missingKey "inner"⟩

/-- Read the settings from a table. -/
def ofEntries (span : Span) (entries : Entries) : Except ShapeError ValueObjectSettings := do
  let draft ← entries.foldlM Draft.withEntry ⟨none, none, false, false, none⟩
  draft.complete span

/-- Read the settings by position. Only those with a standard value may be missing. -/
def ofItems (span : Span) (items : List (Located Value)) : Except ShapeError ValueObjectSettings := do
  let (inner, items) ← Shape.required span .valueObject 0 Shape.text items
  let (nullable, items) ← Shape.required span .valueObject 1 Shape.boolean items
  let (defaultValue, items) ← Shape.optional false Shape.boolean items
  let (defaultEqualityComparer, items) ← Shape.optional false Shape.boolean items
  -- the last setting has no standard value here, so all five have to be there after all
  let (guid, _) ← Shape.required span .valueObject 4 Shape.boolean items
  return ⟨inner, some nullable, defaultValue, defaultEqualityComparer, some guid⟩

/-- Read the settings from a value. -/
def ofValue (v : Located Value) : Except ShapeError ValueObjectSettings :=
  Shape.record .valueObject (ofEntries v.span) (ofItems v.span) v

end ValueObjectSettings

/-! ## Manifests -/

namespace Manifest

/-- The keys of a manifest. -/
def keys : List String := ["generator", "value_objects"]

/-- Read the declarations of value objects, in order. A date is taken for a table with its text in it, and a text is no
declaration. -/
def declarations (v : Located Value) : Except ShapeError (List (String × ValueObjectSettings)) :=
  match v.value with
  | .table _ entries => entries.mapM fun (key, v) => do return (key.value, ← ValueObjectSettings.ofValue v)
  | .dateTime d => .error ⟨v.span, .wrongKind (.text d.text) (.record .valueObject)⟩
  | _ => .error (mismatch v .table)

/-- Add the setting of a key. -/
def withEntry (m : Manifest) : Key × Located Value → Except ShapeError Manifest
  | (key, v) =>
    match key.value with
    | "generator" => do return { m with generator := ← GeneratorSettings.ofValue v }
    | "value_objects" => do return { m with valueObjects := ← declarations v }
    | name => .error ⟨key.span, .unknownKey name keys⟩

/-- Read a manifest from a document. -/
def ofEntries (entries : Entries) : Except ShapeError Manifest := entries.foldlM withEntry ⟨.standard, []⟩

end Manifest

end ValueObjects

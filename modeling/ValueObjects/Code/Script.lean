import ValueObjects.Code.Outline

/-!
# Scripts

A script is what a program does with one builder: it writes, and it opens and closes blocks. A body answers for the
blocks it opened itself, so whichever way the body is left, at its end, early or by a panic, those blocks are closed,
innermost first. A panic leaves every body around it; only the outermost one goes on behind the step that failed.
-/

namespace ValueObjects

/-- A single step that opens and closes nothing. -/
inductive Action
  | line (text : String)
  | raw (text : String)
  | blank
  /-- Write a whole outline. -/
  | write (outline : Outline)
  /-- Look at the text so far. -/
  | look
  /-- Take a copy of the builder and write a line to the copy. -/
  | fork (text : String)
deriving DecidableEq, Repr

/-- The steps of a body. -/
inductive Script
  | done
  | act (action : Action) (rest : Script)
  /-- Open a block that stays open until it is closed or the body ends. -/
  | openBlock (rest : Script)
  /-- Close the innermost block that this body has opened, if there is one. -/
  | closeBlock (rest : Script)
  /-- Run a body of its own inside a block. -/
  | block (body rest : Script)
  /-- Leave the body early. The rest of it is not run. -/
  | leave (rest : Script)
  | panic (rest : Script)
deriving DecidableEq, Repr, Inhabited

/-! ## What is seen -/

/-- What a step has to say besides the state of the builder. -/
inductive Note
  | nothing
  /-- There was no block to close. -/
  | ignored
  | panicked
  | text
  | copy (builder : CodeBuilder)
deriving DecidableEq, Repr

/-- The builder after a step. -/
structure Snapshot where
  builder : CodeBuilder
  note : Note
deriving DecidableEq, Repr

/-- A builder at work, with a snapshot for each step so far, the latest first. -/
structure Session where
  builder : CodeBuilder
  seen : List Snapshot
deriving DecidableEq, Repr

namespace Session

/-- Change the builder without a snapshot. -/
def quietly (s : Session) (f : CodeBuilder → CodeBuilder) : Session := { s with builder := f s.builder }

/-- Take a snapshot. -/
def snap (s : Session) (note : Note) : Session := { s with seen := ⟨s.builder, note⟩ :: s.seen }

/-- Change the builder and take a snapshot. -/
def step (s : Session) (f : CodeBuilder → CodeBuilder) : Session := (s.quietly f).snap .nothing

end Session

/-- Run a single step. -/
def Action.run : Action → Session → Session
  | line t, s => s.step (·.line t)
  | raw t, s => s.step (·.raw t)
  | blank, s => s.step (·.blank)
  | write o, s => s.step (·.write o)
  | look, s => s.snap .text
  | fork t, s => s.snap (.copy (s.builder.line t))

/-! ## Running -/

/-- How a body was left. -/
inductive Exit
  | finished
  | panicked
deriving DecidableEq, Repr

namespace Script

/-- Run a body that has `live` blocks of its own open. No block of the body is open at the end. A nested body passes a
panic on to the body around it; the outermost one goes on with the rest. -/
def run (nested : Bool) (live : Nat) : Script → Session → Exit × Session
  | done, s => (.finished, s.quietly (.closeBlocks live))
  | act a rest, s => rest.run nested live (a.run s)
  | openBlock rest, s => rest.run nested (live + 1) (s.step (·.openBlock))
  | closeBlock rest, s =>
    match live with
    | 0 => rest.run nested 0 (s.snap .ignored)
    | n + 1 => rest.run nested n (s.step (·.closeBlock))
  | block body rest, s =>
    match body.run true 0 (s.step (·.openBlock)) with
    | (.finished, s) => rest.run nested live (s.step (·.closeBlock))
    -- the block around the body is closed first, then those that were open in front of it
    | (.panicked, s) =>
      let s := s.quietly fun b => b.closeBlock.closeBlocks live
      if nested then (.panicked, s) else rest.run nested 0 (s.snap .panicked)
  | leave _, s => (.finished, s.quietly (.closeBlocks live))
  | panic rest, s =>
    let s := s.quietly (.closeBlocks live)
    if nested then (.panicked, s) else rest.run nested 0 (s.snap .panicked)

/-- Run a whole script on a builder. The snapshots are in the order of the steps. -/
def play (script : Script) (b : CodeBuilder) : CodeBuilder × List Snapshot :=
  let (_, s) := script.run false 0 ⟨b, []⟩
  (s.builder, s.seen.reverse)

end Script

/-- What was written between two snapshots of one builder: the bytes behind those of the earlier text. -/
def CodeBuilder.addedSince (before after : CodeBuilder) : String :=
  (String.fromUTF8? (after.text.toUTF8.extract before.text.utf8ByteSize after.text.utf8ByteSize)).getD ""

end ValueObjects

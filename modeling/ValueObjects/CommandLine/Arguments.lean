import ValueObjects.CommandLine.Command

/-!
# Arguments

The words of a command line as a command. They are read from left to right. The first word that makes no sense decides
that the command line is wrong, unless help or the version was asked for in front of it. A value that stands in a word
of its own is looked at when the next option is, or at the end.
-/

namespace ValueObjects.CommandLine

/-! ## Errors -/

/-- What is wrong with a command line. -/
inductive UsageError
  | missingCommand
  | unknownCommand (name : String)
  | unknownOption (word : String)
  | unexpectedArgument (word : String)
  | unexpectedValue (option : Switch)
  | missingValue (option : Switch)
  | repeatedOption (option : Switch)
  | missingShell
  | unknownShell (name : String)
deriving DecidableEq, Repr

/-- Why reading ends in front of the last word. -/
inductive Stop
  | wrong (error : UsageError)
  /-- Help or the version is asked for, whatever follows. -/
  | settled (command : Command)
deriving DecidableEq, Repr

/-! ## State -/

/-- A word that still has to be looked at, or waited for. -/
inductive Pending
  /-- The value of an option comes next. -/
  | awaited (option : Switch)
  | value (option : Switch) (word : String)
  | shell (word : String)
deriving DecidableEq, Repr

/-- What was read so far. -/
structure Reading where
  scope : Scope
  config : Option String
  output : Option String
  dryRun : Bool
  shell : Option Shell
  pending : Option Pending
  /-- All words that follow are arguments, even if they begin with a hyphen. -/
  plain : Bool
deriving DecidableEq, Repr

namespace Reading

/-- Nothing was read. -/
def start : Reading := ⟨.program, none, none, false, none, none, false⟩

/-- Note the value of an option. It must not be empty, and the option must not have a value yet. -/
def setValue (r : Reading) (option : Switch) (word : String) : Except Stop Reading :=
  match option with
  | .config =>
    if r.config.isSome then .error (.wrong (.repeatedOption .config))
    else if word = "" then .error (.wrong (.missingValue .config))
    else .ok { r with config := some word }
  | .output =>
    if r.output.isSome then .error (.wrong (.repeatedOption .output))
    else if word = "" then .error (.wrong (.missingValue .output))
    else .ok { r with output := some word }
  | other => .error (.wrong (.unexpectedValue other))

/-- Look at the word that was put off. -/
def settle (r : Reading) : Except Stop Reading :=
  match r.pending with
  | none => .ok r
  | some (.awaited option) => .error (.wrong (.missingValue option))
  | some (.value option word) => setValue { r with pending := none } option word
  | some (.shell word) =>
    match Shell.ofName? word with
    | some shell => .ok { r with pending := none, shell := some shell }
    | none => .error (.wrong (.unknownShell word))

/-- Note an option without a value. -/
def setFlag (r : Reading) (option : Switch) : Except Stop Reading := do
  -- a value in front of the option is looked at first, even if help is asked for
  let r ← r.settle
  match option with
  | .help => throw (.settled (.help r.scope))
  | .version => throw (.settled .version)
  | .dryRun => if r.dryRun then throw (.wrong (.repeatedOption .dryRun)) else return { r with dryRun := true }
  | _ => return r

/-- Wait for the value of an option. -/
def await (r : Reading) (option : Switch) : Except Stop Reading := do
  let r ← r.settle
  return { r with pending := some (.awaited option) }

/-- Note the value of an option that is in the same word. -/
def setAttached (r : Reading) (option : Switch) (word : String) : Except Stop Reading := do
  let r ← r.settle
  r.setValue option word

/-! ## Words -/

/-- Read an option with a long name, which may have a value behind an equals sign. -/
def long (r : Reading) (cs : List Char) : Except Stop Reading :=
  let name := String.ofList (cs.takeWhile (· ≠ '='))
  let attached := cs.dropWhile (· ≠ '=')
  match Switch.ofLong? r.scope name with
  | none => .error (.wrong (.unknownOption ("--" ++ String.ofList cs)))
  | some option =>
    match option.takesValue, attached with
    | true, [] => r.await option
    | true, _ :: value => r.setAttached option (String.ofList value)
    | false, [] => r.setFlag option
    | false, _ :: _ => .error (.wrong (.unexpectedValue option))

/-- Read options with one letter each. One that takes a value takes the rest of the word, without an equals sign in
front. -/
def letters (r : Reading) : List Char → Except Stop Reading
  | [] => .ok r
  | c :: cs =>
    match Switch.ofLetter? r.scope c with
    | none => .error (.wrong (.unknownOption ("-" ++ String.ofList [c])))
    | some option =>
      if option.takesValue then
        match cs with
        | [] => r.await option
        | '=' :: value => r.setAttached option (String.ofList value)
        | value => r.setAttached option (String.ofList value)
      else do letters (← r.setFlag option) cs

/-- Read an argument. The program takes the name of a command, and the command for completions takes a shell. -/
def argument (r : Reading) (word : String) : Except Stop Reading :=
  match r.scope with
  | .program =>
    match Scope.ofName? word with
    -- behind two hyphens there are no commands
    | some scope => if r.plain then .error (.wrong (.unexpectedArgument word)) else .ok { r with scope }
    | none => .error (.wrong (.unknownCommand word))
  | .completions => do
    if r.shell.isSome ∨ r.pending.isSome then throw (.wrong (.unexpectedArgument word))
    else return { r with pending := some (.shell word) }
  | _ => .error (.wrong (.unexpectedArgument word))

/-- Read one word. -/
def word (r : Reading) (w : String) : Except Stop Reading :=
  if r.plain then r.argument w
  else
    match w.toList with
    | ['-', '-'] => .ok { r with plain := true }
    | '-' :: '-' :: cs => r.long cs
    | '-' :: c :: cs => r.letters (c :: cs)
    | _ =>
      match r.pending with
      | some (.awaited option) => .ok { r with pending := some (.value option w) }
      | _ => r.argument w

/-- The command that was read, if all it needs is there. -/
def finish (r : Reading) : Except Stop Command := do
  let r ← r.settle
  let config : Path := (r.config.map Path.mk).getD defaultConfig
  match r.scope with
  | .program => throw (.wrong .missingCommand)
  | .generate => return .generate config (r.output.map Path.mk) r.dryRun
  | .check => return .check config
  | .completions =>
    match r.shell with
    | some shell => return .completions shell
    | none => throw (.wrong .missingShell)

/-- Read the words behind the command that gives help: at most one name of a command, which may be its own. -/
def helpFor : List String → Except Stop Command
  | [] => .ok (.help .program)
  | ["help"] => .ok (.help .program)
  | [name] =>
    match Scope.ofName? name with
    | some scope => .ok (.help scope)
    | none => .error (.wrong (.unknownCommand name))
  | name :: other :: _ =>
    if name = "help" ∨ (Scope.ofName? name).isSome then .error (.wrong (.unknownCommand other))
    else .error (.wrong (.unknownCommand name))

/-- Read all words. -/
def words (r : Reading) : List String → Except Stop Command
  | [] => r.finish
  | w :: rest =>
    if w = "help" ∧ r.scope = .program ∧ r.plain = false then helpFor rest
    else do words (← r.word w) rest

end Reading

/-- Read a command line. -/
def Command.ofArguments (arguments : List String) : Except UsageError Command :=
  match Reading.start.words arguments with
  | .ok command => .ok command
  | .error (.settled command) => .ok command
  | .error (.wrong error) => .error error

end ValueObjects.CommandLine

import ValueObjects.Path

/-!
# Commands

What the program can be asked to do, and which options each command knows.
-/

namespace ValueObjects.CommandLine

/-- The shells that completions can be written for. -/
inductive Shell
  | bash
  | elvish
  | fish
  | powershell
  | zsh
deriving DecidableEq, Repr

/-- Find a shell by its name. -/
def Shell.ofName? : String → Option Shell
  | "bash" => some .bash
  | "elvish" => some .elvish
  | "fish" => some .fish
  | "powershell" => some .powershell
  | "zsh" => some .zsh
  | _ => none

/-- The commands, and the program in front of its command. -/
inductive Scope
  | program
  | generate
  | check
  | completions
deriving DecidableEq, Repr

/-- Find a command by its name. -/
def Scope.ofName? : String → Option Scope
  | "generate" => some .generate
  | "check" => some .check
  | "completions" => some .completions
  | _ => none

/-- What the program is asked to do. -/
inductive Command
  | generate (config : Path) (output : Option Path) (dryRun : Bool)
  | check (config : Path)
  | completions (shell : Shell)
  | help (scope : Scope)
  | version
deriving DecidableEq, Repr

/-- The manifest that is used if none is named. -/
def defaultConfig : Path := ⟨"tvo.toml"⟩

/-! ## Options -/

/-- The options of all commands. -/
inductive Switch
  | verbose
  | help
  | version
  | config
  | output
  | dryRun
deriving DecidableEq, Repr

namespace Switch

/-- Decide whether an option is followed by a value. -/
def takesValue : Switch → Bool
  | config | output => true
  | verbose | help | version | dryRun => false

/-- Decide whether a command has an option. -/
def isKnown : Scope → Switch → Bool
  | _, verbose | _, help => true
  | .program, version => true
  | .generate, config | .generate, output | .generate, dryRun => true
  | .check, config => true
  | _, _ => false

/-- Find an option of a command by its long name. -/
def ofLong? (scope : Scope) (name : String) : Option Switch :=
  let found := match name with
    | "verbose" => some verbose
    | "help" => some help
    | "version" => some version
    | "config" => some config
    | "output" => some output
    | "dry-run" => some dryRun
    | _ => none
  found.filter (isKnown scope)

/-- Find an option of a command by its letter. -/
def ofLetter? (scope : Scope) (letter : Char) : Option Switch :=
  let found := match letter with
    | 'v' => some verbose
    | 'h' => some help
    | 'V' => some version
    | 'c' => some config
    | 'o' => some output
    | _ => none
  found.filter (isKnown scope)

end Switch

end ValueObjects.CommandLine

import ValueObjects.CommandLine.Arguments

/-!
# Texts of the program

Help, completions, and the words for a wrong command line.
-/

namespace ValueObjects.CommandLine

/-- The name and the version of the program. -/
def versionText : String := "tvo 0.1.0\n"

/-- The lines about options that every command has. -/
def commonOptions : String :=
  "  -v, --verbose          Increase log verbosity\n"
    ++ "  -h, --help             Print help\n"

/-- How to use the program or one of its commands. -/
def helpText : Scope → String
  | .program =>
    "Generate C# value objects from tvo.toml declarations\n\nUsage: tvo [OPTIONS] <COMMAND>\n\nCommands:\n"
      ++ "  generate     Generate value object sources from tvo.toml\n"
      ++ "  check        Validate tvo.toml without generating code\n"
      ++ "  completions  Generate shell completions\n"
      ++ "  help         Print help for a command\n\nOptions:\n"
      ++ commonOptions ++ "  -V, --version          Print version\n"
  | .generate =>
    "Generate value object sources from tvo.toml\n\nUsage: tvo generate [OPTIONS]\n\nOptions:\n"
      ++ "  -c, --config <CONFIG>  Path to tvo.toml [default: tvo.toml]\n"
      ++ "  -o, --output <OUTPUT>  Output directory\n"
      ++ "      --dry-run          Preview generated code without writing to disk\n" ++ commonOptions
  | .check =>
    "Validate tvo.toml without generating code\n\nUsage: tvo check [OPTIONS]\n\nOptions:\n"
      ++ "  -c, --config <CONFIG>  Path to tvo.toml [default: tvo.toml]\n" ++ commonOptions
  | .completions =>
    "Generate shell completions\n\nUsage: tvo completions [OPTIONS] <SHELL>\n\nArguments:\n"
      ++ "  <SHELL>                bash, elvish, fish, powershell or zsh\n\nOptions:\n" ++ commonOptions

/-- The words that can follow the name of the program. -/
def commandNames : String := "generate check completions help"

/-- A script that teaches a shell the commands. -/
def completionScript : Shell → String
  | .bash => "complete -W '" ++ commandNames ++ "' -o default tvo\n"
  | .zsh => "#compdef tvo\n_arguments '1:command:(" ++ commandNames ++ ")' '*:file:_files'\n"
  | .fish => "complete -c tvo -n __fish_use_subcommand -a '" ++ commandNames ++ "'\n"
  | .elvish =>
    "set edit:completion:arg-completer[tvo] = \x7b|@words| put generate check completions help \x7d\n"
  | .powershell =>
    "Register-ArgumentCompleter -Native -CommandName tvo -ScriptBlock \x7b\n"
      ++ "  'generate', 'check', 'completions', 'help'\n\x7d\n"

/-- The long name of an option. -/
def Switch.name : Switch → String
  | verbose => "--verbose"
  | help => "--help"
  | version => "--version"
  | config => "--config"
  | output => "--output"
  | dryRun => "--dry-run"

/-- Say what is wrong with a command line. -/
def UsageError.message : UsageError → String
  | missingCommand => "a command is required"
  | unknownCommand name => "unrecognized command '" ++ name ++ "'"
  | unknownOption word => "unexpected option '" ++ word ++ "'"
  | unexpectedArgument word => "unexpected argument '" ++ word ++ "'"
  | unexpectedValue option => "'" ++ option.name ++ "' takes no value"
  | missingValue option => "a value is required for '" ++ option.name ++ "'"
  | repeatedOption option => "'" ++ option.name ++ "' cannot be used multiple times"
  | missingShell => "a shell is required"
  | unknownShell name => "unknown shell '" ++ name ++ "'"

end ValueObjects.CommandLine

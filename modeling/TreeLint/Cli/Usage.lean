import TreeLint.Cli.Arguments
import TreeLint.Report.Json

namespace TreeLint.Cli

namespace Slot

def text : Slot → String
  | target => "<PATH>"
  | s => "--" ++ s.name

end Slot

namespace UsageError

def helpLines : List String :=
  ["Usage: checkwalk [-v] <COMMAND>", "",
    "  lint <PATH> [-c <CONFIG>] [-f pretty|json|sarif] [--show-suppressed]",
    "  rules [-c <CONFIG>] [-f pretty|json]", "  init [-o <OUTPUT>] [--force]",
    "  help [COMMAND]"]

def helpText : String := String.intercalate "\n" helpLines

def message : UsageError → String
  | help | nothing => helpText
  | version => "checkwalk " ++ Report.version
  | noCommand => "error: a command is required"
  | unknownCommand name => s!"error: unrecognized subcommand '{name}'"
  | unknownArgument text => s!"error: unexpected argument '{text}' found"
  | missingTarget => "error: the path to lint is required"
  | missingOperand s => s!"error: a value is required for '{s.text}'"
  | needlessOperand s => s!"error: '{s.text}' takes no value"
  | repeated s => s!"error: '{s.text}' cannot be used multiple times"

def isAnswer (e : UsageError) : Bool := e = help || e = version

def exitCode (e : UsageError) : Nat := if e.isAnswer then 0 else 2

end UsageError

end TreeLint.Cli

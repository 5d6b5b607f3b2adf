namespace TreeLint.Cli

/-- What an option needs behind it. -/
inductive Operand where
  | none
  | text
  /-- A path, which is not empty. -/
  | path
  deriving DecidableEq, Repr

inductive Slot where
  | help
  | version
  | verbose
  | config
  | format
  | showSuppressed
  | output
  | force
  /-- The path that stands without an option in front. -/
  | target
  deriving DecidableEq, Repr

namespace Slot

def name : Slot → String
  | help => "help"
  | version => "version"
  | verbose => "verbose"
  | config => "config"
  | format => "format"
  | showSuppressed => "show-suppressed"
  | output => "output"
  | force => "force"
  | target => "path"

def letter? : Slot → Option Char
  | help => some 'h'
  | version => some 'V'
  | verbose => some 'v'
  | config => some 'c'
  | format => some 'f'
  | output => some 'o'
  | showSuppressed | force | target => none

def operand : Slot → Operand
  | help | version | verbose | showSuppressed | force => .none
  | format => .text
  | config | output | target => .path

def repeats (s : Slot) : Bool := s == verbose

end Slot

inductive UsageError where
  /-- The command line asks for a help text. -/
  | help
  | version
  | nothing
  | noCommand
  | unknownCommand (name : String)
  | unknownArgument (text : String)
  | missingTarget
  | missingOperand (slot : Slot)
  | needlessOperand (slot : Slot)
  | repeated (slot : Slot)
  deriving DecidableEq, Repr

/-- A command line as far as it has been read. -/
structure Reader where
  /-- The options that can be given. -/
  options : List Slot
  takesTarget : Bool
  /-- What has been given, the last first. -/
  settled : List (Slot × String)
  /-- What was given last and is not yet settled, without its operand if that is still to come. -/
  pending? : Option (Slot × Option String)
  /-- Whether a word can no longer be an option. -/
  plain : Bool
  deriving DecidableEq, Repr

namespace Reader

def start (options : List Slot) (takesTarget : Bool) : Reader where
  options
  takesTarget
  settled := []
  pending? := none
  plain := false

def get? (r : Reader) (s : Slot) : Option String := r.settled.lookup s

def put (r : Reader) (s : Slot) (operand : String) : Except UsageError Reader :=
  if !s.repeats && (r.get? s).isSome then .error (.repeated s)
  else if s.operand = .path && operand.isEmpty then .error (.missingOperand s)
  else .ok { r with settled := (s, operand) :: r.settled }

def settle (r : Reader) : Except UsageError Reader :=
  match r.pending? with
  | none => .ok r
  | some (s, none) => .error (.missingOperand s)
  | some (s, some operand) => { r with pending? := none }.put s operand

def raise (r : Reader) (s : Slot) : Except UsageError Reader := do
  let r ← r.settle
  match s with
  | .help => .error .help
  | .version => .error .version
  | _ => r.put s ""

/-- Takes an option with its operand, or lets the next word be the operand. -/
def assign (r : Reader) (s : Slot) (operand? : Option String) : Except UsageError Reader := do
  let r ← r.settle
  match operand? with
  | some operand => r.put s operand
  | none => return { r with pending? := some (s, none) }

def readName (r : Reader) (text : List Char) : Except UsageError Reader :=
  let name := String.ofList (text.takeWhile (· != '='))
  let attached? := (text.dropWhile (· != '=')).tail?.map String.ofList
  match r.options.find? (·.name == name) with
  | none => .error (.unknownArgument ("--" ++ name))
  | some s =>
      match s.operand, attached? with
      | .none, none => r.raise s
      | .none, some _ => .error (.needlessOperand s)
      | _, _ => r.assign s attached?

def attachedTo : List Char → Option String
  | [] => none
  | '=' :: operand => some (String.ofList operand)
  | operand => some (String.ofList operand)

/-- Reads options by their letters, the last of them with an operand. -/
def readLetters (r : Reader) : List Char → Except UsageError Reader
  | [] => .ok r
  | letter :: rest =>
      match r.options.find? (·.letter? == some letter) with
      | none => .error (.unknownArgument (String.ofList ['-', letter]))
      | some s =>
          match s.operand with
          | .none => do readLetters (← r.raise s) rest
          | _ => r.assign s (attachedTo rest)

def hasTarget (r : Reader) : Bool :=
  (r.get? .target).isSome || r.pending?.any fun (s, _) => s == .target

def readTarget (r : Reader) (word : String) : Except UsageError Reader :=
  if r.takesTarget && !r.hasTarget then do
    let r ← r.settle
    return { r with pending? := some (.target, some word) }
  else .error (.unknownArgument word)

/-- A word that is no option: the operand that is still to come, else the target. -/
def readPlain (r : Reader) (word : String) : Except UsageError Reader :=
  match r.pending? with
  | some (s, none) => .ok { r with pending? := some (s, some word) }
  | _ => r.readTarget word

def read (r : Reader) (word : String) : Except UsageError Reader :=
  if r.plain then r.readTarget word
  else
    match word.toList with
    | ['-', '-'] => .ok { r with plain := true }
    | '-' :: '-' :: text => r.readName text
    | '-' :: letter :: rest => r.readLetters (letter :: rest)
    | _ => r.readPlain word

def readAll (r : Reader) (words : List String) : Except UsageError Reader := do
  (← words.foldlM read r).settle

end Reader

structure LintOptions where
  target : String
  config? : Option String
  format : String
  showsSuppressed : Bool
  deriving DecidableEq, Repr

structure RulesOptions where
  config? : Option String
  format : String
  deriving DecidableEq, Repr

structure InitOptions where
  output : String
  /-- Whether a file that is there is written over. -/
  force : Bool
  deriving DecidableEq, Repr

inductive Command where
  | lint (options : LintOptions)
  | rules (options : RulesOptions)
  | init (options : InitOptions)
  deriving DecidableEq, Repr

namespace Command

def defaultFormat : String := "pretty"

def defaultOutput : String := "checkwalk.yaml"

def readLint (words : List String) : Except UsageError Command := do
  let r ← (Reader.start [.config, .format, .showSuppressed, .verbose, .help] true).readAll words
  match r.get? .target with
  | none => .error .missingTarget
  | some target =>
      return .lint {
        target
        config? := r.get? .config
        format := (r.get? .format).getD defaultFormat
        showsSuppressed := (r.get? .showSuppressed).isSome }

def readRules (words : List String) : Except UsageError Command := do
  let r ← (Reader.start [.config, .format, .verbose, .help] false).readAll words
  return .rules {
    config? := r.get? .config
    format := (r.get? .format).getD defaultFormat }

def readInit (words : List String) : Except UsageError Command := do
  let r ← (Reader.start [.output, .force, .verbose, .help] false).readAll words
  return .init {
    output := (r.get? .output).getD defaultOutput
    force := (r.get? .force).isSome }

def readers : List (String × (List String → Except UsageError Command)) :=
  [("lint", readLint), ("check", readLint), ("rules", readRules), ("init", readInit)]

def isName (word : String) : Bool := word == "help" || (readers.lookup word).isSome

/-- Help is given on one command at most. -/
def readHelp : List String → UsageError
  | [] => .help
  | [name] => if isName name then .help else .unknownCommand name
  | name :: more :: _ => .unknownCommand (if isName name then more else name)

def strayWord (r : Reader) (word : String) : UsageError :=
  if r.plain && isName word then .unknownArgument word else .unknownCommand word

def isOption (word : String) : Bool := word.startsWith "-" && word != "-"

def readFrom (r : Reader) : List String → Except UsageError Command
  | [] => .error (if r.settled.isEmpty then .nothing else .noCommand)
  | word :: rest =>
      if r.plain then .error (strayWord r word)
      else if word = "help" then .error (readHelp rest)
      else
        match readers.lookup word with
        | some readRest => readRest rest
        | none =>
            if isOption word then do readFrom (← r.read word) rest
            else .error (strayWord r word)

def ofArguments (words : List String) : Except UsageError Command :=
  readFrom (.start [.verbose, .help, .version] false) words

end Command

end TreeLint.Cli

import TreeLint.Config.Glob
import TreeLint.Rule.Issue
import TreeLint.Text.Quoted
import TreeLint.Yaml.Value

namespace TreeLint

open Text

structure RuleSettings where
  /-- None for the rule's default, as for the severity. -/
  enabled? : Option Bool
  severity? : Option Severity
  /-- By name, in increasing order. -/
  params : List (String × Yaml.Value)

structure Config where
  version : String
  /-- Patterns of the paths to leave out. -/
  exclude : List String
  includeTests? : Option Bool
  /-- By rule key, in increasing order. -/
  rules : List (String × RuleSettings)

inductive ConfigError where
  | unreadable (path reason : String)
  | malformed (path : String) (error : Yaml.Error)
  | unknownRule (key : String)
  | invalidGlob (error : GlobError)
  | invalidParam (rule param message : String)
  deriving DecidableEq, Repr

def ConfigError.message : ConfigError → String
  | unreadable path reason => s!"failed to read {path}: {reason}"
  | malformed path error => s!"failed to parse {path}: {error.message}"
  | unknownRule key => s!"unknown rule {quoted key}"
  | invalidGlob error => s!"invalid exclude pattern {quoted error.pattern}: {error.message}"
  | invalidParam rule param message =>
      s!"invalid parameter {quoted param} for rule {rule}: {message}"

/-- Puts an entry in its place in increasing order, over one of the same name. -/
def insertSorted (name : String) (value : α) : List (String × α) → List (String × α)
  | [] => [(name, value)]
  | (key, old) :: rest =>
      if name = key then (name, value) :: rest
      else if name < key then (name, value) :: (key, old) :: rest
      else (key, old) :: insertSorted name value rest

namespace Config

def default : Config := ⟨"", [], none, []⟩

def includesTests (c : Config) : Bool := c.includeTests?.getD true

def rule? (c : Config) (key : String) : Option RuleSettings := c.rules.lookup key

def excludedGlobs (c : Config) : Except ConfigError (List Glob) :=
  c.exclude.mapM fun pattern => (Glob.ofPattern pattern).mapError .invalidGlob

end Config

namespace Config

open Yaml

/-- The entries by name, in increasing order; of two with one name the last counts. -/
def readEntries (read : Node → Except Yaml.Error α) (n : Node) :
    Except Yaml.Error (List (String × α)) := do
  let entries ← (← n.asEntries).mapM fun (key, value) => return (← key.asString, ← read value)
  return entries.foldl (fun sorted (name, value) => insertSorted name value sorted) []

def readField (fields : List (String × Node)) (name : String) (missing : α)
    (read : Node → Except Yaml.Error α) : Except Yaml.Error α :=
  match fields.lookup name with
  | some n => read n
  | none => .ok missing

def readSeverity (n : Node) : Except Yaml.Error Severity := do
  let text ← n.asString
  match Severity.all.find? (·.name == text) with
  | some severity => return severity
  | none => Yaml.fail s!"unknown variant {text}, expected one of error, warning, info"

def readSettings (n : Node) : Except Yaml.Error RuleSettings := do
  let fields ← n.asFields ["enabled", "severity", "params"]
  return {
    enabled? := ← readField fields "enabled" none (·.asOption (·.asBool))
    severity? := ← readField fields "severity" none (·.asOption readSeverity)
    params := ← readField fields "params" [] (readEntries (·.value)) }

def read (n : Node) : Except Yaml.Error Config := do
  let fields ← n.asFields ["version", "exclude", "include_tests", "rules"]
  return {
    version := ← readField fields "version" "" (·.asString)
    exclude := ← readField fields "exclude" [] fun n => do (← n.asItems).mapM (·.asString)
    includeTests? := ← readField fields "include_tests" none (·.asOption (·.asBool))
    rules := ← readField fields "rules" [] (readEntries readSettings) }

/-- The settings in a YAML text.  A text without a document sets nothing. -/
def ofYaml (text : String) : Except Yaml.Error Config := do
  match ← Yaml.parse text with
  | some n => read n
  | none => return default

end Config

end TreeLint

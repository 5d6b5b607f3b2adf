import TreeLint.Checks.Builtin
import TreeLint.Config.Basic

namespace TreeLint

structure RuleSpec where
  builtin : Builtin
  severity : Severity
  enabled : Bool
  params : Params
  deriving DecidableEq, Repr

namespace RuleSpec

def metadata (s : RuleSpec) : Metadata := { s.builtin.metadata with severity := s.severity }

def rule (s : RuleSpec) : Rule Unit := ⟨s.metadata, s.builtin.behavior s.params, ()⟩

end RuleSpec

structure RuleSet where
  specs : List RuleSpec
  deriving DecidableEq, Repr

namespace RuleSet

def readMax (rule : String) (params : List (String × Yaml.Value)) :
    Except ConfigError Nat :=
  match params.lookup "max" with
  | none => .ok Checks.InheritanceDepth.defaultMax
  | some value =>
      match value.count? with
      | some max => .ok max
      | none => .error (.invalidParam rule "max" "expected a non-negative integer")

/-- What parameters come to for a rule that knows the names of all of them. -/
def readKnown (params : List (String × Yaml.Value)) : Builtin → Except ConfigError Params
  | .inheritanceDepth => (readMax Builtin.inheritanceDepth.key params).map .inheritanceDepth
  | .emptyStatement | .threadRun => .ok .none

def readParams (b : Builtin) (params : List (String × Yaml.Value)) :
    Except ConfigError Params :=
  match params.find? fun param => !b.parameters.contains param.1 with
  | some (name, _) => .error (.invalidParam b.key name "unknown parameter")
  | none => readKnown params b

def params (b : Builtin) : Option RuleSettings → Except ConfigError Params
  | some settings => readParams b settings.params
  | none => .ok b.defaultParams

def spec (c : Config) (b : Builtin) : Except ConfigError RuleSpec := do
  let settings? := c.rule? b.key
  return {
    builtin := b
    severity := (settings?.bind (·.severity?)).getD b.metadata.severity
    enabled := (settings?.bind (·.enabled?)).getD b.metadata.activatedByDefault
    params := ← params b settings? }

/-- Applies the settings.  An unknown rule outweighs a bad parameter. -/
def ofConfig (c : Config) : Except ConfigError RuleSet :=
  match c.rules.find? fun entry => !Builtin.isKnown entry.1 with
  | some (key, _) => .error (.unknownRule key)
  | none => (Builtin.all.mapM (spec c)).map .mk

def enabled (s : RuleSet) : List RuleSpec := s.specs.filter (·.enabled)

def rules (s : RuleSet) : List (Rule Unit) := s.enabled.map (·.rule)

end RuleSet

def Config.validate (c : Config) : Except ConfigError Unit := do
  let _ ← c.excludedGlobs
  let _ ← RuleSet.ofConfig c
  return

end TreeLint

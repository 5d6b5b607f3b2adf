import TreeLint.Files.Path
import TreeLint.Report.Json
import TreeLint.Rule.Basic

namespace TreeLint.Report

open TreeLint.Json

def sarifVersion : String := "2.1.0"

def schema : String :=
  "https://raw.githubusercontent.com/oasis-tcs/sarif-spec/master/Schemata/sarif-schema-2.1.0.json"

def toolName : String := "checkwalk"

def toolAddress : String := "https://github.com/zen-systems/checkwalk"

structure SarifMessage where
  text : String
  deriving DecidableEq, Repr

structure SarifArtifact where
  uri : String
  deriving DecidableEq, Repr

structure SarifRegion where
  startLine : Nat
  startColumn? : Option Nat
  deriving DecidableEq, Repr

structure SarifPhysicalLocation where
  artifact : SarifArtifact
  region : SarifRegion
  deriving DecidableEq, Repr

structure SarifLocation where
  physical : SarifPhysicalLocation
  deriving DecidableEq, Repr

structure SarifResult where
  rule : String
  level : String
  message : SarifMessage
  locations : List SarifLocation
  deriving DecidableEq, Repr

structure SarifRuleReference where
  id : String
  deriving DecidableEq, Repr

structure SarifNotification where
  level : String
  message : SarifMessage
  rule? : Option SarifRuleReference
  locations : List SarifLocation
  deriving DecidableEq, Repr

structure SarifInvocation where
  /-- Whether every rule and every file could be analyzed. -/
  successful : Bool
  notifications : List SarifNotification
  deriving DecidableEq, Repr

structure SarifRuleConfig where
  level : String
  deriving DecidableEq, Repr

structure SarifRuleProperties where
  tags : List String
  deriving DecidableEq, Repr

structure SarifRule where
  id : String
  name : String
  shortDescription : SarifMessage
  fullDescription? : Option SarifMessage
  usual : SarifRuleConfig
  properties? : Option SarifRuleProperties
  deriving DecidableEq, Repr

structure SarifDriver where
  name : String
  version : String
  address : String
  rules : List SarifRule
  deriving DecidableEq, Repr

structure SarifTool where
  driver : SarifDriver
  deriving DecidableEq, Repr

structure SarifRun where
  tool : SarifTool
  results : List SarifResult
  invocations : List SarifInvocation
  deriving DecidableEq, Repr

structure SarifLog where
  version : String
  schema : String
  runs : List SarifRun
  deriving DecidableEq, Repr

open Format Field

def SarifMessage.fields : Fields SarifMessage SarifMessage :=
  Fields.into SarifMessage.mk
    |>.field (required "text" Format.text) (·.text)

def SarifArtifact.fields : Fields SarifArtifact SarifArtifact :=
  Fields.into SarifArtifact.mk
    |>.field (required "uri" text) (·.uri)

def SarifRegion.fields : Fields SarifRegion SarifRegion :=
  Fields.into SarifRegion.mk
    |>.field (required "startLine" count) (·.startLine)
    |>.field (optional "startColumn" count) (·.startColumn?)

def SarifPhysicalLocation.fields : Fields SarifPhysicalLocation SarifPhysicalLocation :=
  Fields.into SarifPhysicalLocation.mk
    |>.field (required "artifactLocation" SarifArtifact.fields.format) (·.artifact)
    |>.field (required "region" SarifRegion.fields.format) (·.region)

def SarifLocation.fields : Fields SarifLocation SarifLocation :=
  Fields.into SarifLocation.mk
    |>.field (required "physicalLocation" SarifPhysicalLocation.fields.format) (·.physical)

def SarifResult.fields : Fields SarifResult SarifResult :=
  Fields.into SarifResult.mk
    |>.field (required "ruleId" text) (·.rule)
    |>.field (required "level" text) (·.level)
    |>.field (required "message" SarifMessage.fields.format) (·.message)
    |>.field (required "locations" SarifLocation.fields.format.list) (·.locations)

def SarifRuleReference.fields : Fields SarifRuleReference SarifRuleReference :=
  Fields.into SarifRuleReference.mk
    |>.field (required "id" text) (·.id)

def SarifNotification.fields : Fields SarifNotification SarifNotification :=
  Fields.into SarifNotification.mk
    |>.field (required "level" text) (·.level)
    |>.field (required "message" SarifMessage.fields.format) (·.message)
    |>.field (optional "associatedRule" SarifRuleReference.fields.format) (·.rule?)
    |>.field (required "locations" SarifLocation.fields.format.list) (·.locations)

def SarifInvocation.fields : Fields SarifInvocation SarifInvocation :=
  Fields.into SarifInvocation.mk
    |>.field (required "executionSuccessful" truth) (·.successful)
    |>.field (listed "toolExecutionNotifications" SarifNotification.fields.format)
      (·.notifications)

def SarifRuleConfig.fields : Fields SarifRuleConfig SarifRuleConfig :=
  Fields.into SarifRuleConfig.mk
    |>.field (required "level" text) (·.level)

def SarifRuleProperties.fields : Fields SarifRuleProperties SarifRuleProperties :=
  Fields.into SarifRuleProperties.mk
    |>.field (required "tags" text.list) (·.tags)

def SarifRule.fields : Fields SarifRule SarifRule :=
  Fields.into SarifRule.mk
    |>.field (required "id" text) (·.id)
    |>.field (required "name" text) (·.name)
    |>.field (required "shortDescription" SarifMessage.fields.format) (·.shortDescription)
    |>.field (optional "fullDescription" SarifMessage.fields.format) (·.fullDescription?)
    |>.field (required "defaultConfiguration" SarifRuleConfig.fields.format) (·.usual)
    |>.field (optional "properties" SarifRuleProperties.fields.format) (·.properties?)

def SarifDriver.fields : Fields SarifDriver SarifDriver :=
  Fields.into SarifDriver.mk
    |>.field (required "name" text) (·.name)
    |>.field (required "version" text) (·.version)
    |>.field (required "informationUri" text) (·.address)
    |>.field (required "rules" SarifRule.fields.format.list) (·.rules)

def SarifTool.fields : Fields SarifTool SarifTool :=
  Fields.into SarifTool.mk
    |>.field (required "driver" SarifDriver.fields.format) (·.driver)

def SarifRun.fields : Fields SarifRun SarifRun :=
  Fields.into SarifRun.mk
    |>.field (required "tool" SarifTool.fields.format) (·.tool)
    |>.field (required "results" SarifResult.fields.format.list) (·.results)
    |>.field (required "invocations" SarifInvocation.fields.format.list) (·.invocations)

def SarifLog.fields : Fields SarifLog SarifLog :=
  Fields.into SarifLog.mk
    |>.field (required "version" text) (·.version)
    |>.field (required "$schema" text) (·.schema)
    |>.field (required "runs" SarifRun.fields.format.list) (·.runs)

def level : Severity → String
  | .error => "error"
  | .warning => "warning"
  | .info => "note"

def withSlashes (path : String) : String :=
  path.map fun c => if c = '\\' then '/' else c

/-- The file as seen from the base, by its name if it is the base. -/
def relativeName (base file : String) : String :=
  if base.isEmpty then file
  else if Path.names file = Path.names base then (Path.fileName? file).getD file
  else withSlashes ((Path.relativeTo? base file).getD file)

/-- There are no lines before the first. -/
def sarifLocation (base file : String) (line : Nat) (column? : Option Nat) : SarifLocation where
  physical := ⟨⟨relativeName base file⟩, ⟨max line 1, column?⟩⟩

def reportedRules (rules : List Metadata) (r : AnalysisResult) : List Metadata :=
  rules.filter fun m => r.issues.any (·.rule == m.key)

def sarifRule (m : Metadata) : SarifRule where
  id := m.key
  name := m.name
  shortDescription := ⟨m.name⟩
  fullDescription? := if m.description.isEmpty then none else some ⟨m.description⟩
  usual := ⟨level m.severity⟩
  properties? := if m.tags.isEmpty then none else some ⟨m.tags⟩

def sarifResult (base : String) (i : Issue) : SarifResult where
  rule := i.rule
  level := level i.severity
  message := ⟨i.message⟩
  locations := [sarifLocation base i.file i.line i.column?]

def faultNotification (base : String) (f : RuleFault) : SarifNotification where
  level := "error"
  message := ⟨s!"{f.kind}: {f.message}"⟩
  rule? := some ⟨f.rule⟩
  locations := [sarifLocation base f.file 1 none]

def failureNotification (base : String) (f : FileFailure) : SarifNotification where
  level := "error"
  message := ⟨f.error⟩
  rule? := none
  locations := [sarifLocation base f.file 1 none]

/-- One for each fault, then one for each file that was not analyzed. -/
def notifications (base : String) (r : AnalysisResult) : List SarifNotification :=
  r.faults.map (faultNotification base) ++ r.failures.map (failureNotification base)

def sarifLog (base : String) (rules : List Metadata) (r : AnalysisResult) : SarifLog where
  version := sarifVersion
  schema := schema
  runs := [{
    tool := ⟨⟨toolName, version, toolAddress, (reportedRules rules r).map sarifRule⟩⟩
    results := r.issues.map (sarifResult base)
    invocations := [⟨!r.isIncomplete, notifications base r⟩] }]

def sarif (base : String) (rules : List Metadata) (r : AnalysisResult) : Json :=
  SarifLog.fields.format.write (sarifLog base rules r)

end TreeLint.Report

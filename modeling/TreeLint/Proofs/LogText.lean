import TreeLint.Proofs.ReportText
import TreeLint.Report.Sarif

namespace TreeLint.Report

open TreeLint.Json

open Field Format

theorem gives_truth (b : Bool) : truth.Gives b (.ok b) := ⟨rfl, rfl⟩

theorem gives_items {f : Format α} (items : List α) (given : ∀ item, f.Gives item (.ok item)) :
    f.list.Gives items (.ok items) := by
  rw [← mapM_ok items]
  exact gives_list items given

theorem gives_message (m : SarifMessage) : SarifMessage.fields.format.Gives m (.ok m) :=
  (Fields.gives_into m SarifMessage.mk
    |>.field (·.text) (gives_required "text" (gives_text _)) (by decide)).format

theorem gives_artifact (a : SarifArtifact) : SarifArtifact.fields.format.Gives a (.ok a) :=
  (Fields.gives_into a SarifArtifact.mk
    |>.field (·.uri) (gives_required "uri" (gives_text _)) (by decide)).format

theorem gives_region (r : SarifRegion) : SarifRegion.fields.format.Gives r (.ok r) :=
  (Fields.gives_into r SarifRegion.mk
    |>.field (·.startLine) (gives_required "startLine" (gives_count _)) (by decide)
    |>.field (·.startColumn?)
      (gives_optional "startColumn" (fun _ _ => gives_count _) fun _ => nofun) (by decide)).format

theorem gives_physicalLocation (l : SarifPhysicalLocation) :
    SarifPhysicalLocation.fields.format.Gives l (.ok l) :=
  (Fields.gives_into l SarifPhysicalLocation.mk
    |>.field (·.artifact) (gives_required "artifactLocation" (gives_artifact _)) (by decide)
    |>.field (·.region) (gives_required "region" (gives_region _)) (by decide)).format

theorem gives_location (l : SarifLocation) : SarifLocation.fields.format.Gives l (.ok l) :=
  (Fields.gives_into l SarifLocation.mk
    |>.field (·.physical) (gives_required "physicalLocation" (gives_physicalLocation _))
      (by decide)).format

theorem gives_locations (locations : List SarifLocation) :
    SarifLocation.fields.format.list.Gives locations (.ok locations) :=
  gives_items locations gives_location

theorem gives_result (r : SarifResult) : SarifResult.fields.format.Gives r (.ok r) :=
  (Fields.gives_into r SarifResult.mk
    |>.field (·.rule) (gives_required "ruleId" (gives_text _)) (by decide)
    |>.field (·.level) (gives_required "level" (gives_text _)) (by decide)
    |>.field (·.message) (gives_required "message" (gives_message _)) (by decide)
    |>.field (·.locations) (gives_required "locations" (gives_locations _)) (by decide)).format

theorem gives_ruleReference (r : SarifRuleReference) :
    SarifRuleReference.fields.format.Gives r (.ok r) :=
  (Fields.gives_into r SarifRuleReference.mk
    |>.field (·.id) (gives_required "id" (gives_text _)) (by decide)).format

theorem gives_notification (n : SarifNotification) :
    SarifNotification.fields.format.Gives n (.ok n) :=
  (Fields.gives_into n SarifNotification.mk
    |>.field (·.level) (gives_required "level" (gives_text _)) (by decide)
    |>.field (·.message) (gives_required "message" (gives_message _)) (by decide)
    |>.field (·.rule?)
      (gives_optional "associatedRule" (fun _ _ => gives_ruleReference _) fun _ => nofun)
      (by decide)
    |>.field (·.locations) (gives_required "locations" (gives_locations _)) (by decide)).format

theorem gives_invocation (i : SarifInvocation) :
    SarifInvocation.fields.format.Gives i (.ok i) := by
  have notifications :=
    gives_listed "toolExecutionNotifications" i.notifications gives_notification
  rw [mapM_ok] at notifications
  exact (Fields.gives_into i SarifInvocation.mk
    |>.field (·.successful) (gives_required "executionSuccessful" (gives_truth _)) (by decide)
    |>.field (·.notifications) notifications (by decide)).format

theorem gives_ruleConfig (c : SarifRuleConfig) :
    SarifRuleConfig.fields.format.Gives c (.ok c) :=
  (Fields.gives_into c SarifRuleConfig.mk
    |>.field (·.level) (gives_required "level" (gives_text _)) (by decide)).format

theorem gives_ruleProperties (p : SarifRuleProperties) :
    SarifRuleProperties.fields.format.Gives p (.ok p) :=
  (Fields.gives_into p SarifRuleProperties.mk
    |>.field (·.tags) (gives_required "tags" (gives_items _ gives_text)) (by decide)).format

theorem gives_rule (r : SarifRule) : SarifRule.fields.format.Gives r (.ok r) :=
  (Fields.gives_into r SarifRule.mk
    |>.field (·.id) (gives_required "id" (gives_text _)) (by decide)
    |>.field (·.name) (gives_required "name" (gives_text _)) (by decide)
    |>.field (·.shortDescription) (gives_required "shortDescription" (gives_message _)) (by decide)
    |>.field (·.fullDescription?)
      (gives_optional "fullDescription" (fun _ _ => gives_message _) fun _ => nofun) (by decide)
    |>.field (·.usual) (gives_required "defaultConfiguration" (gives_ruleConfig _)) (by decide)
    |>.field (·.properties?)
      (gives_optional "properties" (fun _ _ => gives_ruleProperties _) fun _ => nofun)
      (by decide)).format

theorem gives_driver (d : SarifDriver) : SarifDriver.fields.format.Gives d (.ok d) :=
  (Fields.gives_into d SarifDriver.mk
    |>.field (·.name) (gives_required "name" (gives_text _)) (by decide)
    |>.field (·.version) (gives_required "version" (gives_text _)) (by decide)
    |>.field (·.address) (gives_required "informationUri" (gives_text _)) (by decide)
    |>.field (·.rules) (gives_required "rules" (gives_items _ gives_rule)) (by decide)).format

theorem gives_tool (t : SarifTool) : SarifTool.fields.format.Gives t (.ok t) :=
  (Fields.gives_into t SarifTool.mk
    |>.field (·.driver) (gives_required "driver" (gives_driver _)) (by decide)).format

theorem gives_run (r : SarifRun) : SarifRun.fields.format.Gives r (.ok r) :=
  (Fields.gives_into r SarifRun.mk
    |>.field (·.tool) (gives_required "tool" (gives_tool _)) (by decide)
    |>.field (·.results) (gives_required "results" (gives_items _ gives_result)) (by decide)
    |>.field (·.invocations) (gives_required "invocations" (gives_items _ gives_invocation))
      (by decide)).format

theorem gives_log (l : SarifLog) : SarifLog.fields.format.Gives l (.ok l) :=
  (Fields.gives_into l SarifLog.mk
    |>.field (·.version) (gives_required "version" (gives_text _)) (by decide)
    |>.field (·.schema) (gives_required "$schema" (gives_text _)) (by decide)
    |>.field (·.runs) (gives_required "runs" (gives_items _ gives_run)) (by decide)).format

theorem readText_sarif (base : String) (rules : List Metadata) (r : AnalysisResult) :
    SarifLog.fields.format.readText ((sarif base rules r).pretty ++ "\n") =
      .ok (sarifLog base rules r) := by
  have given := gives_log (sarifLog base rules r)
  have parsed : parse? ((sarif base rules r).pretty ++ "\n") = some (sarif base rules r) :=
    parse?_pretty given.whole
  rw [Format.readText, parsed]
  exact given.read_write

end TreeLint.Report

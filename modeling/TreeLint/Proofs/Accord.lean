import Mathlib.Data.List.Forall2
import Mathlib.Tactic.SplitIfs
import TreeLint.Report.Sarif

/-! The JSON report and the SARIF log of one result tell the same. -/

namespace TreeLint.Report

inductive SameLevel : String → String → Prop where
  | error : SameLevel "error" "error"
  | warning : SameLevel "warning" "warning"
  | info : SameLevel "info" "note"

structure LocatedAt (base file : String) (line : Nat) (column? : Option Nat)
    (locations : List SarifLocation) : Prop where
  uri : locations.map (·.physical.artifact.uri) = [relativeName base file]
  line : locations.map (·.physical.region.startLine) = [line]
  column : locations.map (·.physical.region.startColumn?) = [column?]

/-- An issue of the one report, and of the other. -/
structure SameIssue (base : String) (i : JsonIssue) (s : SarifResult) : Prop where
  rule : s.rule = i.rule
  message : s.message.text = i.message
  level : SameLevel i.severity s.level
  location : LocatedAt base i.file (if i.line = 0 then 1 else i.line) i.column? s.locations

structure SameFault (base : String) (f : JsonFault) (n : SarifNotification) : Prop where
  rule : n.rule? = some ⟨f.rule⟩
  message : n.message.text = f.kind ++ ": " ++ f.message
  level : n.level = "error"
  location : LocatedAt base f.file 1 none n.locations

structure SameFailure (base : String) (f : JsonFailure) (n : SarifNotification) : Prop where
  rule : n.rule? = none
  message : n.message.text = f.error
  level : n.level = "error"
  location : LocatedAt base f.file 1 none n.locations

structure SameEnd (base : String) (json : JsonReport) (i : SarifInvocation) : Prop where
  successful : i.successful ↔ json.faults = [] ∧ json.failures = []
  notifications : ∃ faults failures, i.notifications = faults ++ failures ∧
    List.Forall₂ (SameFault base) json.faults faults ∧
    List.Forall₂ (SameFailure base) json.failures failures

structure Counted (json : JsonReport) (run : SarifRun) : Prop where
  errors : json.summary.errors = run.results.countP (·.level = "error")
  warnings : json.summary.warnings = run.results.countP (·.level = "warning")
  infos : json.summary.infos = run.results.countP (·.level = "note")
  all : json.summary.errors + json.summary.warnings + json.summary.infos = json.issues.length

/-- The described rules are those of the list that some issue names. -/
structure Described (rules : List Metadata) (json : JsonReport) (described : List SarifRule) :
    Prop where
  order : ∃ named : List Metadata, named.Sublist rules ∧ described = named.map sarifRule ∧
    ∀ m, m ∈ named ↔ m ∈ rules ∧ ∃ i ∈ json.issues, i.rule = m.key
  once : (described.map (·.id)).Nodup

structure Accord (base : String) (rules : List Metadata) (json : JsonReport) (run : SarifRun) :
    Prop where
  issues : List.Forall₂ (SameIssue base) json.issues run.results
  ending : ∃ i, run.invocations = [i] ∧ SameEnd base json i
  counted : Counted json run
  described : Described rules json run.tool.driver.rules

variable {base : String} {r : AnalysisResult}

theorem locatedAt_sarifLocation (base file : String) (line : Nat) (column? : Option Nat) :
    LocatedAt base file (if line = 0 then 1 else line) column?
      [sarifLocation base file line column?] := by
  refine ⟨rfl, congrArg (fun n => [n]) ?_, rfl⟩
  change max line 1 = _
  split_ifs <;> omega

theorem sameLevel (s : Severity) : SameLevel s.name (level s) := by
  cases s <;> constructor

theorem sameIssue (base : String) (i : Issue) :
    SameIssue base (jsonIssue i) (sarifResult base i) :=
  ⟨rfl, rfl, sameLevel i.severity, locatedAt_sarifLocation base i.file i.line i.column?⟩

theorem sameFault (base : String) (f : RuleFault) :
    SameFault base (jsonFault f) (faultNotification base f) :=
  ⟨rfl, rfl, rfl, locatedAt_sarifLocation base f.file 1 none⟩

theorem sameFailure (base : String) (f : FileFailure) :
    SameFailure base (jsonFailure f) (failureNotification base f) :=
  ⟨rfl, rfl, rfl, locatedAt_sarifLocation base f.file 1 none⟩

theorem forall₂_map_map {R : β → γ → Prop} {f : α → β} {g : α → γ} (xs : List α)
    (each : ∀ x, R (f x) (g x)) : List.Forall₂ R (xs.map f) (xs.map g) :=
  List.forall₂_map_left_iff.2 (List.forall₂_map_right_iff.2
    (List.forall₂_same.2 fun x _ => each x))

theorem sameEnd (path : String) (config? : Option String) :
    SameEnd base (jsonReport path config? r) ⟨!r.isIncomplete, notifications base r⟩ := by
  refine ⟨?_, _, _, rfl, forall₂_map_map _ (sameFault base), forall₂_map_map _ (sameFailure base)⟩
  simp [AnalysisResult.isIncomplete, jsonReport]

theorem level_injective : Function.Injective level := by
  intro a b
  cases a <;> cases b <;> decide

theorem count_eq_countP (base : String) (r : AnalysisResult) (s : Severity) :
    r.count s = (r.issues.map (sarifResult base)).countP (·.level = level s) := by
  rw [AnalysisResult.count, ← List.countP_eq_length_filter, List.countP_map]
  refine List.countP_congr fun i _ => ?_
  simp [sarifResult, level_injective.eq_iff]

theorem sum_counts (r : AnalysisResult) :
    r.count .error + r.count .warning + r.count .info = r.issues.length := by
  simp only [AnalysisResult.count]
  induction r.issues with
  | nil => rfl
  | cons i rest ih =>
      simp only [List.filter_cons, List.length_cons, ← ih]
      cases i.severity <;> simp <;> omega

theorem described_reportedRules {rules : List Metadata} (distinct : (rules.map (·.key)).Nodup)
    (path : String) (config? : Option String) :
    Described rules (jsonReport path config? r) ((reportedRules rules r).map sarifRule) := by
  constructor
  · refine ⟨_, List.filter_sublist, rfl, ?_⟩
    intro m
    simp [jsonReport, jsonIssue]
  · rw [List.map_map]
    exact (List.filter_sublist.map _).nodup distinct

/-- Whatever was found, and whichever rules are listed, each once. -/
theorem reports_accord (base path : String) (config? : Option String) (r : AnalysisResult)
    {rules : List Metadata} (distinct : (rules.map (·.key)).Nodup) :
    ∃ run, (sarifLog base rules r).runs = [run] ∧
      Accord base rules (jsonReport path config? r) run := by
  refine ⟨_, rfl, forall₂_map_map _ (sameIssue base), ⟨_, rfl, sameEnd path config?⟩, ?_, ?_⟩
  · exact ⟨count_eq_countP base r .error, count_eq_countP base r .warning,
      count_eq_countP base r .info, (sum_counts r).trans (List.length_map _).symm⟩
  · exact described_reportedRules distinct path config?

def mixedResult : AnalysisResult where
  issues := [⟨"S2134", "A.java", 0, none, none, "on no line", .info, none⟩,
    ⟨"S2134", "A.java", 3, some 7, none, "on a line", .warning, none⟩]
  suppressed := []
  faults := [⟨"S1116", "A.java", .panic, "rule panicked"⟩]
  failures := [⟨"B.java", "permission denied"⟩]
  scanned := 1
  unresolved := 0

def twoRules : List Metadata := [.new "S1116" "Empty statements", .new "S2134" "Threads"]

theorem mixedResult_accords :
    (twoRules.map (·.key)).Nodup ∧
      ∃ run, (sarifLog "src" twoRules mixedResult).runs = [run] ∧
        Accord "src" twoRules (jsonReport "src" none mixedResult) run := by
  have distinct : (twoRules.map (·.key)).Nodup := by decide
  exact ⟨distinct, reports_accord "src" "src" none mixedResult distinct⟩

end TreeLint.Report

import Mathlib.Data.Nat.Cast.Basic
import TreeLint.Cli.Run
import TreeLint.Proofs.Merging

/-! The books of a run over many files: each of them is counted once, nothing that was reported on
them is lost, and the exit code says what there is. -/

namespace TreeLint

structure FileRun where
  source : String
  tree : Tree
  report : FileReport

namespace FileRun

def result (run : FileRun) : AnalysisResult :=
  .ofReport run.source (Java.resolve run.tree).toOption.isSome run.report

def isUnresolved (run : FileRun) : Bool := !(Java.resolve run.tree).isOk

def active (run : FileRun) : List Issue :=
  run.report.issues.filter fun issue => !issue.isSilenced (Suppression.ofSource run.source)

@[simp] theorem failures_result (run : FileRun) : run.result.failures = [] := rfl

@[simp] theorem issues_result (run : FileRun) : run.result.issues = run.active :=
  Suppression.filter_fst ..

theorem perm_result (run : FileRun) :
    (run.result.issues ++ run.result.suppressed.map (·.issue)).Perm run.report.issues :=
  Suppression.perm_filter ..

theorem unresolved_result (run : FileRun) :
    run.result.unresolved = if run.isUnresolved then 1 else 0 := by
  rw [result, AnalysisResult.ofReport, isUnresolved]
  cases Java.resolve run.tree <;> rfl

end FileRun

def runOn (p : Java.Parser) (d : Disk) (rules : RuleSet) (name : String) (l : Location) :
    Except FileFailure FileRun := do
  let source ← (d.readAt l).mapError fun e => ⟨name, e.message⟩
  let tree ← (p.parse sourceTreeId source).mapError fun e => ⟨name, e.message⟩
  let (report, _) ← (runFile ⟨name, tree, (Java.resolve tree).toOption⟩ rules.rules).mapError
    fun e => ⟨name, e.message⟩
  return ⟨source, tree, report⟩

def resultOf : Except FileFailure FileRun → AnalysisResult
  | .ok run => run.result
  | .error failure => { AnalysisResult.empty with failures := [failure] }

@[simp] theorem resultOf_ok (run : FileRun) : resultOf (.ok run) = run.result := rfl

@[simp] theorem failures_resultOf (failure : FileFailure) :
    (resultOf (.error failure)).failures = [failure] := rfl

theorem analyzeFile_eq (p : Java.Parser) (d : Disk) (rules : RuleSet) (name : String)
    (l : Location) : analyzeFile p d rules name l = resultOf (runOn p d rules name l) := by
  cases read : d.readAt l with
  | error e => simp [analyzeFile, runOn, read, Except.mapError, resultOf, Bind.bind, Except.bind]
  | ok source =>
      cases parsed : p.parse sourceTreeId source with
      | error e =>
          simp [analyzeFile, runOn, read, parsed, analyzeText, SourceError.message,
            Except.mapError, resultOf, Bind.bind, Except.bind]
      | ok tree =>
          cases ran : runFile ⟨name, tree, (Java.resolve tree).toOption⟩ rules.rules with
          | error e =>
              simp [analyzeFile, runOn, read, parsed, ran, analyzeText, analyzeTree,
                SourceError.message, Except.mapError, resultOf, Bind.bind, Except.bind]
          | ok both =>
              simp [analyzeFile, runOn, read, parsed, ran, analyzeText,
                analyzeTree_of_report ran, Except.mapError, resultOf, FileRun.result,
                Bind.bind, Except.bind, Pure.pure, Except.pure]

def outcomesOf (p : Java.Parser) (d : Disk) (rules : RuleSet) (folder : Location)
    (files : List Location) : List (Except FileFailure FileRun) :=
  files.map fun way => runOn p d rules (nameOf way) (folder ++ way)

def runsOf (outcomes : List (Except FileFailure FileRun)) : List FileRun :=
  outcomes.filterMap Except.toOption

def failuresOf (outcomes : List (Except FileFailure FileRun)) : List FileFailure :=
  outcomes.filterMap fun outcome =>
    match outcome with
    | .ok _ => none
    | .error failure => some failure

theorem map_snd_analyzed (p : Java.Parser) (d : Disk) (rules : RuleSet) (folder : Location)
    (files : List Location) :
    (analyzed p d rules folder files).map Prod.snd =
      (outcomesOf p d rules folder files).map resultOf := by
  simp [analyzed, outcomesOf, analyzeFile_eq]

section Outcomes

variable {outcomes : List (Except FileFailure FileRun)} {r : AnalysisResult}

@[simp] theorem runsOf_ok (run : FileRun) (rest : List (Except FileFailure FileRun)) :
    runsOf (.ok run :: rest) = run :: runsOf rest := rfl

@[simp] theorem runsOf_error (failure : FileFailure)
    (rest : List (Except FileFailure FileRun)) :
    runsOf (.error failure :: rest) = runsOf rest := rfl

@[simp] theorem failuresOf_ok (run : FileRun) (rest : List (Except FileFailure FileRun)) :
    failuresOf (.ok run :: rest) = failuresOf rest := rfl

@[simp] theorem failuresOf_error (failure : FileFailure)
    (rest : List (Except FileFailure FileRun)) :
    failuresOf (.error failure :: rest) = failure :: failuresOf rest := rfl

@[simp] theorem mem_runsOf {run : FileRun} : run ∈ runsOf outcomes ↔ .ok run ∈ outcomes := by
  induction outcomes with
  | nil => simp [runsOf]
  | cons outcome rest ih => cases outcome <;> simp [ih]

@[simp] theorem mem_failuresOf {failure : FileFailure} :
    failure ∈ failuresOf outcomes ↔ .error failure ∈ outcomes := by
  induction outcomes with
  | nil => simp [failuresOf]
  | cons outcome rest ih => cases outcome <;> simp [ih]

theorem length_runsOf_add (outcomes : List (Except FileFailure FileRun)) :
    (runsOf outcomes).length + (failuresOf outcomes).length = outcomes.length := by
  induction outcomes with
  | nil => rfl
  | cons outcome rest ih =>
      cases outcome with
      | error failure => simp [← ih, Nat.add_assoc]
      | ok run => simp [← ih, Nat.add_right_comm]

theorem flatMap_resultOf (block : AnalysisResult → List α)
    (empty : ∀ failure, block (resultOf (.error failure)) = []) :
    outcomes.flatMap (fun outcome => block (resultOf outcome)) =
      (runsOf outcomes).flatMap fun run => block run.result := by
  induction outcomes with
  | nil => rfl
  | cons outcome rest ih =>
      cases outcome with
      | error failure => simp [empty, ih]
      | ok run => simp [ih]

theorem sum_resultOf (count : AnalysisResult → Nat)
    (zero : ∀ failure, count (resultOf (.error failure)) = 0) :
    (outcomes.map fun outcome => count (resultOf outcome)).sum =
      ((runsOf outcomes).map fun run => count run.result).sum := by
  induction outcomes with
  | nil => rfl
  | cons outcome rest ih =>
      cases outcome with
      | error failure => simp [zero, ih]
      | ok run => simp [ih]

@[simp] theorem flatMap_failures (outcomes : List (Except FileFailure FileRun)) :
    outcomes.flatMap (fun outcome => (resultOf outcome).failures) = failuresOf outcomes := by
  induction outcomes with
  | nil => rfl
  | cons outcome rest ih =>
      cases outcome with
      | error failure => simp [ih]
      | ok run => simp [ih]

theorem sum_unresolved (runs : List FileRun) :
    (runs.map (·.result.unresolved)).sum = runs.countP (·.isUnresolved) := by
  induction runs with
  | nil => rfl
  | cons run rest ih =>
      rw [List.map_cons, List.sum_cons, ih, FileRun.unresolved_result, List.countP_cons,
        Nat.add_comm]

/-- Nothing that became of the files is missing in the result or counted twice. -/
structure Accounts (outcomes : List (Except FileFailure FileRun)) (r : AnalysisResult) : Prop where
  everyFile : r.scanned + r.failures.length = outcomes.length
  scanned : r.scanned = (runsOf outcomes).length
  failures : r.failures.Perm (failuresOf outcomes)
  issues : (r.issues ++ r.suppressed.map (·.issue)).Perm
    ((runsOf outcomes).flatMap (·.report.issues))
  active : r.issues.Perm ((runsOf outcomes).flatMap (·.active))
  faults : r.faults.Perm ((runsOf outcomes).flatMap (·.report.faults))
  unresolved : r.unresolved = (runsOf outcomes).countP (·.isUnresolved)

theorem accounts_analyzeFiles (p : Java.Parser) (d : Disk) (rules : RuleSet) (folder : Location)
    (files : List Location) :
    Accounts (outcomesOf p d rules folder files) (analyzeFiles p d rules folder files) := by
  have gathers := AnalysisResult.gathers_whole (analyzed p d rules folder files)
  rw [← analyzeFiles_eq] at gathers
  have entries := map_snd_analyzed p d rules folder files
  generalize analyzeFiles p d rules folder files = r at gathers ⊢
  generalize analyzed p d rules folder files = listed at gathers entries
  generalize outcomesOf p d rules folder files = outcomes at entries ⊢
  have blocks {α : Type} (block : AnalysisResult → List α) :
      listed.flatMap (fun e => block e.2) =
        outcomes.flatMap fun outcome => block (resultOf outcome) := by
    rw [← List.flatMap_map Prod.snd block, entries, List.flatMap_map]
  have counts (count : AnalysisResult → Nat) :
      (listed.map fun e => count e.2).sum =
        (outcomes.map fun outcome => count (resultOf outcome)).sum := by
    have counted := congrArg (fun results => (results.map count).sum) entries
    simpa [Function.comp_def] using counted
  have scanned : r.scanned = (runsOf outcomes).length := by
    rw [gathers.scanned, counts, sum_resultOf _ fun _ => rfl]
    simp [FileRun.result, AnalysisResult.ofReport]
  have failures : r.failures.Perm (failuresOf outcomes) := by
    rw [← flatMap_failures, ← blocks]
    exact gathers.failures
  have issues : r.issues.Perm ((runsOf outcomes).flatMap (·.result.issues)) := by
    rw [← flatMap_resultOf (·.issues) fun _ => rfl, ← blocks]
    exact gathers.issues
  have suppressed : r.suppressed.map (·.issue) =
      (runsOf outcomes).flatMap fun run => run.result.suppressed.map (·.issue) := by
    rw [gathers.suppressed, ← List.flatMap_def, blocks, flatMap_resultOf _ fun _ => rfl,
      List.map_flatMap]
  exact {
    everyFile := by rw [scanned, failures.length_eq, length_runsOf_add]
    scanned
    failures
    issues := by
      rw [suppressed]
      refine (issues.append_right _).trans ?_
      refine (List.flatMap_append_perm _ _ _).trans ?_
      exact List.Perm.flatMap_left _ fun run _ => run.perm_result
    active := by simpa only [FileRun.issues_result] using issues
    faults := by
      rw [show (runsOf outcomes).flatMap (·.report.faults) =
        (runsOf outcomes).flatMap fun run => run.result.faults from rfl,
        ← flatMap_resultOf (·.faults) fun _ => rfl, ← blocks]
      exact gathers.faults
    unresolved := by
      rw [gathers.unresolved, counts, sum_resultOf _ fun _ => rfl, sum_unresolved] }

/-- Some file failed, or some rule on some file. -/
def Broken (outcomes : List (Except FileFailure FileRun)) : Prop :=
  (∃ failure, .error failure ∈ outcomes) ∨ ∃ run, .ok run ∈ outcomes ∧ run.report.faults ≠ []

/-- Some issue that is an error is silenced by no directive of its file. -/
def Offends (outcomes : List (Except FileFailure FileRun)) : Prop :=
  ∃ run, .ok run ∈ outcomes ∧ ∃ issue ∈ run.report.issues,
    issue.severity = .error ∧ issue.isSilenced (Suppression.ofSource run.source) = false

namespace Accounts

theorem isIncomplete_iff (accounts : Accounts outcomes r) :
    r.isIncomplete = true ↔ Broken outcomes := by
  have failures : r.failures ≠ [] ↔ ∃ failure, .error failure ∈ outcomes := by
    simp [List.eq_nil_iff_forall_not_mem, accounts.failures.mem_iff]
  have faults : r.faults ≠ [] ↔ ∃ run, .ok run ∈ outcomes ∧ run.report.faults ≠ [] := by
    have same : r.faults = [] ↔ (runsOf outcomes).flatMap (·.report.faults) = [] := by
      simp [List.eq_nil_iff_forall_not_mem, accounts.faults.mem_iff]
    simp [same]
  rw [AnalysisResult.isIncomplete, Broken, ← failures, ← faults]
  simp [or_comm]

theorem hasErrors_iff (accounts : Accounts outcomes r) :
    r.hasErrors = true ↔ Offends outcomes := by
  simp only [AnalysisResult.hasErrors, List.any_eq_true, accounts.active.mem_iff,
    List.mem_flatMap, mem_runsOf, FileRun.active, List.mem_filter, beq_iff_eq, Offends]
  constructor
  · rintro ⟨issue, ⟨run, member, reported, active⟩, severe⟩
    exact ⟨run, member, issue, reported, severe, by simpa using active⟩
  · rintro ⟨run, member, issue, reported, severe, active⟩
    exact ⟨issue, ⟨run, member, reported, by simpa using active⟩, severe⟩

theorem exitCodeOf_eq_iff (accounts : Accounts outcomes r) :
    (Cli.exitCodeOf r = 2 ↔ Broken outcomes) ∧
    (Cli.exitCodeOf r = 1 ↔ ¬Broken outcomes ∧ Offends outcomes) ∧
    (Cli.exitCodeOf r = 0 ↔ ¬Broken outcomes ∧ ¬Offends outcomes) := by
  rw [Cli.exitCodeOf, ← accounts.isIncomplete_iff, ← accounts.hasErrors_iff]
  cases r.isIncomplete <;> cases r.hasErrors <;> simp

end Accounts

@[simp] theorem exitCodeOf_no_files (p : Java.Parser) (d : Disk) (rules : RuleSet)
    (folder : Location) :
    Cli.exitCodeOf (analyzeFiles p d rules folder []) = 0 := by
  have accounts := accounts_analyzeFiles p d rules folder []
  have whole : ¬Broken (outcomesOf p d rules folder []) := by simp [Broken, outcomesOf]
  have harmless : ¬Offends (outcomesOf p d rules folder []) := by simp [Offends, outcomesOf]
  exact accounts.exitCodeOf_eq_iff.2.2.2 ⟨whole, harmless⟩

theorem exitCode_lint (p : Java.Parser) (colored : Bool) (o : Cli.LintOptions) (d : Disk) :
    (Cli.lint p colored o d).map (·.exitCode) =
      (Cli.plan o d).map fun (rules, selection) =>
        Cli.exitCodeOf (analyzeFiles p d rules selection.folder selection.files) := by
  rw [Cli.lint]
  cases Cli.plan o d with
  | error reason => rfl
  | ok both =>
      obtain ⟨rules, folder, files⟩ := both
      cases files with
      | nil => exact congrArg Except.ok (exitCodeOf_no_files p d rules folder).symm
      | cons way rest => rfl

/-- All that happens to files is accounted for, and decides the exit code: whatever fails makes it
2, and issues that are errors make it 1 unless directives silence them. -/
theorem files_are_accounted_for (p : Java.Parser) (d : Disk) :
    (∀ (rules : RuleSet) (folder : Location) (files : List Location),
      let outcomes := outcomesOf p d rules folder files
      let r := analyzeFiles p d rules folder files
      Accounts outcomes r ∧
        (Cli.exitCodeOf r = 2 ↔ Broken outcomes) ∧
        (Cli.exitCodeOf r = 1 ↔ ¬Broken outcomes ∧ Offends outcomes) ∧
        (Cli.exitCodeOf r = 0 ↔ ¬Broken outcomes ∧ ¬Offends outcomes)) ∧
    ∀ (colored : Bool) (o : Cli.LintOptions),
      (Cli.lint p colored o d).map (·.exitCode) =
        (Cli.plan o d).map fun (rules, selection) =>
          Cli.exitCodeOf (analyzeFiles p d rules selection.folder selection.files) := by
  constructor
  case left =>
    intro rules folder files
    have accounts := accounts_analyzeFiles p d rules folder files
    exact ⟨accounts, accounts.exitCodeOf_eq_iff⟩
  case right => exact fun colored o => exitCode_lint p colored o d

end Outcomes

end TreeLint

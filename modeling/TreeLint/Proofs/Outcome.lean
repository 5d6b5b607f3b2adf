import Mathlib.Data.List.Basic
import TreeLint.Proofs.Journal

/-! What a rule did decides its outcome: a refused report before a failed hook, and the issues
of a rule only if it had neither. -/

namespace TreeLint

/-- A refused report comes before a failed hook, and only a rule with neither keeps its issues. -/
def Rule.outcomeBy (input : FileInput) (rule : Rule σ) (refused : List Rejection)
    (failures : List Failure) (issues : List Issue) : RuleOutcome × List Issue :=
  match refused, failures with
  | rejection :: _, _ =>
      (.failed ⟨rule.key, input.path, .invalidAnchor, rejection.message⟩, [])
  | [], failure :: _ => (.failed ⟨rule.key, input.path, failure.kind, failure.message⟩, [])
  | [], [] => (.completed issues.length, issues)

theorem Rule.outcomeBy_cases (input : FileInput) (rule : Rule σ) (refused : List Rejection)
    (failures : List Failure) (issues : List Issue) :
    (∃ kind message, rule.outcomeBy input refused failures issues =
      (.failed ⟨rule.key, input.path, kind, message⟩, [])) ∨
      rule.outcomeBy input refused failures issues = (.completed issues.length, issues) := by
  unfold outcomeBy
  split
  · exact .inl ⟨_, _, rfl⟩
  · exact .inl ⟨_, _, rfl⟩
  · exact .inr rfl

/-- What a rule's outcome and its issues have to be by its journal, if it keeps its context. -/
def Rule.decided (input : FileInput) (rule : Rule σ) (journal : Journal) :
    RuleOutcome × List Issue :=
  rule.outcomeBy input journal.rejections journal.failures
    (journal.accepted.map (·.issue rule.key input.path rule.metadata.severity))

/-- What they have to be in general: of the reports, those count that have been made since the rule
last put a new context in place. -/
def Rule.settled (input : FileInput) (rule : Rule σ) (journal : Journal) :
    RuleOutcome × List Issue :=
  let p := Placement.after input rule.key rule.metadata.severity journal.acts
  rule.outcomeBy input (p.since.filterMap Script.Act.rejection?) journal.failures
    ((p.since.filterMap Script.Act.accepted?).map (·.issue p.rule p.input.path p.severity))

theorem Rule.settled_of_keepsContext {input : FileInput} {rule : Rule σ} {journal : Journal}
    (kept : journal.KeepsContext) : rule.settled input journal = rule.decided input journal := by
  rw [settled, Placement.after_of_keepContext _ _ _ kept]
  rfl

theorem Session.Faithful.finish_eq {input : FileInput} {rule : Rule σ} {s : Session σ}
    {journal : Journal} (known : Faithful input rule s journal) :
    s.finish input = s.rule.settled input journal := by
  have left : s.context =
      (Placement.after input s.rule.key s.rule.metadata.severity journal.acts).left := by
    rw [← Context.recording_eq_left, Rule.key, known.metadata]
    exact known.context
  have failures := known.failures
  rw [finish, Rule.settled, left]
  generalize Placement.after input s.rule.key s.rule.metadata.severity journal.acts = p
  simp only [Placement.left, Sink.recording, Sink.new]
  cases refused : p.since.filterMap Script.Act.rejection? with
  | cons rejection later => rfl
  | nil =>
      cases failed : s.failure? with
      | some failure =>
          rw [failed] at failures
          rw [failures]
          rfl
      | none =>
          rw [failed] at failures
          rw [failures]
          simp [Rule.outcomeBy]

theorem Rule.settled_cases (input : FileInput) (rule : Rule σ) (journal : Journal) :
    (∃ kind message, rule.settled input journal =
      (.failed ⟨rule.key, input.path, kind, message⟩, [])) ∨
      ∃ issues, rule.settled input journal = (.completed issues.length, issues) :=
  (outcomeBy_cases ..).imp_right fun completed => ⟨_, completed⟩

theorem Rule.mem_settled {input : FileInput} {rule : Rule σ} {journal : Journal} {issue : Issue}
    (found : issue ∈ (rule.settled input journal).2) :
    let p := Placement.after input rule.key rule.metadata.severity journal.acts
    ∃ r ∈ p.since.filterMap Script.Act.accepted?,
      issue = r.issue p.rule p.input.path p.severity := by
  intro p
  obtain ⟨kind, message, failed⟩ | completed := outcomeBy_cases input rule
    (p.since.filterMap Script.Act.rejection?) journal.failures
    ((p.since.filterMap Script.Act.accepted?).map (·.issue p.rule p.input.path p.severity))
  · rw [settled, failed] at found
    cases found
  · rw [settled, completed] at found
    obtain ⟨r, accepted, rfl⟩ := List.mem_map.1 found
    exact ⟨r, accepted, rfl⟩

theorem Rule.mem_settled_of_keepsContext {input : FileInput} {rule : Rule σ} {journal : Journal}
    {issue : Issue} (kept : journal.KeepsContext)
    (found : issue ∈ (rule.settled input journal).2) :
    ∃ r ∈ journal.accepted, issue = r.issue rule.key input.path rule.metadata.severity := by
  have reported := mem_settled found
  rwa [Placement.after_of_keepContext _ _ _ kept] at reported

theorem Rule.settled_failed {input : FileInput} {rule : Rule σ} {journal : Journal}
    (failed : (rule.settled input journal).1.fault?.isSome) :
    (rule.settled input journal).2 = [] := by
  obtain ⟨kind, message, settled⟩ | ⟨issues, settled⟩ := rule.settled_cases input journal
  · rw [settled]
  · rw [settled] at failed
    cases failed

/-- A report accounted for by journals: each rule as it is after the run, with a journal that it
kept throughout. -/
structure Accounted (input : FileInput) (rules : List (Rule σ)) (report : FileReport)
    (ends : List (Rule σ × Journal)) : Prop where
  /-- The journals are those that the rules keep in the very same run. -/
  kept : runFile input (rules.map Rule.noted) =
    .ok (report, ends.map fun (rule, journal) => rule.noting journal)
  sameRules : ends.map (·.1.metadata) = rules.map (·.metadata)
  answers : ∀ e ∈ ends, (Context.new input e.1.key e.1.metadata.severity).Answers e.2.acts
  failsOnce : ∀ e ∈ ends, e.2.failures.length ≤ 1
  runs : report.runs = ends.map fun (rule, journal) =>
    ⟨rule.key, (rule.settled input journal).1⟩
  issues : report.issues = ends.flatMap fun (rule, journal) => (rule.settled input journal).2
  emptied : ∀ e ∈ ends, (e.1.settled input e.2).1.fault?.isSome → (e.1.settled input e.2).2 = []
  /-- Of a rule that keeps its context, all reports count. -/
  own : ∀ e ∈ ends, e.2.KeepsContext →
    e.1.settled input e.2 = e.1.decided input e.2 ∧
      ∀ r answer, .reported r answer ∈ e.2.acts →
        answer = r.anchor.answer e.1.key input.tree.id
  dropped : (∀ e ∈ ends, e.2.KeepsContext) → ∀ run ∈ report.runs, run.outcome.fault?.isSome →
    ∀ issue ∈ report.issues, issue.rule ≠ run.rule

@[simp] theorem duplicateKey?_noted (seen : List String) (rules : List (Rule σ)) :
    duplicateKey? seen (rules.map Rule.noted) = duplicateKey? seen rules := by
  induction rules generalizing seen with
  | nil => rfl
  | cons rule rest ih =>
      rw [List.map_cons, duplicateKey?, duplicateKey?, ih]
      rfl

@[simp] theorem check_map_noted (input : FileInput) (rules : List (Rule σ)) :
    input.check (rules.map Rule.noted) = input.check rules := by
  rw [FileInput.check, FileInput.check, duplicateKey?_noted]

theorem check_noted {input : FileInput} {rules : List (Rule σ)}
    (checked : input.check rules = .ok ()) : input.check (rules.map Rule.noted) = .ok () :=
  (check_map_noted input rules).trans checked

namespace Session

theorem finish_alone (input : FileInput) (rule : Rule σ) :
    (alone input rule).finish input = (alone input rule).rule.settled input (rule.journal input) :=
  (alone_noted input rule).2.finish_eq

end Session

def Rule.ending (input : FileInput) (rule : Rule σ) : Rule σ × Journal :=
  ((Session.alone input rule).rule, rule.journal input)

theorem report_noted (input : FileInput) (rules : List (Rule σ)) :
    report input ((rules.map Rule.noted).map (Session.alone input)) =
      report input (rules.map (Session.alone input)) := by
  have sameFinish (rule : Rule σ) :
      (Session.alone input rule.noted).finish input = (Session.alone input rule).finish input := by
    rw [(Session.alone_noted input rule).1]
    rfl
  have sameKey (rule : Rule σ) :
      (Session.alone input rule.noted).rule.key = (Session.alone input rule).rule.key := by
    rw [(Session.alone_noted input rule).1]
    rfl
  simp only [report, List.map_map, List.flatMap_map, Function.comp_def, sameFinish, sameKey]

theorem dropped_of_failed {input : FileInput} {rules : List (Rule σ)}
    (checked : input.check rules = .ok ())
    (kept : ∀ rule ∈ rules, (rule.journal input).KeepsContext) {failing : Rule σ}
    (member : failing ∈ rules)
    (failed : ((Session.alone input failing).finish input).1.fault?.isSome) {issue : Issue}
    (found : issue ∈ rules.flatMap fun rule => ((Session.alone input rule).finish input).2) :
    issue.rule ≠ failing.key := by
  intro same
  obtain ⟨finder, finderMember, found⟩ := List.mem_flatMap.1 found
  have named : issue.rule = finder.key := by
    rw [Session.finish_alone] at found
    obtain ⟨r, _, rfl⟩ := Rule.mem_settled_of_keepsContext (kept finder finderMember) found
    exact Session.key_alone input finder
  have sameRule : finder = failing :=
    List.inj_on_of_nodup_map (check_eq_ok_iff.1 checked).1 finderMember member
      (named.symm.trans same)
  rw [Session.finish_alone] at failed
  rw [sameRule, Session.finish_alone, Rule.settled_failed failed] at found
  cases found

end TreeLint

import TreeLint.Proofs.Isolation
import TreeLint.Proofs.Reporting

/-! Rules that report at most once on each node that they come to, and do nothing else. -/

namespace TreeLint

open Traversal

namespace Traversal

variable {t : Tree}

def entered? : Step t → Option t.Node
  | (.enter, n) => some n
  | (.leave, _) => none

theorem filterMap_entered_fullLog (n : t.Node) :
    (fullLog n).filterMap entered? = n.descendants := by
  induction n using Tree.Node.induction_below with
  | step n ih =>
      have below : n.children.flatMap (fun c => (fullLog c).filterMap entered?) =
          n.children.flatMap Tree.Node.descendants := by
        rw [List.flatMap_def, List.map_congr_left ih, ← List.flatMap_def]
      rw [fullLog_eq, n.descendants_eq, ← below]
      simp [List.filterMap_flatMap, entered?]

theorem filterMap_entered_filter (n : t.Node) (wanted : t.Node → Bool) :
    ((fullLog n).filter fun (_, m) => wanted m).filterMap entered? =
      n.descendants.filter wanted := by
  rw [← filterMap_entered_fullLog, List.filterMap_filter, List.filter_filterMap]
  refine List.filterMap_congr fun (event, m) _ => ?_
  cases event with
  | enter => cases same : wanted m <;> simp [entered?, Option.filter, same]
  | leave => simp [entered?]

end Traversal

/-- The hooks report on the nodes of these kinds that are spotted, and do nothing else. -/
structure Subscriber.Spots (hooks : Subscriber σ) (kinds : List Kind)
    (spot? : (input : FileInput) → input.tree.Node → Option Report) : Prop where
  kinds : ∀ state, hooks.kinds state = .ok kinds
  asked : ∀ state, hooks.asked state = state
  scanFile : ∀ input, hooks.scanFile input = pure ()
  visitNode : ∀ input n, hooks.visitNode input n =
    match spot? input n with
    | some r => Scan.report r
    | none => pure ()
  leaveNode : ∀ input n, hooks.leaveNode input n = pure ()
  leaveFile : ∀ input, hooks.leaveFile input = pure ()

namespace Session

variable {input : FileInput} {rule : Rule σ}

/-- A rule that has reported so much, all of which was taken. -/
def having (input : FileInput) (rule : Rule σ) (reports : List Report) : Session σ where
  rule
  context := (start input rule).context.recording (reports.map (.reported · (.ok ())))
  failure? := none

@[simp] theorem having_nil : having input rule [] = start input rule := rfl

theorem having_append (before after : List Report) :
    (having input rule (before ++ after)).context =
      (having input rule before).context.recording (after.map (.reported · (.ok ()))) := by
  rw [having, List.map_append, Context.recording_append]
  rfl

@[simp] theorem context_having (reports : List Report) :
    (having input rule reports).context =
      ⟨input, (Sink.new rule.key input.path input.tree.id rule.metadata.severity).recording
        (reports.map (.reported · (.ok ())))⟩ :=
  Context.recording_of_keepContext _ (Script.Act.keepContext_of_taken reports)

@[simp] theorem issues_having (reports : List Report) :
    (having input rule reports).context.sink.issues.toList =
      reports.map (·.issue rule.key input.path rule.metadata.severity) := by
  have taken := Script.Act.accepted_of_taken reports
  simp [Sink.recording, taken, Sink.new]

@[simp] theorem violation?_having (reports : List Report) :
    (having input rule reports).context.sink.violation? = none := by
  have none := Script.Act.rejection_of_taken reports
  simp [Sink.recording, none, Sink.new]

@[simp] theorem isOut_having (reports : List Report) :
    (having input rule reports).isOut = false := by
  rw [isOut, violation?_having]
  rfl

@[simp] theorem attempt_pure (s : Session σ) : s.attempt (pure ()) = s := rfl

theorem attempt_report (reports : List Report) {r : Report}
    (taken : r.anchor.answer rule.key input.tree.id = .ok ()) :
    (having input rule reports).attempt (Scan.report r) = having input rule (reports ++ [r]) := by
  have answer : (having input rule reports).context.answer r.anchor = .ok () := by
    rw [context_having]
    exact taken
  have ran : (Scan.report r rule.state).run (having input rule reports).context =
      (.ok (), rule.state, (having input rule (reports ++ [r])).context) := by
    rw [having_append, Scan.report, Scan.run_bind]
    simp only [Scan.tryReport, Script.run, Context.report_eq, answer]
    rfl
  rw [attempt, show (having input rule reports).rule = rule from rfl, ran]
  rfl

end Session

namespace Subscriber.Spots

variable {input : FileInput} {rule : Rule σ} {hooks : Subscriber σ} {kinds : List Kind}
  {spot? : (input : FileInput) → input.tree.Node → Option Report}

theorem step_having (spots : hooks.Spots kinds spot?)
    (subscribes : rule.behavior = .subscription hooks) (at_ : Step input.tree)
    (taken : ∀ n, entered? at_ = some n → ∀ r, spot? input n = some r →
      r.anchor.answer rule.key input.tree.id = .ok ()) (reports : List Report) :
    (Session.having input rule reports).step at_ =
      .having input rule (reports ++ ((entered? at_).bind (spot? input)).toList) := by
  obtain ⟨event, n⟩ := at_
  have called : (Session.having input rule reports).rule.behavior.subscriber? = some hooks :=
    congrArg Behavior.subscriber? subscribes
  rw [Session.step, Session.isOut_having, if_neg Bool.false_ne_true, Session.visit, called]
  cases event with
  | leave => simp [spots.leaveNode, entered?]
  | enter =>
      cases spotted : spot? input n with
      | none => simp [spots.visitNode, spotted, entered?]
      | some r =>
          simp [spots.visitNode, spotted, Session.attempt_report reports (taken n rfl r spotted),
            entered?]

theorem foldl_having (spots : hooks.Spots kinds spot?)
    (subscribes : rule.behavior = .subscription hooks) {steps : List (Step input.tree)}
    (taken : ∀ n ∈ steps.filterMap entered?, ∀ r, spot? input n = some r →
      r.anchor.answer rule.key input.tree.id = .ok ()) (reports : List Report) :
    steps.foldl Session.step (.having input rule reports) =
      .having input rule (reports ++ (steps.filterMap entered?).filterMap (spot? input)) := by
  induction steps generalizing reports with
  | nil => rw [List.filterMap_nil, List.filterMap_nil, List.append_nil]; rfl
  | cons at_ rest ih =>
      have now : ∀ n, entered? at_ = some n → ∀ r, spot? input n = some r →
          r.anchor.answer rule.key input.tree.id = .ok () :=
        fun n here => taken n (List.mem_filterMap.2 ⟨at_, List.mem_cons_self .., here⟩)
      have later : ∀ n ∈ rest.filterMap entered?, ∀ r, spot? input n = some r →
          r.anchor.answer rule.key input.tree.id = .ok () := by
        intro n member
        obtain ⟨other, listed, here⟩ := List.mem_filterMap.1 member
        exact taken n (List.mem_filterMap.2 ⟨other, List.mem_cons_of_mem _ listed, here⟩)
      rw [List.foldl_cons, spots.step_having subscribes at_ now, ih later, List.append_assoc]
      cases entered : entered? at_ with
      | none => simp [entered]
      | some n => cases spotted : spot? input n <;> simp [entered, spotted]

theorem runFile_eq (spots : hooks.Spots kinds spot?)
    (subscribes : rule.behavior = .subscription hooks)
    (bound : ∀ symbols ∈ input.symbols?, symbols.tree = input.tree.id)
    (taken : ∀ n ∈ input.tree.root.descendants, n.kind ∈ kinds → ∀ r, spot? input n = some r →
      r.anchor.answer rule.key input.tree.id = .ok ()) :
    let issues := ((input.tree.root.descendants.filter (kinds.contains ·.kind)).filterMap
      (spot? input)).map (·.issue rule.key input.path rule.metadata.severity)
    runFile input [rule] =
      .ok (⟨input.path, issues, [⟨rule.key, .completed issues.length⟩]⟩, [rule]) := by
  intro issues
  have checked : input.check [rule] = .ok () :=
    check_eq_ok_iff.2 ⟨List.pairwise_singleton _ rule.key, bound⟩
  have scanned : (Session.start input rule).scanFile input = .having input rule [] := by
    rw [Session.having_nil, Session.scanFile, show (Session.start input rule).rule = rule from rfl,
      subscribes, Behavior.scanFile, spots.scanFile, Session.attempt_pure]
  have subscribed : (Session.having input rule []).subscribe = (kinds, .having input rule []) := by
    simp only [Session.subscribe, Session.having, subscribes, Behavior.subscriber?, spots.kinds,
      spots.asked]
    rw [← subscribes]
  have walked : Session.alone input rule = .having input rule
      ((input.tree.root.descendants.filter (kinds.contains ·.kind)).filterMap (spot? input)) := by
    have entered := filterMap_entered_filter input.tree.root (kinds.contains ·.kind)
    rw [Session.alone, scanned, Session.walkAlone, subscribed, spots.foldl_having subscribes,
      List.nil_append, entered, Session.leaveFile]
    · simp only [Session.having, subscribes, Behavior.subscriber?, spots.leaveFile]
      rfl
    · rw [entered]
      intro n member
      obtain ⟨below, wanted⟩ := List.mem_filter.1 member
      exact taken n below (List.contains_iff_mem.1 wanted)
  have finished : (Session.alone input rule).finish input = (.completed issues.length, issues) := by
    rw [walked, Session.finish, Session.violation?_having, Session.issues_having,
      ← Array.length_toList, Session.issues_having]
    rfl
  rw [runFile_of_check checked]
  simp only [report, List.map_cons, List.map_nil, List.flatMap_cons, List.flatMap_nil,
    List.append_nil, finished]
  rw [walked]
  rfl

end Subscriber.Spots

end TreeLint

import Mathlib.Data.List.Induction
import Mathlib.Tactic.Tauto
import TreeLint.Proofs.Scripts

/-! What a script reports, what it is answered, and what its context has of it afterwards. -/

namespace TreeLint

namespace Script.Act

def rejection? : Act → Option Rejection
  | reported _ (.error rejection) => some rejection
  | reported _ (.ok ()) | renewed _ _ _ | failed _ => none

def accepted? : Act → Option Report
  | reported r (.ok ()) => some r
  | reported _ (.error _) | renewed _ _ _ | failed _ => none

def failure? : Act → Option Failure
  | reported _ _ | renewed _ _ _ => none
  | failed failure => some failure

def renewal? : Act → Option Context
  | renewed input rule severity => some (.new input rule severity)
  | reported _ _ | failed _ => none

theorem mem_of_mem_accepted {acts : List Act} {r : Report}
    (accepted : r ∈ acts.filterMap accepted?) : .reported r (.ok ()) ∈ acts := by
  obtain ⟨act, member, taken⟩ := List.mem_filterMap.1 accepted
  cases act with
  | failed failure => cases taken
  | renewed input rule severity => cases taken
  | reported other answer =>
      cases answer with
      | error rejection => cases taken
      | ok _ =>
          cases taken
          exact member

def KeepContext (acts : List Act) : Prop := ∀ act ∈ acts, act.renewal? = none

theorem keepContext_nil : KeepContext [] := nofun

theorem KeepContext.append {before after : List Act} (kept : KeepContext before)
    (still : KeepContext after) : KeepContext (before ++ after) :=
  List.forall_mem_append.2 ⟨kept, still⟩

@[simp] theorem accepted_of_taken (reports : List Report) :
    (reports.map (reported · (.ok ()))).filterMap accepted? = reports := by
  induction reports with
  | nil => rfl
  | cons r rest ih => exact congrArg (r :: ·) ih

@[simp] theorem rejection_of_taken (reports : List Report) :
    (reports.map (reported · (.ok ()))).filterMap rejection? = [] := by
  simp [rejection?]

@[simp] theorem failure_of_taken (reports : List Report) :
    (reports.map (reported · (.ok ()))).filterMap failure? = [] := by
  simp [failure?]

theorem keepContext_of_taken (reports : List Report) :
    KeepContext (reports.map (reported · (.ok ()))) := by
  simp [KeepContext, renewal?]

end Script.Act

namespace Anchor

/-- The answer to a report of the rule: nodes have to be of the file's own tree, and lines start
at 1. -/
def answer (rule : String) (tree : TreeId) : Anchor → Except Rejection Unit
  | node (t := t) _ => if t.id = tree then .ok () else .error (.foreignAnchor rule)
  | line 0 => .error (.invalidLine rule 0)
  | line (_ + 1) => .ok ()

def firstLine : Anchor → Nat
  | node n => n.line
  | line number => number

def span? : Anchor → Option Span
  | node n => some n.span
  | line _ => none

end Anchor

def Report.issue (r : Report) (rule file : String) (severity : Severity) : Issue where
  rule
  file
  line := r.anchor.firstLine
  column? := r.anchor.span?.map (·.startColumn)
  span? := r.anchor.span?
  message := r.message
  severity
  cost? := r.cost?

def Issue.onNode (rule file : String) (severity : Severity) {t : Tree} (n : t.Node)
    (message : String) : Issue where
  rule
  file
  line := n.line
  column? := some n.span.startColumn
  span? := some n.span
  message
  severity
  cost? := none

@[simp] theorem Report.issue_onNode (rule file : String) (severity : Severity) {t : Tree}
    (n : t.Node) (message : String) :
    Report.issue ⟨.node n, message, none⟩ rule file severity =
      .onNode rule file severity n message := rfl

namespace Sink

def recording (s : Sink) (acts : List Script.Act) : Sink :=
  { s with
    issues := s.issues ++
      ((acts.filterMap Script.Act.accepted?).map (·.issue s.rule s.file s.severity)).toArray
    violation? := s.violation? <|> (acts.filterMap Script.Act.rejection?).head? }

@[simp] theorem recording_nil (s : Sink) : s.recording [] = s := by
  cases s with
  | mk rule file tree severity issues violation? => simp [recording]

@[simp] theorem recording_failed (s : Sink) (failure : Failure) :
    s.recording [.failed failure] = s := by
  refine Eq.trans ?_ s.recording_nil
  rw [recording, List.filterMap_cons_none rfl, List.filterMap_cons_none rfl]
  rfl

@[simp] theorem recording_append (s : Sink) (before after : List Script.Act) :
    s.recording (before ++ after) = (s.recording before).recording after := by
  simp [recording, Option.or_assoc]

@[simp] theorem recording_accepted (s : Sink) (r : Report) :
    s.recording [.reported r (.ok ())] =
      { s with issues := s.issues.push (r.issue s.rule s.file s.severity) } := by
  simp [recording, Script.Act.accepted?, Script.Act.rejection?]

@[simp] theorem recording_rejected (s : Sink) (r : Report) (e : Rejection) :
    s.recording [.reported r (.error e)] = { s with violation? := s.violation? <|> some e } := by
  simp [recording, Script.Act.accepted?, Script.Act.rejection?]

theorem report_eq (s : Sink) (r : Report) :
    s.report r = (r.anchor.answer s.rule s.tree,
      s.recording [.reported r (r.anchor.answer s.rule s.tree)]) := by
  obtain ⟨anchor, message, cost?⟩ := r
  cases anchor with
  | @node t n =>
      by_cases own : t.id = s.tree
      · simp only [report, locate, Anchor.answer, own, if_true, recording_accepted]
        rfl
      · simp only [report, locate, Anchor.answer, own, if_false, recording_rejected]
  | line number =>
      cases number with
      | zero => simp only [report, locate, Anchor.answer, if_true, recording_rejected]
      | succ number =>
          simp only [report, locate, Anchor.answer, Nat.succ_ne_zero, if_false,
            recording_accepted]
          rfl

end Sink

/-- What a context was made with, and the acts since then. -/
structure Placement where
  input : FileInput
  rule : String
  severity : Severity
  since : List Script.Act

namespace Placement

def adding (p : Placement) : Script.Act → Placement
  | .renewed input rule severity => ⟨input, rule, severity, []⟩
  | act => { p with since := p.since ++ [act] }

/-- The context in place after the acts, if the first is a new one. -/
def after (input : FileInput) (rule : String) (severity : Severity) (acts : List Script.Act) :
    Placement :=
  acts.foldl adding ⟨input, rule, severity, []⟩

def left (p : Placement) : Context where
  input := p.input
  sink := (Sink.new p.rule p.input.path p.input.tree.id p.severity).recording p.since

theorem adding_of_keeps (p : Placement) {act : Script.Act} (keeps : act.renewal? = none) :
    p.adding act = { p with since := p.since ++ [act] } := by
  cases act with
  | reported r answer => rfl
  | renewed input rule severity => cases keeps
  | failed failure => rfl

theorem after_of_keepContext (input : FileInput) (rule : String) (severity : Severity)
    {acts : List Script.Act} (kept : Script.Act.KeepContext acts) :
    after input rule severity acts = ⟨input, rule, severity, acts⟩ := by
  have gathered (since : List Script.Act) :
      acts.foldl adding ⟨input, rule, severity, since⟩ =
        ⟨input, rule, severity, since ++ acts⟩ := by
    induction acts generalizing since with
    | nil => rw [List.foldl_nil, List.append_nil]
    | cons act rest ih =>
        obtain ⟨keeps, kept⟩ := List.forall_mem_cons.1 kept
        rw [List.foldl_cons, adding_of_keeps _ keeps, ih kept, List.append_assoc]
        rfl
  exact gathered []

theorem since_suffix (input : FileInput) (rule : String) (severity : Severity)
    (acts : List Script.Act) : (after input rule severity acts).since <:+ acts := by
  induction acts using List.reverseRec with
  | nil => exact List.suffix_rfl
  | append_singleton acts act ih =>
      rw [after, List.foldl_append, List.foldl_cons, List.foldl_nil, ← after]
      cases act with
      | renewed input rule severity => exact List.nil_suffix
      | reported r answer => exact List.suffix_append_self_iff.2 ih
      | failed failure => exact List.suffix_append_self_iff.2 ih

end Placement

namespace Context

def answer (c : Context) (anchor : Anchor) : Except Rejection Unit :=
  anchor.answer c.sink.rule c.sink.tree

def entering (c : Context) (act : Script.Act) : Context :=
  act.renewal?.getD { c with sink := c.sink.recording [act] }

def recording (c : Context) (acts : List Script.Act) : Context := acts.foldl entering c

/-- Each report among the acts is answered by the context that is in place when it is made. -/
def Answers (c : Context) : List Script.Act → Prop
  | [] => True
  | act :: rest =>
      (∀ r answer, act = .reported r answer → answer = c.answer r.anchor) ∧
        (c.entering act).Answers rest

@[simp] theorem recording_nil (c : Context) : c.recording [] = c := rfl

@[simp] theorem recording_failed (c : Context) (failure : Failure) :
    c.recording [.failed failure] = c :=
  congrArg (Context.mk c.input) (c.sink.recording_failed failure)

@[simp] theorem recording_append (c : Context) (before after : List Script.Act) :
    c.recording (before ++ after) = (c.recording before).recording after :=
  List.foldl_append

theorem report_eq (c : Context) (r : Report) :
    c.report r = (c.answer r.anchor, c.recording [.reported r (c.answer r.anchor)]) := by
  rw [report, c.sink.report_eq]
  rfl

theorem recording_of_keepContext (c : Context) {acts : List Script.Act}
    (kept : Script.Act.KeepContext acts) :
    c.recording acts = { c with sink := c.sink.recording acts } := by
  induction acts generalizing c with
  | nil => rw [c.sink.recording_nil, recording_nil]
  | cons act rest ih =>
      obtain ⟨keeps, kept⟩ := List.forall_mem_cons.1 kept
      have entered : c.entering act = { c with sink := c.sink.recording [act] } := by
        rw [entering, keeps, Option.getD_none]
      rw [recording, List.foldl_cons, ← recording, ih _ kept, entered]
      exact congrArg (Context.mk c.input) (c.sink.recording_append [act] rest).symm

theorem answers_append {c : Context} {before after : List Script.Act} :
    c.Answers (before ++ after) ↔ c.Answers before ∧ (c.recording before).Answers after := by
  induction before generalizing c with
  | nil => simp [Answers]
  | cons act rest ih =>
      rw [List.cons_append, Answers, Answers, ih, and_assoc]
      rfl

theorem Answers.exists_eq {c : Context} {acts : List Script.Act} (answers : c.Answers acts)
    {r : Report} {answer : Except Rejection Unit} (member : .reported r answer ∈ acts) :
    ∃ other : Context, answer = other.answer r.anchor := by
  obtain ⟨before, after, rfl⟩ := List.append_of_mem member
  exact ⟨_, (answers_append.1 answers).2.1 r answer rfl⟩

theorem Answers.eq_of_keepContext {c : Context} {acts : List Script.Act} (answers : c.Answers acts)
    (kept : Script.Act.KeepContext acts) {r : Report} {answer : Except Rejection Unit}
    (member : .reported r answer ∈ acts) : answer = c.answer r.anchor := by
  obtain ⟨before, after, rfl⟩ := List.append_of_mem member
  obtain ⟨keeps, _⟩ := List.forall_mem_append.1 kept
  have answered := ((answers_append.1 answers).2.1 r answer rfl)
  rwa [c.recording_of_keepContext keeps] at answered

theorem recording_eq_left (input : FileInput) (rule : String) (severity : Severity)
    (acts : List Script.Act) :
    (new input rule severity).recording acts =
      (Placement.after input rule severity acts).left := by
  have going (p : Placement) : p.left.recording acts = (acts.foldl Placement.adding p).left := by
    induction acts generalizing p with
    | nil => rfl
    | cons act rest ih =>
        rw [List.foldl_cons, ← ih, recording, List.foldl_cons, ← recording]
        refine congrArg (recording · rest) ?_
        cases act with
        | renewed input rule severity =>
            exact congrArg (Context.mk _) (Sink.recording_nil _).symm
        | reported r answer => exact congrArg (Context.mk _) (Sink.recording_append ..).symm
        | failed failure => exact congrArg (Context.mk _) (Sink.recording_append ..).symm
  refine Eq.trans ?_ (going ⟨input, rule, severity, []⟩)
  exact congrArg (recording · acts) (congrArg (Context.mk _) (Sink.recording_nil _).symm)

end Context

namespace Script.Act

def LeaveRefusal (acts : List Act) : Prop :=
  ∃ before r rejection after,
    acts = before ++ .reported r (.error rejection) :: after ∧ KeepContext after

theorem leaveRefusal_cons {act : Act} {rest : List Act} :
    LeaveRefusal (act :: rest) ↔
      LeaveRefusal rest ∨ act.rejection?.isSome ∧ KeepContext rest := by
  constructor
  · rintro ⟨_ | ⟨_, before⟩, r, rejection, after, ⟨⟩, kept⟩
    · exact .inr ⟨rfl, kept⟩
    · exact .inl ⟨before, r, rejection, after, rfl, kept⟩
  · rintro (⟨before, r, rejection, after, rfl, kept⟩ | ⟨refuses, kept⟩)
    · exact ⟨act :: before, r, rejection, after, rfl, kept⟩
    · cases act with
      | failed failure => cases refuses
      | renewed input rule severity => cases refuses
      | reported r answer =>
          cases answer with
          | ok _ => cases refuses
          | error rejection => exact ⟨[], r, rejection, rest, rfl, kept⟩

theorem leaveRefusal_of_keepContext {acts : List Act} (kept : KeepContext acts) :
    LeaveRefusal acts ↔ ∃ r rejection, .reported r (.error rejection) ∈ acts := by
  constructor
  · rintro ⟨before, r, rejection, after, rfl, _⟩
    exact ⟨r, rejection, List.mem_append_right _ (List.mem_cons_self ..)⟩
  · rintro ⟨r, rejection, member⟩
    obtain ⟨before, after, rfl⟩ := List.append_of_mem member
    exact ⟨before, r, rejection, after, rfl, fun act later =>
      kept act (List.mem_append_right _ (List.mem_cons_of_mem _ later))⟩

end Script.Act

namespace Context

theorem violation?_entering {c : Context} {act : Script.Act} :
    (c.entering act).sink.violation?.isSome ↔
      act.rejection?.isSome ∨ act.renewal? = none ∧ c.sink.violation?.isSome := by
  cases act with
  | failed failure =>
      simp [entering, Script.Act.renewal?, Script.Act.rejection?]
  | renewed input rule severity =>
      simp [entering, Script.Act.renewal?, Script.Act.rejection?, new, Sink.new]
  | reported r answer =>
      cases answer with
      | error rejection =>
          simp [entering, Script.Act.renewal?, Script.Act.rejection?]
      | ok value =>
          cases value
          simp [entering, Script.Act.renewal?, Script.Act.rejection?]

theorem violation?_recording {c : Context} {acts : List Script.Act} :
    (c.recording acts).sink.violation?.isSome ↔
      Script.Act.LeaveRefusal acts ∨
        Script.Act.KeepContext acts ∧ c.sink.violation?.isSome := by
  induction acts generalizing c with
  | nil =>
      refine ⟨fun violated => .inr ⟨Script.Act.keepContext_nil, violated⟩, ?_⟩
      rintro (⟨before, _, _, _, split, _⟩ | ⟨_, violated⟩)
      · cases before <;> cases split
      · exact violated
  | cons act rest ih =>
      have kept_cons : Script.Act.KeepContext (act :: rest) ↔
          act.renewal? = none ∧ Script.Act.KeepContext rest := List.forall_mem_cons
      rw [recording, List.foldl_cons, ← recording, ih, violation?_entering,
        Script.Act.leaveRefusal_cons, kept_cons]
      tauto

end Context

namespace Script

theorem context_run (x : Script σ α) (context : Context) :
    (x.run context).2.2 = context.recording (x.acts context) := by
  induction x generalizing context with
  | done state value => rfl
  | fail state failure => exact (context.recording_failed failure).symm
  | report r resume ih =>
      simp only [run, acts, context.report_eq]
      rw [ih]
      exact (context.recording_append [_] _).symm
  | read resume ih => exact ih _ _
  | renew input rule severity resume ih => exact ih _

theorem answers_acts (x : Script σ α) (context : Context) : context.Answers (x.acts context) := by
  induction x generalizing context with
  | done state value => trivial
  | fail state failure => exact ⟨nofun, trivial⟩
  | report asked resume ih =>
      simp only [acts, context.report_eq]
      refine ⟨fun r answer same => ?_, ih _ _⟩
      cases same
      rfl
  | read resume ih => exact ih _ _
  | renew input rule severity resume ih => exact ⟨nofun, ih _⟩

theorem failures_acts (x : Script σ α) (context : Context) :
    (x.acts context).filterMap Act.failure? =
      match (x.run context).1 with
      | .ok _ => []
      | .error failure => [failure] := by
  induction x generalizing context with
  | done state value => rfl
  | fail state failure => rfl
  | report r resume ih => exact ih _ _
  | read resume ih => exact ih _ _
  | renew input rule severity resume ih => exact ih _

end Script

end TreeLint

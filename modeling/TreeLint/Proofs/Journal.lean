import TreeLint.Proofs.Isolation
import TreeLint.Proofs.Reporting

/-! Rules that keep a journal: which of their hooks are called, and what the hooks do. -/

namespace TreeLint

open Traversal

inductive Hook where
  | scanFile
  | nodesToVisit
  | visit (event : Event) {t : Tree} (n : t.Node)
  | leaveFile

inductive Note where
  | called (hook : Hook)
  | did (act : Script.Act)

abbrev Journal := List Note

namespace Journal

def enter (journal : Journal) (act : Script.Act) : Journal := journal ++ [.did act]

def call (journal : Journal) (hook : Hook) (acts : List Script.Act) : Journal :=
  acts.foldl enter (journal ++ [.called hook])

theorem call_eq (journal : Journal) (hook : Hook) (acts : List Script.Act) :
    journal.call hook acts = journal ++ .called hook :: acts.map .did := by
  have entered (acts : List Script.Act) (before : Journal) :
      acts.foldl enter before = before ++ acts.map .did := by
    induction acts generalizing before with
    | nil => exact (List.append_nil before).symm
    | cons act rest ih => exact (ih _).trans (List.append_assoc before [.did act] _)
  rw [call, entered, List.append_assoc, List.singleton_append]

end Journal

/-- Whatever it meets, the hook puts no new context in place. -/
def Scan.KeepsContext (x : Scan σ α) : Prop :=
  ∀ state context, Script.Act.KeepContext ((x state).acts context)

/-- The hook with the journal beside the rule's own state. -/
def Scan.noted (x : Scan σ α) (hook : Hook) : Scan (σ × Journal) α := fun (state, journal) =>
  (x state).watched Journal.enter (journal ++ [.called hook])

namespace Subscriber

def actsOfAsking (hooks : Subscriber σ) (state : σ) : List Script.Act :=
  match hooks.kinds state with
  | .ok _ => []
  | .error failure => [.failed failure]

structure KeepsContext (hooks : Subscriber σ) : Prop where
  scanFile : ∀ input, (hooks.scanFile input).KeepsContext
  visitNode : ∀ input n, (hooks.visitNode input n).KeepsContext
  leaveNode : ∀ input n, (hooks.leaveNode input n).KeepsContext
  leaveFile : ∀ input, (hooks.leaveFile input).KeepsContext

theorem keepContext_actsOfAsking (hooks : Subscriber σ) (state : σ) :
    Script.Act.KeepContext (hooks.actsOfAsking state) := by
  unfold actsOfAsking
  split
  · exact Script.Act.keepContext_nil
  · exact List.forall_mem_singleton.2 rfl

def visit (hooks : Subscriber σ) (input : FileInput) (at_ : Step input.tree) : Scan σ Unit :=
  match at_.1 with
  | .enter => hooks.visitNode input at_.2
  | .leave => hooks.leaveNode input at_.2

theorem KeepsContext.visit {hooks : Subscriber σ} (keeps : hooks.KeepsContext) (input : FileInput)
    (at_ : Step input.tree) : (hooks.visit input at_).KeepsContext := by
  obtain ⟨event, n⟩ := at_
  cases event with
  | enter => exact keeps.visitNode input n
  | leave => exact keeps.leaveNode input n

def noted (hooks : Subscriber σ) : Subscriber (σ × Journal) where
  kinds := fun (state, _) => hooks.kinds state
  asked := fun (state, journal) =>
    (hooks.asked state, journal.call .nodesToVisit (hooks.actsOfAsking state))
  scanFile := fun input => (hooks.scanFile input).noted .scanFile
  visitNode := fun input n => (hooks.visitNode input n).noted (.visit .enter n)
  leaveNode := fun input n => (hooks.leaveNode input n).noted (.visit .leave n)
  leaveFile := fun input => (hooks.leaveFile input).noted .leaveFile

theorem visit_noted (hooks : Subscriber σ) (input : FileInput) (at_ : Step input.tree) :
    hooks.noted.visit input at_ = (hooks.visit input at_).noted (.visit at_.1 at_.2) := by
  obtain ⟨event, n⟩ := at_
  cases event with
  | enter => rfl
  | leave => rfl

end Subscriber

def Behavior.KeepsContext : Behavior σ → Prop
  | recursive scanFile => ∀ input, (scanFile input).KeepsContext
  | subscription hooks => hooks.KeepsContext

namespace Behavior

theorem KeepsContext.scanFile {behavior : Behavior σ} (keeps : behavior.KeepsContext)
    (input : FileInput) : (behavior.scanFile input).KeepsContext := by
  cases behavior with
  | recursive scanFile => exact keeps input
  | subscription hooks => exact Subscriber.KeepsContext.scanFile keeps input

theorem KeepsContext.subscriber {behavior : Behavior σ} (keeps : behavior.KeepsContext)
    {hooks : Subscriber σ} (subscribes : behavior.subscriber? = some hooks) :
    hooks.KeepsContext := by
  cases behavior with
  | recursive scanFile => cases subscribes
  | subscription own =>
      cases subscribes
      exact keeps

end Behavior

def Behavior.noted : Behavior σ → Behavior (σ × Journal)
  | recursive scanFile => recursive fun input => (scanFile input).noted .scanFile
  | subscription hooks => subscription hooks.noted

namespace Rule

def noting (rule : Rule σ) (journal : Journal) : Rule (σ × Journal) :=
  ⟨rule.metadata, rule.behavior.noted, (rule.state, journal)⟩

def noted (rule : Rule σ) : Rule (σ × Journal) := rule.noting []

end Rule

namespace Session

theorem subscribe_of_failure {s : Session σ} {failure : Failure}
    (failed : s.failure? = some failure) : s.subscribe = ([], s) := by
  simp only [subscribe, failed]

theorem subscribe_of_recursive {s : Session σ} (walks : s.rule.behavior.subscriber? = none) :
    s.subscribe = ([], s) := by
  cases failed : s.failure? with
  | none => simp only [subscribe, failed, walks]
  | some failure => exact subscribe_of_failure failed

theorem visit_of_recursive {s : Session σ} (walks : s.rule.behavior.subscriber? = none)
    (event : Event) (n : input.tree.Node) : s.visit input event n = s := by
  simp only [visit, walks]

theorem visit_of_subscription {s : Session σ} {hooks : Subscriber σ}
    (subscribes : s.rule.behavior.subscriber? = some hooks) (at_ : Step input.tree) :
    s.visit input at_.1 at_.2 = s.attempt (hooks.visit input at_) := by
  obtain ⟨event, n⟩ := at_
  simp only [visit, subscribes]
  cases event with
  | enter => rfl
  | leave => rfl

theorem leaveFile_of_failure {s : Session σ} {failure : Failure}
    (failed : s.failure? = some failure) (input : FileInput) : s.leaveFile input = s := by
  simp only [leaveFile, failed]

theorem leaveFile_of_recursive {s : Session σ} (walks : s.rule.behavior.subscriber? = none)
    (input : FileInput) : s.leaveFile input = s := by
  cases failed : s.failure? with
  | none => simp only [leaveFile, failed, walks]
  | some failure => exact leaveFile_of_failure failed input

theorem leaveFile_of_subscription {s : Session σ} {hooks : Subscriber σ}
    (fine : s.failure? = none) (subscribes : s.rule.behavior.subscriber? = some hooks)
    (input : FileInput) : s.leaveFile input = s.attempt (hooks.leaveFile input) := by
  simp only [leaveFile, fine, subscribes]

theorem failure?_of_not_isOut {s : Session σ} (stays : ¬ s.isOut) : s.failure? = none := by
  cases failed : s.failure? with
  | none => rfl
  | some failure => exact absurd (by rw [isOut, failed]; rfl) stays

def noting (s : Session σ) (journal : Journal) : Session (σ × Journal) :=
  ⟨s.rule.noting journal, s.context, s.failure?⟩

section Noting

variable {input : FileInput}

@[simp] theorem start_noted (input : FileInput) (rule : Rule σ) :
    start input rule.noted = (start input rule).noting [] := rfl

/-- Taking notes of a hook changes nothing else. -/
theorem attempt_noting (s : Session σ) (x : Scan σ Unit) (hook : Hook) (journal : Journal) :
    (s.noting journal).attempt (x.noted hook) =
      (s.attempt x).noting (journal.call hook ((x s.rule.state).acts s.context)) := by
  have watched := Script.run_watched Journal.enter (x s.rule.state)
    (journal ++ [.called hook]) s.context
  unfold attempt
  rw [show (x.noted hook (s.noting journal).rule.state).run (s.noting journal).context = _ from
    watched]
  rcases (x s.rule.state).run s.context with ⟨_ | _, state, context⟩
  · rfl
  · rfl

theorem scanFile_noting (s : Session σ) (journal : Journal) :
    (s.noting journal).scanFile input =
      (s.scanFile input).noting
        (journal.call .scanFile
          ((s.rule.behavior.scanFile input s.rule.state).acts s.context)) := by
  have noted : (s.noting journal).rule.behavior.scanFile input =
      (s.rule.behavior.scanFile input).noted .scanFile := by
    change s.rule.behavior.noted.scanFile input = _
    cases s.rule.behavior with
    | recursive scanFile => rfl
    | subscription hooks => rfl
  rw [scanFile, noted, attempt_noting]
  rfl

@[simp] private theorem subscriber?_noting (s : Session σ) (journal : Journal) :
    (s.noting journal).rule.behavior.subscriber? =
      s.rule.behavior.subscriber?.map Subscriber.noted := by
  change s.rule.behavior.noted.subscriber? = _
  cases s.rule.behavior with
  | recursive scanFile => rfl
  | subscription hooks => rfl

theorem recursive_noting {s : Session σ} (walks : s.rule.behavior.subscriber? = none)
    (journal : Journal) : (s.noting journal).rule.behavior.subscriber? = none := by
  rw [subscriber?_noting, walks, Option.map_none]

theorem subscribes_noting {s : Session σ} {hooks : Subscriber σ}
    (subscribes : s.rule.behavior.subscriber? = some hooks) (journal : Journal) :
    (s.noting journal).rule.behavior.subscriber? = some hooks.noted := by
  rw [subscriber?_noting, subscribes, Option.map_some]

theorem subscribe_noting {s : Session σ} {hooks : Subscriber σ} (fine : s.failure? = none)
    (subscribes : s.rule.behavior.subscriber? = some hooks) (journal : Journal) :
    (s.noting journal).subscribe =
      (s.subscribe.1, s.subscribe.2.noting
        (journal.call .nodesToVisit (hooks.actsOfAsking s.rule.state))) := by
  have noted := subscribes_noting subscribes journal
  have stillFine : (s.noting journal).failure? = none := fine
  have asked : hooks.noted.kinds (s.noting journal).rule.state = hooks.kinds s.rule.state := rfl
  simp only [subscribe, fine, subscribes, stillFine, noted, asked]
  cases hooks.kinds s.rule.state with
  | ok kinds => rfl
  | error failure => rfl

theorem visit_noting {s : Session σ} {hooks : Subscriber σ}
    (subscribes : s.rule.behavior.subscriber? = some hooks) (at_ : Step input.tree)
    (journal : Journal) :
    (s.noting journal).visit input at_.1 at_.2 =
      (s.visit input at_.1 at_.2).noting
        (journal.call (.visit at_.1 at_.2)
          ((hooks.visit input at_ s.rule.state).acts s.context)) := by
  rw [visit_of_subscription (subscribes_noting subscribes journal),
    visit_of_subscription subscribes, Subscriber.visit_noted]
  exact attempt_noting s (hooks.visit input at_) _ journal

theorem leaveFile_noting {s : Session σ} {hooks : Subscriber σ} (fine : s.failure? = none)
    (subscribes : s.rule.behavior.subscriber? = some hooks) (journal : Journal) :
    (s.noting journal).leaveFile input =
      (s.leaveFile input).noting
        (journal.call .leaveFile ((hooks.leaveFile input s.rule.state).acts s.context)) := by
  have stillFine : (s.noting journal).failure? = none := fine
  rw [leaveFile_of_subscription stillFine (subscribes_noting subscribes journal),
    leaveFile_of_subscription fine subscribes]
  exact attempt_noting s (hooks.leaveFile input) _ journal

end Noting

end Session

def Note.act? : Note → Option Script.Act
  | called _ => none
  | did act => some act

namespace Journal

def acts (journal : Journal) : List Script.Act := journal.filterMap Note.act?

def rejections (journal : Journal) : List Rejection :=
  journal.acts.filterMap Script.Act.rejection?

def accepted (journal : Journal) : List Report := journal.acts.filterMap Script.Act.accepted?

def failures (journal : Journal) : List Failure := journal.acts.filterMap Script.Act.failure?

def KeepsContext (journal : Journal) : Prop := Script.Act.KeepContext journal.acts

@[simp] theorem acts_call (journal : Journal) (hook : Hook) (acts : List Script.Act) :
    (journal.call hook acts).acts = journal.acts ++ acts := by
  have unpacked : (acts.map Note.did).filterMap Note.act? = acts := by
    rw [List.filterMap_map]
    exact List.filterMap_some
  rw [call_eq, Journal.acts, List.filterMap_append, List.filterMap_cons_none rfl, unpacked]
  rfl

end Journal

namespace Session

variable {input : FileInput} {rule : Rule σ}

/-- What a call of one of the rule's hooks comes to. -/
structure Acted (s : Session σ) (acts : List Script.Act) (after : Session σ) : Prop where
  metadata : after.rule.metadata = s.rule.metadata
  context : after.context = s.context.recording acts
  failures : acts.filterMap Script.Act.failure? = after.failure?.toList
  answers : s.context.Answers acts

theorem acted_attempt {s : Session σ} (fine : s.failure? = none) (x : Scan σ Unit) :
    s.Acted ((x s.rule.state).acts s.context) (s.attempt x) := by
  have context := (x s.rule.state).context_run s.context
  have failures := (x s.rule.state).failures_acts s.context
  have answers := (x s.rule.state).answers_acts s.context
  unfold attempt
  cases ended : (x s.rule.state).run s.context with
  | mk result left =>
      rw [ended] at context failures
      cases result with
      | error failure => exact ⟨rfl, context, failures, answers⟩
      | ok value =>
          refine ⟨rfl, context, ?_, answers⟩
          rw [failures]
          exact congrArg Option.toList fine.symm

@[simp] theorem behavior_attempt (s : Session σ) (x : Scan σ Unit) :
    (s.attempt x).rule.behavior = s.rule.behavior := by
  unfold attempt
  split <;> rfl

@[simp] theorem behavior_subscribe (s : Session σ) :
    s.subscribe.2.rule.behavior = s.rule.behavior := by
  unfold subscribe
  split
  next => split <;> rfl
  next => rfl

/-- The journal has all that the rule did up to here. -/
structure Faithful (input : FileInput) (rule : Rule σ) (s : Session σ) (journal : Journal) :
    Prop where
  metadata : s.rule.metadata = rule.metadata
  behavior : s.rule.behavior = rule.behavior
  keeps : rule.behavior.KeepsContext → journal.KeepsContext
  context : s.context = (start input rule).context.recording journal.acts
  failures : journal.failures = s.failure?.toList
  answers : (start input rule).context.Answers journal.acts

theorem faithful_start (input : FileInput) (rule : Rule σ) :
    Faithful input rule (start input rule) [] where
  metadata := rfl
  behavior := rfl
  keeps := fun _ => Script.Act.keepContext_nil
  context := rfl
  failures := rfl
  answers := trivial

theorem Faithful.call {s after : Session σ} {journal : Journal} {acts : List Script.Act}
    (known : Faithful input rule s journal) (fine : s.failure? = none)
    (acted : s.Acted acts after) (behaves : after.rule.behavior = s.rule.behavior)
    (keeps : s.rule.behavior.KeepsContext → Script.Act.KeepContext acts) (hook : Hook) :
    Faithful input rule after (journal.call hook acts) where
  metadata := acted.metadata.trans known.metadata
  behavior := behaves.trans known.behavior
  keeps := by
    intro own
    rw [Journal.KeepsContext, Journal.acts_call]
    exact (known.keeps own).append (keeps (known.behavior ▸ own))
  context := by
    rw [acted.context, known.context, Journal.acts_call, Context.recording_append]
  failures := by
    have none : journal.acts.filterMap Script.Act.failure? = [] := by
      rw [← Journal.failures, known.failures, fine]
      rfl
    rw [Journal.failures, Journal.acts_call, List.filterMap_append, none, acted.failures,
      List.nil_append]
  answers := by
    rw [Journal.acts_call]
    exact Context.answers_append.2 ⟨known.answers, known.context ▸ acted.answers⟩

theorem acted_subscribe {s : Session σ} {hooks : Subscriber σ} (fine : s.failure? = none)
    (subscribes : s.rule.behavior.subscriber? = some hooks) :
    s.Acted (hooks.actsOfAsking s.rule.state) s.subscribe.2 := by
  cases asked : hooks.kinds s.rule.state with
  | ok kinds =>
      simp only [subscribe, fine, subscribes, Subscriber.actsOfAsking, asked]
      exact ⟨rfl, rfl, rfl, trivial⟩
  | error failure =>
      simp only [subscribe, fine, subscribes, Subscriber.actsOfAsking, asked]
      exact ⟨rfl, (s.context.recording_failed failure).symm, rfl, nofun, trivial⟩

/-- A session that takes notes goes along with the session that does not. -/
def Noted (input : FileInput) (rule : Rule σ) (noted : Session (σ × Journal))
    (s : Session σ) : Prop :=
  ∃ journal, noted = s.noting journal ∧ Faithful input rule s journal

namespace Noted

variable {noted : Session (σ × Journal)} {s : Session σ}

theorem isOut_eq (known : Noted input rule noted s) : noted.isOut = s.isOut := by
  obtain ⟨journal, rfl, _⟩ := known
  rfl

theorem scanFile (known : Noted input rule noted s) (fine : s.failure? = none) :
    Noted input rule (noted.scanFile input) (s.scanFile input) := by
  obtain ⟨journal, rfl, faithful⟩ := known
  exact ⟨_, scanFile_noting s journal, faithful.call fine (acted_attempt fine _)
    (behavior_attempt s _) (fun own => own.scanFile input _ _) _⟩

theorem subscribe (known : Noted input rule noted s) :
    noted.subscribe.1 = s.subscribe.1 ∧ Noted input rule noted.subscribe.2 s.subscribe.2 := by
  obtain ⟨journal, rfl, faithful⟩ := known
  cases fine : s.failure? with
  | some failure =>
      have failed : (s.noting journal).failure? = some failure := fine
      rw [subscribe_of_failure fine, subscribe_of_failure failed]
      exact ⟨rfl, journal, rfl, faithful⟩
  | none =>
      cases subscribes : s.rule.behavior.subscriber? with
      | none =>
          rw [subscribe_of_recursive subscribes,
            subscribe_of_recursive (recursive_noting subscribes journal)]
          exact ⟨rfl, journal, rfl, faithful⟩
      | some hooks =>
          rw [subscribe_noting fine subscribes]
          exact ⟨rfl, _, rfl, faithful.call fine (acted_subscribe fine subscribes)
            (behavior_subscribe s) (fun _ => hooks.keepContext_actsOfAsking _) _⟩

theorem step (known : Noted input rule noted s) (at_ : Step input.tree) :
    Noted input rule (noted.step at_) (s.step at_) := by
  by_cases out : s.isOut
  · rwa [step_of_isOut out, step_of_isOut (known.isOut_eq.trans out)]
  · have fine := failure?_of_not_isOut out
    have notedIn : ¬ noted.isOut := by rwa [known.isOut_eq]
    rw [Session.step, Session.step, if_neg out, if_neg notedIn]
    obtain ⟨journal, rfl, faithful⟩ := known
    cases subscribes : s.rule.behavior.subscriber? with
    | none =>
        rw [visit_of_recursive subscribes,
          visit_of_recursive (recursive_noting subscribes journal)]
        exact ⟨journal, rfl, faithful⟩
    | some hooks =>
        rw [visit_noting subscribes, visit_of_subscription subscribes]
        exact ⟨_, rfl, faithful.call fine (acted_attempt fine _) (behavior_attempt s _)
          (fun own => (own.subscriber subscribes).visit input at_ _ _) _⟩

theorem walkAlone (known : Noted input rule noted s) :
    Noted input rule (walkAlone input noted) (walkAlone input s) := by
  have walked (steps : List (Step input.tree)) {noted s} (known : Noted input rule noted s) :
      Noted input rule (steps.foldl Session.step noted) (steps.foldl Session.step s) := by
    induction steps generalizing noted s with
    | nil => exact known
    | cons at_ rest ih => exact ih (known.step at_)
  obtain ⟨sameKinds, subscribed⟩ := known.subscribe
  rw [Session.walkAlone, Session.walkAlone, sameKinds]
  exact walked _ subscribed

theorem leaveFile (known : Noted input rule noted s) :
    Noted input rule (noted.leaveFile input) (s.leaveFile input) := by
  obtain ⟨journal, rfl, faithful⟩ := known
  cases fine : s.failure? with
  | some failure =>
      have failed : (s.noting journal).failure? = some failure := fine
      rw [leaveFile_of_failure fine, leaveFile_of_failure failed]
      exact ⟨journal, rfl, faithful⟩
  | none =>
      cases subscribes : s.rule.behavior.subscriber? with
      | none =>
          rw [leaveFile_of_recursive subscribes,
            leaveFile_of_recursive (recursive_noting subscribes journal)]
          exact ⟨journal, rfl, faithful⟩
      | some hooks =>
          rw [leaveFile_noting fine subscribes, leaveFile_of_subscription fine subscribes]
          exact ⟨_, rfl, faithful.call fine (acted_attempt fine _) (behavior_attempt s _)
            (fun own => (own.subscriber subscribes).leaveFile input _ _) _⟩

end Noted

theorem noted_alone (input : FileInput) (rule : Rule σ) :
    Noted input rule (alone input rule.noted) (alone input rule) := by
  have started : Noted input rule (start input rule.noted) (start input rule) :=
    ⟨[], start_noted input rule, faithful_start input rule⟩
  exact (started.scanFile rfl).walkAlone.leaveFile

end Session

/-- The journal that the rule would keep of its run on a file. -/
def Rule.journal (input : FileInput) (rule : Rule σ) : Journal :=
  (Session.alone input rule.noted).rule.state.2

namespace Session

theorem alone_noted (input : FileInput) (rule : Rule σ) :
    alone input rule.noted = (alone input rule).noting (rule.journal input) ∧
      Faithful input rule (alone input rule) (rule.journal input) := by
  obtain ⟨journal, same, faithful⟩ := noted_alone input rule
  have written : rule.journal input = journal := congrArg (·.rule.state.2) same
  rw [written]
  exact ⟨same, faithful⟩

@[simp] theorem key_alone (input : FileInput) (rule : Rule σ) :
    (alone input rule).rule.key = rule.key :=
  congrArg Metadata.key (alone_noted input rule).2.metadata

end Session

theorem Rule.keepsContext_journal (input : FileInput) {rule : Rule σ}
    (keeps : rule.behavior.KeepsContext) : (rule.journal input).KeepsContext :=
  (Session.alone_noted input rule).2.keeps keeps

end TreeLint

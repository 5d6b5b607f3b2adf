import TreeLint.Proofs.Outcome

/-! The order in which the hooks of a subscribing rule are called on a file. -/

namespace TreeLint

open Traversal

def Hook.inWalk : Hook → Bool
  | visit .. => true
  | scanFile | nodesToVisit | leaveFile => false

structure HookCall where
  hook : Hook
  acts : List Script.Act

namespace HookCall

def notes (c : HookCall) : Journal := .called c.hook :: c.acts.map .did

def Fails (c : HookCall) : Prop := ∃ failure, .failed failure ∈ c.acts

/-- A report made during the call is refused, whatever the hook makes of it. -/
def IsRefused (c : HookCall) : Prop := ∃ r rejection, .reported r (.error rejection) ∈ c.acts

/-- The call leaves the rule a context with a refused report. -/
def LeavesRefusal (c : HookCall) : Prop := Script.Act.LeaveRefusal c.acts

end HookCall

theorem Journal.acts_flatMap_notes (calls : List HookCall) :
    Journal.acts (calls.flatMap HookCall.notes) = calls.flatMap (·.acts) := by
  induction calls with
  | nil => rfl
  | cons c rest ih =>
      rw [List.flatMap_cons, List.flatMap_cons, ← ih, HookCall.notes, Journal.acts,
        List.filterMap_append, List.filterMap_cons_none rfl, List.filterMap_map]
      exact congrArg (· ++ _) List.filterMap_some

/-- Which of the hooks that are due are called, and how the calls change what is due.  A rule
leaves the walk after some of the calls that do not fail. -/
inductive Follows (Leaves : HookCall → Prop) : List Hook → List HookCall → Prop
  | done : Follows Leaves [] []
  | stops {c : HookCall} {later : List Hook} : c.Fails → Follows Leaves (c.hook :: later) [c]
  | leavesWalk {c : HookCall} {later : List Hook} {rest : List HookCall} :
      ¬ c.Fails → Leaves c → Follows Leaves (later.filter (!·.inWalk)) rest →
        Follows Leaves (c.hook :: later) (c :: rest)
  | goesOn {c : HookCall} {later : List Hook} {rest : List HookCall} :
      ¬ c.Fails → ¬ Leaves c → Follows Leaves later rest →
        Follows Leaves (c.hook :: later) (c :: rest)

theorem Follows.congr {Leaves Leaves' : HookCall → Prop} {due : List Hook}
    {calls : List HookCall} (follows : Follows Leaves due calls)
    (same : ∀ c ∈ calls, Leaves c ↔ Leaves' c) : Follows Leaves' due calls := by
  induction follows with
  | done => exact .done
  | stops fails => exact .stops fails
  | leavesWalk unfailing leaves _ ih =>
      obtain ⟨here, later⟩ := List.forall_mem_cons.1 same
      exact .leavesWalk unfailing (here.1 leaves) (ih later)
  | goesOn unfailing stays _ ih =>
      obtain ⟨here, later⟩ := List.forall_mem_cons.1 same
      exact .goesOn unfailing (mt here.2 stays) (ih later)

namespace Session

variable {input : FileInput} {s after : Session σ}

def due (s : Session σ) (later : List Hook) : List Hook :=
  match s.failure?, s.context.sink.violation? with
  | some _, _ => []
  | none, some _ => later.filter (!·.inWalk)
  | none, none => later

theorem due_of_failure (failed : s.failure?.isSome) (later : List Hook) : s.due later = [] := by
  obtain ⟨failure, failed⟩ := Option.isSome_iff_exists.1 failed
  simp only [due, failed]

theorem due_of_violation (fine : s.failure? = none) (violated : s.context.sink.violation?.isSome)
    (later : List Hook) : s.due later = later.filter (!·.inWalk) := by
  obtain ⟨violation, violated⟩ := Option.isSome_iff_exists.1 violated
  simp only [due, fine, violated]

theorem due_of_none (fine : s.failure? = none) (lawful : s.context.sink.violation? = none)
    (later : List Hook) : s.due later = later := by
  simp only [due, fine, lawful]

@[simp] theorem due_nil (s : Session σ) : s.due [] = [] := by
  unfold due
  split <;> rfl

theorem due_cons_of_isOut (out : s.isOut) {hook : Hook} (inWalk : hook.inWalk)
    (later : List Hook) : s.due (hook :: later) = s.due later := by
  cases fine : s.failure? with
  | some failure =>
      have failed : s.failure?.isSome := Option.isSome_of_eq_some fine
      rw [due_of_failure failed, due_of_failure failed]
  | none =>
      have violated : s.context.sink.violation?.isSome := by simpa [isOut, fine] using out
      rw [due_of_violation fine violated, due_of_violation fine violated,
        List.filter_cons_of_neg (by rw [inWalk]; exact Bool.false_ne_true)]

theorem due_cons_of_called (fine : s.failure? = none) {hook : Hook}
    (called : s.isOut → ¬ hook.inWalk) (later : List Hook) :
    s.due (hook :: later) = hook :: s.due later := by
  cases violated : s.context.sink.violation? with
  | none => rw [due_of_none fine violated, due_of_none fine violated]
  | some violation =>
      have out : s.isOut := by simp [isOut, violated]
      have violated : s.context.sink.violation?.isSome := Option.isSome_of_eq_some violated
      rw [due_of_violation fine violated, due_of_violation fine violated,
        List.filter_cons_of_pos (by simpa using called out)]

theorem filter_due (fine : s.failure? = none) (later : List Hook) :
    (s.due later).filter (!·.inWalk) = later.filter (!·.inWalk) := by
  simp only [due, fine]
  split
  next => contradiction
  next => rw [List.filter_filter]; simp only [Bool.and_self]
  next => rfl

theorem due_eq_of_same (fine : s.failure? = none) (stillFine : after.failure? = none)
    (same : after.context.sink.violation?.isSome ↔ s.context.sink.violation?.isSome)
    (later : List Hook) : after.due later = s.due later := by
  by_cases violated : s.context.sink.violation?.isSome
  · rw [due_of_violation fine violated, due_of_violation stillFine (same.2 violated)]
  · rw [due_of_none fine (Option.not_isSome_iff_eq_none.1 violated),
      due_of_none stillFine (Option.not_isSome_iff_eq_none.1 (mt same.1 violated))]

namespace Acted

variable {hook : Hook} {acts : List Script.Act}

theorem fails_iff (acted : s.Acted acts after) :
    HookCall.Fails ⟨hook, acts⟩ ↔ after.failure?.isSome := by
  have some_iff : after.failure?.isSome ↔ after.failure?.toList ≠ [] := by
    cases after.failure? with
    | none => simp
    | some failure => simp
  rw [some_iff, ← acted.failures]
  simp only [HookCall.Fails, ne_eq, List.filterMap_eq_nil_iff, not_forall]
  constructor
  · rintro ⟨failure, member⟩
    exact ⟨.failed failure, member, nofun⟩
  · rintro ⟨act, member, failing⟩
    cases act with
    | reported r answer => exact absurd rfl failing
    | renewed input rule severity => exact absurd rfl failing
    | failed failure => exact ⟨failure, member⟩

/-- A call of the hook that comes next, and after it whatever is still due.  Who has left the walk
has nothing to come back to, since only the last hook could still put a new context in place. -/
theorem follows {later : List Hook} {rest : List HookCall} (acted : s.Acted acts after)
    (fine : s.failure? = none) (called : s.isOut → ¬ hook.inWalk)
    (last : s.context.sink.violation?.isSome → Script.Act.KeepContext acts ∨ later = [])
    (next : Follows HookCall.LeavesRefusal (after.due later) rest) :
    Follows HookCall.LeavesRefusal (s.due (hook :: later)) (⟨hook, acts⟩ :: rest) := by
  rw [due_cons_of_called fine called]
  by_cases fails : HookCall.Fails ⟨hook, acts⟩
  · rw [due_of_failure (acted.fails_iff.1 fails)] at next
    cases next
    exact .stops fails
  · have stillFine : after.failure? = none :=
      Option.not_isSome_iff_eq_none.1 fun failed => fails (acted.fails_iff.2 failed)
    have violated_iff : after.context.sink.violation?.isSome ↔
        HookCall.LeavesRefusal ⟨hook, acts⟩ ∨
          Script.Act.KeepContext acts ∧ s.context.sink.violation?.isSome := by
      rw [acted.context]
      exact Context.violation?_recording
    by_cases refused : HookCall.LeavesRefusal ⟨hook, acts⟩
    · rw [due_of_violation stillFine (violated_iff.2 (.inl refused)),
        ← filter_due fine later] at next
      exact .leavesWalk fails refused next
    · refine .goesOn fails refused ?_
      rw [or_iff_right refused] at violated_iff
      by_cases done : later = []
      · subst done
        rwa [due_nil] at next ⊢
      · have same : after.context.sink.violation?.isSome ↔ s.context.sink.violation?.isSome :=
          violated_iff.trans
            ⟨And.right, fun violated => ⟨(last violated).resolve_right done, violated⟩⟩
        rwa [due_eq_of_same fine stillFine same] at next

end Acted

/-- The session goes through its hooks to an end, and the one that takes notes enters the calls
behind the journal that it has. -/
def GoesThrough (s : Session σ) (later : List Hook) (journal : Journal) (ended : Session σ)
    (noted : Session (σ × Journal)) : Prop :=
  ∃ calls : List HookCall,
    noted = ended.noting (journal ++ calls.flatMap HookCall.notes) ∧
      Follows HookCall.LeavesRefusal (s.due later) calls

namespace GoesThrough

variable {later : List Hook} {journal : Journal} {ended : Session σ}
  {noted : Session (σ × Journal)}

theorem of_due_eq_nil (nothing : s.due later = []) :
    s.GoesThrough later journal s (s.noting journal) := by
  refine ⟨[], ?_, nothing ▸ .done⟩
  rw [List.flatMap_nil, List.append_nil]

theorem call {hook : Hook} {acts : List Script.Act} (fine : s.failure? = none)
    (called : s.isOut → ¬ hook.inWalk) (acted : s.Acted acts after)
    (last : s.context.sink.violation?.isSome → Script.Act.KeepContext acts ∨ later = [])
    (next : after.GoesThrough later (journal.call hook acts) ended noted) :
    s.GoesThrough (hook :: later) journal ended noted := by
  obtain ⟨calls, written, follows⟩ := next
  refine ⟨⟨hook, acts⟩ :: calls, ?_, acted.follows fine called last follows⟩
  rw [written, Journal.call_eq, List.flatMap_cons, List.append_assoc]
  rfl

end GoesThrough

section Noting

variable {hooks : Subscriber σ}

theorem goesThrough_leaveFile (subscribes : s.rule.behavior.subscriber? = some hooks)
    (journal : Journal) :
    s.GoesThrough [.leaveFile] journal (s.leaveFile input)
      ((s.noting journal).leaveFile input) := by
  cases fine : s.failure? with
  | some failure =>
      have failed : (s.noting journal).failure? = some failure := fine
      rw [leaveFile_of_failure fine, leaveFile_of_failure failed]
      exact .of_due_eq_nil (due_of_failure (Option.isSome_of_eq_some fine) _)
  | none =>
      rw [leaveFile_noting fine subscribes, leaveFile_of_subscription fine subscribes]
      exact .call fine (fun _ => Bool.false_ne_true) (acted_attempt fine _) (fun _ => .inr rfl)
        (.of_due_eq_nil (due_nil _))

theorem goesThrough_walk (steps : List (Step input.tree))
    (subscribes : s.rule.behavior.subscriber? = some hooks) (journal : Journal) :
    s.GoesThrough (steps.map (fun (event, n) => .visit event n) ++ [.leaveFile]) journal
      ((steps.foldl step s).leaveFile input)
      ((steps.foldl step (s.noting journal)).leaveFile input) := by
  induction steps generalizing s journal with
  | nil => exact goesThrough_leaveFile subscribes journal
  | cons at_ rest ih =>
      rw [List.map_cons, List.cons_append, List.foldl_cons, List.foldl_cons]
      -- Who is out stays out, so this call and all later ones from the walk are skipped.
      by_cases out : s.isOut
      · have notedOut : (s.noting journal).isOut := out
        rw [step_of_isOut out, step_of_isOut notedOut, GoesThrough, due_cons_of_isOut out rfl]
        exact ih subscribes journal
      · have fine := failure?_of_not_isOut out
        have notedIn : ¬ (s.noting journal).isOut := out
        rw [step, step, if_neg out, if_neg notedIn, visit_noting subscribes,
          visit_of_subscription subscribes]
        have stillSubscribes :
            (s.attempt (hooks.visit input at_)).rule.behavior.subscriber? = some hooks := by
          rw [behavior_attempt, subscribes]
        exact .call fine (fun gone => absurd gone out) (acted_attempt fine _)
          (fun violated => absurd (by rw [isOut, violated, Bool.or_true]) out)
          (ih stillSubscribes _)

end Noting

end Session

/-- The sides of nodes that a rule is called for if it stays to the end of the walk. -/
def FileInput.walkHooks (input : FileInput) (kinds : List Kind) : List Hook :=
  ((fullLog input.tree.root).filter fun (_, n) => kinds.contains n.kind).map
    fun (event, n) => .visit event n

/-- All the hooks of a rule in the order in which they are due on a file. -/
def FileInput.schedule (input : FileInput) (kinds : List Kind) : List Hook :=
  .scanFile :: .nodesToVisit :: (input.walkHooks kinds ++ [.leaveFile])

def Rule.kinds (input : FileInput) (rule : Rule σ) (hooks : Subscriber σ) : List Kind :=
  (hooks.kinds ((Session.start input rule).scanFile input).rule.state).toOption.getD []

/-- The journal has the calls that follow from the rule's schedule, if it shares a walk.  A rule
that keeps its context leaves the walk with the first refused report; in general a refused report
counts unless the same call puts a new context in place afterwards. -/
def Rule.KeepsSchedule (input : FileInput) (rule : Rule σ) (journal : Journal) : Prop :=
  ∀ hooks, rule.behavior = .subscription hooks →
    ∃ calls : List HookCall,
      journal = calls.flatMap HookCall.notes ∧
        Follows HookCall.LeavesRefusal (input.schedule (rule.kinds input hooks)) calls ∧
        (journal.KeepsContext →
          Follows HookCall.IsRefused (input.schedule (rule.kinds input hooks)) calls)

namespace Session

variable {input : FileInput} {s : Session σ} {hooks : Subscriber σ}

theorem kinds_subscribe (fine : s.failure? = none)
    (subscribes : s.rule.behavior.subscriber? = some hooks) :
    s.subscribe.1 = (hooks.kinds s.rule.state).toOption.getD [] := by
  simp only [subscribe, fine, subscribes]
  cases hooks.kinds s.rule.state with
  | ok kinds => rfl
  | error failure => rfl

theorem goesThrough_walkAlone (subscribes : s.rule.behavior.subscriber? = some hooks)
    (journal : Journal) :
    s.GoesThrough
      (.nodesToVisit ::
        (input.walkHooks ((hooks.kinds s.rule.state).toOption.getD []) ++ [.leaveFile]))
      journal ((walkAlone input s).leaveFile input)
      ((walkAlone input (s.noting journal)).leaveFile input) := by
  cases fine : s.failure? with
  | some failure =>
      have failed : (s.noting journal).failure? = some failure := fine
      rw [walkAlone_of_unsubscribed (subscribe_of_failure fine),
        walkAlone_of_unsubscribed (subscribe_of_failure failed), leaveFile_of_failure fine,
        leaveFile_of_failure failed]
      exact .of_due_eq_nil (due_of_failure (Option.isSome_of_eq_some fine) _)
  | none =>
      have stillSubscribes : s.subscribe.2.rule.behavior.subscriber? = some hooks := by
        rw [behavior_subscribe, subscribes]
      rw [← kinds_subscribe fine subscribes, walkAlone, walkAlone,
        subscribe_noting fine subscribes]
      exact .call fine (fun _ => Bool.false_ne_true) (acted_subscribe fine subscribes)
        (fun _ => .inl (hooks.keepContext_actsOfAsking _)) (goesThrough_walk _ stillSubscribes _)

theorem goesThrough_alone (input : FileInput) {rule : Rule σ}
    (subscribes : rule.behavior = .subscription hooks) :
    (start input rule).GoesThrough (input.schedule (rule.kinds input hooks)) []
      (alone input rule) (alone input rule.noted) := by
  have scanned : ((start input rule).scanFile input).rule.behavior.subscriber? = some hooks := by
    rw [scanFile, behavior_attempt]
    exact congrArg Behavior.subscriber? subscribes
  rw [alone, alone, start_noted, scanFile_noting]
  exact .call rfl (fun _ => Bool.false_ne_true) (acted_attempt rfl _)
    (fun violated => absurd violated Bool.false_ne_true) (goesThrough_walkAlone scanned _)

end Session

theorem keepsSchedule_journal (input : FileInput) (rule : Rule σ) :
    rule.KeepsSchedule input (rule.journal input) := by
  intro hooks subscribes
  obtain ⟨calls, noted, follows⟩ := Session.goesThrough_alone input subscribes
  have written : rule.journal input = calls.flatMap HookCall.notes := by
    rw [Rule.journal, noted]
    rfl
  refine ⟨calls, written, follows, fun kept => follows.congr fun c member => ?_⟩
  exact Script.Act.leaveRefusal_of_keepContext fun act acted => kept act (by
    rw [written, Journal.acts_flatMap_notes]
    exact List.mem_flatMap.2 ⟨c, member, acted⟩)

theorem runFile_noted {input : FileInput} {rules : List (Rule σ)}
    (checked : input.check rules = .ok ()) :
    runFile input (rules.map Rule.noted) =
      .ok (report input (rules.map (Session.alone input)),
        (rules.map (Rule.ending input)).map fun (rule, journal) => rule.noting journal) := by
  have ended (rule : Rule σ) : (Session.alone input rule.noted).rule =
      (Session.alone input rule).rule.noting (rule.journal input) :=
    congrArg Session.rule (Session.alone_noted input rule).1
  rw [runFile_of_check (check_noted checked), report_noted, List.map_map, List.map_map]
  simp only [Function.comp_def, ended, Rule.ending]

end TreeLint

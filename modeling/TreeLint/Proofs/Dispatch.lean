import Mathlib.Data.List.GetD
import Mathlib.Data.List.Induction
import TreeLint.Proofs.Walk
import TreeLint.Traversal.Subscription

/-! A shared walk makes the calls of a full walk that are subscribed to, less those to subscribers
that have detached. -/

namespace TreeLint.Traversal

variable {t : Tree}

def recorder : Visitor t (StateM (List (Step t))) where
  enter n := do
    modify (· ++ [(.enter, n)])
    return .children
  leave n := modify (· ++ [(.leave, n)])

/-- What a walk that skips nothing calls. -/
def fullLog (n : t.Node) : List (Step t) := ((walk recorder n).run []).2

private theorem run_forM_recorder {ns : List t.Node}
    (single : ∀ c ∈ ns, ∀ log, (visit recorder c).run log = ((), log ++ fullLog c))
    (log : List (Step t)) :
    (ns.forM (visit recorder)).run log = ((), log ++ ns.flatMap fullLog) := by
  induction ns generalizing log with
  | nil => exact congrArg (Prod.mk ()) (List.append_nil log).symm
  | cons c ns ih =>
      have tail := ih (fun d member => single d (List.mem_cons_of_mem c member))
        (log ++ fullLog c)
      rw [List.flatMap_cons, ← List.append_assoc, ← tail]
      change (ns.forM (visit recorder)).run ((visit recorder c).run log).2 = _
      rw [single c (List.mem_cons_self ..)]

private theorem run_visit_recorder (n : t.Node) (log : List (Step t)) :
    (visit recorder n).run log =
      ((), log ++ ((.enter, n) :: n.children.flatMap fullLog ++ [(.leave, n)])) := by
  induction n using Tree.Node.induction_below generalizing log with
  | step n ih =>
      have single : ∀ c ∈ n.children, ∀ log : List (Step t),
          (visit recorder c).run log = ((), log ++ fullLog c) := by
        intro c member log
        rw [ih c member, fullLog, walk_eq_visit, ih c member, List.nil_append]
      have below := run_forM_recorder single (log ++ [(.enter, n)])
      rw [visit_eq]
      change ((), ((n.children.forM (visit recorder)).run (log ++ [(.enter, n)])).2 ++
        [(.leave, n)]) = _
      rw [below]
      simp only [List.append_assoc, List.cons_append, List.nil_append]

theorem fullLog_eq (n : t.Node) :
    fullLog n = (.enter, n) :: n.children.flatMap fullLog ++ [(.leave, n)] := by
  rw [fullLog, walk_eq_visit, run_visit_recorder, List.nil_append]

section Thorough

variable {v : Visitor t (Scan σ)}

private theorem each_thorough {f : t.Node → σ → Context → Course t σ Unit} {ns : List t.Node}
    (single : ∀ c ∈ ns, ∀ state context,
      (f c state context).calls = fullLog c ∧ (f c state context).result = .ok ())
    (state : σ) (context : Context) :
    (Course.each f ns state context).calls = ns.flatMap fullLog ∧
      (Course.each f ns state context).result = .ok () := by
  induction ns generalizing state context with
  | nil => exact ⟨rfl, rfl⟩
  | cons c ns ih =>
      obtain ⟨calls, succeeds⟩ := single c (List.mem_cons_self ..) state context
      have tail := ih (fun d member => single d (List.mem_cons_of_mem c member))
        (f c state context).state (f c state context).context
      simp only [Course.each, Course.andThen, calls, succeeds, tail, List.flatMap_cons,
        and_self]

theorem calls_course_of_thorough
    (descends : ∀ n state context, ((v.enter n state).run context).1 = .ok .children)
    (leaves : ∀ n state context, ((v.leave n state).run context).1 = .ok ())
    (n : t.Node) (state : σ) (context : Context) :
    (course v n state context).calls = fullLog n ∧ (course v n state context).result = .ok () := by
  induction n using Tree.Node.induction_below generalizing state context with
  | step n ih =>
      obtain ⟨below, succeeds⟩ := each_thorough ih
        (Course.ofCall (.enter, n) (v.enter n) state context).state
        (Course.ofCall (.enter, n) (v.enter n) state context).context
      have entered : (Course.ofCall (.enter, n) (v.enter n) state context).result = .ok .children :=
        descends n state context
      rw [course_eq, fullLog_eq]
      simp only [Course.andThen, entered, succeeds, below]
      exact ⟨rfl, leaves ..⟩

end Thorough

structure Call (t : Tree) where
  event : Event
  subscriber : Nat
  node : t.Node

namespace Roster

private def enlist (subscriber : Nat) (subscribers : List Nat) : List Nat :=
  if subscribers.getLast? = some subscriber then subscribers else subscribers ++ [subscriber]

@[simp] private theorem enlist_enlist (i : Nat) (subscribers : List Nat) :
    enlist i (enlist i subscribers) = enlist i subscribers := by
  by_cases last : subscribers.getLast? = some i
  · simp only [enlist, last, if_true]
  · simp only [enlist, last, if_false, List.getLast?_concat, if_true]

@[simp] private theorem lookup_cons (kind first : Kind) (subscribers : List Nat)
    (entries : List (Kind × List Nat)) :
    ((first, subscribers) :: entries).lookup kind =
      if kind = first then some subscribers else entries.lookup kind := by
  by_cases same : kind = first
  · subst same
    rw [List.lookup_cons_self, if_pos rfl]
  · rw [List.lookup_cons, beq_false_of_ne same, if_neg same]

private theorem lookup_register (i : Nat) (entries : List (Kind × List Nat)) (kind k : Kind) :
    ((register i entries k).lookup kind).getD [] =
      if kind = k then enlist i ((entries.lookup kind).getD [])
      else (entries.lookup kind).getD [] := by
  induction entries with
  | nil =>
      rw [register, lookup_cons]
      split <;> rfl
  | cons entry entries ih =>
      obtain ⟨first, subscribers⟩ := entry
      have registered : register i ((first, subscribers) :: entries) k =
          if first = k then (first, enlist i subscribers) :: entries
          else (first, subscribers) :: register i entries k := by
        simp only [register, enlist]
        split <;> [split <;> rfl; rfl]
      rw [registered, lookup_cons]
      by_cases atFirst : first = k
      · subst atFirst
        rw [if_pos rfl, lookup_cons]
        split <;> rfl
      · rw [if_neg atFirst, lookup_cons]
        by_cases same : kind = first
        · subst same
          simp only [if_true, if_neg atFirst]
        · simp only [if_neg same, ih]

private theorem lookup_foldl_register (i : Nat) (kinds : List Kind)
    (entries : List (Kind × List Nat)) (kind : Kind) :
    ((kinds.foldl (register i) entries).lookup kind).getD [] =
      if kind ∈ kinds then enlist i ((entries.lookup kind).getD [])
      else (entries.lookup kind).getD [] := by
  induction kinds generalizing entries with
  | nil => rfl
  | cons k kinds ih =>
      rw [List.foldl_cons, ih, lookup_register]
      by_cases same : kind = k
      · simp only [same, List.mem_cons_self, if_true, enlist_enlist, ite_self]
      · simp only [List.mem_cons, same, false_or, if_false]

end Roster

def interested (subscriptions : List (List Kind)) (kind : Kind) : List Nat :=
  (List.range subscriptions.length).filter fun i => (subscriptions.getD i []).contains kind

@[simp] private theorem interested_concat (subscriptions : List (List Kind)) (kinds : List Kind)
    (kind : Kind) :
    interested (subscriptions ++ [kinds]) kind =
      interested subscriptions kind ++
        if kind ∈ kinds then [subscriptions.length] else [] := by
  have earlier : (List.range subscriptions.length).filter
        (fun i => ((subscriptions ++ [kinds]).getD i []).contains kind) =
      interested subscriptions kind := by
    refine List.filter_congr fun i member => ?_
    rw [List.getD_append _ _ _ _ (List.mem_range.1 member)]
  rw [interested, List.length_append, List.length_singleton, List.range_succ,
    List.filter_append, earlier, List.filter_singleton]
  simp only [List.getD_append_right _ _ _ _ (Nat.le_refl _), Nat.sub_self, List.getD_cons_zero,
    cond_eq_ite, List.contains_iff_mem]

theorem subscribers_ofSubscriptions (subscriptions : List (List Kind)) (kind : Kind) :
    (Roster.ofSubscriptions subscriptions).subscribers kind =
      interested subscriptions kind := by
  induction subscriptions using List.reverseRecOn with
  | nil => rfl
  | append_singleton subscriptions kinds ih =>
      have fresh : (interested subscriptions kind).getLast? ≠ some subscriptions.length := by
        intro last
        have member := List.mem_of_getLast? last
        exact Nat.lt_irrefl _ (List.mem_range.1 (List.mem_filter.1 member).1)
      rw [← ih] at fresh
      simp only [Roster.subscribers, Roster.ofSubscriptions] at ih fresh ⊢
      rw [List.zipIdx_append, List.foldl_append, interested_concat, ← ih]
      simp only [List.zipIdx_singleton, List.foldl_cons, List.foldl_nil, Nat.zero_add]
      rw [Roster.lookup_foldl_register]
      split
      · exact if_neg fresh
      · exact (List.append_nil _).symm

/-- The calls that the steps of a walk stand for, when `who` is called for a kind. -/
def callsOf (who : Kind → List Nat) (steps : List (Step t)) : List (Call t) :=
  steps.flatMap fun (event, n) => (who n.kind).map fun subscriber => ⟨event, subscriber, n⟩

@[simp] theorem callsOf_append (who : Kind → List Nat) (front back : List (Step t)) :
    callsOf who (front ++ back) = callsOf who front ++ callsOf who back :=
  List.flatMap_append

@[simp] theorem callsOf_cons (who : Kind → List Nat) (event : Event) (n : t.Node)
    (rest : List (Step t)) :
    callsOf who ((event, n) :: rest) =
      (who n.kind).map (fun subscriber => ⟨event, subscriber, n⟩) ++ callsOf who rest :=
  rfl

section Serve

variable {m : Type → Type u} [Monad m]

/-- Makes the calls in order, except to subscribers that have detached. -/
def serve (call : Event → Nat → t.Node → m Verdict) (detached : List Nat) :
    List (Call t) → m Unit
  | [] => pure ()
  | c :: rest =>
      if detached.contains c.subscriber then serve call detached rest
      else do
        match ← call c.event c.subscriber c.node with
        | .continue => serve call detached rest
        | .detach => serve call (c.subscriber :: detached) rest

variable [LawfulMonad m]

private theorem serve_notify (call : Event → Nat → t.Node → m Verdict) (event : Event)
    (n : t.Node) (rest : List (Call t)) (detached subscribers : List Nat) :
    serve call detached
        (subscribers.map (fun subscriber => ⟨event, subscriber, n⟩) ++ rest) =
      (do
        let detached ← Roster.notify (fun i => call event i n) detached subscribers
        serve call detached rest) := by
  induction subscribers generalizing detached with
  | nil => exact (pure_bind detached fun detached => serve call detached rest).symm
  | cons i subscribers ih =>
      rw [List.map_cons, List.cons_append, serve, Roster.notify]
      split
      · exact ih detached
      · rw [bind_assoc]
        congr
        funext verdict
        cases verdict with
        | «continue» => exact ih detached
        | detach => exact ih (i :: detached)

private def unfolded (steps : List (Step t)) : List (Step t) :=
  steps.flatMap fun step =>
    match step with
    | (.enter, n) => fullLog n
    | (.leave, n) => [(.leave, n)]

@[simp] private theorem unfolded_enters (ns : List t.Node) (rest : List (Step t)) :
    unfolded (ns.map (fun c => (.enter, c)) ++ rest) = ns.flatMap fullLog ++ unfolded rest := by
  rw [unfolded, List.flatMap_append, List.flatMap_map]
  rfl

private theorem unfolded_enter (n : t.Node) (rest : List (Step t)) :
    unfolded ((.enter, n) :: rest) =
      (.enter, n) :: unfolded (n.children.map (fun c => (.enter, c)) ++ (.leave, n) :: rest) := by
  rw [unfolded_enters]
  change fullLog n ++ unfolded rest = _
  rw [fullLog_eq, List.cons_append, List.cons_append, List.append_assoc]
  rfl

@[simp] private theorem unfolded_leave (n : t.Node) (rest : List (Step t)) :
    unfolded ((.leave, n) :: rest) = (.leave, n) :: unfolded rest :=
  rfl

theorem dispatchSteps_eq_serve (r : Roster) (call : Event → Nat → t.Node → m Verdict)
    (detached : List Nat) (steps : List (Step t)) :
    r.dispatchSteps call detached steps =
      serve call detached (callsOf r.subscribers (unfolded steps)) := by
  induction detached, steps using Roster.dispatchSteps.induct r with
  | case1 detached =>
      rw [Roster.dispatchSteps]
      rfl
  | case2 detached n rest unsubscribed subscribed =>
      rw [Roster.dispatchSteps, unfolded_enter, callsOf_cons, serve_notify]
      congr
      funext detached
      split
      next none =>
        -- The left-out step on leaving stands for no calls.
        rw [unsubscribed detached, unfolded_enters, unfolded_enters, unfolded_leave,
          callsOf_append, callsOf_append, callsOf_cons, List.isEmpty_iff.1 none]
        rfl
      next => exact subscribed detached
  | case3 detached n rest ih =>
      rw [Roster.dispatchSteps, unfolded_leave, callsOf_cons, serve_notify]
      congr
      funext detached
      exact ih detached

private theorem callsOf_nobody {who : Kind → List Nat} (nobody : ∀ kind, who kind = [])
    (steps : List (Step t)) : callsOf who steps = [] := by
  induction steps with
  | nil => rfl
  | cons step rest ih => rw [callsOf_cons, nobody, ih]; rfl

theorem dispatch_eq_serve (subscriptions : List (List Kind)) (n : t.Node)
    (call : Event → Nat → t.Node → m Verdict) :
    (Roster.ofSubscriptions subscriptions).dispatch n call =
      serve call [] (callsOf (interested subscriptions) (fullLog n)) := by
  rw [← funext (subscribers_ofSubscriptions subscriptions), Roster.dispatch]
  split
  next none =>
    have nobody : ∀ kind, (Roster.ofSubscriptions subscriptions).subscribers kind = [] := by
      intro kind
      rw [Roster.subscribers, List.isEmpty_iff.1 none]
      rfl
    rw [callsOf_nobody nobody]
    rfl
  next =>
    rw [dispatchSteps_eq_serve, unfolded, List.flatMap_singleton]

end Serve

section Transcript

variable {S : Type}

/-- The callback with a transcript of its calls and answers beside its state. -/
def transcribed (call : Event → Nat → t.Node → StateM S Verdict) (event : Event)
    (subscriber : Nat) (n : t.Node) : StateM (S × List (Call t × Verdict)) Verdict :=
  fun (state, made) =>
    let (verdict, state) := (call event subscriber n).run state
    (verdict, state, made ++ [(⟨event, subscriber, n⟩, verdict)])

/-- Answers the calls in order and drops those to subscribers that have detached before. -/
def answered (call : Event → Nat → t.Node → StateM S Verdict) (detached : List Nat)
    (calls : List (Call t)) (state : S) : List (Call t × Verdict) × S :=
  match calls with
  | [] => ([], state)
  | c :: rest =>
      if detached.contains c.subscriber then answered call detached rest state
      else
        let (verdict, state) := (call c.event c.subscriber c.node).run state
        let detached := if verdict = .detach then c.subscriber :: detached else detached
        let (made, state) := answered call detached rest state
        ((c, verdict) :: made, state)

theorem mem_of_mem_answered {call : Event → Nat → t.Node → StateM S Verdict}
    {detached : List Nat} {calls : List (Call t)} {state : S} {entry : Call t × Verdict}
    (made : entry ∈ (answered call detached calls state).1) : entry.1 ∈ calls := by
  induction calls generalizing detached state with
  | nil => cases made
  | cons c rest ih =>
      rw [answered] at made
      split at made
      · exact List.mem_cons_of_mem _ (ih made)
      · rcases List.mem_cons.1 made with rfl | later
        · exact List.mem_cons_self ..
        · exact List.mem_cons_of_mem _ (ih later)

@[simp] private theorem run_serve (call : Event → Nat → t.Node → StateM S Verdict)
    (detached : List Nat) (calls : List (Call t)) (state : S) :
    (serve call detached calls).run state = ((), (answered call detached calls state).2) := by
  induction calls generalizing detached state with
  | nil => rfl
  | cons c rest ih =>
      rw [serve, answered]
      split
      · exact ih detached state
      · rw [StateT.run_bind]
        rcases (call c.event c.subscriber c.node).run state with ⟨verdict, left⟩
        cases verdict with
        | «continue» => exact ih detached left
        | detach => exact ih (c.subscriber :: detached) left

theorem run_serve_transcribed (call : Event → Nat → t.Node → StateM S Verdict)
    (detached : List Nat) (calls : List (Call t)) (state : S)
    (made : List (Call t × Verdict)) :
    (serve (transcribed call) detached calls).run (state, made) =
      ((), (answered call detached calls state).2,
        made ++ (answered call detached calls state).1) := by
  induction calls generalizing detached state made with
  | nil => exact congrArg (fun made => ((), state, made)) (List.append_nil made).symm
  | cons c rest ih =>
      rw [serve, answered]
      split
      · exact ih detached state made
      · rcases asked : (call c.event c.subscriber c.node).run state with ⟨verdict, left⟩
        have transcript : (transcribed call c.event c.subscriber c.node).run (state, made) =
            (verdict, left, made ++ [(c, verdict)]) := by
          change (let (verdict, state) := (call c.event c.subscriber c.node).run state
            (verdict, state, made ++ [(c, verdict)])) = _
          rw [asked]
        rw [StateT.run_bind, transcript]
        cases verdict with
        | «continue» =>
            refine (ih detached left _).trans ?_
            simp only [List.append_assoc, List.singleton_append, reduceCtorEq, if_false]
        | detach =>
            refine (ih (c.subscriber :: detached) left _).trans ?_
            simp only [List.append_assoc, List.singleton_append, if_true]

/-- The calls are made in order, up to the first that is answered by detaching. -/
inductive UntilDetached : List (Call t) → List (Call t × Verdict) → Prop
  | done : UntilDetached [] []
  | continue : UntilDetached rest made →
      UntilDetached (c :: rest) ((c, .continue) :: made)
  | detach : UntilDetached (c :: rest) [(c, .detach)]

private theorem answered_detached {i : Nat}
    (call : Event → Nat → t.Node → StateM S Verdict) {detached : List Nat}
    (gone : i ∈ detached) (calls : List (Call t)) (state : S) :
    (answered call detached calls state).1.filter (·.1.subscriber == i) = [] := by
  induction calls generalizing detached state with
  | nil => rfl
  | cons c rest ih =>
      rw [answered]
      split
      · exact ih gone state
      next here =>
        have other : c.subscriber ≠ i := by
          rintro rfl
          exact here (List.contains_iff_mem.2 gone)
        rcases (call c.event c.subscriber c.node).run state with ⟨verdict, left⟩
        dsimp only
        rw [List.filter_cons_of_neg (by simpa using other)]
        apply ih
        split
        · exact List.mem_cons_of_mem _ gone
        · exact gone

private theorem answered_untilDetached {i : Nat}
    (call : Event → Nat → t.Node → StateM S Verdict) {detached : List Nat}
    (attached : i ∉ detached) (calls : List (Call t)) (state : S) :
    UntilDetached (calls.filter (·.subscriber == i))
      ((answered call detached calls state).1.filter (·.1.subscriber == i)) := by
  induction calls generalizing detached state with
  | nil => exact .done
  | cons c rest ih =>
      rw [answered]
      split
      next gone =>
        have other : c.subscriber ≠ i := by
          rintro rfl
          exact attached (List.contains_iff_mem.1 gone)
        rw [List.filter_cons_of_neg (by simpa using other)]
        exact ih attached state
      next =>
        rcases (call c.event c.subscriber c.node).run state with ⟨verdict, left⟩
        dsimp only
        by_cases mine : c.subscriber = i
        · rw [List.filter_cons_of_pos (by simpa using mine),
            List.filter_cons_of_pos (by simpa using mine)]
          cases verdict with
          | «continue» => exact .continue (ih attached left)
          | detach =>
              have gone : i ∈ c.subscriber :: detached := mine ▸ List.mem_cons_self ..
              rw [if_pos rfl, answered_detached call gone]
              exact .detach
        · rw [List.filter_cons_of_neg (by simpa using mine),
            List.filter_cons_of_neg (by simpa using mine)]
          apply ih
          split
          · exact List.not_mem_cons_of_ne_of_not_mem (Ne.symm mine) attached
          · exact attached

@[simp] theorem mem_interested {subscriptions : List (List Kind)} {kind : Kind} {i : Nat} :
    i ∈ interested subscriptions kind ↔ kind ∈ subscriptions.getD i [] := by
  rw [interested, List.mem_filter, List.mem_range, List.contains_iff_mem]
  constructor
  · exact And.right
  · intro member
    refine ⟨?_, member⟩
    by_contra outside
    rw [List.getD_eq_default _ _ (Nat.le_of_not_lt outside)] at member
    cases member

theorem subscribed_of_mem_callsOf {subscriptions : List (List Kind)} {steps : List (Step t)}
    {c : Call t} (offered : c ∈ callsOf (interested subscriptions) steps) :
    c.node.kind ∈ subscriptions.getD c.subscriber [] := by
  obtain ⟨⟨event, n⟩, _, called⟩ := List.mem_flatMap.1 offered
  obtain ⟨i, subscribed, rfl⟩ := List.mem_map.1 called
  exact mem_interested.1 subscribed

/-- Nobody is called with a node of a kind that it has not subscribed to. -/
theorem subscribed_of_transcribed {subscriptions : List (List Kind)} {n : t.Node}
    {call : Event → Nat → t.Node → StateM S Verdict} {state left : S}
    {made : List (Call t × Verdict)}
    (ran : ((Roster.ofSubscriptions subscriptions).dispatch n (transcribed call)).run (state, []) =
      ((), left, made)) :
    ∀ entry ∈ made, entry.1.node.kind ∈ subscriptions.getD entry.1.subscriber [] := by
  rw [dispatch_eq_serve, run_serve_transcribed] at ran
  cases ran
  intro entry member
  exact subscribed_of_mem_callsOf (mem_of_mem_answered member)

private theorem filter_interested (subscriptions : List (List Kind)) (kind : Kind) (i : Nat) :
    (interested subscriptions kind).filter (· == i) =
      if kind ∈ subscriptions.getD i [] then [i] else [] := by
  have once : (interested subscriptions kind).Nodup := List.nodup_range.filter _
  rw [List.filter_beq, once.count]
  simp only [mem_interested]
  split <;> rfl

theorem filter_callsOf_interested (subscriptions : List (List Kind)) (i : Nat)
    (steps : List (Step t)) :
    (callsOf (interested subscriptions) steps).filter (·.subscriber == i) =
      (steps.filter fun (_, n) => (subscriptions.getD i []).contains n.kind).map
        fun (event, n) => ⟨event, i, n⟩ := by
  induction steps with
  | nil => rfl
  | cons step rest ih =>
      obtain ⟨event, n⟩ := step
      have here : ((interested subscriptions n.kind).map
            (fun subscriber => (⟨event, subscriber, n⟩ : Call t))).filter (·.subscriber == i) =
          if n.kind ∈ subscriptions.getD i [] then [⟨event, i, n⟩] else [] := by
        rw [List.filter_map]
        change ((interested subscriptions n.kind).filter (· == i)).map _ = _
        rw [filter_interested]
        split <;> rfl
      rw [callsOf_cons, List.filter_append, here, ih, List.filter_cons]
      simp only [List.contains_iff_mem]
      split <;> rfl

/-- A shared walk makes the calls that are subscribed to in a full walk, except to subscribers
that have detached; so each subscriber sees the nodes of its kinds, as it would in a walk of its
own, up to the call in which it detaches. -/
theorem dispatch_transcribes_answered (subscriptions : List (List Kind))
    (n : t.Node) (call : Event → Nat → t.Node → StateM S Verdict) (state : S) :
    let offered := callsOf (interested subscriptions) (fullLog n)
    let (made, left) := answered call [] offered state
    ((Roster.ofSubscriptions subscriptions).dispatch n call).run state = ((), left) ∧
      ((Roster.ofSubscriptions subscriptions).dispatch n (transcribed call)).run (state, []) =
        ((), left, made) ∧
      ∀ i,
        let sees := (fullLog n).filter fun (_, x) => (subscriptions.getD i []).contains x.kind
        UntilDetached (sees.map fun (event, x) => ⟨event, i, x⟩)
          (made.filter (·.1.subscriber == i)) := by
  refine ⟨?_, ?_, fun i => ?_⟩
  · rw [dispatch_eq_serve, run_serve]
  · rw [dispatch_eq_serve, run_serve_transcribed]
    rfl
  · dsimp only
    rw [← filter_callsOf_interested]
    exact answered_untilDetached call List.not_mem_nil _ state

end Transcript

end TreeLint.Traversal

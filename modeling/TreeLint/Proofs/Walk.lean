import Mathlib.Algebra.BigOperators.Ring.List
import Mathlib.Algebra.Ring.Nat
import TreeLint.Proofs.Nodes
import TreeLint.Proofs.Scripts
import TreeLint.Traversal.Walk

/-! The walk with a stack of its own makes the calls that the recursion on the tree makes. -/

namespace TreeLint.Traversal

variable {t : Tree}

section Recursion

variable {m : Type → Type u} [Monad m] [LawfulMonad m]

theorem visit_eq (v : Visitor t m) (n : t.Node) :
    visit v n = (do
      match ← v.enter n with
      | .children => n.children.forM (visit v)
      | .skip => pure ()
      v.leave n) := by
  rw [visit]
  congr
  funext descent
  cases descent with
  | children =>
      dsimp only
      rw [show n.children.attach.forM (fun c => visit v c.val) =
          (n.children.attach.map Subtype.val).forM (visit v) from List.forM_map.symm,
        List.attach_map_subtype_val]
  | skip => rfl

private theorem walkSteps_map_enter (v : Visitor t m) (ns : List t.Node) (rest : List (Step t))
    (single : ∀ c ∈ ns, ∀ rest,
      walkSteps v ((.enter, c) :: rest) = (do visit v c; walkSteps v rest)) :
    walkSteps v (ns.map (fun c => (.enter, c)) ++ rest) =
      (do ns.forM (visit v); walkSteps v rest) := by
  induction ns with
  | nil => exact (pure_bind () fun _ => walkSteps v rest).symm
  | cons c ns ih =>
      have tail := ih fun d member => single d (List.mem_cons_of_mem c member)
      rw [List.map_cons, List.cons_append, single c (List.mem_cons_self ..), tail]
      exact (bind_assoc (visit v c) (fun _ => ns.forM (visit v)) fun _ => walkSteps v rest).symm

@[simp] theorem walkSteps_enter (v : Visitor t m) (n : t.Node) (rest : List (Step t)) :
    walkSteps v ((.enter, n) :: rest) = (do visit v n; walkSteps v rest) := by
  induction n using Tree.Node.induction_below generalizing rest with
  | step n ih =>
      rw [walkSteps, visit_eq, bind_assoc]
      congr
      funext descent
      cases descent with
      | children =>
          dsimp only
          rw [walkSteps_map_enter v n.children _ ih, walkSteps]
          simp only [bind_assoc]
      | skip =>
          dsimp only
          rw [walkSteps]

theorem walk_eq_visit (v : Visitor t m) (n : t.Node) : walk v n = visit v n := by
  rw [walk, walkSteps_enter, walkSteps]
  exact bind_pure (visit v n)

end Recursion

theorem walk_eq_forM {m : Type → Type} [Monad m] [LawfulMonad m] {v : Visitor t m}
    {act : t.Node → m Unit} (enter : ∀ n, v.enter n = (do act n; return .children))
    (leave : ∀ n, v.leave n = pure ()) (n : t.Node) : walk v n = n.descendants.forM act := by
  rw [walk_eq_visit]
  induction n using Tree.Node.induction_below with
  | step n ih =>
      have below : n.children.forM (visit v) =
          (n.children.flatMap Tree.Node.descendants).forM act := by
        rw [forM_flatMap]
        exact forM_congr ih
      rw [visit_eq, enter, leave, n.descendants_eq]
      change _ = (act n >>= fun _ => (n.children.flatMap Tree.Node.descendants).forM act)
      simp [below]

/-- Calls in the order in which they are made, how the last one ends, and what it leaves. -/
structure Course (t : Tree) (σ α : Type) where
  calls : List (Step t)
  result : Except Failure α
  state : σ
  context : Context

namespace Course

def still (state : σ) (context : Context) : Course t σ Unit := ⟨[], .ok (), state, context⟩

def ofCall (step : Step t) (hook : Scan σ α) (state : σ) (context : Context) : Course t σ α :=
  let (result, state, context) := (hook state).run context
  ⟨[step], result, state, context⟩

/-- Goes on from what the course leaves, unless the course ends in a failure. -/
def andThen (c : Course t σ α) (next : α → σ → Context → Course t σ β) : Course t σ β :=
  match c.result with
  | .error failure => ⟨c.calls, .error failure, c.state, c.context⟩
  | .ok value =>
      let rest := next value c.state c.context
      { rest with calls := c.calls ++ rest.calls }

def each (f : α → σ → Context → Course t σ Unit) : List α → σ → Context → Course t σ Unit
  | [], state, context => still state context
  | a :: rest, state, context => (f a state context).andThen fun _ => each f rest

theorem each_map (f : β → σ → Context → Course t σ Unit) (g : α → β) (as : List α) :
    each f (as.map g) = each (fun a => f (g a)) as := by
  induction as with
  | nil => rfl
  | cons a rest ih =>
      funext state context
      simp only [List.map_cons, each, ih]

end Course

/-- Enters the node; unless told to skip, visits the children from left to right; leaves the
node.  A failure ends it on the spot. -/
def course (v : Visitor t (Scan σ)) (n : t.Node) (state : σ) (context : Context) :
    Course t σ Unit :=
  (Course.ofCall (.enter, n) (v.enter n) state context).andThen fun descent state context =>
    let below := match descent with
      | .children =>
          Course.each (fun c : { c // c ∈ n.children } => course v c.val) n.children.attach state
            context
      | .skip => .still state context
    below.andThen fun _ => .ofCall (.leave, n) (v.leave n)
termination_by t.nodes.size - n.index
decreasing_by
  have hlt := Tree.Node.index_lt_of_mem_children c.property
  have := c.val.isLt
  omega

theorem course_eq (v : Visitor t (Scan σ)) (n : t.Node) (state : σ) (context : Context) :
    course v n state context =
      (Course.ofCall (.enter, n) (v.enter n) state context).andThen fun descent state context =>
        let below := match descent with
          | .children => Course.each (course v) n.children state context
          | .skip => .still state context
        below.andThen fun _ => .ofCall (.leave, n) (v.leave n) := by
  have children :
      Course.each (fun c : { c // c ∈ n.children } => course v c.val) n.children.attach =
        Course.each (course v) n.children := by
    rw [← Course.each_map (course v), List.attach_map_subtype_val]
  rw [course, children]

namespace Course

def outcome (c : Course t σ α) : Script.Outcome σ α := (c.result, c.state, c.context)

@[simp] theorem outcome_ofCall (step : Step t) (hook : Scan σ α) (state : σ) (context : Context) :
    (ofCall step hook state context).outcome = (hook state).run context :=
  rfl

@[simp] theorem outcome_andThen (c : Course t σ α) (next : α → σ → Context → Course t σ β) :
    (c.andThen next).outcome =
      c.outcome.andThen fun value state context => (next value state context).outcome := by
  obtain ⟨calls, result, state, context⟩ := c
  cases result with
  | error failure => rfl
  | ok value => rfl

theorem outcome_each {visitOne : α → Scan σ Unit} {f : α → σ → Context → Course t σ Unit} :
    (as : List α) →
    (∀ a ∈ as, ∀ state context, (visitOne a state).run context = (f a state context).outcome) →
    ∀ state context, (as.forM visitOne state).run context = (each f as state context).outcome
  | [], _, _, _ => rfl
  | a :: rest, single, state, context => by
      have head := single a (List.mem_cons_self ..) state context
      have tail := outcome_each rest fun b member => single b (List.mem_cons_of_mem a member)
      rw [each, outcome_andThen, ← head]
      simp only [← tail]
      exact Scan.run_bind (visitOne a) (fun _ => rest.forM visitOne) state context

end Course

theorem run_visit (v : Visitor t (Scan σ)) (n : t.Node) (state : σ) (context : Context) :
    (visit v n state).run context = (course v n state context).outcome := by
  induction n using Tree.Node.induction_below generalizing state context with
  | step n ih =>
      rw [visit_eq, Scan.run_bind, course_eq, Course.outcome_andThen, Course.outcome_ofCall]
      congr
      funext descent state context
      rw [Course.outcome_andThen]
      simp only [Course.outcome_ofCall]
      cases descent with
      | children =>
          dsimp only
          rw [Scan.run_bind, Course.outcome_each n.children ih]
      | skip => rfl

/-- The same hook, with a log beside the rule's state that an entry is added to first. -/
def logging (entry : γ) (hook : Scan σ α) : Scan (σ × List γ) α := fun (state, log) =>
  (hook state).watched (fun log _ => log) (log ++ [entry])

def Visitor.logged (v : Visitor t (Scan σ)) : Visitor t (Scan (σ × List (Step t))) where
  enter n := logging (.enter, n) (v.enter n)
  leave n := logging (.leave, n) (v.leave n)

namespace Course

def logged (log : List (Step t)) (c : Course t σ α) : Course t (σ × List (Step t)) α :=
  ⟨c.calls, c.result, (c.state, log ++ c.calls), c.context⟩

@[simp] theorem logged_still (state : σ) (log : List (Step t)) (context : Context) :
    still (state, log) context = (still state context).logged log := by
  simp only [still, logged, List.append_nil]

@[simp] theorem logged_ofCall (step : Step t) (hook : Scan σ α) (state : σ) (log : List (Step t))
    (context : Context) :
    ofCall step (logging step hook) (state, log) context =
      (ofCall step hook state context).logged log := by
  unfold ofCall logging
  dsimp only
  rw [Script.run_watched, List.foldl_fixed]
  rfl

theorem logged_andThen {c : Course t σ α} {log : List (Step t)}
    {next : α → σ → Context → Course t σ β}
    {nextLogged : α → σ × List (Step t) → Context → Course t (σ × List (Step t)) β}
    (same : ∀ value state log context,
      nextLogged value (state, log) context = (next value state context).logged log) :
    (c.logged log).andThen nextLogged = (c.andThen next).logged log := by
  obtain ⟨calls, result, state, context⟩ := c
  cases result with
  | error failure => rfl
  | ok value => simp only [andThen, logged, same, List.append_assoc]

theorem logged_each {f : α → σ → Context → Course t σ Unit}
    {g : α → σ × List (Step t) → Context → Course t (σ × List (Step t)) Unit} :
    (as : List α) →
    (∀ a ∈ as, ∀ state log context, g a (state, log) context = (f a state context).logged log) →
    ∀ state log context, each g as (state, log) context = (each f as state context).logged log
  | [], _, state, log, context => logged_still state log context
  | a :: rest, same, state, log, context => by
      have tail := logged_each rest fun b member => same b (List.mem_cons_of_mem a member)
      rw [each, each, same a (List.mem_cons_self ..), logged_andThen fun _ => tail]

end Course

theorem course_logged (v : Visitor t (Scan σ)) (n : t.Node) (state : σ)
    (log : List (Step t)) (context : Context) :
    course v.logged n (state, log) context = (course v n state context).logged log := by
  induction n using Tree.Node.induction_below generalizing state log context with
  | step n ih =>
      rw [course_eq, course_eq, ← Course.logged_andThen, ← Course.logged_ofCall]
      · rfl
      · intro descent state log context
        dsimp only [Visitor.logged]
        rw [← Course.logged_andThen fun _ => Course.logged_ofCall (.leave, n) (v.leave n)]
        cases descent with
        | children =>
            dsimp only
            rw [← Course.logged_each n.children ih]
            rfl
        | skip =>
            dsimp only
            rw [← Course.logged_still]

namespace Course

theorem length_andThen {c : Course t σ α} {next : α → σ → Context → Course t σ β} {bound : Nat}
    (bounded : ∀ value state context, (next value state context).calls.length ≤ bound) :
    (c.andThen next).calls.length ≤ c.calls.length + bound := by
  obtain ⟨calls, result, state, context⟩ := c
  cases result with
  | error failure => exact Nat.le_add_right ..
  | ok value =>
      simp only [andThen, List.length_append]
      exact Nat.add_le_add_left (bounded value state context) _

theorem length_each {f : α → σ → Context → Course t σ Unit} {bound : α → Nat} :
    (as : List α) →
    (∀ a ∈ as, ∀ state context, (f a state context).calls.length ≤ bound a) →
    ∀ state context, (each f as state context).calls.length ≤ (as.map bound).sum
  | [], _, _, _ => Nat.le_refl 0
  | a :: rest, bounded, state, context => by
      have head := bounded a (List.mem_cons_self ..) state context
      have tail := length_each rest fun b member => bounded b (List.mem_cons_of_mem a member)
      rw [each, List.map_cons, List.sum_cons]
      exact Nat.le_trans (length_andThen fun _ => tail) (Nat.add_le_add_right head _)

end Course

theorem length_course (v : Visitor t (Scan σ)) (n : t.Node) (state : σ) (context : Context) :
    (course v n state context).calls.length ≤ 2 * n.descendants.length := by
  induction n using Tree.Node.induction_below generalizing state context with
  | step n ih =>
      have size : 2 * n.descendants.length =
          1 + ((n.children.map fun c => 2 * c.descendants.length).sum + 1) := by
        rw [Tree.Node.descendants_eq, List.length_cons, List.length_flatMap,
          List.sum_map_mul_left]
        omega
      have left : ∀ (_ : Unit) (state : σ) (context : Context),
          (Course.ofCall (.leave, n) (v.leave n) state context).calls.length ≤ 1 :=
        fun _ _ _ => Nat.le_refl 1
      rw [course_eq, size]
      refine Course.length_andThen fun descent state context => ?_
      refine Nat.le_trans (Course.length_andThen left) (Nat.add_le_add_right ?_ 1)
      cases descent with
      | children => exact Course.length_each n.children ih state context
      | skip => exact Nat.zero_le _

theorem walk_takes_course (v : Visitor t (Scan σ)) (n : t.Node) (state : σ) (context : Context) :
    let c := course v n state context
    (walk v n state).run context = (c.result, c.state, c.context) ∧
      (walk v.logged n (state, [])).run context = (c.result, (c.state, c.calls), c.context) ∧
      c.calls.length ≤ 2 * n.descendants.length := by
  refine ⟨?_, ?_, length_course v n state context⟩
  · rw [walk_eq_visit]
    exact run_visit v n state context
  · rw [walk_eq_visit, run_visit, course_logged]
    rfl

end TreeLint.Traversal

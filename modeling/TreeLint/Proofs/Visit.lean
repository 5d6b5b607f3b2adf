import TreeLint.Java.Lowering

/-! The cursor goes over a concrete tree as a recursion over the tree does. -/

namespace TreeLint.Java.Lowering

open TreeLint.Tree

mutual
def visit (s : State) (first : Bool) : Concrete → Except TreeError State
  | .node head children =>
      match s.enter (.node head children) first with
      | .error e => .error e
      | .ok (s, false) => .ok s
      | .ok (s, true) => do (← visitAll s true children).close

def visitAll (s : State) (first : Bool) : List Concrete → Except TreeError State
  | [] => .ok s
  | c :: rest => do visitAll (← visit s first c) false rest
end

section Entered

variable {s s' : State} {c : Concrete} {first : Bool}

theorem visit_of_failed {e : TreeError} (failed : s.enter c first = .error e) :
    visit s first c = .error e := by
  cases c
  rw [visit, failed]

theorem visit_of_passed (passed : s.enter c first = .ok (s', false)) :
    visit s first c = .ok s' := by
  cases c
  rw [visit, passed]

theorem visit_of_opened (opened : s.enter c first = .ok (s', true)) :
    visit s first c = (do (← visitAll s' true c.children).close) := by
  cases c
  rw [visit, opened]
  rfl

theorem visit_of_closed {builder filled done : Builder} {raw : String} {opened : Nat}
    (entered : s.enter c first = .ok (s.push builder raw opened, true))
    (visited : visitAll (s.push builder raw opened) true c.children =
      .ok ⟨filled, (s.push builder raw opened).frames⟩)
    (closed : State.finishNodes filled opened = .ok done) :
    visit s first c = .ok ⟨done, s.frames⟩ := by
  rw [visit_of_opened entered, visited]
  change (State.finishNodes filled opened).map (fun builder => State.mk builder s.frames) = _
  rw [closed]
  rfl

end Entered

/-- Takes in the later siblings of a phrase and then those of its ancestors, each of which is
closed before. -/
def visitLater (s : State) (later : List Concrete) : List (List Concrete) → Except TreeError State
  | [] => visitAll s false later
  | outer :: above => do visitLater (← (← visitAll s false later).close) outer above

def visitFrom (s : State) (c : Cursor) : Except TreeError State := do
  visitLater (← visit s c.first c.node) c.later c.above

@[simp] theorem visitLater_cons (s : State) (next : Concrete) (later : List Concrete)
    (above : List (List Concrete)) :
    visitLater s (next :: later) above = visitFrom s ⟨next, false, later, above⟩ := by
  cases above with
  | nil => rfl
  | cons outer above =>
      rw [visitLater, visitAll, visitFrom]
      cases visit s false next with
      | error e => rfl
      | ok s => rfl

theorem visitLater_eq_climb (s : State) (later : List Concrete) (above : List (List Concrete)) :
    visitLater s later above = (do
      match ← climb s later above with
      | (s, none) => return s
      | (s, some next) => visitFrom s next) := by
  induction above generalizing s later with
  | nil =>
      cases later with
      | nil => rfl
      | cons next later => exact visitLater_cons s next later []
  | cons outer above ih =>
      cases later with
      | nil =>
          rw [visitLater, visitAll, climb]
          change (s.close >>= fun s => visitLater s outer above) = _
          cases s.close with
          | error e => rfl
          | ok s => exact ih s outer
      | cons next later => exact visitLater_cons s next later (outer :: above)

section Cursor

variable {s s' : State} {c : Cursor}

theorem visitFrom_of_failed {e : TreeError} (failed : s.enter c.node c.first = .error e) :
    visitFrom s c = .error e := by
  rw [visitFrom, visit_of_failed failed]
  rfl

theorem visitFrom_of_passed (passed : s.enter c.node c.first = .ok (s', false)) :
    visitFrom s c = visitLater s' c.later c.above := by
  rw [visitFrom, visit_of_passed passed]
  rfl

theorem visitFrom_of_child {child : Concrete} {rest : List Concrete}
    (opened : s.enter c.node c.first = .ok (s', true))
    (children : c.node.children = child :: rest) :
    visitFrom s c = visitFrom s' ⟨child, true, rest, c.later :: c.above⟩ := by
  rw [visitFrom, visit_of_opened opened, children, visitAll, visitFrom]
  simp only [visitLater, bind_assoc]

theorem visitFrom_of_childless (opened : s.enter c.node c.first = .ok (s', true))
    (childless : c.node.children = []) :
    visitFrom s c = (do visitLater (← s'.close) c.later c.above) := by
  rw [visitFrom, visit_of_opened opened, childless]
  rfl

end Cursor

theorem run_eq_visitFrom (s : State) (c : Cursor) : run s c = visitFrom s c := by
  fun_induction run s c with
  | case1 s c e failed => exact (visitFrom_of_failed failed).symm
  | case2 s c s₁ passed e failed =>
      rw [visitFrom_of_passed passed, visitLater_eq_climb, failed]
      rfl
  | case3 s c s₁ passed s₂ ended =>
      rw [visitFrom_of_passed passed, visitLater_eq_climb, ended]
      rfl
  | case4 s c s₁ passed s₂ next climbed _ ih =>
      rw [visitFrom_of_passed passed, visitLater_eq_climb, climbed]
      exact ih
  | case5 s c s₁ opened child rest children _ ih =>
      rw [visitFrom_of_child opened children]
      exact ih
  | case6 s c s₁ opened childless e failed =>
      rw [visitFrom_of_childless opened childless, failed]
      rfl
  | case7 s c s₁ opened childless s₂ closed e failed =>
      rw [visitFrom_of_childless opened childless, closed]
      change _ = visitLater s₂ c.later c.above
      rw [visitLater_eq_climb, failed]
      rfl
  | case8 s c s₁ opened childless s₂ closed s₃ ended =>
      rw [visitFrom_of_childless opened childless, closed]
      change _ = visitLater s₂ c.later c.above
      rw [visitLater_eq_climb, ended]
      rfl
  | case9 s c s₁ opened childless s₂ closed s₃ next climbed _ ih =>
      rw [visitFrom_of_childless opened childless, closed]
      change _ = visitLater s₂ c.later c.above
      rw [visitLater_eq_climb, climbed]
      exact ih

end TreeLint.Java.Lowering

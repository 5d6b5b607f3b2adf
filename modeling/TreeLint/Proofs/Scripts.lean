import TreeLint.Rule.Scan

/-! Scripts in sequence, and scripts played under the eyes of an observer that keeps a state of
its own. -/

namespace TreeLint

namespace Script

@[simp] theorem bind_done (x : Script σ α) : (x.bind fun value state => done state value) = x := by
  induction x with
  | done _ _ => rfl
  | fail _ _ => rfl
  | report r resume ih =>
      simp only [bind]
      exact congrArg (Script.report r) (funext ih)
  | read resume ih =>
      simp only [bind]
      exact congrArg Script.read (funext ih)
  | renew input rule severity resume ih => exact congrArg (Script.renew input rule severity) ih

@[simp] theorem bind_assoc (x : Script σ α) (f : α → σ → Script σ β) (g : β → σ → Script σ γ) :
    (x.bind f).bind g = x.bind fun value state => (f value state).bind g := by
  induction x with
  | done _ _ => rfl
  | fail _ _ => rfl
  | report r resume ih =>
      simp only [bind]
      exact congrArg (Script.report r) (funext ih)
  | read resume ih =>
      simp only [bind]
      exact congrArg Script.read (funext ih)
  | renew input rule severity resume ih => exact congrArg (Script.renew input rule severity) ih

abbrev Outcome (σ α : Type) := Except Failure α × σ × Context

def Outcome.andThen (x : Outcome σ α) (next : α → σ → Context → Outcome σ β) : Outcome σ β :=
  match x with
  | (.ok value, state, context) => next value state context
  | (.error failure, state, context) => (.error failure, state, context)

@[simp] theorem run_bind (x : Script σ α) (f : α → σ → Script σ β) (context : Context) :
    (x.bind f).run context =
      Outcome.andThen (x.run context) fun value state context => (f value state).run context := by
  induction x generalizing context with
  | done _ _ => rfl
  | fail _ _ => rfl
  | report r resume ih => exact ih _ _
  | read resume ih => exact ih _ _
  | renew input rule severity resume ih => exact ih _

/-- What a script does that can be seen from outside. -/
inductive Act where
  | reported (r : Report) (answer : Except Rejection Unit)
  | renewed (input : FileInput) (rule : String) (severity : Severity)
  | failed (failure : Failure)

/-- The same script with a second state beside the rule's, into which an observer enters each
act. -/
def watched (enter : γ → Act → γ) (x : Script σ α) (seen : γ) : Script (σ × γ) α :=
  match x with
  | done state value => done (state, seen) value
  | fail state failure => fail (state, enter seen (.failed failure)) failure
  | report r resume =>
      report r fun answer => (resume answer).watched enter (enter seen (.reported r answer))
  | read resume => read fun context => (resume context).watched enter seen
  | renew input rule severity resume =>
      renew input rule severity (resume.watched enter (enter seen (.renewed input rule severity)))

def acts (x : Script σ α) (context : Context) : List Act :=
  match x with
  | done _ _ => []
  | fail _ failure => [.failed failure]
  | report r resume =>
      let (answer, context) := context.report r
      .reported r answer :: (resume answer).acts context
  | read resume => (resume context).acts context
  | renew input rule severity resume =>
      .renewed input rule severity :: resume.acts (.new input rule severity)

@[simp] theorem acts_bind (x : Script σ α) (f : α → σ → Script σ β) (context : Context) :
    (x.bind f).acts context = x.acts context ++
      match x.run context with
      | (.ok value, state, context) => (f value state).acts context
      | (.error _, _, _) => [] := by
  induction x generalizing context with
  | done _ _ => rfl
  | fail _ _ => rfl
  | report r resume ih => exact congrArg (_ :: ·) (ih _ _)
  | read resume ih => exact ih _ _
  | renew input rule severity resume ih => exact congrArg (_ :: ·) (ih _)

/-- Being watched changes nothing for the script. -/
theorem run_watched (enter : γ → Act → γ) (x : Script σ α) (seen : γ) (context : Context) :
    (x.watched enter seen).run context =
      ((x.run context).1, ((x.run context).2.1, (x.acts context).foldl enter seen),
        (x.run context).2.2) := by
  induction x generalizing seen context with
  | done _ _ => rfl
  | fail _ _ => rfl
  | report r resume ih => exact ih _ _ _
  | read resume ih => exact ih _ _ _
  | renew input rule severity resume ih => exact ih _ _

end Script

instance : LawfulMonad (Scan σ) :=
  .mk' _
    (fun x => funext fun state => Script.bind_done (x state))
    (fun _ _ => rfl)
    (fun x f g => funext fun state => Script.bind_assoc (x state) f g)

namespace Scan

@[simp] theorem run_bind (x : Scan σ α) (f : α → Scan σ β) (state : σ) (context : Context) :
    ((x >>= f) state).run context =
      Script.Outcome.andThen ((x state).run context) fun value state context =>
        (f value state).run context :=
  Script.run_bind (x state) f context

@[simp] theorem acts_bind (x : Scan σ α) (f : α → Scan σ β) (state : σ) (context : Context) :
    ((x >>= f) state).acts context = (x state).acts context ++
      match (x state).run context with
      | (.ok value, state, context) => (f value state).acts context
      | (.error _, _, _) => [] :=
  Script.acts_bind (x state) f context

end Scan

end TreeLint

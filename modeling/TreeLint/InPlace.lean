/-! Calls that change a state in place.  A call that fails keeps what it had changed by then. -/

namespace TreeLint.InPlace

variable {κ ε σ α : Type}

/-- What a call answers, or how it fails. -/
def answer (call : EStateM ε σ α) (s : σ) : Except ε α :=
  match call s with
  | .ok a _ => .ok a
  | .error e _ => .error e

/-- The state after a call, also after one that fails. -/
def left (call : EStateM ε σ α) (s : σ) : σ :=
  match call s with
  | .ok _ s => s
  | .error _ s => s

def result (s : σ) : Except ε (α × σ) → EStateM.Result ε σ α
  | .ok (a, s) => .ok a s
  | .error e => .error e s

def after (perform : κ → EStateM ε σ α) (s : σ) : List κ → σ
  | [] => s
  | call :: rest => after perform (left (perform call) s) rest

def transcript (perform : κ → EStateM ε σ α) (s : σ) : List κ → List (κ × Except ε α)
  | [] => []
  | call :: rest =>
      (call, answer (perform call) s) :: transcript perform (left (perform call) s) rest

/-- The calls that do not fail when all are made in order. -/
def succeeding (perform : κ → EStateM ε σ α) (s : σ) (calls : List κ) : List κ :=
  ((transcript perform s calls).filter (·.2.isOk)).map (·.1)

end TreeLint.InPlace

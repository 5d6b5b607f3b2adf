import TreeLint.Rule.Run

/-! Running rules in place: they keep the states that they have reached, also where a run stops. -/

namespace TreeLint

abbrev RunInPlace (σ : Type) := EStateM RunError (List (Rule σ))

namespace RunInPlace

def checkSymbols (input : FileInput) : RunInPlace σ Unit :=
  if input.symbols?.any (·.tree ≠ input.tree.id) then throw (.symbolsOfOtherTree input.path)
  else return

def checkKeys : RunInPlace σ Unit := do
  match duplicateKey? [] (← get) with
  | some key => throw (.duplicateRule key)
  | none => return

def check (input : FileInput) : RunInPlace σ Unit := do
  checkSymbols input
  checkKeys

def keep (sessions : List (Session σ)) : RunInPlace σ (List (Session σ)) := do
  set (sessions.map (·.rule))
  return sessions

def scanFiles (input : FileInput) : RunInPlace σ (List (Session σ)) := do
  keep ((← get).map fun rule => (Session.start input rule).scanFile input)

def runFile (input : FileInput) : RunInPlace σ FileReport := do
  check input
  let scanned ← scanFiles input
  let walked ← keep (sharedWalk input scanned)
  let sessions ← keep (walked.map (·.leaveFile input))
  return report input sessions

end RunInPlace

end TreeLint

import TreeLint.Symbols.Table

/-! The chain of superclasses above a type.  Chains are cut off where they repeat and where they
grow too long, so any table can be climbed. -/

namespace TreeLint

inductive AncestryError where
  | cyclic (typeName repeated : String) (partialDepth : Nat)
  | tooDeep (typeName : String) (limit : Nat)
  deriving DecidableEq, Repr

namespace AncestryError

def message : AncestryError → String
  | cyclic typeName repeated partialDepth =>
      s!"cyclic inheritance: {typeName} reaches {repeated} again after {partialDepth} hop(s)"
  | tooDeep typeName limit => s!"inheritance chain of {typeName} exceeds {limit} hops"

def partialDepth : AncestryError → Nat
  | cyclic _ _ hops => hops
  | tooDeep _ limit => limit

end AncestryError

/-- The most hops that a well-formed chain has. -/
def maxAncestryDepth : Nat := 256

/-- A climb along the superclasses of its origin. -/
structure Ascent where
  origin : SymbolId
  /-- None once the climb is over. -/
  current? : Option SymbolId
  seen : List SymbolId
  hops : Nat
  error? : Option AncestryError
  deriving DecidableEq, Repr

namespace Ascent

def start (origin : SymbolId) : Ascent := ⟨origin, some origin, [origin], 0, none⟩

private def nameOf (table : SymbolTable) (id : SymbolId) : String :=
  ((table.type? id).map (·.qualifiedName)).getD ""

private def stop (a : Ascent) (error : AncestryError) : Ascent :=
  { a with current? := none, error? := some error }

/-- The next superclass, nearest first.  A repetition is noticed before excess length. -/
def next (table : SymbolTable) (a : Ascent) : Option SymbolId × Ascent :=
  match a.error?, a.current? with
  | none, some current =>
      match table.superclass? current with
      | none => (none, { a with current? := none })
      | some parent =>
          if a.seen.contains parent then
            (none, a.stop (.cyclic (nameOf table a.origin) (nameOf table parent) a.hops))
          else if maxAncestryDepth ≤ a.hops then
            (none, a.stop (.tooDeep (nameOf table a.origin) maxAncestryDepth))
          else
            (some parent,
              { a with current? := some parent, seen := parent :: a.seen, hops := a.hops + 1 })
  | _, _ => (none, a)

theorem hops_of_next {table : SymbolTable} {a a' : Ascent} {id : SymbolId}
    (h : a.next table = (some id, a')) : a.hops < maxAncestryDepth ∧ a'.hops = a.hops + 1 := by
  unfold next at h
  split at h
  · split at h
    · simp at h
    · split at h
      · simp at h
      · split at h
        · simp at h
        · obtain ⟨_, rfl⟩ := Prod.mk.inj h
          exact ⟨by omega, rfl⟩
  · simp at h

section Next

variable {table : SymbolTable} {a : Ascent} {current parent : SymbolId}

theorem next_of_ended (ended : a.current? = none) : a.next table = (none, a) := by
  simp [next, ended]

theorem next_of_top (running : a.error? = none) (here : a.current? = some current)
    (top : table.superclass? current = none) :
    a.next table = (none, { a with current? := none }) := by
  simp [next, running, here, top]

theorem next_of_repeated {s r : TypeSymbol} (running : a.error? = none)
    (here : a.current? = some current) (above : table.superclass? current = some parent)
    (seen : parent ∈ a.seen) (origin : table.type? a.origin = some s)
    (again : table.type? parent = some r) :
    a.next table = (none, { a with
      current? := none, error? := some (.cyclic s.qualifiedName r.qualifiedName a.hops) }) := by
  simp [next, running, here, above, seen, stop, nameOf, origin, again]

theorem next_of_excess {s : TypeSymbol} (running : a.error? = none)
    (here : a.current? = some current) (above : table.superclass? current = some parent)
    (fresh : parent ∉ a.seen) (long : maxAncestryDepth ≤ a.hops)
    (origin : table.type? a.origin = some s) :
    a.next table = (none, { a with
      current? := none, error? := some (.tooDeep s.qualifiedName maxAncestryDepth) }) := by
  simp [next, running, here, above, fresh, long, stop, nameOf, origin]

theorem next_of_hop (running : a.error? = none) (here : a.current? = some current)
    (above : table.superclass? current = some parent) (fresh : parent ∉ a.seen)
    (short : a.hops < maxAncestryDepth) :
    a.next table = (some parent, { a with
      current? := some parent, seen := parent :: a.seen, hops := a.hops + 1 }) := by
  simp [next, running, here, above, fresh, Nat.not_le.2 short]

end Next

def collect (table : SymbolTable) (a : Ascent) : List SymbolId × Ascent :=
  match _h : a.next table with
  | (some id, a') =>
      let (ids, last) := collect table a'
      (id :: ids, last)
  | (none, a') => ([], a')
termination_by maxAncestryDepth - a.hops
decreasing_by
  have := hops_of_next (by assumption)
  omega

theorem collect_of_none {table : SymbolTable} {a a' : Ascent} (next : a.next table = (none, a')) :
    a.collect table = ([], a') := by
  rw [collect]
  split <;> simp_all

theorem collect_of_some {table : SymbolTable} {a a' : Ascent} {id : SymbolId}
    (next : a.next table = (some id, a')) :
    a.collect table = (id :: (a'.collect table).1, (a'.collect table).2) := by
  rw [collect]
  split <;> simp_all

end Ascent

namespace SymbolTable

def inheritanceDepth (table : SymbolTable) (id : SymbolId) : Except AncestryError Nat :=
  let (ids, last) := (Ascent.start id).collect table
  match last.error? with
  | some error => .error error
  | none => .ok ids.length

end SymbolTable

end TreeLint

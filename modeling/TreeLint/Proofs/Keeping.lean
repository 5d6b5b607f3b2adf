import TreeLint.Config.RuleSet
import TreeLint.Proofs.Journal
import TreeLint.Proofs.Walk

/-! Hooks that leave their context in place, among them those of the rules that come with the
program. -/

namespace TreeLint

namespace Scan

variable {x : Scan σ α}

@[simp] theorem keepsContext_pure (value : α) : (pure value : Scan σ α).KeepsContext :=
  fun _ _ => Script.Act.keepContext_nil

@[simp] theorem keepsContext_fail (failure : Failure) : (fail failure : Scan σ α).KeepsContext :=
  fun _ _ => List.forall_mem_singleton.2 rfl

theorem KeepsContext.bind {f : α → Scan σ β} (keeps : x.KeepsContext)
    (later : ∀ value, (f value).KeepsContext) : (x >>= f).KeepsContext := by
  intro state context
  rw [acts_bind]
  refine (keeps state context).append ?_
  split
  next value state context _ => exact later value state context
  next => exact Script.Act.keepContext_nil

@[simp] theorem keepsContext_report (r : Report) : (report r : Scan σ Unit).KeepsContext := by
  have tried : (tryReport r : Scan σ _).KeepsContext :=
    fun _ _ => List.forall_mem_singleton.2 rfl
  refine tried.bind fun answer => ?_
  cases answer with
  | error e => exact keepsContext_fail _
  | ok _ => exact keepsContext_pure ()

theorem keepsContext_forM {xs : List α} {f : α → Scan σ Unit}
    (each : ∀ x ∈ xs, (f x).KeepsContext) : (xs.forM f).KeepsContext := by
  induction xs with
  | nil => exact keepsContext_pure ()
  | cons x rest ih =>
      obtain ⟨here, later⟩ := List.forall_mem_cons.1 each
      exact here.bind fun _ => ih later

end Scan

theorem Traversal.keepsContext_walk {t : Tree} {v : Visitor t (Scan σ)}
    (enters : ∀ n, (v.enter n).KeepsContext) (leaves : ∀ n, (v.leave n).KeepsContext)
    (n : t.Node) : (walk v n).KeepsContext := by
  rw [walk_eq_visit]
  induction n using Tree.Node.induction_below with
  | step n ih =>
      rw [visit_eq]
      refine (enters n).bind fun descent => ?_
      cases descent with
      | children => exact (Scan.keepsContext_forM ih).bind fun _ => leaves n
      | skip => exact leaves n

namespace Checks

theorem EmptyStatement.keepsContext : (behavior : Behavior σ).KeepsContext where
  scanFile _ := Scan.keepsContext_pure ()
  visitNode _ n := by
    change Scan.KeepsContext (if isStray n then _ else _)
    split
    · exact Scan.keepsContext_report _
    · exact Scan.keepsContext_pure ()
  leaveNode _ _ := Scan.keepsContext_pure ()
  leaveFile _ := Scan.keepsContext_pure ()

theorem ThreadRun.keepsContext : (behavior : Behavior σ).KeepsContext where
  scanFile _ := Scan.keepsContext_pure ()
  visitNode input n := by
    dsimp only
    repeat' split
    · exact Scan.keepsContext_pure ()
    · exact Scan.keepsContext_pure ()
    · exact Scan.keepsContext_report _
    · exact Scan.keepsContext_pure ()
  leaveNode _ _ := Scan.keepsContext_pure ()
  leaveFile _ := Scan.keepsContext_pure ()

namespace InheritanceDepth

theorem keepsContext_check (max : Nat) (symbols : SymbolTable) {t : Tree} (n : t.Node) :
    (check max symbols n : Scan σ Unit).KeepsContext := by
  unfold check
  repeat' split
  · exact Scan.keepsContext_pure ()
  · exact Scan.keepsContext_fail _
  · exact Scan.keepsContext_report _
  · exact Scan.keepsContext_pure ()

theorem keepsContext (max : Nat) : (behavior max : Behavior σ).KeepsContext := by
  intro input
  dsimp only
  split
  next => exact Scan.keepsContext_pure ()
  next symbols _ =>
    refine Traversal.keepsContext_walk (fun n => ?_) (fun _ => Scan.keepsContext_pure ()) _
    change Scan.KeepsContext (if Traversal.Hook.of n = .typeDeclaration then _ else _)
    split
    · exact (keepsContext_check max symbols n).bind fun _ => Scan.keepsContext_pure _
    · exact Scan.keepsContext_pure _

end InheritanceDepth

end Checks

theorem Builtin.keepsContext (params : Params) (b : Builtin) :
    (b.behavior params : Behavior σ).KeepsContext := by
  cases b with
  | inheritanceDepth =>
      cases params with
      | none => exact Checks.InheritanceDepth.keepsContext _
      | inheritanceDepth max => exact Checks.InheritanceDepth.keepsContext max
  | emptyStatement => exact Checks.EmptyStatement.keepsContext
  | threadRun => exact Checks.ThreadRun.keepsContext

theorem RuleSet.keepsContext_journal (rules : RuleSet) (input : FileInput) {rule : Rule Unit}
    (member : rule ∈ rules.rules) : (rule.journal input).KeepsContext := by
  obtain ⟨s, _, rfl⟩ := List.mem_map.1 member
  exact Rule.keepsContext_journal input (s.builtin.keepsContext s.params)

end TreeLint

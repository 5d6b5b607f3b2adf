import TreeLint.Checks.InheritanceDepth
import TreeLint.Proofs.Numbering
import TreeLint.Proofs.Recursive
import TreeLint.Proofs.TableCalls

/-! Types that are too deep are reported in document order, unless one of them cannot be climbed
from. -/

namespace TreeLint

/-- How deep the type is that the node declares, if it declares one. -/
def SymbolTable.depth? (symbols : SymbolTable) {t : Tree} (n : t.Node) :
    Option (Except AncestryError Nat) :=
  (symbols.typeOf? n).map fun (id, _) => symbols.inheritanceDepth id

namespace Checks.InheritanceDepth

open Traversal TreeLint.Tree

variable {σ : Type} {t : Tree} {symbols : SymbolTable} {max : Nat}

theorem hook_iff (n : t.Node) : Hook.of n = .typeDeclaration ↔ n.kind.isTypeDeclaration := by
  unfold Hook.of
  by_cases unit : n.kind = .compilationUnit
  · simp [unit, Kind.isTypeDeclaration]
  · by_cases declares : n.kind.isTypeDeclaration
    · simp [unit, declares]
    · simp only [unit, declares, if_false, Bool.false_eq_true, iff_false]
      split_ifs <;> nofun

theorem check_eq (n : t.Node) : (check max symbols n : Scan σ Unit) =
    match symbols.depth? n with
    | none => pure ()
    | some (.error e) => Scan.fail (.error [e.message])
    | some (.ok depth) =>
        if max < depth then Scan.addIssue n (message depth max) else pure () := by
  unfold check SymbolTable.depth?
  cases symbols.typeOf? n with
  | none => rfl
  | some found =>
      obtain ⟨id, s⟩ := found
      cases depth : symbols.inheritanceDepth id <;> simp [depth]

def visit (max : Nat) (symbols : SymbolTable) (n : t.Node) : Scan σ Unit :=
  if n.kind.isTypeDeclaration then check max symbols n else pure ()

def report? (max : Nat) (symbols : SymbolTable) (n : t.Node) : Option Report :=
  match n.kind.isTypeDeclaration, symbols.depth? n with
  | true, some (.ok depth) =>
      if max < depth then some ⟨.node n, message depth max, none⟩ else none
  | _, _ => none

theorem does_visit {n : t.Node}
    (climbs : n.kind.isTypeDeclaration → ∀ e, symbols.depth? n ≠ some (.error e)) :
    (visit max symbols n : Scan σ Unit).Does t.id
      ((report? max symbols n).toList.map (.reported · (.ok ()))) (.ok ()) := by
  unfold visit report?
  cases declares : n.kind.isTypeDeclaration with
  | false => exact Scan.does_pure ()
  | true =>
      rw [if_pos rfl, check_eq]
      cases found : symbols.depth? n with
      | none => exact Scan.does_pure ()
      | some depth =>
          cases depth with
          | error e => exact absurd found (climbs declares e)
          | ok depth =>
              by_cases deep : max < depth
              · simp only [deep, if_true]
                exact Scan.does_addIssue n (message depth max)
              · simp only [deep, if_false]
                exact Scan.does_pure ()

theorem does_visit_failed {n : t.Node} {e : AncestryError} (declares : n.kind.isTypeDeclaration)
    (fails : symbols.depth? n = some (.error e)) :
    (visit max symbols n : Scan σ Unit).Does t.id [.failed (.error [e.message])]
      (.error (.error [e.message])) := by
  rw [visit, if_pos declares, check_eq, fails]
  exact Scan.does_fail _

theorem scanFile_eq {input : FileInput} (present : input.symbols? = some symbols) :
    (behavior max : Behavior σ).scanFile input =
      input.tree.root.descendants.forM (visit max symbols) := by
  simp only [behavior, Behavior.scanFile, present]
  apply walk_eq_forM
  · intro n
    by_cases declares : n.kind.isTypeDeclaration
    · simp [Visitor.ofHooks, visit, (hook_iff n).2 declares, declares]
    · simp [Visitor.ofHooks, visit, mt (hook_iff n).1 declares, declares]
  · intro n
    rfl

def declares (symbols : SymbolTable) (n : t.Node) : Bool :=
  n.kind.isTypeDeclaration && (symbols.typeOf? n).isSome

theorem declares_iff {n : t.Node} :
    declares symbols n ↔ n.kind.isTypeDeclaration ∧ (symbols.depth? n).isSome := by
  simp [declares, SymbolTable.depth?]

theorem report?_of_declared {n : t.Node} {depth : Nat} (declared : declares symbols n)
    (climbs : symbols.depth? n = some (.ok depth)) :
    report? max symbols n =
      if max < depth then some ⟨.node n, message depth max, none⟩ else none := by
  rw [report?, (declares_iff.1 declared).1, climbs]

theorem report?_of_not_declared {n : t.Node} (undeclared : ¬ declares symbols n) :
    report? max symbols n = none := by
  unfold report?
  split
  next isType found =>
    apply absurd (declares_iff.2 ⟨isType, ?_⟩) undeclared
    rw [found]
    rfl
  · rfl

def issueAt (rule : Rule σ) (path : String) (max : Nat) (n : t.Node) (depth : Nat) : Issue :=
  .onNode rule.key path rule.metadata.severity n (message depth max)

theorem issues_of_reports {depths : t.Node → Nat} (rule : Rule σ) (path : String)
    {nodes : List t.Node}
    (climbs : ∀ n ∈ nodes.filter (declares symbols), symbols.depth? n = some (.ok (depths n))) :
    (nodes.filterMap (report? max symbols)).map
        (·.issue rule.key path rule.metadata.severity) =
      ((nodes.filter (declares symbols)).filter fun n => max < depths n).map fun n =>
        issueAt rule path max n (depths n) := by
  induction nodes with
  | nil => rfl
  | cons n rest ih =>
      by_cases declared : declares symbols n
      · rw [List.filter_cons_of_pos declared, List.forall_mem_cons] at climbs
        have reported : report? max symbols n = _ := report?_of_declared declared climbs.1
        rw [List.filter_cons_of_pos declared]
        by_cases deep : max < depths n
        · simp only [List.filterMap_cons, reported, deep, if_true, List.map_cons, ih climbs.2,
            List.filter_cons, decide_true]
          rfl
        · simp [reported, deep, ih climbs.2]
      · rw [List.filter_cons_of_neg declared] at climbs ⊢
        rw [List.filterMap_cons_none (report?_of_not_declared declared), ih climbs]

/-- What the rule makes of a tree with a table, by the nodes that declare types. -/
structure Limits (rule : Rule σ) (path : String) (max : Nat) (symbols : SymbolTable)
    (declared : List t.Node) : Prop where
  ascending : declared.Pairwise fun a b => a.index < b.index
  mem_iff : ∀ n, n ∈ declared ↔ n.kind.isTypeDeclaration ∧ (symbols.typeOf? n).isSome
  completes : ∀ depths : t.Node → Nat,
    (∀ n ∈ declared, symbols.depth? n = some (.ok (depths n))) →
    let issues := (declared.filter fun n => max < depths n).map fun n =>
      issueAt rule path max n (depths n)
    runFile ⟨path, t, some symbols⟩ [rule] =
      .ok (⟨path, issues, [⟨rule.key, .completed issues.length⟩]⟩, [rule])
  fails : ∀ before n after e, declared = before ++ n :: after →
    (∀ m ∈ before, ∃ depth, symbols.depth? m = some (.ok depth)) →
    symbols.depth? n = some (.error e) →
    runFile ⟨path, t, some symbols⟩ [rule] =
      .ok (⟨path, [], [⟨rule.key, .failed ⟨rule.key, path, .error, e.message⟩⟩]⟩, [rule])

section Run

variable {rule : Rule σ} {path : String}

theorem completes (same : rule.behavior = behavior max) (own : symbols.tree = t.id)
    {depths : t.Node → Nat}
    (climbs : ∀ n ∈ t.root.descendants.filter (declares symbols),
      symbols.depth? n = some (.ok (depths n))) :
    let issues := ((t.root.descendants.filter (declares symbols)).filter fun n =>
      max < depths n).map fun n => issueAt rule path max n (depths n)
    runFile ⟨path, t, some symbols⟩ [rule] =
      .ok (⟨path, issues, [⟨rule.key, .completed issues.length⟩]⟩, [rule]) := by
  intro issues
  have does : ((behavior max : Behavior σ).scanFile ⟨path, t, some symbols⟩).Does t.id
      ((t.root.descendants.filterMap (report? max symbols)).map (.reported · (.ok ())))
      (.ok ()) := by
    rw [scanFile_eq rfl]
    apply Scan.Does.forM
    intro n below
    apply does_visit
    intro isType e failed
    have found := climbs n (List.mem_filter.2 ⟨below, declares_iff.2 ⟨isType, by rw [failed]; rfl⟩⟩)
    rw [failed] at found
    cases found
  have ran := Rule.runFile_of_reports (same.trans rfl) (FileInput.bound_of_own own) does
  rwa [issues_of_reports rule path climbs] at ran

theorem fails (same : rule.behavior = behavior max) (own : symbols.tree = t.id)
    {before after : List t.Node} {n : t.Node} {e : AncestryError}
    (split : t.root.descendants.filter (declares symbols) = before ++ n :: after)
    (climbs : ∀ m ∈ before, ∃ depth, symbols.depth? m = some (.ok depth))
    (failed : symbols.depth? n = some (.error e)) :
    runFile ⟨path, t, some symbols⟩ [rule] =
      .ok (⟨path, [], [⟨rule.key, .failed ⟨rule.key, path, .error, e.message⟩⟩]⟩, [rule]) := by
  obtain ⟨front, back, whole, early, late⟩ := List.filter_eq_append_iff.1 split
  obtain ⟨skipped, rest, rfl, others, declared, _⟩ := List.filter_eq_cons_iff.1 late
  have passes : ∀ m ∈ front ++ skipped, m.kind.isTypeDeclaration → ∀ e,
      symbols.depth? m ≠ some (.error e) := by
    intro m member isType e fails
    have here : declares symbols m := declares_iff.2 ⟨isType, by rw [fails]; rfl⟩
    rcases List.mem_append.1 member with first | second
    · obtain ⟨depth, climbed⟩ := climbs m (early ▸ List.mem_filter.2 ⟨first, here⟩)
      rw [fails] at climbed
      cases climbed
    · exact others m second here
  have does : ((behavior max : Behavior σ).scanFile ⟨path, t, some symbols⟩).Does t.id
      (((front ++ skipped).filterMap (report? max symbols)).map (.reported · (.ok ())) ++
        [.failed (.error [e.message])]) (.error (.error [e.message])) := by
    rw [scanFile_eq rfl, show t.root.descendants = (front ++ skipped) ++ n :: rest by
      rw [whole, List.append_assoc]]
    apply Scan.Does.forM_failed
    · intro m member
      exact does_visit (passes m member)
    · exact does_visit_failed (declares_iff.1 declared).1 failed
  exact Rule.runFile_of_failed (same.trans rfl) (FileInput.bound_of_own own) does

theorem completes_without_table (same : rule.behavior = behavior max) :
    runFile ⟨path, t, none⟩ [rule] =
      .ok (⟨path, [], [⟨rule.key, .completed 0⟩]⟩, [rule]) := by
  have bound : ∀ s ∈ (FileInput.mk path t none).symbols?, s.tree = t.id := nofun
  have does : ((behavior max : Behavior σ).scanFile ⟨path, t, none⟩).Does t.id
      (([] : List Report).map (.reported · (.ok ()))) (.ok ()) := Scan.does_pure ()
  exact Rule.runFile_of_reports (same.trans rfl) bound does

end Run

/-- The rule completes with an issue on each node whose type is too deep, in document order, or
fails as the first node whose type cannot be climbed from says. -/
theorem depths_are_limited {id : TreeId} {calls : List Builder.Call}
    (finished : ((Builder.new id).attemptAll calls).finish = .ok t) (metadata : Metadata)
    (state : σ) (path : String) (max : Nat) :
    let rule : Rule σ := ⟨metadata, behavior max, state⟩
    runFile ⟨path, t, none⟩ [rule] = .ok (⟨path, [], [⟨rule.key, .completed 0⟩]⟩, [rule]) ∧
      ∀ symbols : SymbolTable, symbols.tree = t.id →
        ∃ declared : List t.Node, Limits rule path max symbols declared := by
  intro rule
  refine ⟨completes_without_table rfl, ?_⟩
  intro symbols own
  obtain ⟨_, laid⟩ := exists_laidOut finished
  have numbered := laid.wellNumbered
  refine ⟨t.root.descendants.filter (declares symbols), ?_, ?_, ?_, ?_⟩
  · exact numbered.descendants_ascending.sublist List.filter_sublist
  · intro n
    simp [declares, numbered.mem_descendants n]
  · intro depths climbs
    exact completes rfl own climbs
  · intro before n after e split climbs failed
    exact fails rfl own split climbs failed

def nestedClasses : List Builder.Call := [
  .start .compilationUnit none, .start .class none,
  .token .identifier none "A" (.onLine 1 7 8), .start .class none,
  .token .identifier none "B" (.onLine 2 9 10), .finishNode, .finishNode, .finishNode]

def nestedTypes : SymbolTable := (SymbolTable.new ⟨0⟩).attemptAll [
  .declareType "A" "A" .class (some 1), .declareType "B" "A.B" .class (some 3),
  .setSuperclass ⟨1⟩ ⟨0⟩]

theorem nestedClasses_limited :
    ∃ t, ((Builder.new ⟨0⟩).attemptAll nestedClasses).finish = .ok t ∧
      nestedTypes.tree = t.id ∧
      ∃ declared : List t.Node,
        Limits (⟨metadata, behavior 0, ()⟩ : Rule Unit) "A.java" 0 nestedTypes declared := by
  obtain ⟨t, finished, _⟩ :=
    Builder.finish_of_closed (b := (Builder.new ⟨0⟩).attemptAll nestedClasses) rfl (by decide)
  have own : nestedTypes.tree = t.id := (Builder.marks_of_finish finished).1.symm
  obtain ⟨_, limited⟩ := depths_are_limited finished metadata () "A.java" 0
  exact ⟨t, finished, own, limited nestedTypes own⟩

end Checks.InheritanceDepth

end TreeLint

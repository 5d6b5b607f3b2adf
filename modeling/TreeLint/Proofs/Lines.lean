import TreeLint.Proofs.Recursive
import TreeLint.Proofs.Spans

/-! Lines are counted from 1, but a node that is closed without children before the first token
stands on line 0 unless its span is given. -/

namespace TreeLint

variable {t : Tree}

namespace Tree

open Nested

/-- Whether a node that has to find its span itself is closed without children before the first
token.  `bare` says whether the last step opened such a node. -/
def Step.strands (bare : Bool) : List Step → Bool
  | [] => false
  | .start _ _ given? :: rest => strands given?.isNone rest
  | .token .. :: _ => false
  | .finish :: rest => bare || strands false rest

def Step.OnLines (step : Step) : Prop :=
  ∀ span ∈ step.span?, 1 ≤ span.startLine ∧ 1 ≤ span.endLine

theorem startLine_cover {a b : Span} (first : 1 ≤ a.startLine) (last : 1 ≤ b.startLine) :
    1 ≤ (a.cover b).startLine := by
  simp only [Span.cover]
  split
  · exact first
  · exact last

theorem startLine_spanAround {last : Span} {first : Nested} {rest : List Nested}
    (lines : ∀ tree ∈ first :: rest, 1 ≤ tree.span.startLine) :
    1 ≤ (spanAround last (first :: rest)).startLine := by
  obtain ⟨final, reached, span⟩ := exists_spanAround_cons last first rest
  rw [span]
  apply startLine_cover
  · exact lines first (by simp)
  · exact lines final (List.mem_of_getLast? reached)

theorem line_of_node (kind : Kind) (last : Span) {given? : Option (String × Span)}
    {trees : List Nested} (given : ∀ span ∈ given?.map (·.2), 1 ≤ span.startLine)
    (lines : ∀ tree ∈ trees, 1 ≤ tree.span.startLine) :
    1 ≤ (given?.getD (kind.name, spanAround last trees)).2.startLine ↔
      1 ≤ last.endLine ∨ (given?.isNone && trees.isEmpty) = false := by
  cases given? with
  | some given' => simpa using given given'.2 rfl
  | none =>
      cases trees with
      | nil => simp [spanAround, Span.endPoint]
      | cons first rest => simpa using startLine_spanAround lines

@[simp] theorem isEmpty_settleAll (last : Span) (trees : List Nested) :
    (settleAll last trees).1.isEmpty = trees.isEmpty := by
  cases trees <;> rfl

mutual
theorem lines_settle (last : Span) (bare : Bool) (rest : List Step) : (tree : Nested) →
    (∀ step ∈ tree.steps, step.OnLines) →
    (1 ≤ last.endLine ∨ Step.strands bare (tree.steps ++ rest) = false ↔
      (settle last tree).1.Throughout (fun below => 1 ≤ below.span.startLine) ∧
        (1 ≤ (settle last tree).2.endLine ∨ Step.strands false rest = false))
  | .leaf _ _ _ _ span, lines => by
      obtain ⟨start, stop⟩ := lines _ (List.mem_singleton_self _) span rfl
      exact iff_of_true (.inr rfl) ⟨.leaf start, .inl stop⟩
  | .node field? kind given? children, lines => by
      obtain ⟨own, below⟩ := List.forall_mem_cons.1 lines
      have opened : Step.strands bare ((Nested.node field? kind given? children).steps ++ rest) =
          Step.strands given?.isNone (stepsAll children ++ .finish :: rest) := by
        simp [steps, Step.strands]
      rw [opened, lines_settleAll last _ _ children fun step member =>
        below step (List.mem_append_left _ member)]
      simp only [settle, throughout_node, Step.strands]
      rw [and_assoc, and_left_comm]
      apply and_congr_right
      intro lines
      have line := line_of_node kind (settleAll last children).2
        (fun span given => (own span given).1) fun tree member => (lines tree member).here
      rw [isEmpty_settleAll] at line
      refine Iff.trans ?_ (and_congr_left' line.symm)
      rw [Bool.or_eq_false_iff, or_and_left]

theorem lines_settleAll (last : Span) (bare : Bool) (rest : List Step) : (trees : List Nested) →
    (∀ step ∈ stepsAll trees, step.OnLines) →
    (1 ≤ last.endLine ∨ Step.strands bare (stepsAll trees ++ rest) = false ↔
      (∀ tree ∈ (settleAll last trees).1, tree.Throughout fun below => 1 ≤ below.span.startLine) ∧
        (1 ≤ (settleAll last trees).2.endLine ∨
          Step.strands (bare && trees.isEmpty) rest = false))
  | [], _ => by simp [settleAll, stepsAll]
  | first :: others, lines => by
      rw [stepsAll, List.forall_mem_append] at lines
      rw [stepsAll, List.append_assoc, lines_settle _ _ _ first lines.1,
        lines_settleAll _ _ _ others lines.2]
      simp [settleAll, and_assoc]
end

theorem lines_of_finish {id : TreeId} {calls : List Builder.Call}
    (finished : ((Builder.new id).attemptAll calls).finish = .ok t)
    (given : ∀ step ∈ stepsTaken id calls, step.OnLines) :
    (∀ n : t.Node, 1 ≤ n.line) ↔ Step.strands false (stepsTaken id calls) = false := by
  obtain ⟨root, taken, laid⟩ := exists_laidOut_settled finished
  rw [taken] at given ⊢
  have settled := lines_settle .empty false [] root given
  have throughout := laid.forall_spans_iff (R := fun span _ => 1 ≤ span.startLine)
  refine throughout.trans ?_
  simpa [Span.empty, Step.strands] using settled.symm

end Tree

def Anchor.IsIn (t : Tree) : Anchor → Prop
  | .node (t := s) _ => s = t
  | .line _ => True

/-- Rules that keep to the tree have no issues on line 0. -/
def IssuesOnLines (t : Tree) : Prop :=
  ∀ (σ : Type) (input : FileInput) (rules after : List (Rule σ)) (found : FileReport),
    input.tree = t → runFile input rules = .ok (found, after) →
    (∀ rule ∈ rules, ∀ r ∈ (rule.journal input).accepted, r.anchor.IsIn t) →
    ∀ issue ∈ found.issues, 1 ≤ issue.line

theorem Anchor.line_of_taken {anchor : Anchor} {rule : String} {tree : TreeId}
    (within : anchor.IsIn t) (lines : ∀ n : t.Node, 1 ≤ n.line)
    (taken : anchor.answer rule tree = .ok ()) : 1 ≤ anchor.firstLine := by
  cases anchor with
  | node n =>
      cases within
      exact lines n
  | line number =>
      cases number with
      | zero => cases taken
      | succ number => exact Nat.le_add_left 1 number

theorem Rule.exists_accepted {input : FileInput} {rule : Rule σ} {issue : Issue}
    (member : issue ∈ ((Session.alone input rule).finish input).2) :
    ∃ r ∈ (rule.journal input).accepted, issue.line = r.anchor.firstLine ∧
      ∃ context : Context, context.answer r.anchor = .ok () := by
  rw [Session.finish_alone] at member
  obtain ⟨r, accepted, rfl⟩ := mem_settled member
  have still := (Placement.since_suffix ..).subset (Script.Act.mem_of_mem_accepted accepted)
  refine ⟨r, List.mem_filterMap.2 ⟨_, still, rfl⟩, rfl, ?_⟩
  obtain ⟨context, answered⟩ := (Session.alone_noted input rule).2.answers.exists_eq still
  exact ⟨context, answered.symm⟩

theorem runFile_on_lines (lines : ∀ n : t.Node, 1 ≤ n.line) : IssuesOnLines t := by
  rintro σ input rules after found rfl ran within issue member
  obtain ⟨_, rfl, _⟩ := runFile_eq_ok ran
  obtain ⟨s, ended, member⟩ := List.mem_flatMap.1 member
  obtain ⟨rule, known, rfl⟩ := List.mem_map.1 ended
  obtain ⟨r, accepted, line, context, taken⟩ := Rule.exists_accepted member
  rw [line]
  exact Anchor.line_of_taken (within rule known r accepted) lines taken

def marking (n : t.Node) : Rule Unit :=
  ⟨.new "marks" "marks", .recursive fun _ => Scan.addIssue n "", ()⟩

theorem line_of_marking (n : t.Node) (issues : IssuesOnLines t) : 1 ≤ n.line := by
  let input : FileInput := ⟨"", t, none⟩
  let reports : List Report := [⟨.node n, "", none⟩]
  have does : (Scan.addIssue n "" : Scan Unit Unit).Does input.tree.id
      (reports.map (.reported · (.ok ()))) (.ok ()) := Scan.does_addIssue n ""
  have walks : (marking n).behavior = .recursive fun _ => Scan.addIssue n "" := rfl
  have bound : ∀ symbols ∈ input.symbols?, symbols.tree = input.tree.id := nofun
  have acts := (Rule.runFile_of_does walks bound does).1
  have ran := Rule.runFile_of_reports walks bound does
  apply issues Unit input [marking n] _ _ rfl ran _ _ (List.mem_singleton_self _)
  intro rule member r accepted
  rw [List.mem_singleton.1 member, Journal.accepted, acts,
    Script.Act.accepted_of_taken] at accepted
  rw [List.mem_singleton.1 accepted]
  exact rfl

theorem issuesOnLines_iff : IssuesOnLines t ↔ ∀ n : t.Node, 1 ≤ n.line :=
  ⟨fun issues n => line_of_marking n issues, runFile_on_lines⟩

namespace Tree

/-- Where all spans that are given are on lines, all nodes and all issues are, as long as no node is
stranded in front of the first token. -/
theorem on_lines_unless_stranded {id : TreeId} {calls : List Builder.Call}
    (finished : ((Builder.new id).attemptAll calls).finish = .ok t)
    (given : ∀ step ∈ stepsTaken id calls, step.OnLines) :
    ((∀ n : t.Node, 1 ≤ n.line) ↔ Step.strands false (stepsTaken id calls) = false) ∧
      (IssuesOnLines t ↔ Step.strands false (stepsTaken id calls) = false) := by
  have lines := lines_of_finish finished given
  exact ⟨lines, issuesOnLines_iff.trans lines⟩

/-- A block without children before the first token of a file. -/
def Builder.strandedCalls : List Call := [
  .start .compilationUnit none, .start .block none, .finishNode,
  .token .semicolon none ";" (.onLine 3 1 2), .finishNode]

theorem strandedCalls_on_line_zero :
    ∃ t, ((Builder.new ⟨0⟩).attemptAll Builder.strandedCalls).finish = .ok t ∧
      (∀ step ∈ stepsTaken ⟨0⟩ Builder.strandedCalls, step.OnLines) ∧
      (∃ n : t.Node, n.line = 0) ∧ ¬ IssuesOnLines t := by
  obtain ⟨t, finished, _⟩ :=
    Builder.finish_of_closed (b := (Builder.new ⟨0⟩).attemptAll Builder.strandedCalls) rfl
      (by decide)
  have given : ∀ step ∈ stepsTaken ⟨0⟩ Builder.strandedCalls, step.OnLines := by
    unfold Step.OnLines
    decide
  have stranded : Step.strands false (stepsTaken ⟨0⟩ Builder.strandedCalls) = true := by decide
  obtain ⟨lines, issues⟩ := on_lines_unless_stranded finished given
  rw [stranded] at lines issues
  refine ⟨t, finished, given, ?_, fun on => nomatch issues.1 on⟩
  by_contra none
  have on (n : t.Node) : 1 ≤ n.line := Nat.pos_of_ne_zero fun zero => none ⟨n, zero⟩
  exact nomatch lines.1 on

end Tree

end TreeLint

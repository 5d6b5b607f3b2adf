import TreeLint.Checks.EmptyStatement
import TreeLint.Proofs.Numbering
import TreeLint.Proofs.RoundTrip
import TreeLint.Proofs.Spotting
import TreeLint.Proofs.Words

namespace TreeLint.Tree

variable {t : Tree}

def isBrace (kind : Kind) : Bool := kind == .leftBrace || kind == .rightBrace

namespace Nested

def kind : Nested → Kind
  | leaf _ kind _ _ _ => kind
  | node _ kind _ _ => kind

def semicolonLine? : Nested → Option Nat
  | leaf _ kind _ _ span => if kind = .semicolon then some span.startLine else none
  | node .. => none

def memberCount (trees : List Nested) : Nat := trees.countP fun tree => !isBrace tree.kind

def strays : Kind → List Nested → Bool
  | .emptyStatement, _ => true
  | .classBody, children => 1 < memberCount children
  | _, _ => false

mutual
def strayLines : Nested → List Nat
  | leaf .. => []
  | node _ kind _ children => strayLinesAll (strays kind children) children

def strayLinesAll (stray : Bool) : List Nested → List Nat
  | [] => []
  | first :: rest =>
      (if stray then first.semicolonLine?.toList else []) ++ strayLines first ++
        strayLinesAll stray rest
end

@[simp] theorem strayLinesAll_append (stray : Bool) (front back : List Nested) :
    strayLinesAll stray (front ++ back) =
      strayLinesAll stray front ++ strayLinesAll stray back := by
  induction front with
  | nil => rfl
  | cons first rest ih => simp only [List.cons_append, strayLinesAll, ih, List.append_assoc]

end Nested

theorem ReadsAll.map_kind {ns : List t.Node} {trees : List Nested} (reads : ReadsAll ns trees) :
    ns.map (·.kind) = trees.map Nested.kind := by
  induction trees generalizing ns with
  | nil => rw [show ns = [] from reads]; rfl
  | cons tree rest ih =>
      obtain ⟨n, others, rfl, here, later⟩ := reads
      have same : n.kind = tree.kind := by
        cases tree <;> exact here.2.1
      rw [List.map_cons, List.map_cons, same, ih later]

theorem ReadsAll.memberCount {ns : List t.Node} {trees : List Nested}
    (reads : ReadsAll ns trees) :
    ns.countP (fun n => !isBrace n.kind) = Nested.memberCount trees := by
  have nodes := List.countP_map (p := fun kind => !isBrace kind) (f := Node.kind) (l := ns)
  have kinds := List.countP_map (p := fun kind => !isBrace kind) (f := Nested.kind) (l := trees)
  rw [reads.map_kind] at nodes
  exact nodes.symm.trans kinds

end TreeLint.Tree

namespace TreeLint.Checks.EmptyStatement

open TreeLint.Tree

variable {t : Tree}

theorem any_other {nodes : List t.Node} (distinct : nodes.Nodup) {counts : t.Node → Bool}
    {n : t.Node} (member : n ∈ nodes) (own : counts n = true) :
    nodes.any (fun m => m != n && counts m) = decide (1 < nodes.countP counts) := by
  have others : nodes.any (fun m => m != n && counts m) = (nodes.erase n).any counts := by
    rw [distinct.erase_eq_filter, List.any_filter]
  have count : nodes.countP counts = (nodes.erase n).countP counts + 1 := by
    rw [(List.perm_cons_erase member).countP_eq, List.countP_cons_of_pos own]
  rw [others, count, Bool.eq_iff_iff, List.any_eq_true, decide_eq_true_eq,
    Nat.lt_add_left_iff_pos, List.countP_pos_iff]

theorem isStray_of_child (numbered : WellNumbered t) {n p : t.Node} {kind : Kind}
    {trees : List Nested} (same : p.kind = kind) (reads : ReadsAll p.children trees)
    (member : n ∈ p.children) (semicolon : n.kind = .semicolon) :
    isStray n = Nested.strays kind trees := by
  have others : hasOtherMembers p n = decide (1 < Nested.memberCount trees) := by
    have distinct : p.children.Nodup :=
      (numbered.ascending p).imp fun before same => Nat.ne_of_lt before (congrArg Node.index same)
    have own : (!isBrace n.kind) = true := by rw [semicolon]; rfl
    rw [← reads.memberCount, ← any_other distinct member own, hasOtherMembers]
    simp [isBrace, bne, Bool.and_assoc]
  rw [isStray, numbered.listed_by_parent n p member]
  dsimp only
  rw [same]
  cases kind with
  | classBody => exact others
  | _ => rfl

def spots (n : t.Node) : Bool := n.kind == .semicolon && isStray n

theorem semicolonLine?_of_reads (numbered : WellNumbered t) {n : t.Node} {tree : Nested}
    (reads : n.Reads tree) :
    tree.semicolonLine? = if n.kind = .semicolon then some n.line else none := by
  cases tree with
  | leaf field? kind rawKind? text span =>
      obtain ⟨_, kind, _, _, span, _⟩ := reads
      rw [Nested.semicolonLine?, kind, Node.line, span]
  | node field? kind given? children =>
      obtain ⟨_, _, _, token, _, _⟩ := reads
      have composite : n.kind ≠ .semicolon := by
        intro semicolon
        have isToken := (numbered.token_iff n).2 (by rw [semicolon]; rfl)
        rw [Node.token?_of_notALeaf token] at isToken
        cases isToken
      rw [Nested.semicolonLine?, if_neg composite]

mutual
theorem strayLines_of_reads (numbered : WellNumbered t) {n : t.Node} : {tree : Nested} →
    n.Reads tree →
    ((n.children.flatMap Node.descendants).filter spots).map (·.line) = tree.strayLines
  | .leaf .., ⟨_, _, _, _, _, childless⟩ => by
      rw [childless]
      rfl
  | .node _ kind _ children, ⟨_, same, _, _, _, below⟩ =>
      strayLines_of_readsAll numbered below fun _ member =>
        isStray_of_child numbered same below member

theorem strayLines_of_readsAll (numbered : WellNumbered t) {ns : List t.Node} {stray : Bool} :
    {trees : List Nested} → ReadsAll ns trees →
    (∀ n ∈ ns, n.kind = .semicolon → isStray n = stray) →
    ((ns.flatMap Node.descendants).filter spots).map (·.line) = Nested.strayLinesAll stray trees
  | [], childless, _ => by
      cases childless
      rfl
  | first :: rest, ⟨n, others, same, reads, later⟩, judged => by
      cases same
      obtain ⟨here, judged⟩ := List.forall_mem_cons.1 judged
      have own : ([n].filter spots).map (·.line) =
          if stray then first.semicolonLine?.toList else [] := by
        rw [semicolonLine?_of_reads numbered reads]
        by_cases semicolon : n.kind = .semicolon
        · cases stray <;> simp [spots, semicolon, here semicolon]
        · simp [spots, semicolon]
      rw [List.flatMap_cons, n.descendants_eq, Nested.strayLinesAll, ← own,
        ← strayLines_of_reads numbered reads, ← strayLines_of_readsAll numbered later judged]
      simp only [← List.map_append, ← List.filter_append, List.nil_append, List.cons_append]
end

theorem strayLines_of_root (numbered : WellNumbered t) {tree : Nested} (reads : t.root.Reads tree) :
    (t.root.descendants.filter spots).map (·.line) = tree.strayLines := by
  have orphan : t.root.parent? = none := (numbered.orphan_iff t.root).2 rfl
  have kept : spots t.root = false := by
    rw [spots, isStray, orphan, Bool.and_false]
  rw [t.root.descendants_eq, List.filter_cons_of_neg (by rw [kept]; exact Bool.false_ne_true),
    strayLines_of_reads numbered reads]

def message : String := "Remove this empty statement."

def spot? (n : t.Node) : Option Report :=
  if isStray n then some ⟨.line n.line, message, none⟩ else none

theorem exists_spots : ∃ hooks : Subscriber σ, behavior = .subscription hooks ∧
    hooks.Spots [.semicolon] fun _ n => spot? n := by
  refine ⟨_, rfl, fun _ => rfl, fun _ => rfl, fun _ => rfl, fun _ n => ?_, fun _ _ => rfl,
    fun _ => rfl⟩
  unfold spot?
  dsimp only
  split <;> rfl

def issueAt (rule : Rule σ) (path : String) (line : Nat) : Issue where
  rule := rule.key
  file := path
  line
  column? := none
  span? := none
  message
  severity := rule.metadata.severity
  cost? := none

theorem filterMap_spot? (rule : Rule σ) (path : String) (nodes : List t.Node) :
    ((nodes.filter ([Kind.semicolon].contains ·.kind)).filterMap spot?).map
        (·.issue rule.key path rule.metadata.severity) =
      ((nodes.filter spots).map (·.line)).map (issueAt rule path) := by
  induction nodes with
  | nil => rfl
  | cons n rest ih =>
      by_cases semicolon : n.kind = .semicolon
      · cases stray : isStray n with
        | true => simp_all [spots, spot?, issueAt, Report.issue, Anchor.firstLine, Anchor.span?]
        | false => simp_all [spots, spot?]
      · simp_all [spots]

theorem runFile_eq {input : FileInput} {rule : Rule σ} (same : rule.behavior = behavior)
    (bound : ∀ symbols ∈ input.symbols?, symbols.tree = input.tree.id)
    (numbered : WellNumbered input.tree) {tree : Nested} (reads : input.tree.root.Reads tree)
    (placed : 0 ∉ tree.strayLines) :
    let issues := tree.strayLines.map (issueAt rule input.path)
    runFile input [rule] =
      .ok (⟨input.path, issues, [⟨rule.key, .completed issues.length⟩]⟩, [rule]) := by
  obtain ⟨hooks, subscription, spotting⟩ := exists_spots (σ := σ)
  have taken : ∀ n ∈ input.tree.root.descendants, n.kind ∈ [Kind.semicolon] → ∀ r,
      spot? n = some r → r.anchor.answer rule.key input.tree.id = .ok () := by
    intro n below semicolon r spotted
    obtain ⟨stray, rfl⟩ : isStray n = true ∧ (⟨.line n.line, message, none⟩ : Report) = r := by
      unfold spot? at spotted
      split at spotted
      next stray => exact ⟨stray, Option.some.inj spotted⟩
      next => cases spotted
    have listed : n.line ∈ tree.strayLines := by
      rw [← strayLines_of_root numbered reads]
      refine List.mem_map_of_mem (List.mem_filter.2 ⟨below, ?_⟩)
      rw [spots, List.mem_singleton.1 semicolon, stray]
      rfl
    cases line : n.line with
    | zero => exact absurd (line ▸ listed) placed
    | succ line => rfl
  have ran := spotting.runFile_eq (same.trans subscription) bound taken
  rw [filterMap_spot?, strayLines_of_root numbered reads] at ran
  exact ran

end TreeLint.Checks.EmptyStatement

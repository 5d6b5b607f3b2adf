import TreeLint.Proofs.RoundTrip
import TreeLint.Proofs.Visit

/-! What a concrete tree is lowered to, and that lowering never fails. -/

namespace TreeLint.Tree

namespace Scaffold

def addAll (s : Scaffold) (trees : List Nested) : Scaffold :=
  trees.foldl (fun s tree => s.add tree) s

@[simp] theorem addAll_append (s : Scaffold) (front back : List Nested) :
    s.addAll (front ++ back) = (s.addAll front).addAll back :=
  List.foldl_append

@[simp] theorem addAll_inside (outer : Scaffold) (field? : Option String) (kind : Kind)
    (given? : Option (String × Span)) (before trees : List Nested) :
    (inside outer field? kind given? before).addAll trees =
      inside outer field? kind given? (before ++ trees) := by
  induction trees generalizing before with
  | nil => rw [List.append_nil]; rfl
  | cons tree rest ih =>
      rw [List.append_cons]
      exact ih (before ++ [tree])

def IsInside : Scaffold → Prop
  | ground _ => False
  | inside .. => True

theorem IsInside.hasRoom {s : Scaffold} (isInside : s.IsInside) : s.HasRoom := by
  cases s with
  | ground => cases isInside
  | inside => trivial

theorem IsInside.addAll {s : Scaffold} (isInside : s.IsInside) (trees : List Nested) :
    (s.addAll trees).IsInside := by
  cases s with
  | ground => cases isInside
  | inside => rw [addAll_inside]; trivial

end Scaffold

/-- The builder stands at the scaffold, with the label for the next node and with its marks. -/
structure Bears (b : Builder) (s : Scaffold) (label? : Option String) (id : TreeId)
    (hasErrors : Bool) : Prop extends Represents b s where
  label : b.pendingField? = label?
  id_eq : b.id = id
  hasErrors_eq : b.hasErrors = hasErrors

namespace Bears

variable {b : Builder} {s : Scaffold} {label? : Option String} {id : TreeId} {hasErrors : Bool}

theorem new (id : TreeId) : Bears (.new id) (.ground []) none id false where
  toRepresents := .new id
  label := rfl
  id_eq := rfl
  hasErrors_eq := rfl

theorem field (bears : Bears b s label? id hasErrors) (name : String) :
    Bears (b.field name) s (some name) id hasErrors where
  nodes := bears.nodes
  opened := bears.opened
  lastSpan := bears.lastSpan
  valid := bears.valid
  label := rfl
  id_eq := bears.id_eq
  hasErrors_eq := bears.hasErrors_eq

theorem field? (bears : Bears b s none id hasErrors) (label? : Option String) :
    Bears ((label?.map b.field).getD b) s label? id hasErrors := by
  cases label? with
  | none => exact bears
  | some name => exact bears.field name

theorem markError (bears : Bears b s label? id hasErrors) : Bears b.markError s label? id true where
  nodes := bears.nodes
  opened := bears.opened
  lastSpan := bears.lastSpan
  valid := bears.valid
  label := bears.label
  id_eq := bears.id_eq
  hasErrors_eq := rfl

theorem markErrorIf (bears : Bears b s label? id hasErrors) {P : Prop} [Decidable P]
    (known : P → hasErrors = true) :
    Bears (if P then b.markError else b) s label? id hasErrors := by
  by_cases erroneous : P
  · rw [if_pos erroneous, known erroneous]
    exact bears.markError
  · rw [if_neg erroneous]
    exact bears

private theorem ok_of_map_some {x : Except ε (α × β)} {a : α} {b : β}
    (mapped : x.map (fun (a, b) => (some a, b)) = .ok (some a, b)) : x = .ok (a, b) := by
  cases x with
  | error e => cases mapped
  | ok y =>
      cases mapped
      rfl

theorem startSpanned (bears : Bears b s label? id hasErrors) (room : s.HasRoom) (kind : Kind)
    (composite : kind.isToken = false) (rawKind : String) (span : Span) :
    ∃ n b', b.startSpanned kind rawKind span = .ok (n, b') ∧
      Bears b' (.inside s label? kind (some (rawKind, span)) []) none id hasErrors := by
  obtain ⟨b', made, known, unlabelled⟩ := bears.start room composite (some (rawKind, span))
  have started := ok_of_map_some made
  have same := Builder.sameMarks_startSpanned started
  rw [bears.label] at known
  exact ⟨_, b', started, known, unlabelled, same.id.trans bears.id_eq,
    same.hasErrors.trans bears.hasErrors_eq⟩

theorem tokenRaw (bears : Bears b s label? id hasErrors) (room : s.HasRoom) (kind : Kind)
    (token : kind.isToken) (rawKind text : String) (span : Span) :
    ∃ n b', b.tokenRaw kind rawKind text span = .ok (n, b') ∧
      Bears b' (s.add (.leaf label? kind (some rawKind) text span)) none id hasErrors := by
  obtain ⟨b', made, known, unlabelled⟩ := bears.token room token (some rawKind) text span
  have added := ok_of_map_some made
  have same := Builder.sameMarks_tokenRaw added
  rw [bears.label] at known
  exact ⟨_, b', added, known, unlabelled, same.id.trans bears.id_eq,
    same.hasErrors.trans bears.hasErrors_eq⟩

theorem finishNode {outer : Scaffold} {field? : Option String} {kind : Kind}
    {given? : Option (String × Span)} {trees : List Nested}
    (bears : Bears b (.inside outer field? kind given? trees) none id hasErrors) :
    ∃ n b', b.finishNode = .ok (n, b') ∧
      Bears b' (outer.add (.node field? kind given? trees)) none id hasErrors := by
  obtain ⟨b', made, known, unlabelled⟩ := bears.toRepresents.finishNode
  have closed := ok_of_map_some made
  have same := Builder.sameMarks_finishNode closed
  exact ⟨_, b', closed, known, unlabelled.trans bears.label, same.id.trans bears.id_eq,
    same.hasErrors.trans bears.hasErrors_eq⟩

theorem finish {tree : Nested} (bears : Bears b (.ground [tree]) none id hasErrors) :
    ∃ t, b.finish = .ok t ∧ t.nodes.toList = Nested.lay none 0 (Nested.settle .empty tree).1 ∧
      t.id = id ∧ t.hasErrors = hasErrors := by
  have some : 0 < b.nodes.size := by
    rw [bears.size]
    exact Nat.lt_of_lt_of_eq tree.size_pos (Nat.add_zero _).symm
  obtain ⟨t, finished, _⟩ := Builder.finish_of_closed bears.opened some
  obtain ⟨root, same, _, records⟩ := bears.toRepresents.finish finished
  cases same
  have marks := Builder.marks_of_finish finished
  exact ⟨t, finished, records, marks.1.trans bears.id_eq, marks.2.trans bears.hasErrors_eq⟩

end Bears

end TreeLint.Tree

namespace TreeLint.Java.Lowering

open TreeLint.Tree

/-- The tree of a composite phrase.  The body of a class without a name is wrapped in the class. -/
def phraseTree (parent : String) (c : Concrete) (kind : Kind) (children : List Nested) : Nested :=
  if c.raw == "class_body" && anonymousClassParents.contains parent then
    .node c.head.field? .class (some (anonymousClass, c.span))
      [.node (some "body") kind (some (c.raw, c.span)) children]
  else .node c.head.field? kind (some (c.raw, c.span)) children

def leafTree (parent : String) (first : Bool) (c : Concrete) : Nested :=
  if c.raw == ";" &&
      (statementContainers.contains parent || c.head.field?.any statementFields.contains) then
    .node c.head.field? .emptyStatement (some ("empty_statement", c.span))
      [.leaf none .semicolon (some c.raw) c.head.text c.span]
  else
    let endsConstants := c.raw == ";" && parent == splicedRaw && first
    .leaf c.head.field? (if endsConstants then .punctuator else leafKind c) (some c.raw)
      c.head.text c.span

mutual
/-- The trees that a phrase becomes inside a phrase of the given name: none for a comment, those of
its children for a phrase that is spliced, and one for any other. -/
def lowered (parent : String) (first : Bool) : Concrete → List Nested
  | .node head children =>
      let c := Concrete.node head children
      if c.isComment then []
      else if head.raw == splicedRaw then loweredAll head.raw true children
      else
        match compositeKind? c with
        | some kind => [phraseTree parent c kind (loweredAll head.raw true children)]
        | none => [leafTree parent first c]

def loweredAll (parent : String) (first : Bool) : List Concrete → List Nested
  | [] => []
  | c :: rest => lowered parent first c ++ loweredAll parent false rest
end

section Cases

variable {parent : String} {first : Bool} {c : Concrete}

theorem lowered_comment (comment : c.isComment = true) : lowered parent first c = [] := by
  obtain ⟨head, children⟩ := c
  rw [lowered, if_pos comment]

theorem lowered_spliced (code : c.isComment = false) (spliced : c.raw = splicedRaw) :
    lowered parent first c = loweredAll c.raw true c.children := by
  obtain ⟨head, children⟩ := c
  have spliced : head.raw = splicedRaw := spliced
  rw [lowered, code, if_neg Bool.false_ne_true, if_pos (beq_iff_eq.2 spliced)]
  rfl

theorem lowered_phrase (code : c.isComment = false) (whole : c.raw ≠ splicedRaw) {kind : Kind}
    (composite : compositeKind? c = some kind) :
    lowered parent first c = [phraseTree parent c kind (loweredAll c.raw true c.children)] := by
  obtain ⟨head, children⟩ := c
  have whole : head.raw ≠ splicedRaw := whole
  rw [lowered, code, if_neg Bool.false_ne_true, if_neg (mt beq_iff_eq.1 whole), composite]
  rfl

theorem lowered_leaf (code : c.isComment = false) (whole : c.raw ≠ splicedRaw)
    (leaf : compositeKind? c = none) : lowered parent first c = [leafTree parent first c] := by
  obtain ⟨head, children⟩ := c
  have whole : head.raw ≠ splicedRaw := whole
  rw [lowered, code, if_neg Bool.false_ne_true, if_neg (mt beq_iff_eq.1 whole), leaf]

end Cases

section Enter

variable {s : State} {scaffold : Scaffold} {id : TreeId} {hasErrors : Bool} {c : Concrete}

theorem enter_comment (comment : c.isComment = true) (first : Bool) :
    s.enter c first = .ok (s, false) := by
  rw [State.enter, if_pos comment]

theorem enter_spliced (code : c.isComment = false) (spliced : c.raw = splicedRaw) (first : Bool) :
    s.enter c first = .ok (s.push s.builder c.raw 0, true) := by
  rw [State.enter, code, if_neg Bool.false_ne_true, if_pos (beq_iff_eq.2 spliced)]

@[simp] private theorem ok_bind (a : α) (f : α → Except ε β) : (Except.ok a >>= f) = f a := rfl

/-- What was made up is marked, and the label of a phrase is set, before its first node. -/
theorem exists_labelled (bears : Bears s.builder scaffold none id hasErrors)
    (code : c.isComment = false) (whole : c.raw ≠ splicedRaw)
    (known : c.hasError = true → hasErrors = true) (first : Bool) :
    ∃ b, Bears b scaffold c.head.field? id hasErrors ∧
      s.enter c first =
        match compositeKind? c with
        | some kind => (s.openComposite b kind c.raw c.span).map (·, true)
        | none => (s.addLeaf b c first).map (·, false) := by
  have missing : c.head.missing = true → hasErrors = true :=
    fun missing => known (Concrete.hasError_of_missing missing)
  have notComment : ¬c.isComment = true := Bool.eq_false_iff.1 code
  refine ⟨_, (bears.markErrorIf missing).field? c.head.field?, ?_⟩
  exact (if_neg notComment).trans (if_neg (mt beq_iff_eq.1 whole))

theorem enter_leaf (bears : Bears s.builder scaffold none id hasErrors) (room : scaffold.HasRoom)
    (code : c.isComment = false) (whole : c.raw ≠ splicedRaw) (leaf : compositeKind? c = none)
    (known : c.hasError = true → hasErrors = true) (first : Bool) :
    ∃ b', s.enter c first = .ok (⟨b', s.frames⟩, false) ∧
      Bears b' (scaffold.add (leafTree s.parentRaw first c)) none id hasErrors := by
  obtain ⟨b₁, labelled, entered⟩ := exists_labelled bears code whole known first
  rw [entered, leaf]
  dsimp only
  unfold State.addLeaf leafTree State.isStatementPosition
  split
  · obtain ⟨_, b₂, started, inside⟩ :=
      labelled.startSpanned room .emptyStatement rfl "empty_statement" c.span
    obtain ⟨_, b₃, added, filled⟩ :=
      inside.tokenRaw trivial .semicolon rfl c.raw c.head.text c.span
    obtain ⟨_, b₄, closed, done⟩ := filled.finishNode
    refine ⟨b₄, ?_, done⟩
    simp only [started, added, closed, ok_bind]
    rfl
  next statement =>
    have token : (if c.raw == ";" && s.parentRaw == splicedRaw && first then Kind.punctuator
        else leafKind c).isToken := by
      split
      · rfl
      · exact isToken_leafKind c
    obtain ⟨_, b₂, added, done⟩ :=
      labelled.tokenRaw room _ token c.raw c.head.text c.span
    refine ⟨b₂, ?_, done⟩
    simp only [added, ok_bind]
    rfl

/-- So many open nodes are those of a phrase: once the trees below it are added, closing the nodes
leaves the tree of the phrase. -/
def Awaits (b : Builder) (opened : Nat) (scaffold : Scaffold) (id : TreeId) (hasErrors : Bool)
    (tree : List Nested → Nested) : Prop :=
  ∃ inner : Scaffold, inner.IsInside ∧ Bears b inner none id hasErrors ∧
    ∀ filled trees, Bears filled (inner.addAll trees) none id hasErrors →
      ∃ done, State.finishNodes filled opened = .ok done ∧
        Bears done (scaffold.add (tree trees)) none id hasErrors

theorem openComposite_awaits {b : Builder} (bears : Bears b scaffold c.head.field? id hasErrors)
    (room : scaffold.HasRoom) {kind : Kind} (composite : kind.isToken = false)
    (known : kind = .error → hasErrors = true) :
    ∃ b' opened, s.openComposite b kind c.raw c.span = .ok (s.push b' c.raw opened) ∧
      Awaits b' opened scaffold id hasErrors (phraseTree s.parentRaw c kind) := by
  have marked := bears.markErrorIf known
  unfold State.openComposite phraseTree State.opensAnonymousClass
  dsimp only
  split
  · obtain ⟨_, b₁, outside, wrapped⟩ :=
      marked.startSpanned room .class rfl anonymousClass c.span
    obtain ⟨_, b₂, started, inside⟩ :=
      (wrapped.field "body").startSpanned trivial kind composite c.raw c.span
    refine ⟨b₂, 2, ?_, _, ?_, inside, ?_⟩
    · simp only [outside, started, ok_bind]
      rfl
    · trivial
    · intro filled trees full
      rw [Scaffold.addAll_inside] at full
      obtain ⟨_, b₃, closed, around⟩ := full.finishNode
      obtain ⟨_, b₄, shut, done⟩ := around.finishNode
      refine ⟨b₄, ?_, done⟩
      simp only [State.finishNodes, closed, shut, ok_bind]
  · obtain ⟨_, b₁, started, inside⟩ := marked.startSpanned room kind composite c.raw c.span
    refine ⟨b₁, 1, ?_, _, ?_, inside, ?_⟩
    · simp only [started, ok_bind]
      rfl
    · trivial
    · intro filled trees full
      rw [Scaffold.addAll_inside] at full
      obtain ⟨_, b₂, closed, done⟩ := full.finishNode
      refine ⟨b₂, ?_, done⟩
      simp only [State.finishNodes, closed, ok_bind]

theorem enter_composite (bears : Bears s.builder scaffold none id hasErrors)
    (room : scaffold.HasRoom) (code : c.isComment = false) (whole : c.raw ≠ splicedRaw)
    {kind : Kind} (composite : compositeKind? c = some kind)
    (known : c.hasError = true → hasErrors = true) (first : Bool) :
    ∃ b' opened, s.enter c first = .ok (s.push b' c.raw opened, true) ∧
      Awaits b' opened scaffold id hasErrors (phraseTree s.parentRaw c kind) := by
  have isError : kind = .error → hasErrors = true := by
    rintro rfl
    exact known (Concrete.hasError_of_isError (isError_of_compositeKind composite))
  obtain ⟨b₁, labelled, entered⟩ := exists_labelled bears code whole known first
  obtain ⟨b₂, opened, made, awaits⟩ :=
    openComposite_awaits labelled room (isToken_compositeKind composite) isError
  refine ⟨b₂, opened, ?_, awaits⟩
  rw [entered, composite]
  dsimp only
  rw [made]
  rfl

end Enter

mutual
theorem visit_adds {s : State} {scaffold : Scaffold} {id : TreeId} {hasErrors : Bool}
    (bears : Bears s.builder scaffold none id hasErrors) (room : scaffold.HasRoom) (first : Bool) :
    (c : Concrete) → (c.raw = splicedRaw → scaffold.IsInside) →
    (c.hasError = true → hasErrors = true) →
    ∃ b', visit s first c = .ok ⟨b', s.frames⟩ ∧
      Bears b' (scaffold.addAll (lowered s.parentRaw first c)) none id hasErrors
  | .node head children, inside, known => by
      have below : Concrete.anyError children = true → hasErrors = true := by
        intro erroneous
        apply known
        rw [Concrete.hasError, erroneous, Bool.or_true]
      rw [lowered]
      cases code : (Concrete.node head children).isComment with
      | true => exact ⟨s.builder, visit_of_passed (enter_comment code first), bears⟩
      | false =>
          by_cases spliced : head.raw = splicedRaw
          · rw [if_neg Bool.false_ne_true, if_pos (beq_iff_eq.2 spliced)]
            -- Its frame has no nodes to close, so its children stand where it would have stood.
            obtain ⟨b', visited, filled⟩ := visitAll_adds (s := s.push s.builder head.raw 0) bears
              (inside spliced) true children below
            exact ⟨b', visit_of_closed (enter_spliced code spliced first) visited rfl, filled⟩
          · rw [if_neg Bool.false_ne_true, if_neg (mt beq_iff_eq.1 spliced)]
            cases composite : compositeKind? (.node head children) with
            | none =>
                obtain ⟨b', entered, added⟩ :=
                  enter_leaf bears room code spliced composite known first
                exact ⟨b', visit_of_passed entered, added⟩
            | some kind =>
                obtain ⟨b₁, opened, entered, inner, isInside, started, closes⟩ :=
                  enter_composite bears room code spliced composite known first
                obtain ⟨b₂, visited, filled⟩ :=
                  visitAll_adds (s := s.push b₁ head.raw opened) started isInside true children
                    below
                obtain ⟨b₃, closed, added⟩ := closes b₂ _ filled
                exact ⟨b₃, visit_of_closed entered visited closed, added⟩

theorem visitAll_adds {s : State} {scaffold : Scaffold} {id : TreeId} {hasErrors : Bool}
    (bears : Bears s.builder scaffold none id hasErrors) (inside : scaffold.IsInside)
    (first : Bool) : (phrases : List Concrete) →
    (Concrete.anyError phrases = true → hasErrors = true) →
    ∃ b', visitAll s first phrases = .ok ⟨b', s.frames⟩ ∧
      Bears b' (scaffold.addAll (loweredAll s.parentRaw first phrases)) none id hasErrors
  | [], _ => ⟨s.builder, rfl, bears⟩
  | c :: rest, known => by
      obtain ⟨b₁, visited, added⟩ := visit_adds bears inside.hasRoom first c (fun _ => inside)
        fun erroneous => known (by rw [Concrete.anyError, erroneous, Bool.true_or])
      obtain ⟨b₂, others, filled⟩ :=
        visitAll_adds (s := ⟨b₁, s.frames⟩) added (inside.addAll _) false rest fun erroneous =>
          known (by rw [Concrete.anyError, erroneous, Bool.or_true])
      refine ⟨b₂, ?_, ?_⟩
      · rw [visitAll, visited]
        exact others
      · rw [loweredAll, Scaffold.addAll_append]
        exact filled
end

theorem exists_lowered_eq (parent : String) (first : Bool) {c : Concrete}
    (code : c.isComment = false) (whole : c.raw ≠ splicedRaw) :
    ∃ tree, lowered parent first c = [tree] := by
  obtain ⟨head, children⟩ := c
  have whole : ¬(head.raw == splicedRaw) = true := mt beq_iff_eq.1 whole
  rw [lowered, code, if_neg Bool.false_ne_true, if_neg whole]
  cases compositeKind? (.node head children) with
  | none => exact ⟨_, rfl⟩
  | some kind => exact ⟨_, rfl⟩

theorem exists_lower_eq_ok (id : TreeId) {root : Concrete} (code : root.isComment = false)
    (whole : root.raw ≠ splicedRaw) :
    ∃ tree t, lowered "" true root = [tree] ∧ root.lower id = .ok t ∧
      t.nodes.toList = Nested.lay none 0 (Nested.settle .empty tree).1 ∧ t.id = id ∧
      t.hasErrors = root.hasError := by
  obtain ⟨tree, becomes⟩ := exists_lowered_eq "" true code whole
  obtain ⟨b₀, start, blank⟩ : ∃ b₀, (if root.hasError then (Builder.new id).markError else .new id)
      = b₀ ∧ Bears b₀ (.ground []) none id root.hasError := by
    refine ⟨_, rfl, ?_⟩
    cases root.hasError with
    | false => exact .new id
    | true => exact (Bears.new id).markError
  obtain ⟨b₁, visited, filled⟩ := visit_adds (s := ⟨b₀, []⟩) blank rfl true root
    (fun spliced => absurd spliced whole) fun erroneous => erroneous
  rw [show State.parentRaw ⟨b₀, []⟩ = "" from rfl, becomes] at filled
  obtain ⟨t, finished, records, marks⟩ := Bears.finish filled
  refine ⟨tree, t, becomes, ?_, records, marks⟩
  rw [Concrete.lower, start, run_eq_visitFrom, visitFrom, visited]
  exact finished

end TreeLint.Java.Lowering

namespace TreeLint.Java

open TreeLint.Tree Lowering

/-- The cursor's loop ends without an error, and its tree is that of the recursion. -/
theorem lower_reads_lowered (id : TreeId) {root : Concrete} (code : root.isComment = false)
    (whole : root.raw ≠ splicedRaw) :
    ∃ tree t, lowered "" true root = [tree] ∧ root.lower id = .ok t ∧ t.root.Reads tree ∧
      t.size = tree.size ∧ t.id = id ∧ t.hasErrors = root.hasError := by
  obtain ⟨tree, t, becomes, made, records, marks⟩ := exists_lower_eq_ok id code whole
  refine ⟨tree, t, becomes, made, Stands.reads tree (stands_root records), ?_, marks⟩
  rw [Tree.size, ← Array.length_toList, records, Nested.length_lay, Nested.size_settle]

def firstLine (startByte endByte : Nat) : Span :=
  ⟨startByte, endByte, 1, startByte + 1, 1, endByte + 1⟩

def sample (raw : String) (named : Bool) (text : String) (startByte endByte : Nat) : Head :=
  ⟨raw, named, false, none, text, firstLine startByte endByte⟩

def constantAndBlock : Concrete :=
  .node (sample "enum_body" true "" 0 10) [
    .node (sample "enum_constant" true "" 0 2) [
      .node (sample "identifier" true "A" 0 1) [],
      .node (sample "class_body" true "" 1 2) [.node (sample ";" false ";" 1 2) []]],
    .node (sample "block_comment" true "/**/" 2 6) [],
    .node (sample "enum_body_declarations" true "" 6 10) [
      .node (sample ";" false ";" 6 7) [],
      .node (sample "block" true "" 7 10) [.node (sample ";" false ";" 8 9) []]]]

def constantAndBlockTree : Nested :=
  .node none .classBody (some ("enum_body", firstLine 0 10)) [
    .node none .other (some ("enum_constant", firstLine 0 2)) [
      .leaf none .identifier (some "identifier") "A" (firstLine 0 1),
      .node none .class (some (anonymousClass, firstLine 1 2)) [
        .node (some "body") .classBody (some ("class_body", firstLine 1 2)) [
          .leaf none .semicolon (some ";") ";" (firstLine 1 2)]]],
    .leaf none .punctuator (some ";") ";" (firstLine 6 7),
    .node none .block (some ("block", firstLine 7 10)) [
      .node none .emptyStatement (some ("empty_statement", firstLine 8 9)) [
        .leaf none .semicolon (some ";") ";" (firstLine 8 9)]]]

theorem constantAndBlock_reads :
    constantAndBlock.isComment = false ∧ constantAndBlock.raw ≠ splicedRaw ∧
      ∃ t, constantAndBlock.lower ⟨0⟩ = .ok t ∧ t.root.Reads constantAndBlockTree ∧
        t.size = 10 ∧ t.hasErrors = false := by
  have code : constantAndBlock.isComment = false := by decide
  have whole : constantAndBlock.raw ≠ splicedRaw := by decide
  have own : ownKind? "enum_body" = some .classBody ∧ ownKind? "enum_constant" = none ∧
      ownKind? "identifier" = none ∧ ownKind? "class_body" = some .classBody ∧
      ownKind? ";" = none ∧ ownKind? "block" = some .block := by decide
  have plain : "enum_constant".endsWith "_expression" = false := by decide +kernel
  have known : lowered "" true constantAndBlock = [constantAndBlockTree] := by
    simp [constantAndBlock, constantAndBlockTree, sample, lowered, loweredAll, Concrete.isComment,
      Concrete.raw, Concrete.head, Concrete.children, Concrete.span, compositeKind?, own, plain,
      phraseTree, leafTree, splicedRaw, anonymousClassParents, expressionNames, statementContainers,
      statementFields, leafKind, Kind.ofTokenText]
  obtain ⟨tree, t, becomes, made, reads, size, _, errors⟩ := lower_reads_lowered ⟨0⟩ code whole
  cases known.symm.trans becomes
  exact ⟨code, whole, t, made, reads, size, errors⟩

end TreeLint.Java

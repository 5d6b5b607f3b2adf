import TreeLint.Tree.Basic

/-! Building a tree from the top: open a node, add its children, close it.  A call that fails
leaves the builder as it was. -/

namespace TreeLint

namespace LinksOrdered

theorem empty : LinksOrdered #[] where
  child_after := by simp
  parent_before := by simp

theorem push {nodes : Array NodeRecord} (h : LinksOrdered nodes) {r : NodeRecord}
    (hchildren : r.children = #[]) (hparent : ∀ p, r.parent? = some p → p < nodes.size) :
    LinksOrdered (nodes.push r) where
  child_after i s hs c hc := by
    rw [Array.getElem?_push] at hs
    split at hs
    · cases hs
      simp [hchildren] at hc
    · have := h.child_after i s hs c hc
      rw [Array.size_push]
      omega
  parent_before i s hs p hp := by
    rw [Array.getElem?_push] at hs
    split at hs
    · cases hs
      subst_vars
      exact hparent p hp
    · exact h.parent_before i s hs p hp

theorem modify {nodes : Array NodeRecord} {at' : Nat} {f : NodeRecord → NodeRecord}
    (h : LinksOrdered nodes) (hparent : ∀ r, (f r).parent? = r.parent?)
    (hchildren : ∀ r, nodes[at']? = some r → ∀ c ∈ (f r).children, at' < c ∧ c < nodes.size) :
    LinksOrdered (nodes.modify at' f) where
  child_after i s hs c hc := by
    rw [Array.getElem?_modify] at hs
    rw [Array.size_modify]
    split at hs
    · subst_vars
      obtain ⟨r, hr, rfl⟩ := Option.map_eq_some_iff.1 hs
      exact hchildren r hr c hc
    · exact h.child_after i s hs c hc
  parent_before i s hs p hp := by
    rw [Array.getElem?_modify] at hs
    split at hs
    · subst_vars
      obtain ⟨r, hr, rfl⟩ := Option.map_eq_some_iff.1 hs
      rw [hparent] at hp
      exact h.parent_before _ r hr p hp
    · exact h.parent_before i s hs p hp

end LinksOrdered

namespace Tree

structure OpenNode where
  index : Nat
  spanned : Bool
  deriving DecidableEq, Repr

structure Builder where
  id : TreeId
  nodes : Array NodeRecord
  /-- Open nodes, the innermost first. -/
  opened : List OpenNode
  pendingField? : Option String
  lastSpan : Span
  hasErrors : Bool
  links : LinksOrdered nodes
  opened_lt : ∀ o ∈ opened, o.index < nodes.size

namespace Builder

def new (id : TreeId) : Builder where
  id
  nodes := #[]
  opened := []
  pendingField? := none
  lastSpan := .empty
  hasErrors := false
  links := .empty
  opened_lt := by simp

def field (b : Builder) (name : String) : Builder := { b with pendingField? := some name }

def markError (b : Builder) : Builder := { b with hasErrors := true }

/-- The node that the next one becomes a child of. -/
def parent? (b : Builder) : Option Nat := b.opened.head?.map (·.index)

theorem parent?_lt {b : Builder} {p : Nat} (h : b.parent? = some p) : p < b.nodes.size := by
  obtain ⟨o, ho, rfl⟩ := Option.map_eq_some_iff.1 h
  exact b.opened_lt o (List.mem_of_head? ho)

private def addChild (child : Nat) (r : NodeRecord) : NodeRecord :=
  { r with children := r.children.push child }

private def attach (nodes : Array NodeRecord) (parent? : Option Nat) (r : NodeRecord) :
    Array NodeRecord :=
  match parent? with
  | some p => (nodes.push r).modify p (addChild nodes.size)
  | none => nodes.push r

@[simp] private theorem size_attach (nodes : Array NodeRecord) (parent? : Option Nat)
    (r : NodeRecord) :
    (attach nodes parent? r).size = nodes.size + 1 := by
  cases parent? <;> simp [attach]

private theorem links_attach {nodes : Array NodeRecord} {parent? : Option Nat} {r : NodeRecord}
    (h : LinksOrdered nodes) (hchildren : r.children = #[]) (hparent : r.parent? = parent?)
    (hlt : ∀ p, parent? = some p → p < nodes.size) : LinksOrdered (attach nodes parent? r) := by
  have hpush : LinksOrdered (nodes.push r) := h.push hchildren (hparent ▸ hlt)
  cases parent? with
  | none => exact hpush
  | some p =>
      have hp := hlt p rfl
      refine hpush.modify (fun _ => rfl) fun s hs c hc => ?_
      rcases Array.mem_push.1 hc with hmem | rfl
      · exact hpush.child_after p s hs c hmem
      · rw [Array.size_push]
        omega

/-- A token to add, or the head of a composite node to open. -/
private structure Draft where
  kind : Kind
  rawKind : String
  token? : Option Token
  span : Span

/-- Appends a node under the innermost open one and uses up the pending field. -/
private def append (b : Builder) (draft : Draft) : Except TreeError Builder :=
  if b.opened.isEmpty && !b.nodes.isEmpty then .error .multipleRoots
  else
    .ok { b with
      nodes := attach b.nodes b.parent? {
        kind := draft.kind
        rawKind := draft.rawKind
        field? := b.pendingField?
        parent? := b.parent?
        children := #[]
        token? := draft.token?
        span := draft.span }
      pendingField? := none
      links := links_attach b.links rfl rfl fun _ => parent?_lt
      opened_lt := fun o ho => by
        have := b.opened_lt o ho
        rw [size_attach]
        omega }

private theorem size_append {b b' : Builder} {draft : Draft} (h : b.append draft = .ok b') :
    b'.nodes.size = b.nodes.size + 1 := by
  unfold append at h
  split at h
  · cases h
  · cases h
    exact size_attach ..

private def openNode (b : Builder) (kind : Kind) (rawKind : String) (span? : Option Span) :
    Except TreeError (Nat × Builder) :=
  if kind.isToken then .error (.tokenKindAsComposite kind)
  else
    match h : b.append ⟨kind, rawKind, none, span?.getD .empty⟩ with
    | .error e => .error e
    | .ok b' =>
        .ok (b.nodes.size, { b' with
          opened := ⟨b.nodes.size, span?.isSome⟩ :: b'.opened
          opened_lt := fun o ho => by
            rcases List.mem_cons.1 ho with rfl | ho
            · rw [size_append h]
              exact Nat.lt_succ_self _
            · exact b'.opened_lt o ho })

def startNode (b : Builder) (kind : Kind) : Except TreeError (Nat × Builder) :=
  b.openNode kind kind.name none

def startSpanned (b : Builder) (kind : Kind) (rawKind : String) (span : Span) :
    Except TreeError (Nat × Builder) :=
  b.openNode kind rawKind (some span)

def tokenRaw (b : Builder) (kind : Kind) (rawKind text : String) (span : Span) :
    Except TreeError (Nat × Builder) :=
  if kind.isToken then
    (b.append ⟨kind, rawKind, some ⟨text, span⟩, span⟩).map fun b' =>
      (b.nodes.size, { b' with lastSpan := span })
  else .error (.compositeKindAsToken kind)

def token (b : Builder) (kind : Kind) (text : String) (span : Span) :
    Except TreeError (Nat × Builder) :=
  b.tokenRaw kind kind.name text span

/-- From the first child's start to the last child's end.  A node without children sits where
the last token ended. -/
def derivedSpan (b : Builder) (index : Nat) : Span :=
  let children := (b.nodes[index]?.map (·.children)).getD #[]
  match children[0]?.bind (b.nodes[·]?), children.back?.bind (b.nodes[·]?) with
  | some first, some last => first.span.cover last.span
  | _, _ => b.lastSpan.endPoint

private def setSpan (span : Span) (r : NodeRecord) : NodeRecord := { r with span }

def finishNode (b : Builder) : Except TreeError (Nat × Builder) :=
  match h : b.opened with
  | [] => .error .noOpenNode
  | o :: rest =>
      let hrest : ∀ p ∈ rest, p.index < b.nodes.size := fun p hp =>
        b.opened_lt p (h ▸ List.mem_cons_of_mem _ hp)
      if o.spanned then .ok (o.index, { b with opened := rest, opened_lt := hrest })
      else
        let span := b.derivedSpan o.index
        .ok (o.index, { b with
          nodes := b.nodes.modify o.index (setSpan span)
          opened := rest
          links := b.links.modify (fun _ => rfl) fun r hr => b.links.child_after _ r hr
          opened_lt := by simpa using hrest })

def finish (b : Builder) : Except TreeError Tree :=
  if !b.opened.isEmpty then .error (.unclosed b.opened.length)
  else if h : 0 < b.nodes.size then .ok ⟨b.id, b.nodes, b.hasErrors, h, b.links⟩
  else .error .empty

/-- Only the first node can stand outside of all others. -/
def HasRoom (b : Builder) : Prop := b.opened = [] → b.nodes = #[]

def listChild (records : List NodeRecord) (parent? : Option Nat) (child : Nat) :
    List NodeRecord :=
  match parent? with
  | some p => records.modify p fun r => { r with children := r.children.push child }
  | none => records

/-- The second builder has a record more: the last one, which is also the last child of the
innermost open node. -/
structure Adds (b : Builder) (r : NodeRecord) (b' : Builder) : Prop where
  nodes : b'.nodes.toList = listChild b.nodes.toList b.parent? b.nodes.size ++ [r]
  pendingField? : b'.pendingField? = none

private theorem modify_append_of_lt {xs : List α} {i : Nat} (inside : i < xs.length)
    (ys : List α) (f : α → α) : (xs ++ ys).modify i f = xs.modify i f ++ ys := by
  induction xs generalizing i with
  | nil => cases inside
  | cons x xs ih =>
      cases i with
      | zero => rfl
      | succ i => exact congrArg (x :: ·) (ih (Nat.lt_of_succ_lt_succ inside))

private theorem toList_attach {nodes : Array NodeRecord} {parent? : Option Nat}
    (inside : ∀ p, parent? = some p → p < nodes.size) (r : NodeRecord) :
    (attach nodes parent? r).toList = listChild nodes.toList parent? nodes.size ++ [r] := by
  cases parent? with
  | none => exact Array.toList_push
  | some p =>
      rw [attach, Array.toList_modify, Array.toList_push]
      exact modify_append_of_lt (inside p rfl) [r] _

private theorem append_of_room {b : Builder} (room : b.HasRoom) (draft : Draft) :
    ∃ b', b.append draft = .ok b' ∧
      Adds b ⟨draft.kind, draft.rawKind, b.pendingField?, b.parent?, #[], draft.token?, draft.span⟩
        b' ∧
      b'.opened = b.opened ∧ b'.lastSpan = b.lastSpan := by
  have placed : (b.opened.isEmpty && !b.nodes.isEmpty) = false := by
    cases opened : b.opened with
    | nil => simp [room opened]
    | cons o rest => rfl
  rw [append, placed, if_neg Bool.false_ne_true]
  exact ⟨_, rfl, ⟨toList_attach (fun _ => parent?_lt) _, rfl⟩, rfl, rfl⟩

private theorem room_of_append {b b' : Builder} {draft : Draft} (h : b.append draft = .ok b') :
    b.HasRoom := by
  intro closed
  unfold append at h
  split at h
  · cases h
  next placed => simpa [closed] using placed

private theorem openNode_of_room {b : Builder} {kind : Kind} (composite : kind.isToken = false)
    (room : b.HasRoom) (rawKind : String) (span? : Option Span) :
    ∃ b', b.openNode kind rawKind span? = .ok (b.nodes.size, b') ∧
      Adds b ⟨kind, rawKind, b.pendingField?, b.parent?, #[], none, span?.getD .empty⟩ b' ∧
      b'.opened = ⟨b.nodes.size, span?.isSome⟩ :: b.opened ∧ b'.lastSpan = b.lastSpan := by
  obtain ⟨b', appended, adds, opened, lastSpan⟩ :=
    append_of_room room ⟨kind, rawKind, none, span?.getD .empty⟩
  unfold openNode
  rw [composite, if_neg Bool.false_ne_true]
  split
  next failed =>
    rw [appended] at failed
    cases failed
  next found =>
    rw [appended] at found
    cases found
    exact ⟨_, rfl, ⟨adds.nodes, adds.pendingField?⟩, congrArg (_ :: ·) opened, lastSpan⟩

private theorem room_of_openNode {b : Builder} {kind : Kind} {rawKind : String}
    {span? : Option Span} {x : Nat × Builder} (h : b.openNode kind rawKind span? = .ok x) :
    kind.isToken = false ∧ b.HasRoom := by
  unfold openNode at h
  split at h
  · cases h
  next composite =>
    split at h
    · cases h
    next appended => exact ⟨Bool.eq_false_iff.2 composite, room_of_append appended⟩

theorem startNode_of_room {b : Builder} {kind : Kind} (composite : kind.isToken = false)
    (room : b.HasRoom) :
    ∃ b', b.startNode kind = .ok (b.nodes.size, b') ∧
      Adds b ⟨kind, kind.name, b.pendingField?, b.parent?, #[], none, .empty⟩ b' ∧
      b'.opened = ⟨b.nodes.size, false⟩ :: b.opened ∧ b'.lastSpan = b.lastSpan :=
  openNode_of_room composite room kind.name none

theorem room_of_startNode {b : Builder} {kind : Kind} {x : Nat × Builder}
    (h : b.startNode kind = .ok x) : kind.isToken = false ∧ b.HasRoom :=
  room_of_openNode h

theorem startSpanned_of_room {b : Builder} {kind : Kind} (composite : kind.isToken = false)
    (room : b.HasRoom) (rawKind : String) (span : Span) :
    ∃ b', b.startSpanned kind rawKind span = .ok (b.nodes.size, b') ∧
      Adds b ⟨kind, rawKind, b.pendingField?, b.parent?, #[], none, span⟩ b' ∧
      b'.opened = ⟨b.nodes.size, true⟩ :: b.opened ∧ b'.lastSpan = b.lastSpan :=
  openNode_of_room composite room rawKind (some span)

theorem room_of_startSpanned {b : Builder} {kind : Kind} {rawKind : String} {span : Span}
    {x : Nat × Builder} (h : b.startSpanned kind rawKind span = .ok x) :
    kind.isToken = false ∧ b.HasRoom :=
  room_of_openNode h

theorem tokenRaw_of_room {b : Builder} {kind : Kind} (token : kind.isToken) (room : b.HasRoom)
    (rawKind text : String) (span : Span) :
    ∃ b', b.tokenRaw kind rawKind text span = .ok (b.nodes.size, b') ∧
      Adds b ⟨kind, rawKind, b.pendingField?, b.parent?, #[], some ⟨text, span⟩, span⟩ b' ∧
      b'.opened = b.opened ∧ b'.lastSpan = span := by
  obtain ⟨b', appended, adds, opened, _⟩ :=
    append_of_room room ⟨kind, rawKind, some ⟨text, span⟩, span⟩
  rw [tokenRaw, if_pos token, appended]
  exact ⟨_, rfl, ⟨adds.nodes, adds.pendingField?⟩, opened, rfl⟩

theorem room_of_tokenRaw {b : Builder} {kind : Kind} {rawKind text : String} {span : Span}
    {x : Nat × Builder} (h : b.tokenRaw kind rawKind text span = .ok x) :
    kind.isToken ∧ b.HasRoom := by
  unfold tokenRaw at h
  split at h
  next token =>
    cases appended : b.append ⟨kind, rawKind, some ⟨text, span⟩, span⟩ with
    | error e =>
        rw [appended] at h
        cases h
    | ok b' => exact ⟨token, room_of_append appended⟩
  · cases h

private theorem append_of_full {b : Builder} (full : ¬ b.HasRoom) (draft : Draft) :
    b.append draft = .error .multipleRoots := by
  obtain ⟨closed, placed⟩ := Classical.not_imp.1 full
  have taken : (b.opened.isEmpty && !b.nodes.isEmpty) = true := by simp [closed, placed]
  rw [append, if_pos taken]

private theorem openNode_of_full {b : Builder} {kind : Kind} (composite : kind.isToken = false)
    (full : ¬ b.HasRoom) (rawKind : String) (span? : Option Span) :
    b.openNode kind rawKind span? = .error .multipleRoots := by
  have refused := append_of_full full ⟨kind, rawKind, none, span?.getD .empty⟩
  unfold openNode
  rw [composite, if_neg Bool.false_ne_true]
  split
  next failed =>
    rw [refused] at failed
    cases failed
    rfl
  next appended =>
    rw [refused] at appended
    cases appended

@[simp] theorem startNode_of_token {b : Builder} {kind : Kind} (token : kind.isToken) :
    b.startNode kind = .error (.tokenKindAsComposite kind) :=
  if_pos token

theorem startNode_of_full {b : Builder} {kind : Kind} (composite : kind.isToken = false)
    (full : ¬ b.HasRoom) : b.startNode kind = .error .multipleRoots :=
  openNode_of_full composite full kind.name none

@[simp] theorem startSpanned_of_token {b : Builder} {kind : Kind} (token : kind.isToken)
    (rawKind : String) (span : Span) :
    b.startSpanned kind rawKind span = .error (.tokenKindAsComposite kind) :=
  if_pos token

theorem startSpanned_of_full {b : Builder} {kind : Kind} (composite : kind.isToken = false)
    (full : ¬ b.HasRoom) (rawKind : String) (span : Span) :
    b.startSpanned kind rawKind span = .error .multipleRoots :=
  openNode_of_full composite full rawKind (some span)

theorem tokenRaw_of_composite {b : Builder} {kind : Kind} (composite : kind.isToken = false)
    (rawKind text : String) (span : Span) :
    b.tokenRaw kind rawKind text span = .error (.compositeKindAsToken kind) :=
  if_neg (Bool.eq_false_iff.1 composite)

theorem tokenRaw_of_full {b : Builder} {kind : Kind} (token : kind.isToken)
    (full : ¬ b.HasRoom) (rawKind text : String) (span : Span) :
    b.tokenRaw kind rawKind text span = .error .multipleRoots := by
  rw [tokenRaw, if_pos token, append_of_full full]
  rfl

theorem finishNode_of_closed {b : Builder} (closed : b.opened = []) :
    b.finishNode = .error .noOpenNode := by
  unfold finishNode
  split
  · rfl
  next opened =>
    rw [closed] at opened
    cases opened

theorem finishNode_of_opened {b : Builder} {o : OpenNode} {rest : List OpenNode}
    (opened : b.opened = o :: rest) :
    ∃ b', b.finishNode = .ok (o.index, b') ∧
      b'.nodes.toList = (if o.spanned then b.nodes.toList
        else b.nodes.toList.modify o.index fun r => { r with span := b.derivedSpan o.index }) ∧
      b'.opened = rest ∧ b'.pendingField? = b.pendingField? ∧ b'.lastSpan = b.lastSpan := by
  unfold finishNode
  split
  next closed =>
    rw [opened] at closed
    cases closed
  next found =>
    rw [opened] at found
    cases found
    split
    · exact ⟨_, rfl, rfl, rfl, rfl, rfl⟩
    · exact ⟨_, rfl, Array.toList_modify, rfl, rfl, rfl⟩

theorem finish_eq_ok {b : Builder} {t : Tree} (h : b.finish = .ok t) :
    b.opened = [] ∧ t.nodes = b.nodes := by
  unfold finish at h
  split at h
  · cases h
  next closed =>
    split at h
    · cases h
      exact ⟨by simpa using closed, rfl⟩
    · cases h

theorem finish_of_closed {b : Builder} (closed : b.opened = []) (some : 0 < b.nodes.size) :
    ∃ t, b.finish = .ok t ∧ t.nodes = b.nodes := by
  rw [finish, closed, dif_pos some]
  exact ⟨_, rfl, rfl⟩

structure SameMarks (b b' : Builder) : Prop where
  id : b'.id = b.id
  hasErrors : b'.hasErrors = b.hasErrors

private theorem sameMarks_append {b b' : Builder} {draft : Draft} (h : b.append draft = .ok b') :
    SameMarks b b' := by
  unfold append at h
  split at h
  · cases h
  · cases h
    exact ⟨rfl, rfl⟩

private theorem sameMarks_openNode {b b' : Builder} {kind : Kind} {rawKind : String}
    {span? : Option Span} {n : Nat} (h : b.openNode kind rawKind span? = .ok (n, b')) :
    SameMarks b b' := by
  unfold openNode at h
  split at h
  · cases h
  · split at h
    · cases h
    next appended =>
      cases h
      have same := sameMarks_append appended
      exact ⟨same.id, same.hasErrors⟩

theorem sameMarks_startNode {b b' : Builder} {kind : Kind} {n : Nat}
    (h : b.startNode kind = .ok (n, b')) : SameMarks b b' :=
  sameMarks_openNode h

theorem sameMarks_startSpanned {b b' : Builder} {kind : Kind} {rawKind : String} {span : Span}
    {n : Nat} (h : b.startSpanned kind rawKind span = .ok (n, b')) : SameMarks b b' :=
  sameMarks_openNode h

theorem sameMarks_tokenRaw {b b' : Builder} {kind : Kind} {rawKind text : String} {span : Span}
    {n : Nat} (h : b.tokenRaw kind rawKind text span = .ok (n, b')) : SameMarks b b' := by
  unfold tokenRaw at h
  split at h
  · cases appended : b.append ⟨kind, rawKind, some ⟨text, span⟩, span⟩ with
    | error e =>
        rw [appended] at h
        cases h
    | ok left =>
        rw [appended] at h
        cases h
        have same := sameMarks_append appended
        exact ⟨same.id, same.hasErrors⟩
  · cases h

theorem sameMarks_finishNode {b b' : Builder} {n : Nat} (h : b.finishNode = .ok (n, b')) :
    SameMarks b b' := by
  unfold finishNode at h
  split at h
  · cases h
  · split at h <;>
    · cases h
      exact ⟨rfl, rfl⟩

theorem marks_of_finish {b : Builder} {t : Tree} (h : b.finish = .ok t) :
    t.id = b.id ∧ t.hasErrors = b.hasErrors := by
  unfold finish at h
  split at h
  · cases h
  · split at h
    · cases h
      exact ⟨rfl, rfl⟩
    · cases h

end Builder

end Tree

end TreeLint

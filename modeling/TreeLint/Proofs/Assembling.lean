import TreeLint.Proofs.Scaffold
import TreeLint.Proofs.Transcripts
import TreeLint.Tree.InPlace

/-! Building in place agrees with building by new builders, also where a call is refused. -/

namespace TreeLint.Tree.Assembly

open InPlace

def of (b : Builder) : Assembly where
  nodes := b.nodes
  opened := b.opened.map (·.index)
  spanned := b.opened.map (·.spanned)
  pendingField? := b.pendingField?
  lastSpan := b.lastSpan
  hasErrors := b.hasErrors

def perform : Builder.Call → Edit (Option Nat)
  | .field name => do
      field name
      return none
  | .markError => do
      markError
      return none
  | .start kind none => some <$> startNode kind
  | .start kind (some (rawKind, span)) => some <$> startSpanned kind rawKind span
  | .token kind none text span => some <$> token kind text span
  | .token kind (some rawKind) text span => some <$> tokenRaw kind rawKind text span
  | .finishNode => some <$> finishNode

section Steps

variable {a : Assembly} {b b' : Builder}

theorem recordAt_of_found {index : Nat} {r : NodeRecord} (found : a.nodes[index]? = some r) :
    recordAt index a = .ok r a := by
  rw [recordAt, bind_of_ok (get_eq _), found]
  rfl

theorem amend_of_lt {index : Nat} (inside : index < a.nodes.size) (f : NodeRecord → NodeRecord) :
    amend index f a = .ok () { a with nodes := a.nodes.modify index f } :=
  bind_of_ok (recordAt_of_found (Array.getElem?_eq_getElem inside)) _

theorem head?_opened_of (b : Builder) : (of b).opened.head? = b.parent? :=
  List.head?_map

@[simp] theorem checkRoom_of_room (room : b.HasRoom) : checkRoom (of b) = .ok () (of b) := by
  have placed : ((of b).opened.isEmpty && !(of b).nodes.isEmpty) = false := by
    cases opened : b.opened with
    | nil => simp [of, opened, room opened]
    | cons o rest => simp [of, opened]
  rw [checkRoom, bind_of_ok (get_eq _), placed, if_neg Bool.false_ne_true]
  rfl

theorem checkRoom_of_full (full : ¬ b.HasRoom) :
    checkRoom (of b) = .error (.refused .multipleRoots) (of b) := by
  obtain ⟨closed, placed⟩ := Classical.not_imp.1 full
  have taken : ((of b).opened.isEmpty && !(of b).nodes.isEmpty) = true := by
    simp [of, closed, placed]
  rw [checkRoom, bind_of_ok (get_eq _), if_pos taken]
  rfl

def listed (nodes : Array NodeRecord) (child : Nat) : Option Nat → Array NodeRecord
  | some parent => nodes.modify parent fun r => { r with children := r.children.push child }
  | none => nodes

theorem toList_listed (nodes : Array NodeRecord) (child : Nat) (parent? : Option Nat) :
    (listed nodes child parent?).toList = Builder.listChild nodes.toList parent? child := by
  cases parent? with
  | none => rfl
  | some parent => exact Array.toList_modify

theorem listUnder_of_lt {child : Nat} {parent? : Option Nat}
    (inside : ∀ parent, parent? = some parent → parent < a.nodes.size) :
    listUnder child parent? a = .ok () { a with nodes := listed a.nodes child parent? } := by
  cases parent? with
  | none => rfl
  | some parent => exact amend_of_lt (inside parent rfl) _

theorem push_of_room {kind : Kind} {rawKind : String} {token? : Option Token} {span : Span}
    (room : b.HasRoom)
    (adds : b.Adds ⟨kind, rawKind, b.pendingField?, b.parent?, #[], token?, span⟩ b') :
    push kind rawKind token? span (of b) =
      .ok b.nodes.size { of b with nodes := b'.nodes, pendingField? := none } := by
  have nodes : (listed b.nodes b.nodes.size b.parent?).push
      ⟨kind, rawKind, b.pendingField?, b.parent?, #[], token?, span⟩ = b'.nodes := by
    apply Array.toList_inj.1
    rw [Array.toList_push, toList_listed, adds.nodes]
  have parent := head?_opened_of b
  change (checkRoom >>= fun _ => _) (of b) = _
  rw [bind_of_ok (checkRoom_of_room room)]
  change (listUnder b.nodes.size (of b).opened.head? >>= fun _ => _)
    { of b with pendingField? := none } = _
  rw [parent, bind_of_ok (listUnder_of_lt fun _ => Builder.parent?_lt), ← nodes]
  rfl

theorem push_of_full (full : ¬ b.HasRoom) (kind : Kind) (rawKind : String)
    (token? : Option Token) (span : Span) :
    push kind rawKind token? span (of b) = .error (.refused .multipleRoots) (of b) :=
  bind_of_error (checkRoom_of_full full) _

theorem popOpened_of_opened {o : OpenNode} {rest : List OpenNode} (opened : b.opened = o :: rest) :
    popOpened (of b) = .ok o.index { of b with opened := rest.map (·.index) } := by
  have top : (of b).opened = o.index :: rest.map (·.index) := by rw [of, opened, List.map_cons]
  rw [popOpened, bind_of_ok (get_eq _), top]
  rfl

theorem popOpened_of_closed (closed : b.opened = []) :
    popOpened (of b) = .error (.refused .noOpenNode) (of b) := by
  have none : (of b).opened = [] := by rw [of, closed, List.map_nil]
  rw [popOpened, bind_of_ok (get_eq _), none]
  rfl

theorem derivedSpan_of_lt {index : Nat} (inside : index < b.nodes.size)
    (nodes : a.nodes = b.nodes) (lastSpan : a.lastSpan = b.lastSpan) :
    derivedSpan index a = .ok (b.derivedSpan index) a := by
  obtain ⟨r, found⟩ : ∃ r, b.nodes[index]? = some r := ⟨_, Array.getElem?_eq_getElem inside⟩
  have listed (c : Nat) (child : c ∈ r.children) : ∃ s, b.nodes[c]? = some s :=
    ⟨_, Array.getElem?_eq_getElem (b.links.child_after index r found c child).2⟩
  rw [derivedSpan, bind_of_ok (recordAt_of_found (nodes ▸ found))]
  simp only [Builder.derivedSpan, found, Option.map_some, Option.getD_some]
  cases first : r.children[0]? with
  | none =>
      rw [← lastSpan]
      rfl
  | some c =>
      cases last : r.children.back? with
      | none =>
          obtain ⟨s, here⟩ := listed c (Array.mem_of_getElem? first)
          rw [← lastSpan]
          simp only [Option.bind_some, Option.bind_none, here]
          rfl
      | some d =>
          obtain ⟨s, here⟩ := listed c (Array.mem_of_getElem? first)
          obtain ⟨u, there⟩ := listed d (Array.mem_of_back? last)
          simp only [Option.bind_some, here, there]
          rw [bind_of_ok (recordAt_of_found (nodes ▸ here)),
            bind_of_ok (recordAt_of_found (nodes ▸ there))]
          rfl

theorem settleSpan_of_lt {index : Nat} (inside : index < b.nodes.size)
    (nodes : a.nodes = b.nodes) (lastSpan : a.lastSpan = b.lastSpan) :
    settleSpan index a = .ok () { a with
      nodes := a.nodes.modify index fun r => { r with span := b.derivedSpan index } } := by
  rw [settleSpan, bind_of_ok (derivedSpan_of_lt inside nodes lastSpan)]
  exact amend_of_lt (nodes ▸ inside) _

end Steps

section Calls

variable {b b' : Builder} {kind : Kind}

theorem openNode_of_room {rawKind : String} {span? : Option Span}
    (composite : kind.isToken = false) (room : b.HasRoom)
    (adds : b.Adds
      ⟨kind, rawKind, b.pendingField?, b.parent?, #[], none, span?.getD .empty⟩ b')
    (opened : b'.opened = ⟨b.nodes.size, span?.isSome⟩ :: b.opened)
    (lastSpan : b'.lastSpan = b.lastSpan) (same : Builder.SameMarks b b') :
    openNode kind rawKind span? (of b) = .ok b.nodes.size (of b') := by
  have left : of b' = { of b with
      nodes := b'.nodes
      opened := b.nodes.size :: (of b).opened
      spanned := span?.isSome :: (of b).spanned
      pendingField? := none } := by
    simp only [of, opened, adds.pendingField?, lastSpan, same.hasErrors, List.map_cons]
  rw [openNode, composite, left]
  change (push kind rawKind none (span?.getD .empty) >>= fun _ => _) (of b) = _
  rw [bind_of_ok (push_of_room room adds)]
  rfl

@[simp] theorem openNode_of_token (token : kind.isToken) (rawKind : String) (span? : Option Span) :
    openNode kind rawKind span? (of b) = .error (.refused (.tokenKindAsComposite kind)) (of b) := by
  rw [openNode, token]
  rfl

theorem openNode_of_full (composite : kind.isToken = false) (full : ¬ b.HasRoom)
    (rawKind : String) (span? : Option Span) :
    openNode kind rawKind span? (of b) = .error (.refused .multipleRoots) (of b) := by
  rw [openNode, composite]
  exact bind_of_error (push_of_full full kind rawKind none _) _

theorem tokenRaw_of_room {rawKind text : String} {span : Span} (token : kind.isToken)
    (room : b.HasRoom)
    (adds : b.Adds
      ⟨kind, rawKind, b.pendingField?, b.parent?, #[], some ⟨text, span⟩, span⟩ b')
    (opened : b'.opened = b.opened) (lastSpan : b'.lastSpan = span)
    (same : Builder.SameMarks b b') :
    tokenRaw kind rawKind text span (of b) = .ok b.nodes.size (of b') := by
  have left : of b' =
      { of b with nodes := b'.nodes, pendingField? := none, lastSpan := span } := by
    simp only [of, opened, adds.pendingField?, lastSpan, same.hasErrors]
  rw [tokenRaw, token, left]
  change (push kind rawKind (some ⟨text, span⟩) span >>= fun _ => _) (of b) = _
  rw [bind_of_ok (push_of_room room adds)]
  rfl

theorem tokenRaw_of_composite (composite : kind.isToken = false) (rawKind text : String)
    (span : Span) :
    tokenRaw kind rawKind text span (of b) =
      .error (.refused (.compositeKindAsToken kind)) (of b) := by
  rw [tokenRaw, composite]
  rfl

theorem tokenRaw_of_full (token : kind.isToken) (full : ¬ b.HasRoom) (rawKind text : String)
    (span : Span) :
    tokenRaw kind rawKind text span (of b) = .error (.refused .multipleRoots) (of b) := by
  rw [tokenRaw, token]
  exact bind_of_error (push_of_full full kind rawKind _ span) _

theorem finishNode_of_opened {o : OpenNode} {rest : List OpenNode} (opened : b.opened = o :: rest) :
    ∃ b', b.finishNode = .ok (o.index, b') ∧ finishNode (of b) = .ok o.index (of b') := by
  obtain ⟨b', closed, nodes, fewer, pendingField?, lastSpan⟩ :=
    Builder.finishNode_of_opened opened
  have same := Builder.sameMarks_finishNode closed
  refine ⟨b', closed, ?_⟩
  have left : of b' = { of b with
      nodes := b'.nodes
      opened := rest.map (·.index)
      spanned := rest.map (·.spanned) } := by
    simp only [of, fewer, pendingField?, lastSpan, same.hasErrors]
  have inside : o.index < b.nodes.size := b.opened_lt o (opened ▸ List.mem_cons_self ..)
  have flags : (of b).spanned = o.spanned :: rest.map (·.spanned) := by
    simp only [of, opened, List.map_cons]
  rw [finishNode, bind_of_ok (popOpened_of_opened opened)]
  change (if (of b).spanned.head?.getD false = true then _ else _ : Edit Nat)
    { of b with opened := rest.map (·.index), spanned := (of b).spanned.tail } = _
  rw [left, flags]
  cases given : o.spanned with
  | true =>
      rw [given, if_pos rfl] at nodes
      rw [Array.toList_inj.1 nodes]
      rfl
  | false =>
      rw [given, if_neg Bool.false_ne_true, ← Array.toList_modify] at nodes
      rw [Array.toList_inj.1 nodes]
      exact bind_of_ok (settleSpan_of_lt inside rfl rfl) _

theorem finishNode_of_closed (closed : b.opened = []) :
    finishNode (of b) = .error (.refused .noOpenNode) (of b) :=
  bind_of_error (popOpened_of_closed closed) _

end Calls

end TreeLint.Tree.Assembly

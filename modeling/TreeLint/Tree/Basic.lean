import TreeLint.Tree.Kind
import TreeLint.Tree.Span

/-! Immutable syntax trees: all nodes of one file in one array, in document order. -/

namespace TreeLint

structure TreeId where
  number : Nat
  deriving DecidableEq, Repr

structure Token where
  text : String
  span : Span
  deriving DecidableEq, Repr

structure NodeRecord where
  kind : Kind
  rawKind : String
  field? : Option String
  parent? : Option Nat
  children : Array Nat
  token? : Option Token
  span : Span
  deriving Repr

/-- Children come after their node and parents before it, so following links in either
direction ends. -/
structure LinksOrdered (nodes : Array NodeRecord) : Prop where
  child_after : ∀ (i : Nat) (r : NodeRecord), nodes[i]? = some r →
    ∀ c ∈ r.children, i < c ∧ c < nodes.size
  parent_before : ∀ (i : Nat) (r : NodeRecord), nodes[i]? = some r →
    ∀ p, r.parent? = some p → p < i

structure Tree where
  id : TreeId
  nodes : Array NodeRecord
  hasErrors : Bool
  nonempty : 0 < nodes.size
  links : LinksOrdered nodes

inductive TreeError where
  | notALeaf (kind : Kind) (line : Nat)
  | tokenKindAsComposite (kind : Kind)
  | compositeKindAsToken (kind : Kind)
  | noOpenNode
  | unclosed (count : Nat)
  | multipleRoots
  | empty
  deriving DecidableEq, Repr

def TreeError.message : TreeError → String
  | notALeaf kind line => s!"{kind} node at line {line} is not a leaf and has no token"
  | tokenKindAsComposite kind => s!"token kind {kind} cannot open a composite node"
  | compositeKindAsToken kind => s!"composite kind {kind} cannot be used for a token"
  | noOpenNode => "finish_node called with no open node"
  | unclosed count => s!"tree is unbalanced: {count} node(s) left open"
  | multipleRoots => "tree already has a root"
  | empty => "tree is empty"

namespace Tree

/-- A place in the array of one tree. -/
structure Node (t : Tree) where
  index : Nat
  isLt : index < t.nodes.size

variable {t : Tree}

instance : DecidableEq t.Node := fun a b =>
  if h : a.index = b.index then isTrue (by cases a; cases b; cases h; rfl)
  else isFalse (by rintro rfl; exact h rfl)

def root (t : Tree) : t.Node := ⟨0, t.nonempty⟩

def size (t : Tree) : Nat := t.nodes.size

def node? (t : Tree) (index : Nat) : Option t.Node :=
  if h : index < t.nodes.size then some ⟨index, h⟩ else none

def allNodes (t : Tree) : List t.Node :=
  (List.finRange t.nodes.size).map fun i => ⟨i.val, i.isLt⟩

namespace Node

def record (n : t.Node) : NodeRecord :=
  have := n.isLt
  t.nodes[n.index]

def kind (n : t.Node) : Kind := n.record.kind

/-- The name that the producer of the tree gives to this sort of node. -/
def rawKind (n : t.Node) : String := n.record.rawKind

def field? (n : t.Node) : Option String := n.record.field?

def span (n : t.Node) : Span := n.record.span

def line (n : t.Node) : Nat := n.span.startLine

def token? (n : t.Node) : Option Token := n.record.token?

def isLeaf (n : t.Node) : Bool := n.token?.isSome

def token (n : t.Node) : Except TreeError Token :=
  match n.token? with
  | some token => .ok token
  | none => .error (.notALeaf n.kind n.line)

instance : ToString t.Node := ⟨fun n => s!"{n.kind}@{n.span}"⟩

theorem record_eq (n : t.Node) : t.nodes[n.index]? = some n.record :=
  Array.getElem?_eq_getElem n.isLt

def parent? (n : t.Node) : Option t.Node :=
  match h : n.record.parent? with
  | some p => some ⟨p, Nat.lt_trans (t.links.parent_before _ _ n.record_eq p h) n.isLt⟩
  | none => none

def children (n : t.Node) : List t.Node :=
  n.record.children.toList.attach.map fun c =>
    ⟨c.val, (t.links.child_after _ _ n.record_eq c.val (by simpa using c.property)).2⟩

theorem index_lt_of_mem_children {n c : t.Node} (h : c ∈ n.children) : n.index < c.index := by
  obtain ⟨d, _, rfl⟩ := List.mem_map.1 h
  exact (t.links.child_after _ _ n.record_eq d.val (by simpa using d.property)).1

theorem index_lt_of_parent? {n p : t.Node} (h : n.parent? = some p) : p.index < n.index := by
  unfold parent? at h
  split at h
  · rename_i q hq
    cases h
    exact t.links.parent_before _ _ n.record_eq q hq
  · cases h

def child? (n : t.Node) (position : Nat) : Option t.Node := n.children[position]?

def childOfKind? (n : t.Node) (kind : Kind) : Option t.Node :=
  n.children.find? (·.kind == kind)

def childInField? (n : t.Node) (name : String) : Option t.Node :=
  n.children.find? (·.field? == some name)

def ancestors (n : t.Node) : List t.Node :=
  match _h : n.parent? with
  | some p => p :: p.ancestors
  | none => []
termination_by n.index
decreasing_by exact index_lt_of_parent? (by assumption)

def preorder (n : t.Node) : List t.Node :=
  n :: n.children.attach.flatMap fun c => c.val.preorder
termination_by t.nodes.size - n.index
decreasing_by
  have hlt := index_lt_of_mem_children c.property
  have := c.val.isLt
  omega

theorem preorder_eq (n : t.Node) : n.preorder = n :: n.children.flatMap preorder := by
  rw [preorder, List.flatMap_subtype fun _ _ => rfl, List.unattach_attach]

/-- What a stack of nodes yields when each node on top gives way to its children. -/
def unstack : List t.Node → List t.Node
  | [] => []
  | n :: rest => n :: unstack (n.children ++ rest)
termination_by stack => (stack.flatMap preorder).length
decreasing_by
  rw [List.flatMap_append, List.flatMap_cons, preorder_eq n]
  exact Nat.lt_succ_self _

def descendants (n : t.Node) : List t.Node := unstack [n]

def tokens (n : t.Node) : List Token := n.descendants.filterMap (·.token?)

def text (n : t.Node) : String := String.join (n.tokens.map (·.text))

end Node

end Tree

end TreeLint

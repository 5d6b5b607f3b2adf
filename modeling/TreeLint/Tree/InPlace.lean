import TreeLint.Tree.Builder

/-! Building a tree in place: the fields that the calls change one after the other. -/

namespace TreeLint.Tree

/-- A tree under construction.  Two stacks go along: the open nodes and their flags. -/
structure Assembly where
  nodes : Array NodeRecord
  /-- Where the open nodes are, the innermost first. -/
  opened : List Nat
  /-- Whether their producer gave their spans. -/
  spanned : List Bool
  pendingField? : Option String
  lastSpan : Span
  hasErrors : Bool
  deriving Repr

namespace Assembly

inductive Stop where
  | refused (e : TreeError)
  /-- There is no node at a place that is read. -/
  | outOfBounds (index : Nat)
  deriving DecidableEq, Repr

abbrev Edit := EStateM Stop Assembly

def new : Assembly where
  nodes := #[]
  opened := []
  spanned := []
  pendingField? := none
  lastSpan := .empty
  hasErrors := false

def refuse (e : TreeError) : Edit α := throw (.refused e)

def recordAt (index : Nat) : Edit NodeRecord := do
  match (← get).nodes[index]? with
  | some r => return r
  | none => throw (.outOfBounds index)

def amend (index : Nat) (f : NodeRecord → NodeRecord) : Edit Unit := do
  let _ ← recordAt index
  modify fun a => { a with nodes := a.nodes.modify index f }

def field (name : String) : Edit Unit := modify ({ · with pendingField? := some name })

def markError : Edit Unit := modify ({ · with hasErrors := true })

def checkRoom : Edit Unit := do
  let a ← get
  if a.opened.isEmpty && !a.nodes.isEmpty then refuse .multipleRoots else return

def takeField : Edit (Option String) :=
  modifyGet fun a => (a.pendingField?, { a with pendingField? := none })

def listUnder (child : Nat) : Option Nat → Edit Unit
  | some parent => amend parent fun r => { r with children := r.children.push child }
  | none => return

def push (kind : Kind) (rawKind : String) (token? : Option Token) (span : Span) : Edit Nat := do
  let parent? := (← get).opened.head?
  checkRoom
  let index := (← get).nodes.size
  let field? ← takeField
  listUnder index parent?
  modify fun a =>
    { a with nodes := a.nodes.push ⟨kind, rawKind, field?, parent?, #[], token?, span⟩ }
  return index

def checkKind (fits : Bool) (e : TreeError) : Edit Unit := if fits then return else refuse e

def openNode (kind : Kind) (rawKind : String) (span? : Option Span) : Edit Nat := do
  checkKind (!kind.isToken) (.tokenKindAsComposite kind)
  let index ← push kind rawKind none (span?.getD .empty)
  modify fun a => { a with opened := index :: a.opened }
  modify fun a => { a with spanned := span?.isSome :: a.spanned }
  return index

def startNode (kind : Kind) : Edit Nat := openNode kind kind.name none

def startSpanned (kind : Kind) (rawKind : String) (span : Span) : Edit Nat :=
  openNode kind rawKind (some span)

def tokenRaw (kind : Kind) (rawKind text : String) (span : Span) : Edit Nat := do
  checkKind kind.isToken (.compositeKindAsToken kind)
  let index ← push kind rawKind (some ⟨text, span⟩) span
  modify ({ · with lastSpan := span })
  return index

def token (kind : Kind) (text : String) (span : Span) : Edit Nat :=
  tokenRaw kind kind.name text span

def popOpened : Edit Nat := do
  match (← get).opened with
  | [] => refuse .noOpenNode
  | index :: opened =>
      modify ({ · with opened })
      return index

def popSpanned : Edit Bool :=
  modifyGet fun a => (a.spanned.head?.getD false, { a with spanned := a.spanned.tail })

def derivedSpan (index : Nat) : Edit Span := do
  let children := (← recordAt index).children
  match children[0]?, children.back? with
  | some first, some last => return (← recordAt first).span.cover (← recordAt last).span
  | _, _ => return (← get).lastSpan.endPoint

def settleSpan (index : Nat) : Edit Unit := do
  let span ← derivedSpan index
  amend index ({ · with span })

def finishNode : Edit Nat := do
  let index ← popOpened
  let spanned ← popSpanned
  if spanned then return index
  else
    settleSpan index
    return index

def finish (a : Assembly) : Except TreeError (Array NodeRecord × Bool) :=
  if !a.opened.isEmpty then .error (.unclosed a.opened.length)
  else if a.nodes.isEmpty then .error .empty
  else .ok (a.nodes, a.hasErrors)

end Assembly

end TreeLint.Tree

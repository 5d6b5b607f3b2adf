import TreeLint.Tree.Builder

namespace TreeLint.Tree

inductive Nested where
  /-- Without a name of its own, the leaf is named after its kind. -/
  | leaf (field? : Option String) (kind : Kind) (rawKind? : Option String) (text : String)
      (span : Span)
  /-- A node without a given name and span is named after its kind and spans its children. -/
  | node (field? : Option String) (kind : Kind) (given? : Option (String × Span))
      (children : List Nested)

namespace Nested

instance : Inhabited Nested := ⟨node none .other none []⟩

private def label (b : Builder) : Option String → Builder
  | some name => b.field name
  | none => b

mutual
def addTo (b : Builder) : Nested → Except TreeError Builder
  | leaf field? kind rawKind? text span =>
      ((label b field?).tokenRaw kind (rawKind?.getD kind.name) text span).map (·.2)
  | node field? kind given? children => do
      let b := label b field?
      let (_, b) ← match given? with
        | some (rawKind, span) => b.startSpanned kind rawKind span
        | none => b.startNode kind
      let b ← addAllTo b children
      b.finishNode.map (·.2)

def addAllTo (b : Builder) : List Nested → Except TreeError Builder
  | [] => .ok b
  | first :: rest => do addAllTo (← addTo b first) rest
end

end Nested

end TreeLint.Tree

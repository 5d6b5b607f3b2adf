import TreeLint.Rule.Basic
import TreeLint.Symbols.Ancestry

namespace TreeLint.Checks.InheritanceDepth

open Traversal

variable {σ : Type}

def metadata : Metadata where
  key := "MaximumInheritanceDepth"
  name := "Inheritance tree of classes should not be too deep"
  description := "Maximum depth of the inheritance tree. Parameter `max` (default 5)."
  tags := ["design"]
  severity := .warning
  activatedByDefault := false
  remediation? := some "4h"

def defaultMax : Nat := 5

def message (depth max : Nat) : String :=
  s!"This class has {depth} parents which is greater than {max} authorized."

/-- Reports the node if it declares a type that is too deep.  A chain of superclasses that
cannot be followed to its end fails the rule. -/
def check (max : Nat) (symbols : SymbolTable) {t : Tree} (n : t.Node) : Scan σ Unit :=
  match symbols.typeOf? n with
  | none => pure ()
  | some (id, _) =>
      match symbols.inheritanceDepth id with
      | .error e => Scan.fail (.error [e.message])
      | .ok depth =>
          if max < depth then Scan.addIssue n (message depth max) else pure ()

def behavior (max : Nat) : Behavior σ :=
  .recursive fun input =>
    match input.symbols? with
    | none => pure ()
    | some symbols =>
        let enter (hook : Hook) (n : input.tree.Node) : Scan σ Descent := do
          if hook = .typeDeclaration then check max symbols n
          return .children
        walk (.ofHooks enter fun _ => pure ()) input.tree.root

end TreeLint.Checks.InheritanceDepth

import TreeLint.Rule.Basic

namespace TreeLint.Checks.EmptyStatement

variable {σ : Type} {t : Tree}

def metadata : Metadata where
  key := "EmptyStatementUsageCheck"
  name := "Empty statements should be removed"
  description := "Reports `;` used as a statement or as a class member on its own."
  tags := ["cert", "misra", "unused"]
  severity := .info
  activatedByDefault := true
  remediation? := some "2min"

/-- A semicolon alone in a body cannot go without emptying the body. -/
def hasOtherMembers (body semicolon : t.Node) : Bool :=
  body.children.any fun child =>
    child != semicolon && child.kind != .leftBrace && child.kind != .rightBrace

def isStray (semicolon : t.Node) : Bool :=
  match semicolon.parent? with
  | none => false
  | some parent =>
      match parent.kind with
      | .emptyStatement => true
      | .classBody => hasOtherMembers parent semicolon
      | _ => false

def behavior : Behavior σ :=
  .subscription {
    kinds := fun _ => .ok [.semicolon]
    scanFile := fun _ => pure ()
    visitNode := fun _ n =>
      if isStray n then Scan.addLineIssue n.line "Remove this empty statement." else pure ()
    leaveNode := fun _ _ => pure ()
    leaveFile := fun _ => pure () }

end TreeLint.Checks.EmptyStatement

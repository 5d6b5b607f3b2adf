import TreeLint.Java.Concrete
import TreeLint.Tree.Builder

/-! Turning concrete trees into trees: a cursor goes once over the concrete tree and drives a
builder. -/

namespace TreeLint.Java

open TreeLint.Tree

def anonymousClass : String := "anonymous_class"

namespace Lowering

def ownKind? : String → Option Kind
  | "program" => some .compilationUnit
  | "package_declaration" => some .packageDeclaration
  | "import_declaration" => some .importDeclaration
  | "class_declaration" => some .class
  | "interface_declaration" => some .interface
  | "enum_declaration" => some .enum
  | "record_declaration" => some .record
  | "annotation_type_declaration" => some .annotationType
  | "class_body" | "interface_body" | "enum_body" | "annotation_type_body" => some .classBody
  | "superclass" => some .superclass
  | "super_interfaces" | "extends_interfaces" => some .superInterfaces
  | "method_declaration" | "annotation_type_element_declaration" => some .method
  | "constructor_declaration" | "compact_constructor_declaration" => some .constructor
  | "field_declaration" | "constant_declaration" => some .field
  | "formal_parameters" => some .parameters
  | "formal_parameter" | "spread_parameter" | "receiver_parameter" => some .parameter
  | "modifiers" => some .modifiers
  | "generic_type" | "scoped_type_identifier" | "array_type" | "integral_type"
  | "floating_point_type" => some .typeRef
  | "block" | "constructor_body" => some .block
  | "expression_statement" => some .expressionStatement
  | "local_variable_declaration" => some .localVariable
  | "return_statement" => some .return
  | "if_statement" => some .if
  | "for_statement" | "enhanced_for_statement" => some .for
  | "while_statement" => some .while
  | "do_statement" => some .doWhile
  | "switch_expression" => some .switch
  | "try_statement" | "try_with_resources_statement" => some .try
  | "throw_statement" => some .throw
  | "labeled_statement" => some .labeled
  | "break_statement" | "continue_statement" | "yield_statement" => some .jump
  | "ERROR" => some .error
  | _ => none

/-- Phrases that are expressions although their names do not say so. -/
def expressionNames : List String :=
  ["method_invocation", "field_access", "array_access", "method_reference"]

/-- The kind of a phrase that becomes a composite node; none for one that becomes a leaf. -/
def compositeKind? (c : Concrete) : Option Kind :=
  match ownKind? c.raw, c.children with
  | some kind, _ => some kind
  | none, [] => none
  | none, _ :: _ =>
      if c.raw.endsWith "_expression" || expressionNames.contains c.raw then some .expression
      else some .other

def leafKind (c : Concrete) : Kind :=
  if !c.head.named then .ofTokenText c.head.text
  else if ["identifier", "type_identifier"].contains c.raw then .identifier
  else if ["true", "false", "null_literal", "string_fragment", "escape_sequence"].contains c.raw
    || c.raw.endsWith "_literal" then .literal
  else if ["void_type", "boolean_type", "this", "super"].contains c.raw then .keyword
  else .ofTokenText c.head.text

theorem isToken_ownKind {raw : String} {kind : Kind} (own : ownKind? raw = some kind) :
    kind.isToken = false := by
  unfold ownKind? at own
  split at own <;> cases own <;> rfl

theorem isToken_compositeKind {c : Concrete} {kind : Kind}
    (composite : compositeKind? c = some kind) : kind.isToken = false := by
  unfold compositeKind? at composite
  split at composite
  next own =>
    cases composite
    exact isToken_ownKind own
  · cases composite
  · split at composite <;> cases composite <;> rfl

@[simp] theorem isToken_leafKind (c : Concrete) : (leafKind c).isToken = true := by
  unfold leafKind
  split
  · exact Kind.isToken_ofTokenText _
  · split
    · rfl
    · split
      · rfl
      · split
        · rfl
        · exact Kind.isToken_ofTokenText _

theorem isError_of_compositeKind {c : Concrete} (composite : compositeKind? c = some .error) :
    c.isError = true := by
  unfold compositeKind? at composite
  split at composite
  next own =>
    cases composite
    unfold ownKind? at own
    split at own <;> cases own
    next isError => exact beq_iff_eq.2 isError
  · cases composite
  · split at composite <;> cases composite

/-- Only a childless phrase becomes a leaf, and then it has no kind of its own. -/
theorem compositeKind?_eq_none_iff {c : Concrete} :
    compositeKind? c = none ↔ ownKind? c.raw = none ∧ c.children = [] := by
  unfold compositeKind?
  constructor
  · intro leaf
    split at leaf
    · cases leaf
    next own childless => exact ⟨own, childless⟩
    · split at leaf <;> cases leaf
  · rintro ⟨own, childless⟩
    rw [own, childless]

def statementContainers : List String :=
  ["program", "block", "constructor_body", "switch_block_statement_group", "labeled_statement"]

def statementFields : List String := ["body", "consequence", "alternative"]

/-- Phrases whose class body makes a class without a name. -/
def anonymousClassParents : List String := ["object_creation_expression", "enum_constant"]

/-- The phrase whose children go straight into its parent. -/
def splicedRaw : String := "enum_body_declarations"

/-- A phrase that the cursor is in, with the number of nodes opened for it: none for a spliced
one, two for the body of a class without a name. -/
structure Frame where
  raw : String
  opened : Nat
  deriving DecidableEq, Repr

structure State where
  builder : Builder
  /-- The innermost first. -/
  frames : List Frame

namespace State

def parentRaw (s : State) : String := (s.frames.head?.map (·.raw)).getD ""

def push (s : State) (builder : Builder) (raw : String) (opened : Nat) : State :=
  ⟨builder, ⟨raw, opened⟩ :: s.frames⟩

def finishNodes (builder : Builder) : Nat → Except TreeError Builder
  | 0 => .ok builder
  | n + 1 => do
      let (_, builder) ← builder.finishNode
      finishNodes builder n

def close (s : State) : Except TreeError State :=
  match s.frames with
  | [] => .ok s
  | frame :: outer => (finishNodes s.builder frame.opened).map (⟨·, outer⟩)

def isStatementPosition (s : State) (field? : Option String) : Bool :=
  statementContainers.contains s.parentRaw || field?.any statementFields.contains

def opensAnonymousClass (s : State) (raw : String) : Bool :=
  raw == "class_body" && anonymousClassParents.contains s.parentRaw

def openComposite (s : State) (builder : Builder) (kind : Kind) (raw : String) (span : Span) :
    Except TreeError State := do
  let builder := if kind = .error then builder.markError else builder
  if s.opensAnonymousClass raw then
    let (_, builder) ← builder.startSpanned .class anonymousClass span
    let (_, builder) ← (builder.field "body").startSpanned kind raw span
    return s.push builder raw 2
  else
    let (_, builder) ← builder.startSpanned kind raw span
    return s.push builder raw 1

/-- Adds a leaf.  A semicolon that is a statement gets a node of its own around it. -/
def addLeaf (s : State) (builder : Builder) (c : Concrete) (first : Bool) :
    Except TreeError State := do
  let text := c.head.text
  if c.raw == ";" && s.isStatementPosition c.head.field? then
    let (_, builder) ← builder.startSpanned .emptyStatement "empty_statement" c.span
    let (_, builder) ← builder.tokenRaw .semicolon c.raw text c.span
    let (_, builder) ← builder.finishNode
    return ⟨builder, s.frames⟩
  else
    let endsConstants := c.raw == ";" && s.parentRaw == splicedRaw && first
    let kind := if endsConstants then .punctuator else leafKind c
    let (_, builder) ← builder.tokenRaw kind c.raw text c.span
    return ⟨builder, s.frames⟩

/-- Takes in a phrase.  Answers whether its children come next. -/
def enter (s : State) (c : Concrete) (first : Bool) : Except TreeError (State × Bool) :=
  if c.isComment then .ok (s, false)
  else if c.raw == splicedRaw then .ok (s.push s.builder c.raw 0, true)
  else
    let builder := if c.head.missing then s.builder.markError else s.builder
    let builder := (c.head.field?.map builder.field).getD builder
    match compositeKind? c with
    | some kind => (s.openComposite builder kind c.raw c.span).map (·, true)
    | none => (s.addLeaf builder c first).map (·, false)

end State

structure Cursor where
  node : Concrete
  /-- Whether no sibling stands in front. -/
  first : Bool
  later : List Concrete
  /-- The later siblings of the ancestors, the innermost first. -/
  above : List (List Concrete)

mutual
def size : Concrete → Nat
  | .node _ children => 1 + sizes children

def sizes : List Concrete → Nat
  | [] => 0
  | first :: rest => size first + sizes rest
end

def sizesAbove : List (List Concrete) → Nat
  | [] => 0
  | later :: rest => sizes later + sizesAbove rest

def Cursor.pending (c : Cursor) : Nat :=
  size c.node + sizes c.later + sizesAbove c.above

/-- Goes on to the next sibling, or to the next one of the nearest ancestor that has one, and
closes the ancestors that are left.  Without any the cursor is at its end. -/
def climb (s : State) (later : List Concrete) :
    List (List Concrete) → Except TreeError (State × Option Cursor)
  | [] =>
      match later with
      | next :: later => .ok (s, some ⟨next, false, later, []⟩)
      | [] => .ok (s, none)
  | outer :: above =>
      match later with
      | next :: later => .ok (s, some ⟨next, false, later, outer :: above⟩)
      | [] => do climb (← s.close) outer above

theorem climb_pending {s s' : State} {later : List Concrete} {above : List (List Concrete)}
    {c : Cursor} (h : climb s later above = .ok (s', some c)) :
    c.pending = sizes later + sizesAbove above := by
  induction above generalizing s later with
  | nil =>
      cases later with
      | nil => simp [climb] at h
      | cons next later =>
          simp only [climb, Except.ok.injEq, Prod.mk.injEq, Option.some.injEq] at h
          obtain ⟨rfl, rfl⟩ := h
          simp [Cursor.pending, sizes, sizesAbove]
  | cons outer above ih =>
      cases later with
      | nil =>
          simp only [climb] at h
          cases hclose : s.close with
          | error e => rw [hclose] at h; cases h
          | ok closed =>
              rw [hclose] at h
              simp [ih h, sizes, sizesAbove]
      | cons next later =>
          simp only [climb, Except.ok.injEq, Prod.mk.injEq, Option.some.injEq] at h
          obtain ⟨rfl, rfl⟩ := h
          simp [Cursor.pending, sizes, sizesAbove]

theorem size_pos (c : Concrete) : 0 < size c := by
  cases c
  simp only [size]
  omega

theorem size_eq (c : Concrete) : size c = 1 + sizes c.children := by
  cases c
  rfl

def run (s : State) (c : Cursor) : Except TreeError State :=
  match s.enter c.node c.first with
  | .error e => .error e
  | .ok (s, false) =>
      match h : climb s c.later c.above with
      | .error e => .error e
      | .ok (s, none) => .ok s
      | .ok (s, some next) =>
          have : next.pending < c.pending := by
            rw [climb_pending h]
            have := size_pos c.node
            unfold Cursor.pending
            omega
          run s next
  | .ok (s, true) =>
      match hchildren : c.node.children with
      | child :: rest =>
          have : Cursor.pending ⟨child, true, rest, c.later :: c.above⟩ < c.pending := by
            have := size_eq c.node
            rw [hchildren] at this
            simp [Cursor.pending, sizes, sizesAbove] at this ⊢
            omega
          run s ⟨child, true, rest, c.later :: c.above⟩
      | [] =>
          match s.close with
          | .error e => .error e
          | .ok s =>
              match h : climb s c.later c.above with
              | .error e => .error e
              | .ok (s, none) => .ok s
              | .ok (s, some next) =>
                  have : next.pending < c.pending := by
                    rw [climb_pending h]
                    have := size_pos c.node
                    unfold Cursor.pending
                    omega
                  run s next
termination_by c.pending

end Lowering

def Concrete.lower (id : TreeId) (root : Concrete) : Except TreeError Tree := do
  let builder := Builder.new id
  let builder := if root.hasError then builder.markError else builder
  let done ← Lowering.run ⟨builder, []⟩ ⟨root, true, [], []⟩
  done.builder.finish

end TreeLint.Java

import TreeLint.Proofs.TypeNames

namespace TreeLint.Java

open TreeLint.Tree Lowering Concrete

variable {t : Tree} {n m : t.Node} {c root : Concrete} {raw : String}

/-- Trees in which members are told from types. -/
structure Bodied (t : Tree) : Prop where
  bodies : ∀ n body : t.Node, n.kind.isTypeDeclaration → n.childInField? "body" = some body →
    body.kind = .classBody
  constants : ∀ n : t.Node, n.rawKind = "enum_constant" → n.kind = .other
  declarators : ∀ n : t.Node, n.kind = .field → ∀ c ∈ n.children, c.field? = some "declarator" →
    c.kind.isTypeDeclaration = false

theorem raw_of_typeDeclaration {kind : Kind} (own : ownKind? raw = some kind)
    (isType : kind.isTypeDeclaration) : raw ∈ declarationRaws := by
  unfold ownKind? at own
  split at own <;> cases own <;> first | decide | cases isType

theorem ne_of_isTypeDeclaration {kind : Kind} (isType : kind.isTypeDeclaration) :
    kind.isToken = false ∧ kind ≠ .emptyStatement ∧ kind ≠ .expression ∧ kind ≠ .other := by
  cases kind <;> first | decide | cases isType

theorem raw_of_fieldDeclaration (own : ownKind? raw = some .field) :
    raw ∈ ["field_declaration", "constant_declaration"] := by
  unfold ownKind? at own
  split at own <;> cases own <;> decide

theorem ownKind_of_body (listed : raw ∈ bodyRaws) : ownKind? raw = some .classBody := by
  have all : ∀ raw ∈ bodyRaws, ownKind? raw = some .classBody := by decide
  exact all raw listed

section Parsed

variable (shape : BodyShape root) (numbered : WellNumbered t) (top : Renders t.root root)

theorem exists_phrase (shape : SourceShape root) (below : Below root c) (renders : Renders n c)
    (notEnum : c.raw ≠ "enum_body") {role : String} (member : m ∈ n.children)
    (field? : m.field? = some role) :
    ∃ d ∈ c.children, d.head.field? = some role ∧ Shows c.raw d m := by
  obtain ⟨d, listed, _, shows⟩ := exists_shown_child shape below renders notEnum member
  exact ⟨d, listed, shows.field?_eq.symm.trans field?, shows⟩

include numbered top

theorem exists_renders_or_body (composite : n.kind.isToken = false)
    (filled : n.kind ≠ .emptyStatement) :
    (∃ c, Below root c ∧ Renders n c) ∨
      ∃ body, n.children = [body] ∧ body.kind = .classBody := by
  cases exists_origin numbered top n with
  | top same => exact .inl ⟨_, .self, same ▸ top⟩
  | part _ c below listed shows =>
      cases shows with
      | phrase _ renders => exact .inl ⟨c, .child below listed, renders⟩
      | anonymous isBody _ _ body children renders =>
          have composite := compositeKind_of_ownKind (c := c) (by rw [isBody]; rfl)
          exact .inr ⟨body, children, renders.kind_eq composite⟩
      | leaf _ _ _ _ token => cases composite.symm.trans token
      | statement _ _ _ _ kind => exact absurd kind filled
  | body c below _ renders => exact .inl ⟨c, below, renders⟩
  | semicolon token => cases composite.symm.trans token

include shape

theorem kind_of_body {body : t.Node} (isType : n.kind.isTypeDeclaration)
    (own : n.childInField? "body" = some body) : body.kind = .classBody := by
  have member : body ∈ n.children := List.mem_of_find?_eq_some own
  have role : body.field? = some "body" :=
    beq_iff_eq.1 (List.find?_some (p := fun m : t.Node => m.field? == some "body") own)
  obtain ⟨composite, filled, notExpression, notOther⟩ := ne_of_isTypeDeclaration isType
  rcases exists_renders_or_body numbered top composite filled with
    ⟨c, below, renders⟩ | ⟨inner, children, isBody⟩
  · have raw := raw_of_typeDeclaration
      (ownKind_of_compositeKind renders.kind notExpression notOther) isType
    have apart : ∀ raw ∈ declarationRaws, raw ≠ "enum_body" ∧ raw ∉ anonymousClassParents := by
      decide
    obtain ⟨notEnum, notSite⟩ := apart _ raw
    obtain ⟨d, listed, labelled, shows⟩ :=
      exists_phrase shape.toSourceShape below renders notEnum member role
    have composite : compositeKind? d = some .classBody :=
      compositeKind_of_ownKind (ownKind_of_body (shape.body c below raw d listed labelled))
    cases shows with
    | phrase _ renders => exact renders.kind_eq composite
    | anonymous _ site => exact absurd site notSite
    | leaf _ _ plain => cases plain.symm.trans composite
    | statement _ _ _ plain => cases plain.symm.trans composite
  · rw [children] at member
    cases List.mem_singleton.1 member
    exact isBody

theorem kind_of_declarator (isField : n.kind = .field) (member : m ∈ n.children)
    (role : m.field? = some "declarator") : m.kind.isTypeDeclaration = false := by
  rcases exists_renders_or_body numbered top (by rw [isField]; rfl) (by rw [isField]; exact nofun)
    with ⟨c, below, renders⟩ | ⟨inner, children, isBody⟩
  · have own := ownKind_of_compositeKind renders.kind (by rw [isField]; exact nofun)
      (by rw [isField]; exact nofun)
    have raw := raw_of_fieldDeclaration (isField ▸ own)
    have apart : ∀ raw ∈ ["field_declaration", "constant_declaration"],
        raw ≠ "enum_body" ∧ raw ∉ anonymousClassParents := by
      decide
    obtain ⟨notEnum, notSite⟩ := apart _ raw
    obtain ⟨d, listed, labelled, shows⟩ :=
      exists_phrase shape.toSourceShape below renders notEnum member role
    have isDeclarator := shape.declarator c below raw d listed labelled
    rw [Bool.eq_false_iff]
    intro isType
    obtain ⟨composite, filled, notExpression, notOther⟩ := ne_of_isTypeDeclaration isType
    cases shows with
    | phrase _ renders =>
        have own := ownKind_of_compositeKind renders.kind notExpression notOther
        rw [isDeclarator] at own
        cases own
    | anonymous _ site => exact absurd site notSite
    | leaf _ _ _ _ token => cases composite.symm.trans token
    | statement _ _ _ _ kind => exact filled kind
  · rw [children] at member
    cases List.mem_singleton.1 member
    rw [isBody]
    rfl

theorem kind_of_enumConstant (isConstant : n.rawKind = "enum_constant") : n.kind = .other := by
  have composite {c : Concrete} (below : Below root c) (raw : c.raw = "enum_constant") :
      compositeKind? c = some .other :=
    compositeKind_of_others (by rw [raw]; rfl) (shape.constant c below raw)
      (by rw [raw]; decide +kernel)
  have rendered {c : Concrete} (below : Below root c) (renders : Renders n c) :
      n.kind = .other :=
    renders.kind_eq (composite below (renders.rawKind.symm.trans isConstant))
  cases exists_origin numbered top n with
  | top same => exact rendered .self (same ▸ top)
  | part host c below listed shows =>
      have inner : Below root c := .child below listed
      cases shows with
      | phrase _ renders => exact rendered inner renders
      | anonymous _ _ rawKind => exact absurd (rawKind.symm.trans isConstant) (by decide)
      | leaf _ rawKind leaf =>
          cases leaf.symm.trans (composite inner (rawKind.symm.trans isConstant))
      | statement _ _ rawKind => exact absurd (rawKind.symm.trans isConstant) (by decide)
  | body _ below _ renders => exact rendered below renders
  | semicolon _ _ rawKind => exact absurd (rawKind.symm.trans isConstant) (by decide)

theorem bodied_of_shape : Bodied t :=
  ⟨fun _ _ => kind_of_body shape numbered top, fun _ => kind_of_enumConstant shape numbered top,
    fun _ isField _ => kind_of_declarator shape numbered top isField⟩

end Parsed

end TreeLint.Java

import Mathlib.Data.List.Find
import TreeLint.Proofs.Lineage
import TreeLint.Proofs.Naming
import TreeLint.Proofs.Reader
import TreeLint.Proofs.TypeNames

namespace TreeLint

namespace SymbolTable

theorem inheritanceDepth_eq_zero_iff {table : SymbolTable} {id : SymbolId} {s : TypeSymbol}
    (known : table.type? id = some s) :
    table.inheritanceDepth id = .ok 0 ↔ table.superclass? id = none := by
  constructor
  · intro flat
    obtain ⟨lineage, holds⟩ := Lineage.exists_of table id maxAncestryDepth
    cases lineage with
    | ends depth =>
        rw [(Climbs.of_ends holds).inheritanceDepth] at flat
        cases flat
        exact holds.2.2
    | repeats place =>
        obtain ⟨_, _, _, _, climbs⟩ := Climbs.of_repeats holds known
        rw [climbs.inheritanceDepth] at flat
        cases flat
    | exceeds =>
        rw [(Climbs.of_exceeds holds known).inheritanceDepth] at flat
        cases flat
  · intro top
    exact (Climbs.of_ends ⟨Nat.zero_le _, .zero, top⟩).inheritanceDepth

end SymbolTable

namespace Java

open TreeLint.Tree Lowering Concrete Resolution

variable {t : Tree} {n m p : t.Node} {c d host root : Concrete}

theorem raw_of_class {raw : String} (own : ownKind? raw = some .class) :
    raw = "class_declaration" := by
  unfold ownKind? at own
  split at own <;> cases own
  rfl

theorem raw_of_superclass {raw : String} (own : ownKind? raw = some .superclass) :
    raw = "superclass" := by
  unfold ownKind? at own
  split at own <;> cases own
  rfl

theorem isToken_ne {kind kind' : Kind} (token : kind.isToken)
    (composite : kind'.isToken = false) :
    kind ≠ kind' := by
  rintro rfl
  rw [token] at composite
  cases composite

/-- A clause consists of its word and its type.  Some forms of types are not taken for types. -/
theorem supertypes_of_clause (isClause : IsClause d) (renders : Renders n d) :
    ∃ word type, n.children = [word, type] ∧ word.rawKind = "extends" ∧
      type.rawKind ∈ plainTypes ++ "annotated_type" :: builtTypes ∧
      supertypes n = if type.rawKind ∈ unheededTypes then [] else [type] := by
  obtain ⟨x, T, parts, isWord, isType⟩ := isClause.parts
  have listed : T.raw ∈ plainTypes ++ "annotated_type" :: builtTypes := IsPhrase.raw_mem isType
  have whole : T.raw ≠ splicedRaw := by
    intro spliced
    rw [spliced] at listed
    exact absurd listed (by decide)
  obtain ⟨word, type, nodes, shownWord, shownType⟩ :=
    renders.pair parts (by rw [isWord.raw]; decide) whole
  obtain ⟨wordRaw, wordKind⟩ := kind_of_token shownWord isWord rfl (by decide)
  have isKeyword : word.kind = .keyword := wordKind
  have passed : namesType word = false := by
    rw [namesType, isKeyword]
    rfl
  obtain ⟨typeRaw, names⟩ := kind_of_type shownType isType
  rw [← typeRaw] at listed names
  have single : type.rawKind ≠ "type_list" := by
    intro same
    rw [same] at listed
    exact absurd listed (by decide)
  refine ⟨word, type, nodes, wordRaw, listed, ?_⟩
  rw [supertypes, nodes]
  by_cases unheeded : type.rawKind ∈ unheededTypes
  · simp [passed, isKeyword, names, single, unheeded]
  · simp [passed, isKeyword, names, unheeded]

section Parsed

variable (shape : ClassShape root) (numbered : WellNumbered t) (top : Renders t.root root)

include shape numbered top

omit shape numbered in
theorem kind_root (shape : SourceShape root) : t.root.kind = .compilationUnit :=
  top.kind_eq (compositeKind_of_ownKind (by rw [shape.top]; rfl))

/-- A node of the kind of a class is a class with a name, or stands for the body of one without. -/
theorem class_origin (isClass : n.kind = .class) :
    (∃ c, Below root c ∧ Renders n c ∧ c.raw = "class_declaration") ∨
      n.rawKind = anonymousClass ∧ ∃ p host c, n.parent? = some p ∧
        Below root host ∧ Renders p host ∧ c ∈ host.children ∧
        host.raw ∈ anonymousClassParents := by
  have named {c : Concrete} (renders : Renders n c) : c.raw = "class_declaration" := by
    refine raw_of_class (ownKind_of_compositeKind ?_ nofun nofun)
    rw [renders.kind, isClass]
  cases exists_origin numbered top n with
  | top same =>
      rw [same, kind_root top shape.toSourceShape] at isClass
      cases isClass
  | part host c below listed shows p parent sited =>
      cases shows with
      | phrase _ renders => exact .inl ⟨c, .child below listed, renders, named renders⟩
      | anonymous isBody site rawKind =>
          refine .inr ⟨rawKind, p, host, c, parent, below, ?_, listed, site⟩
          refine sited.resolve_right fun spliced => ?_
          rw [spliced] at site
          exact absurd site (by decide)
      | leaf _ _ _ _ token => exact absurd isClass (isToken_ne token rfl)
      | statement _ _ _ _ kind =>
          rw [kind] at isClass
          cases isClass
  | body c below _ renders => exact .inl ⟨c, below, renders, named renders⟩
  | semicolon token => exact absurd isClass (isToken_ne token rfl)

omit shape in
theorem exists_parent {inner outer : String} (notTop : root.raw ≠ inner)
    (nested : ∀ host, Below root host → ∀ c ∈ host.children, c.raw = inner → host.raw = outer)
    (whole : outer ≠ splicedRaw)
    (own : inner ∉ [anonymousClass, "empty_statement", "class_body"])
    (named : n.rawKind = inner) (filled : n.children ≠ []) :
    ∃ p host, n.parent? = some p ∧ Below root host ∧ Renders p host ∧
      host.raw = outer ∧ ∃ c ∈ host.children, c.raw = inner := by
  simp only [List.mem_cons, List.not_mem_nil, or_false, not_or] at own
  obtain ⟨named', notEmpty, notBody⟩ := own
  cases exists_origin numbered top n with
  | top same =>
      rw [same, top.rawKind] at named
      exact absurd named notTop
  | part host c below listed shows p parent sited =>
      have same : c.raw = inner := by
        cases shows with
        | phrase _ renders => exact renders.rawKind.symm.trans named
        | anonymous _ _ rawKind => exact absurd (named.symm.trans rawKind) named'
        | leaf _ rawKind => exact rawKind.symm.trans named
        | statement _ _ rawKind => exact absurd (named.symm.trans rawKind) notEmpty
      have around := nested host below c listed same
      refine ⟨p, host, parent, below, ?_, around, c, listed, same⟩
      exact sited.resolve_right fun spliced => whole (around.symm.trans spliced)
  | body c _ isBody renders =>
      exact absurd (named.symm.trans (renders.rawKind.trans isBody)) notBody
  | semicolon _ childless => exact absurd childless filled

section Named

variable (below : Below root c) (renders : Renders n c)
  (isClass : c.raw = "class_declaration")

include below renders isClass

omit numbered top in
theorem exists_part (member : m ∈ n.children) :
    ∃ d, (IsClause d ∨ d.raw ≠ "superclass" ∧ d.head.field? ≠ some "superclass") ∧
      Shows "class_declaration" d m := by
  obtain ⟨d, listed, _, shows⟩ :=
    exists_shown_child shape.toSourceShape below renders (by rw [isClass]; decide) member
  exact ⟨d, shape.clause c below isClass d listed, isClass ▸ shows⟩

omit numbered top in
theorem clause_iff (member : m ∈ n.children) :
    (m.field? = some "superclass" ↔ m.kind = .superclass) ∧
      (m.kind = .superclass → ∃ d, IsClause d ∧ Renders m d) := by
  obtain ⟨d, clause | ⟨raw, role⟩, shows⟩ := exists_part shape below renders isClass member
  · have composite : compositeKind? d = some .superclass :=
      compositeKind_of_ownKind (by rw [clause.raw]; rfl)
    obtain ⟨field?, inner⟩ := shows.renders composite (by rw [clause.raw]; decide)
    have kind := inner.kind_eq composite
    exact ⟨iff_of_true (field?.trans clause.field?) kind, fun _ => ⟨d, clause, inner⟩⟩
  · have other (kind : m.kind ≠ .superclass) (field? : m.field? = d.head.field?) :
        (m.field? = some "superclass" ↔ m.kind = .superclass) ∧
          (m.kind = .superclass → ∃ d, IsClause d ∧ Renders m d) :=
      ⟨iff_of_false (field? ▸ role) kind, fun same => absurd same kind⟩
    cases shows with
    | phrase field? inner =>
        refine other ?_ field?
        intro kind
        exact raw (raw_of_superclass (ownKind_of_compositeKind (kind ▸ inner.kind) nofun nofun))
    | anonymous _ site => exact absurd site (by decide)
    | leaf field? _ _ _ token => exact other (isToken_ne token rfl) field?
    | statement _ field? _ _ kind => exact other (by rw [kind]; exact nofun) field?

omit numbered top in
@[simp] theorem childInField_superclass :
    n.childInField? "superclass" = n.childOfKind? .superclass := by
  refine List.find?_congr fun m member => ?_
  have same := (clause_iff shape below renders isClass member).1
  rw [Bool.eq_iff_iff, beq_iff_eq, beq_iff_eq]
  exact same

end Named

omit shape numbered top in
theorem exists_childInField {name : String} {raws : List String} (renders : Renders n c)
    (fills : Fills name raws c.children)
    (plain : ∀ raw ∈ raws, raw ≠ splicedRaw ∧ raw ≠ "class_body") :
    ∃ m, n.childInField? name = some m := by
  obtain ⟨d, listed, code, role, raw⟩ := fills
  obtain ⟨m, member, shows⟩ := exists_showing code (plain _ raw).1 renders.children listed
  have labelled : m.field? = some name := by
    cases shows with
    | phrase field? => exact field?.trans role
    | anonymous isBody => exact absurd isBody (plain _ raw).2
    | leaf field? => exact field?.trans role
    | statement _ field? => exact field?.trans role
  exact Option.isSome_iff_exists.1 (List.find?_isSome.2 ⟨m, member, beq_iff_eq.2 labelled⟩)

omit numbered top in
theorem declares_enum (below : Below root c) (renders : Renders n c)
    (isEnum : c.raw = "enum_declaration") : n.kind = .enum ∧ declares n := by
  have kind : n.kind = .enum := by
    have composite : compositeKind? c = some .enum :=
      compositeKind_of_ownKind (by rw [isEnum]; rfl)
    exact renders.kind_eq composite
  obtain ⟨m, found⟩ :=
    exists_childInField renders (shape.enumName c below isEnum) (by decide)
  refine ⟨kind, ?_⟩
  rw [declares, declarationName?, kind, found]
  rfl

omit shape numbered top in
theorem kind_of_constant (renders : Renders n c) (isConstant : c.raw = "enum_constant")
    (member : d ∈ c.children) : n.kind = .other := by
  have composite := compositeKind_of_others (by rw [isConstant]; rfl) (List.ne_nil_of_mem member)
    (by rw [isConstant]; decide +kernel)
  exact renders.kind_eq composite

theorem around_constant (parent : n.parent? = some p) (renders : Renders p c)
    (isConstant : c.raw = "enum_constant") (member : d ∈ c.children) :
    ∃ q e, p.parent? = some q ∧ q.parent? = some e ∧ e.kind = .enum ∧ around? n = some e := by
  have filled {n p : t.Node} (parent : n.parent? = some p) : p.children ≠ [] :=
    List.ne_nil_of_mem (numbered.mem_children parent)
  have site : p.kind.isTypeDeclaration = false := by
    rw [kind_of_constant renders isConstant member]
    rfl
  obtain ⟨q, body, above, belowBody, rendersBody, rawBody, _⟩ :=
    exists_parent numbered top (by rw [shape.top]; decide) shape.constant (by decide) (by decide)
      (renders.rawKind.trans isConstant) (filled parent)
  have kind : q.kind.isTypeDeclaration = false := by
    have composite : compositeKind? body = some .classBody :=
      compositeKind_of_ownKind (by rw [rawBody]; rfl)
    rw [rendersBody.kind_eq composite]
    rfl
  obtain ⟨e, host, around, below, renders, raw, _⟩ :=
    exists_parent numbered top (by rw [shape.top]; decide) shape.enumBody (by decide) (by decide)
      (rendersBody.rawKind.trans rawBody) (filled above)
  obtain ⟨isEnum, declared⟩ := declares_enum shape below renders raw
  have own : e.kind.isTypeDeclaration = true := by
    rw [isEnum]
    rfl
  refine ⟨q, e, above, around, isEnum, ?_⟩
  rw [around?, Node.ancestors_of_parent? parent, Node.ancestors_of_parent? above,
    Node.ancestors_of_parent? around]
  simp [site, kind, own, declared]

end Parsed

def heededTypes : List String :=
  ["type_identifier", "generic_type", "scoped_type_identifier", "array_type", "integral_type",
    "floating_point_type"]

/-- The class has a clause whose type is passed over. -/
def Unheeded (d : Declared t) : Prop :=
  isAnonymous d.node = false ∧ ∃ clause type, d.node.childOfKind? .superclass = some clause ∧
    type ∈ clause.children ∧ type.rawKind ∈ unheededTypes

theorem unheeded_iff {d : Declared t} (named : isAnonymous d.node = false)
    {clause word type : t.Node} (found : d.node.childOfKind? .superclass = some clause)
    (children : clause.children = [word, type]) (isWord : word.rawKind = "extends") :
    Unheeded d ↔ type.rawKind ∈ unheededTypes := by
  constructor
  · rintro ⟨_, clause', type', same, among, raw⟩
    cases found.symm.trans same
    rw [children] at among
    simp only [List.mem_cons, List.not_mem_nil, or_false] at among
    rcases among with rfl | rfl
    · rw [isWord] at raw
      exact absurd raw (by decide)
    · exact raw
  · intro raw
    refine ⟨named, clause, type, found, ?_, raw⟩
    rw [children]
    exact .tail _ (.head _)

/-- What a class extends, as its source has it. -/
inductive Inherits (table : SymbolTable) (d : Declared t) (parent : SymbolId) : Prop
  | default (named : isAnonymous d.node = false)
      (plain : d.node.childOfKind? .superclass = none)
      (found : table.typeNamed? Platform.object = some parent)
  | extended (named : isAnonymous d.node = false) (clause word type : t.Node)
      (extends' : d.node.childOfKind? .superclass = some clause)
      (children : clause.children = [word, type]) (isWord : word.rawKind = "extends")
      (form : type.rawKind ∈ heededTypes)
      (spelled : type.rawKind ∈ namedTypes → typeName type = bareText type)
      (found : table.typeNamed? ((fileScope t).qualify (typeName type) d) = some parent)
  | constant (anonymous : isAnonymous d.node = true) (site body : t.Node)
      (isSite : d.node.parent? = some site) (isConstant : site.rawKind = "enum_constant")
      (around : site.parent? = some body) (o : Declared t) (member : o ∈ (fileScope t).types.toList)
      (outer : body.parent? = some o.node) (isEnum : o.kind = .enum) (found : o.id = parent)
  | created (anonymous : isAnonymous d.node = true) (site type : t.Node)
      (isSite : d.node.parent? = some site)
      (isCreation : site.rawKind = "object_creation_expression")
      (role : site.childInField? "type" = some type)
      (spelled : type.rawKind ∈ namedTypes → typeName type = bareText type) (name : String)
      (isName : name = (fileScope t).qualify (typeName type) ((owner? (fileScope t) d).getD d))
      (found : table.typeNamed? (if isInterface table name then Platform.object else name) =
        some parent)

theorem kind_of_class {d : Declared t} (member : d ∈ (fileScope t).types.toList)
    (isClass : d.kind = .class) : d.node.kind = .class := by
  have same := typeKind?_node member
  rw [isClass] at same
  revert same
  cases d.node.kind <;> simp [typeKind?]

section Resolve

variable {table : SymbolTable} {d : Declared t} {s : TypeSymbol} (shape : ClassShape root)
  (numbered : WellNumbered t)
  (top : Renders t.root root)
  (member : d ∈ (fileScope t).types.toList) (isClass : d.kind = .class)
  (linked : superclassIn (fileScope t) table d = s.superclass?)

include numbered member isClass linked shape top

theorem inherits_of_anonymous (anonymous : isAnonymous d.node = true) {parent : SymbolId}
    (stored : s.superclass? = some parent) : Inherits table d parent := by
  have raw : d.node.rawKind = anonymousClass := beq_iff_eq.1 anonymous
  rw [superclassIn, isClass] at linked
  dsimp only at linked
  rw [if_pos anonymous, stored, anonymousSuperclassIn] at linked
  rcases class_origin shape numbered top (kind_of_class member isClass) with
    ⟨c, _, renders, isDeclaration⟩ | ⟨_, site, host, c, isSite, below, renders, listed, sited⟩
  · have same := raw.symm.trans (renders.rawKind.trans isDeclaration)
    exact absurd same (by decide)
  · have siteKind := renders.rawKind
    have constant_iff : constantOwner? (fileScope t) d =
        (owner? (fileScope t) d).filter fun _ => host.raw == "enum_constant" := by
      rw [constantOwner?, isSite, Option.any_some, siteKind]
    rw [constant_iff] at linked
    simp only [anonymousClassParents, List.mem_cons, List.not_mem_nil, or_false] at sited
    -- A body without a name belongs to an expression, which names a type, or to a constant.
    rcases sited with isCreation | isConstant
    · obtain ⟨type, role⟩ :=
        exists_childInField renders (shape.created _ below isCreation) (by decide)
      have passed :
          ((owner? (fileScope t) d).filter fun _ => host.raw == "enum_constant") = none := by
        rw [isCreation]
        exact Option.filter_eq_none_iff.2 fun _ _ => by decide
      rw [passed, createdName?, isSite, Option.bind_some, role] at linked
      exact .created anonymous site type isSite (siteKind.trans isCreation) role
        (typeName_eq_bareText shape.toTypeShape numbered top) _ rfl linked
    · obtain ⟨body, e, around, outer, isEnum, owner⟩ :=
        around_constant shape numbered top isSite renders isConstant listed
      have owned := map_node_owner? numbered member
      rw [owner] at owned
      obtain ⟨o, owns, rfl⟩ := Option.map_eq_some_iff.1 owned
      have among := mem_types_of_owner? owns
      have kind := typeKind?_node among
      rw [isEnum] at kind
      rw [owns, isConstant, Option.filter_some, if_pos (beq_self_eq_true _)] at linked
      exact .constant anonymous site body isSite (siteKind.trans isConstant) around o among outer
        (Option.some.inj kind).symm (Option.some.inj linked)

omit linked in
theorem clause_of_named (named : isAnonymous d.node = false) :
    d.node.childInField? "superclass" = d.node.childOfKind? .superclass ∧
      ∀ clause, d.node.childOfKind? .superclass = some clause →
        ∃ word type, clause.children = [word, type] ∧ word.rawKind = "extends" ∧
          type.rawKind ∈ plainTypes ++ "annotated_type" :: builtTypes ∧
          supertypes clause = if type.rawKind ∈ unheededTypes then [] else [type] := by
  rcases class_origin shape numbered top (kind_of_class member isClass) with
    ⟨c, below, renders, isDeclaration⟩ | ⟨raw, _⟩
  · refine ⟨childInField_superclass shape below renders isDeclaration, ?_⟩
    intro clause found
    have kind : clause.kind = .superclass :=
      beq_iff_eq.1 (List.find?_some (p := fun m : t.Node => m.kind == .superclass) found)
    obtain ⟨e, isClause, shown⟩ :=
      (clause_iff shape below renders isDeclaration (List.mem_of_find?_eq_some found)).2 kind
    exact supertypes_of_clause isClause shown
  · rw [isAnonymous, raw] at named
    exact absurd named (by decide)

omit linked in
theorem extending_iff (notObject : d.qualifiedName ≠ Platform.object) :
    extending d ↔ ¬Unheeded d := by
  cases named : isAnonymous d.node with
  | true =>
      refine iff_of_true ?_ fun unheeded => absurd (named.symm.trans unheeded.1) (by decide)
      rw [extending, isClass]
      exact .inl named
  | false =>
      obtain ⟨role, clauses⟩ := clause_of_named shape numbered top member isClass named
      rw [extending_iff_of_named isClass named, role]
      cases found : d.node.childOfKind? .superclass with
      | none =>
          refine iff_of_true notObject ?_
          rintro ⟨_, clause, type, other, _⟩
          rw [found] at other
          cases other
      | some clause =>
          obtain ⟨word, type, children, isWord, _, types⟩ := clauses clause found
          rw [unheeded_iff named found children isWord]
          dsimp only
          rw [types]
          by_cases raw : type.rawKind ∈ unheededTypes
          · simp [raw]
          · simp [raw]

theorem not_linked_of_unheeded (unheeded : Unheeded d) : s.superclass? = none := by
  have ⟨named, clause, _, found, _⟩ := unheeded
  obtain ⟨role, clauses⟩ := clause_of_named shape numbered top member isClass named
  obtain ⟨word, type, children, isWord, _, types⟩ := clauses clause found
  have raw := (unheeded_iff named found children isWord).1 unheeded
  rw [superclassIn_of_named _ _ isClass named, role, found] at linked
  dsimp only at linked
  rw [types, if_pos raw] at linked
  exact linked.symm

theorem inherits_of_named (named : isAnonymous d.node = false) (heeded : ¬Unheeded d)
    (notObject : d.qualifiedName ≠ Platform.object) {parent : SymbolId}
    (stored : s.superclass? = some parent) : Inherits table d parent := by
  obtain ⟨role, clauses⟩ := clause_of_named shape numbered top member isClass named
  rw [superclassIn_of_named _ _ isClass named, role, stored] at linked
  cases found : d.node.childOfKind? .superclass with
  | none =>
      rw [found] at linked
      dsimp only at linked
      rw [if_neg notObject] at linked
      exact .default named found linked
  | some clause =>
      obtain ⟨word, type, children, isWord, form, types⟩ := clauses clause found
      have passed : type.rawKind ∉ unheededTypes :=
        mt (unheeded_iff named found children isWord).2 heeded
      rw [found] at linked
      dsimp only at linked
      rw [types, if_neg passed, List.head?_cons, Option.bind_some] at linked
      have kept : ∀ raw ∈ plainTypes ++ "annotated_type" :: builtTypes, raw ∉ unheededTypes →
          raw ∈ heededTypes := by
        decide
      exact .extended named clause word type found children isWord (kept _ form passed)
        (typeName_eq_bareText shape.toTypeShape numbered top) linked

end Resolve

/-- Whatever parser there is for the grammar, in a source without errors every class but `Object`
has the superclass that its declaration gives it, unless its clause has an annotation in front or a
type without a name. -/
theorem classes_inherit {p : Parser} (obeys : p.Obeys ClassShape) (id : TreeId) {source : String}
    {root : Concrete} (parsed : p source = .ok root) (clean : root.hasError = false) :
    ∃ t table, p.parse id source = .ok t ∧ resolve t = .ok table ∧
      ∀ type s, table.type? type = some s → s.isExternal = false → s.kind = .class →
        s.qualifiedName ≠ Platform.object →
        ∃ d ∈ (fileScope t).types.toList, d.id = type ∧ s.declaration? = some d.node.index ∧
          (¬Unheeded d → (∃ parent p, s.superclass? = some parent ∧
              table.type? parent = some p ∧ Inherits table d parent) ∧
            table.inheritanceDepth type ≠ .ok 0) ∧
          (Unheeded d → s.superclass? = none ∧ table.inheritanceDepth type = .ok 0) := by
  have shape := obeys source root parsed clean
  obtain ⟨t, made, errors, numbered, top⟩ := shape.exists_lower id
  obtain ⟨table, ran, resolved⟩ :=
    exists_resolved (errors.trans clean) (kind_root top shape.toSourceShape)
  refine ⟨t, table, Parser.parse_of_lower parsed made, ran, ?_⟩
  intro type s known declared isClass notObject
  obtain ⟨d, member, rfl, linked⟩ := resolved.exists_linked known declared
  have becomes := resolved.becomes member known
  -- Only types of other files turn into classes later.
  have bareClass : d.kind = .class := by
    rcases becomes.kind with same | ⟨external, _⟩
    · exact same.symm.trans isClass
    · cases external
  rw [becomes.qualifiedName] at notObject
  have links := linked.superclass.now resolved.settled.kept
  have extends_iff := extending_iff shape numbered top member bareClass notObject
  refine ⟨d, member, rfl, becomes.declaration?, ?_, ?_⟩
  · intro heeded
    obtain ⟨parent, stored⟩ := linked.found (extends_iff.2 heeded)
    obtain ⟨p, target, _⟩ := linked.asClass parent stored
    constructor
    · refine ⟨parent, p, stored, target, ?_⟩
      cases anonymous : isAnonymous d.node with
      | true =>
          exact inherits_of_anonymous shape numbered top member bareClass links anonymous stored
      | false =>
          exact inherits_of_named shape numbered top member bareClass links anonymous heeded
            notObject stored
    · rw [Ne, SymbolTable.inheritanceDepth_eq_zero_iff known]
      have above := SymbolTable.superclass?_eq_some_iff.2 ⟨s, known, stored, p, target⟩
      rw [above]
      exact nofun
  · intro unheeded
    have none := not_linked_of_unheeded shape numbered top member bareClass links unheeded
    refine ⟨none, (SymbolTable.inheritanceDepth_eq_zero_iff known).2 ?_⟩
    rw [Option.eq_none_iff_forall_ne_some]
    intro parent above
    obtain ⟨_, same, stored, _⟩ := SymbolTable.superclass?_eq_some_iff.1 above
    cases known.symm.trans same
    rw [none] at stored
    cases stored

def genericHeir : String := "class A extends B<C> {}"

theorem genericHeir_inherits :
    reader.Obeys ClassShape ∧ ∃ root, reader genericHeir = .ok root ∧ root.hasError = false ∧
      ∃ t table id s parent p, reader.parse ⟨0⟩ genericHeir = .ok t ∧ resolve t = .ok table ∧
        table.type? id = some s ∧ s.isExternal = false ∧ s.kind = .class ∧
        s.qualifiedName = "A" ∧ "A" ≠ Platform.object ∧ s.superclass? = some parent ∧
        table.type? parent = some p ∧ p.qualifiedName = "B" ∧
        table.inheritanceDepth id ≠ .ok 0 := by
  have clean : (concreteTree genericHeir).hasError = false := by decide +kernel
  have notObject : "A" ≠ Platform.object := by decide
  obtain ⟨t, table, made, ran, inherits⟩ := classes_inherit reader_obeys_class ⟨0⟩ rfl clean
  have told : (reader.parse ⟨0⟩ genericHeir).toOption.map (fun t =>
      (fileScope t).types.toList.map fun d => ((d.qualifiedName, d.kind, isAnonymous d.node),
        (d.node.childOfKind? .superclass).map (·.children.map fun c =>
          (c.rawKind, (fileScope t).qualify (typeName c) d)))) =
      some [(("A", .class, false), some [("extends", "extends"), ("generic_type", "B")])] := by
    decide +kernel
  rw [made] at told
  obtain ⟨d, types, same⟩ := List.map_eq_singleton_iff.1 (Option.some.inj told)
  simp only [Prod.mk.injEq] at same
  obtain ⟨⟨qualifiedName, isClass, named⟩, extended⟩ := same
  obtain ⟨clause, found, parts⟩ := Option.map_eq_some_iff.1 extended
  obtain ⟨word, others, children, isWord, others'⟩ := List.map_eq_cons_iff.1 parts
  obtain ⟨type, rfl, isType⟩ := List.map_eq_singleton_iff.1 others'
  simp only [Prod.mk.injEq] at isWord isType
  have member : d ∈ (fileScope t).types.toList := by
    rw [types]
    exact .head _
  have resolved := resolved_of_resolve ran
  obtain ⟨s, linked⟩ := resolved.tied d member
  have becomes := resolved.becomes member linked.known
  have sameName : s.qualifiedName = "A" := becomes.qualifiedName.trans qualifiedName
  have sameKind : s.kind = .class := by
    rcases becomes.kind with same | ⟨external, _⟩
    · exact same.trans isClass
    · cases external
  obtain ⟨e, listed, same, _, heeded, _⟩ := inherits d.id s linked.known linked.declared sameKind
    (sameName ▸ notObject)
  rw [types, List.mem_singleton] at listed
  subst listed
  have passed : ¬Unheeded e := by
    rw [unheeded_iff named found children isWord.1, isType.1]
    decide
  obtain ⟨⟨parent, p, stored, target, inheritance⟩, deep⟩ := heeded passed
  refine ⟨reader_obeys_class, _, rfl, clean, t, table, e.id, s, parent, p, made, ran, linked.known,
    linked.declared, sameKind, sameName, notObject, stored, target, ?_, deep⟩
  cases inheritance with
  | default _ plain => cases found.symm.trans plain
  | extended _ clause' word' type' found' children' _ _ _ links =>
      cases found.symm.trans found'
      cases children.symm.trans children'
      rw [isType.2] at links
      obtain ⟨q, there, called⟩ := resolved.settled.kept.names.named _ _ links
      cases target.symm.trans there
      exact called
  | constant anonymous => cases named.symm.trans anonymous
  | created anonymous => cases named.symm.trans anonymous

end Java

end TreeLint

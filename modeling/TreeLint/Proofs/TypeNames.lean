import TreeLint.Java.TypeName
import TreeLint.Proofs.Nodes
import TreeLint.Proofs.Renderings

namespace TreeLint.Java

open TreeLint.Tree Lowering Concrete

variable {t : Tree} {n m p : t.Node} {c d root : Concrete}

theorem ownKind_of_compositeKind {kind : Kind} (composite : compositeKind? c = some kind)
    (notExpression : kind ≠ .expression) (notOther : kind ≠ .other) :
    ownKind? c.raw = some kind := by
  unfold compositeKind? at composite
  split at composite
  next own =>
    cases composite
    exact own
  · cases composite
  · split at composite
    · cases composite
      exact absurd rfl notExpression
    · cases composite
      exact absurd rfl notOther

theorem compositeKind_of_ownKind {kind : Kind} (own : ownKind? c.raw = some kind) :
    compositeKind? c = some kind := by
  unfold compositeKind?
  rw [own]

theorem compositeKind_of_others (own : ownKind? c.raw = none) (filled : c.children ≠ [])
    (plain : (c.raw.endsWith "_expression" || expressionNames.contains c.raw) = false) :
    compositeKind? c = some .other := by
  obtain ⟨first, rest, some⟩ := List.exists_cons_of_ne_nil filled
  unfold compositeKind?
  rw [own, some]
  dsimp only
  rw [plain]
  rfl

theorem compositeKind_of_token {text : String} (token : IsToken text d)
    (own : ownKind? text = none) : compositeKind? d = none :=
  compositeKind?_eq_none_iff.2 ⟨token.raw ▸ own, token.childless⟩

theorem kind_of_token {parent text : String} (shows : Shows parent d m) (token : IsToken text d)
    (own : ownKind? text = none) (notSemicolon : text ≠ ";") :
    m.rawKind = text ∧ m.kind = .ofTokenText text := by
  obtain ⟨rawKind, kind⟩ := shows.isLeaf (compositeKind_of_token token own)
    (token.raw ▸ notSemicolon)
  refine ⟨rawKind.trans token.raw, kind.trans ?_⟩
  rw [leafKind, token.unnamed, token.spelled]
  rfl

/-- Outside the bodies of enumerations a child of a node stands for a child of its phrase. -/
theorem exists_shown_child (shape : SourceShape root) (below : Below root c) (renders : Renders n c)
    (notEnum : c.raw ≠ "enum_body") (member : m ∈ n.children) :
    ∃ d ∈ c.children, d.isComment = false ∧ Shows c.raw d m := by
  obtain ⟨h, d, _, same, shown⟩ :=
    exists_shown c true n.children c.children (fun _ member => member) renders.children m member
  have direct : h = c := by
    refine same.resolve_right ?_
    rintro ⟨_, s, among, spliced⟩
    exact notEnum (shape.declarations c below s among spliced)
  subst direct
  exact ⟨d, shown⟩

def unheededTypes : List String := ["annotated_type", "void_type", "boolean_type"]

theorem kind_of_plainType {parent : String} (shows : Shows parent d m)
    (member : d.raw ∈ plainTypes) (childless : d.children = []) (named : d.head.named = true) :
    m.rawKind = d.raw ∧
      m.kind = if d.raw ∈ unheededTypes then .keyword else .identifier := by
  have own : ∀ raw ∈ plainTypes, ownKind? raw = none ∧ raw ≠ ";" := by decide
  have ends : ∀ raw ∈ plainTypes, raw.endsWith "_literal" = false := by decide +kernel
  have leaf := compositeKind?_eq_none_iff.2 ⟨(own _ member).1, childless⟩
  obtain ⟨rawKind, kind⟩ := shows.isLeaf leaf (own _ member).2
  refine ⟨rawKind, kind.trans ?_⟩
  have plainEnd := ends _ member
  simp only [plainTypes, List.mem_cons, List.not_mem_nil, or_false] at member
  rcases member with raw | raw | raw
  all_goals
    rw [raw] at plainEnd
    simp [leafKind, named, raw, plainEnd, unheededTypes]

theorem kind_of_builtType {parent : String} (shows : Shows parent d m)
    (member : d.raw ∈ "annotated_type" :: builtTypes) (filled : d.children ≠ []) :
    m.rawKind = d.raw ∧ m.kind = if d.raw ∈ unheededTypes then .other else .typeRef := by
  have composite : compositeKind? d =
      some (if d.raw ∈ unheededTypes then .other else .typeRef) := by
    rcases List.mem_cons.1 member with raw | built
    · rw [compositeKind_of_others (by rw [raw]; rfl) filled (by rw [raw]; decide +kernel), raw]
      rfl
    · have own : ∀ raw ∈ builtTypes, ownKind? raw = some .typeRef ∧ raw ∉ unheededTypes := by
        decide
      rw [if_neg (own _ built).2]
      exact compositeKind_of_ownKind (own _ built).1
  have notBody : d.raw ≠ "class_body" := by
    intro isBody
    rw [isBody] at member
    exact absurd member (by decide)
  obtain ⟨_, renders⟩ := shows.renders composite notBody
  exact ⟨renders.rawKind, renders.kind_eq composite⟩

theorem kind_of_type {parent : String} (shows : Shows parent d m) (isType : IsAnyType d) :
    m.rawKind = d.raw ∧ namesType m = decide (d.raw ∉ unheededTypes) := by
  rcases isType.sort with ⟨plain, childless⟩ | ⟨built, filled⟩
  · obtain ⟨rawKind, kind⟩ := kind_of_plainType shows plain childless isType.named
    refine ⟨rawKind, ?_⟩
    rw [namesType, kind]
    split <;> simp [*]
  · obtain ⟨rawKind, kind⟩ := kind_of_builtType shows built filled
    refine ⟨rawKind, ?_⟩
    rw [namesType, kind]
    split <;> simp [*]

theorem kind_of_named {parent : String} (shows : Shows parent d m) (isNamed : IsNamed d) :
    m.rawKind ∈ namedTypes ∧ namesType m = true := by
  have heeded : ∀ raw ∈ namedTypes, raw ∉ unheededTypes := by decide
  have listed := isNamed.raw_mem_namedTypes
  obtain ⟨rawKind, names⟩ := kind_of_type shows isNamed.isAnyType
  exact ⟨rawKind ▸ listed, names.trans (decide_eq_true (heeded _ listed))⟩

theorem kind_of_annotated {parent : String} (shows : Shows parent d m)
    (annotated : IsAnnotation d) : m.rawKind ∈ annotationRaws ∧ m.kind = .other := by
  have own : ∀ raw ∈ annotationRaws, ownKind? raw = none ∧
      (raw.endsWith "_expression" || expressionNames.contains raw) = false ∧
      raw ≠ "class_body" := by
    decide +kernel
  obtain ⟨none, plain, notBody⟩ := own _ annotated.raw
  have composite := compositeKind_of_others none annotated.filled plain
  obtain ⟨_, renders⟩ := shows.renders composite notBody
  exact ⟨renders.rawKind ▸ annotated.raw, renders.kind_eq composite⟩

def unnamedParts : List String := ["type_arguments", "annotation", "marker_annotation"]

theorem named_kept : ∀ raw ∈ namedTypes, raw ∉ unnamedParts := by decide

/-- What the leaves of a type spell, its arguments and annotations left out. -/
def bareText (n : t.Node) : String :=
  if n.isLeaf then n.text
  else String.join (n.children.attach.map fun c =>
    if c.val.rawKind ∈ unnamedParts then "" else bareText c.val)
termination_by t.nodes.size - n.index
decreasing_by
  have := Node.index_lt_of_mem_children c.property
  have := c.val.isLt
  omega

theorem bareText_of_leaf (leaf : n.isLeaf = true) : bareText n = n.text := by
  rw [bareText, if_pos leaf]

theorem bareText_of_children (inner : n.isLeaf = false) :
    bareText n = String.join (n.children.map fun c =>
      if c.rawKind ∈ unnamedParts then "" else bareText c) := by
  rw [bareText, inner, if_neg Bool.false_ne_true,
    List.attach_map_val (f := fun c => if c.rawKind ∈ unnamedParts then "" else bareText c)]

theorem typeName_of_leaf (leaf : n.isLeaf = true) : typeName n = n.text := by
  rw [typeName, if_pos leaf]

theorem typeName_of_generic (inner : n.isLeaf = false) (raw : n.rawKind = "generic_type") :
    typeName n = ((n.children.find? namesType).map typeName).getD "" := by
  rw [typeName, inner, if_neg Bool.false_ne_true]
  split
  next =>
    split
    next found => rw [found]; rfl
    next none => rw [none]; rfl
  next other => exact absurd (raw.symm.trans other) (by decide)
  next other => exact absurd (raw.symm.trans other) (by decide)
  next other _ _ => exact absurd raw other

/-- What a node adds to the name of a qualified type around it. -/
def addedName (n : t.Node) : String :=
  match n.kind with
  | .identifier | .dot => n.text
  | .typeRef => typeName n
  | _ => ""

theorem typeName_of_scoped (inner : n.isLeaf = false)
    (raw : n.rawKind = "scoped_type_identifier") :
    typeName n = String.join (n.children.map addedName) := by
  rw [typeName, inner, if_neg Bool.false_ne_true]
  split
  next other => exact absurd (raw.symm.trans other) (by decide)
  next =>
    rw [← List.attach_map_val (f := addedName)]
    rfl
  next other => exact absurd (raw.symm.trans other) (by decide)
  next _ other _ => exact absurd raw other

theorem typeName_of_array (inner : n.isLeaf = false) (raw : n.rawKind = "array_type") :
    typeName n = ((n.childInField? "element").map typeName).getD "" ++
      ((n.childInField? "dimensions").map (·.text)).getD "" := by
  rw [typeName, inner, if_neg Bool.false_ne_true]
  split
  next other => exact absurd (raw.symm.trans other) (by decide)
  next other => exact absurd (raw.symm.trans other) (by decide)
  next =>
    split
    next found =>
      have found : n.childInField? "element" = some _ := found
      rw [found]
      rfl
    next missed =>
      have missed : n.childInField? "element" = none := missed
      rw [missed]
      rfl
  next _ _ other => exact absurd raw other

theorem typeName_of_others (notGeneric : n.rawKind ≠ "generic_type")
    (notScoped : n.rawKind ≠ "scoped_type_identifier") (notArray : n.rawKind ≠ "array_type") :
    typeName n = n.text := by
  rw [typeName]
  split
  · rfl
  · split
    next other => exact absurd other notGeneric
    next other => exact absurd other notScoped
    next other => exact absurd other notArray
    next => rfl

theorem addedName_of_names (numbered : WellNumbered t) (names : namesType n = true) :
    addedName n = typeName n := by
  rw [namesType, Bool.or_eq_true, beq_iff_eq, beq_iff_eq] at names
  rcases names with kind | kind
  · have leaf : n.isLeaf = true := (numbered.token_iff n).2 (by rw [kind]; rfl)
    rw [addedName, kind, typeName_of_leaf leaf]
  · rw [addedName, kind]

section Parsed

variable (shape : TypeShape root) (below : Below root c) (renders : Renders n c)

include shape below renders

theorem children_of_generic (raw : c.raw = "generic_type") :
    ∃ a b, n.children = [a, b] ∧ a.rawKind ∈ namedTypes ∧ namesType a = true ∧
      b.rawKind = "type_arguments" ∧ b.kind = .other ∧ b.field? = none := by
  obtain ⟨base, arguments, parts, isNamed, isArguments⟩ := shape.generic c below raw
  have whole : ∀ raw ∈ namedTypes, raw ≠ splicedRaw := by decide
  obtain ⟨a, b, nodes, shows, shows'⟩ := renders.pair parts (whole _ isNamed.raw_mem_namedTypes)
    (by rw [isArguments.raw]; decide)
  obtain ⟨rawKind, names⟩ := kind_of_named shows isNamed
  have composite := compositeKind_of_others (by rw [isArguments.raw]; rfl) isArguments.filled
    (by rw [isArguments.raw]; decide +kernel)
  obtain ⟨field?, inner⟩ := shows'.renders composite (by rw [isArguments.raw]; decide)
  exact ⟨a, b, nodes, rawKind, names, inner.rawKind.trans isArguments.raw,
    inner.kind_eq composite, field?.trans isArguments.unlabelled⟩

theorem mem_children_of_scoped (raw : c.raw = "scoped_type_identifier") (member : m ∈ n.children) :
    m.rawKind ∈ namedTypes ∧ namesType m = true ∨ m.rawKind = "." ∧ m.kind = .dot ∨
      m.rawKind ∈ unnamedParts ∧ m.kind = .other := by
  obtain ⟨d, listed, code, shows⟩ :=
    exists_shown_child shape.toSourceShape below renders (by rw [raw]; decide) member
  obtain ⟨outer, dot, annotations, last, parts, isNamed, isDot, annotated, isLast⟩ :=
    shape.qualified c below raw
  have listed := mem_solids.2 ⟨listed, code⟩
  rw [parts] at listed
  simp only [List.mem_cons, List.mem_append, List.not_mem_nil, or_false] at listed
  rcases listed with rfl | rfl | among | rfl
  · exact .inl (kind_of_named shows isNamed)
  · exact .inr (.inl (kind_of_token shows isDot rfl (by decide)))
  · have unnamed : ∀ raw ∈ annotationRaws, raw ∈ unnamedParts := by decide
    obtain ⟨rawKind, kind⟩ := kind_of_annotated shows (annotated d among)
    exact .inr (.inr ⟨unnamed _ rawKind, kind⟩)
  · exact .inl (kind_of_named shows (isLast.mono (List.Subset.refl _) (List.nil_subset _)))

variable (inner : n.isLeaf = false)
  (ih : ∀ m ∈ n.children, m.rawKind ∈ namedTypes → typeName m = bareText m)

include inner ih

theorem generic_spells (isGeneric : n.rawKind = "generic_type") : typeName n = bareText n := by
  rw [typeName_of_generic inner isGeneric, bareText_of_children inner]
  obtain ⟨a, b, nodes, rawKind, names, isArguments, _⟩ :=
    children_of_generic shape below renders (renders.rawKind.symm.trans isGeneric)
  have left : b.rawKind ∈ unnamedParts := by
    rw [isArguments]
    decide
  have same : typeName a = bareText a := ih a (by rw [nodes]; exact .head _) rawKind
  rw [nodes, List.find?_cons_of_pos names, List.map_cons, List.map_singleton,
    if_neg (named_kept _ rawKind), if_pos left, ← same]
  simp

theorem scoped_spells (numbered : WellNumbered t)
    (isScoped : n.rawKind = "scoped_type_identifier") : typeName n = bareText n := by
  rw [typeName_of_scoped inner isScoped, bareText_of_children inner]
  congr 1
  refine List.map_congr_left fun m member => ?_
  have raw := renders.rawKind.symm.trans isScoped
  rcases mem_children_of_scoped shape below renders raw member with
    ⟨rawKind, names⟩ | ⟨rawKind, kind⟩ | ⟨left, kind⟩
  · rw [addedName_of_names numbered names, if_neg (named_kept _ rawKind), ih m member rawKind]
  · have leaf : m.isLeaf = true := (numbered.token_iff m).2 (by rw [kind]; rfl)
    rw [addedName, kind, rawKind, if_neg (by decide), bareText_of_leaf leaf]
  · rw [addedName, kind, if_pos left]

end Parsed

/-- A type goes by what its leaves spell, its arguments and annotations left out. -/
theorem typeName_eq_bareText (shape : TypeShape root) (numbered : WellNumbered t)
    (top : Renders t.root root) (named : n.rawKind ∈ namedTypes) : typeName n = bareText n := by
  induction n using Node.induction_below with
  | step n ih =>
      cases inner : n.isLeaf with
      | true => rw [typeName_of_leaf inner, bareText_of_leaf inner]
      | false =>
          have own : ∀ raw ∈ namedTypes, raw ∉ [anonymousClass, "empty_statement"] := by decide
          obtain ⟨c, below, renders⟩ := exists_renders numbered top inner (own _ named)
          simp only [namedTypes, List.mem_cons, List.not_mem_nil, or_false] at named
          rcases named with isName | isGeneric | isScoped
          · have isName := renders.rawKind.symm.trans isName
            have leaf : compositeKind? c = none := compositeKind?_eq_none_iff.2
              ⟨by rw [isName]; rfl, shape.name c below isName⟩
            cases leaf.symm.trans renders.kind
          · exact generic_spells shape below renders inner ih isGeneric
          · exact scoped_spells shape below renders inner ih numbered isScoped

end TreeLint.Java

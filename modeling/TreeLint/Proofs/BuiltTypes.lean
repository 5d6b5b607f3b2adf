import TreeLint.Proofs.Alike
import TreeLint.Proofs.Ancestors
import TreeLint.Proofs.TypeNames
import TreeLint.Proofs.Words

/-! Types that are built from names, and what they go by. -/

namespace TreeLint

theorem exists_of_forall₂_concat {α β : Type} {R : α → β → Prop} {xs : List α} {x : α} {ys : List β}
    (all : List.Forall₂ R (xs ++ [x]) ys) :
    ∃ ys' y, ys = ys' ++ [y] ∧ List.Forall₂ R xs ys' ∧ R x y := by
  induction xs generalizing ys with
  | nil =>
      obtain ⟨y, _, related, others, rfl⟩ := List.forall₂_cons_left_iff.1 all
      cases others
      exact ⟨[], y, rfl, .nil, related⟩
  | cons first rest ih =>
      obtain ⟨y, _, related, others, rfl⟩ := List.forall₂_cons_left_iff.1 all
      obtain ⟨ys', last, rfl, front, behind⟩ := ih others
      exact ⟨y :: ys', last, rfl, .cons related front, behind⟩

namespace Java

open TreeLint.Tree Lowering Concrete

variable {t : Tree} {n m : t.Node} {c d root : Concrete}

section Shown

variable {parent : String}

theorem text_of_token {text : String} (shows : Shows parent d n) (token : IsToken text d)
    (own : ownKind? text = none) (notSemicolon : text ≠ ";") : n.text = text := by
  have plain := compositeKind_of_token token own
  cases shows with
  | phrase _ renders => cases plain.symm.trans renders.kind
  | anonymous _ _ _ _ _ renders => cases plain.symm.trans renders.kind
  | leaf _ _ _ _ _ childless spelled =>
      exact (Node.text_of_token spelled childless).trans token.spelled
  | statement isSemicolon => exact absurd (token.raw.symm.trans isSemicolon) notSemicolon

end Shown

def composedTypes : List String := ["generic_type", "scoped_type_identifier", "array_type"]

def brackets (depth : Nat) : String := String.join (List.replicate depth "[]")

/-- The type is built from the names, in this order, by type arguments and dots, and has so many
dimensions. -/
inductive BuiltFrom : t.Node → List String → Nat → Prop
  | name {n : t.Node} (rawKind : n.rawKind = "type_identifier") (leaf : n.isLeaf = true) :
      BuiltFrom n [n.text] 0
  | applied {n base arguments : t.Node} {names : List String}
      (rawKind : n.rawKind = "generic_type") (inner : n.isLeaf = false)
      (children : n.children = [base, arguments]) (named : namesType base = true)
      (isArguments : arguments.rawKind = "type_arguments") (built : BuiltFrom base names 0) :
      BuiltFrom n names 0
  | qualified {n outer dot last : t.Node} {annotations : List t.Node} {names : List String}
      (rawKind : n.rawKind = "scoped_type_identifier") (inner : n.isLeaf = false)
      (children : n.children = outer :: dot :: (annotations ++ [last]))
      (named : namesType outer = true) (isDot : dot.kind = .dot) (spelled : dot.text = ".")
      (others : ∀ a ∈ annotations, a.kind = .other) (isName : last.rawKind = "type_identifier")
      (named' : namesType last = true) (leaf : last.isLeaf = true)
      (built : BuiltFrom outer names 0) : BuiltFrom n (names ++ [last.text]) 0
  | array {n element dimensions : t.Node} {names : List String} {depth more : Nat}
      (rawKind : n.rawKind = "array_type") (inner : n.isLeaf = false)
      (children : n.children = [element, dimensions]) (field? : element.field? = some "element")
      (field'? : dimensions.field? = some "dimensions")
      (bracketed : dimensions.text = brackets more) (built : BuiltFrom element names depth) :
      BuiltFrom n names (depth + more)

theorem parts_of_array {element dimensions : t.Node} (children : n.children = [element, dimensions])
    (role : element.field? = some "element") (role' : dimensions.field? = some "dimensions") :
    n.childInField? "element" = some element ∧
      n.childInField? "dimensions" = some dimensions := by
  simp [Node.childInField?, children, role, role']

theorem brackets_add (depth more : Nat) :
    brackets (depth + more) = brackets depth ++ brackets more := by
  rw [brackets, List.replicate_add, String.join_append, brackets, brackets]

namespace BuiltFrom

variable {names : List String} {depth : Nat}

theorem names_ne_nil (built : BuiltFrom n names depth) : names ≠ [] := by
  induction built with
  | name => exact List.cons_ne_nil _ _
  | applied _ _ _ _ _ _ ih => exact ih
  | qualified => exact List.concat_ne_nil _ _
  | array _ _ _ _ _ _ _ ih => exact ih

/-- A type goes by the names that it is built from, with dots between them and the brackets behind,
whatever arguments it has. -/
theorem typeName (numbered : WellNumbered t) (built : BuiltFrom n names depth) :
    typeName n = ".".intercalate names ++ brackets depth := by
  induction built with
  | name _ leaf =>
      rw [typeName_of_leaf leaf, String.intercalate_singleton]
      exact (String.append_empty).symm
  | applied rawKind inner children named _ _ ih =>
      rw [typeName_of_generic inner rawKind, children, List.find?_cons_of_pos named]
      exact ih
  | @qualified n outer dot last annotations names rawKind inner children named isDot spelled
      others _ named' leaf built ih =>
      have between : addedName dot = "." := by rw [addedName, isDot, spelled]
      have empty : String.join (annotations.map addedName) = "" := by
        clear children
        induction annotations with
        | nil => rfl
        | cons a rest ih =>
            obtain ⟨other, others⟩ := List.forall_mem_cons.1 others
            rw [List.map_cons, String.join_cons, ih others, addedName, other]
            rfl
      rw [typeName_of_scoped inner rawKind, children, List.map_cons, List.map_cons, List.map_append,
        List.map_singleton, addedName_of_names numbered named,
        addedName_of_names numbered named', typeName_of_leaf leaf, between, ih, String.join_cons,
        String.join_cons, String.join_append, empty,
        String.intercalate_append_of_ne_nil built.names_ne_nil (List.cons_ne_nil _ _),
        String.intercalate_singleton]
      simp [brackets, String.append_assoc]
  | @array n element dimensions names depth more rawKind inner children field? field'? bracketed _
      ih =>
      obtain ⟨here, behind⟩ := parts_of_array children field? field'?
      rw [typeName_of_array inner rawKind, here, behind, Option.map_some, Option.map_some,
        Option.getD_some, Option.getD_some, ih, bracketed, brackets_add, String.append_assoc]

end BuiltFrom

section Parsed

variable (numbered : WellNumbered t) (top : Renders t.root root)

include numbered

theorem children_of_scoped {outer dot last : Concrete} {annotations : List Concrete}
    (renders : Renders n c)
    (order : solids c.children = outer :: dot :: (annotations ++ [last])) (isNamed : IsNamed outer)
    (isDot : IsToken "." dot) (annotated : ∀ a ∈ annotations, IsAnnotation a)
    (isLast : IsTypeName last) :
    ∃ a b e between, n.children = a :: b :: (between ++ [e]) ∧ a.rawKind ∈ namedTypes ∧
      namesType a = true ∧ b.kind = .dot ∧ b.text = "." ∧ (∀ m ∈ between, m.kind = .other) ∧
      e.rawKind = "type_identifier" ∧ namesType e = true ∧ e.isLeaf = true := by
  have isName : last.raw ∈ ["type_identifier"] ∧ last.children = [] :=
    isLast.sort.resolve_right fun both => nomatch both.1
  have lastRaw := List.mem_singleton.1 isName.1
  have whole : ∀ d ∈ solids c.children, d.raw ≠ splicedRaw := by
    have named : ∀ raw ∈ namedTypes, raw ≠ splicedRaw := by decide
    have plain : ∀ raw ∈ annotationRaws, raw ≠ splicedRaw := by decide
    rw [order, List.forall_mem_cons, List.forall_mem_cons, List.forall_mem_append,
      List.forall_mem_singleton, lastRaw, isDot.raw]
    exact ⟨named _ isNamed.raw_mem_namedTypes, by decide,
      fun a member => plain _ (annotated a member).raw, by decide⟩
  have shown := shows_solids whole renders.children
  rw [order] at shown
  obtain ⟨a, _, first, later, children⟩ := List.forall₂_cons_left_iff.1 shown
  obtain ⟨b, _, dotted, behind, rfl⟩ := List.forall₂_cons_left_iff.1 later
  obtain ⟨between, e, rfl, others, closing⟩ := exists_of_forall₂_concat behind
  obtain ⟨rawKind, names⟩ := kind_of_named first isNamed
  obtain ⟨_, isDotKind⟩ := kind_of_token dotted isDot rfl (by decide)
  have spelled := text_of_token dotted isDot rfl (by decide)
  refine ⟨a, b, e, between, children, rawKind, names, isDotKind, spelled, ?_, ?_⟩
  · intro m member
    obtain ⟨i, inside, rfl⟩ := List.getElem_of_mem member
    have isAnnotated := annotated _ (List.getElem_mem (others.length_eq ▸ inside))
    exact (kind_of_annotated (others.get _ inside) isAnnotated).2
  · obtain ⟨rawKind, kind⟩ := kind_of_plainType closing (by rw [lastRaw]; decide) isName.2
      isLast.named
    rw [lastRaw] at rawKind kind
    have kind : e.kind = .identifier := kind
    refine ⟨rawKind, by rw [namesType, kind]; rfl, (numbered.token_iff e).2 ?_⟩
    rw [kind]
    rfl

include top

theorem exists_renders_of_composed (composed : n.rawKind ∈ composedTypes) :
    n.isLeaf = false ∧ ∃ c, Below root c ∧ Renders n c := by
  have own : ∀ raw ∈ composedTypes, ownKind? raw ≠ none ∧
      raw ∉ [anonymousClass, "empty_statement", "program", ";"] := by
    decide
  obtain ⟨owned, other⟩ := own _ composed
  have inner : n.isLeaf = false := by
    cases exists_origin numbered top n with
    | top same => exact Renders.not_isLeaf numbered (same ▸ top)
    | part host c below listed shows =>
        cases shows with
        | phrase _ renders => exact renders.not_isLeaf numbered
        | anonymous _ _ rawKind => exact absurd (rawKind ▸ .head _) other
        | leaf _ rawKind plain =>
            exact absurd (rawKind ▸ (compositeKind?_eq_none_iff.1 plain).1) owned
        | statement _ _ rawKind => exact absurd (rawKind ▸ .tail _ (.head _)) other
    | body c _ _ renders => exact renders.not_isLeaf numbered
    | semicolon _ _ rawKind => exact absurd (by simp [rawKind]) other
  refine ⟨inner, exists_renders numbered top inner fun among => other ?_⟩
  simp only [List.mem_cons, List.not_mem_nil, or_false] at among ⊢
  tauto

section Named

variable (shape : TypeShape root)

include shape

theorem isLeaf_of_name (isName : n.rawKind = "type_identifier") : n.isLeaf = true := by
  refine Bool.of_not_eq_false fun inner => ?_
  obtain ⟨c, below, renders⟩ := exists_renders numbered top inner (by rw [isName]; decide)
  have raw := renders.rawKind.symm.trans isName
  have leaf : compositeKind? c = none := compositeKind?_eq_none_iff.2
    ⟨by rw [raw]; rfl, shape.name c below raw⟩
  cases leaf.symm.trans renders.kind

theorem exists_builtFrom (named : n.rawKind ∈ namedTypes) : ∃ names, BuiltFrom n names 0 := by
  induction n using Node.induction_below with
  | step n ih =>
      by_cases isName : n.rawKind = "type_identifier"
      · exact ⟨_, .name isName (isLeaf_of_name numbered top shape isName)⟩
      have composed : n.rawKind ∈ composedTypes := by
        simp only [namedTypes, composedTypes, List.mem_cons, List.not_mem_nil, or_false] at named ⊢
        tauto
      obtain ⟨inner, c, below, renders⟩ := exists_renders_of_composed numbered top composed
      by_cases generic : n.rawKind = "generic_type"
      · obtain ⟨base, arguments, children, rawKind, names, isArguments, _⟩ :=
          children_of_generic shape below renders (renders.rawKind.symm.trans generic)
        obtain ⟨_, built⟩ := ih base (by rw [children]; exact .head _) rawKind
        exact ⟨_, .applied generic inner children names isArguments built⟩
      · have isScoped : n.rawKind = "scoped_type_identifier" := by
          simp only [namedTypes, List.mem_cons, List.not_mem_nil, or_false] at named
          tauto
        obtain ⟨outer, dot, annotations, last, order, isNamed, isDot, annotated, isLast⟩ :=
          shape.qualified c below (renders.rawKind.symm.trans isScoped)
        obtain ⟨a, b, e, between, children, rawKind, names, dotKind, spelled, others, lastRaw,
          names', leaf⟩ := children_of_scoped numbered renders order isNamed isDot annotated isLast
        obtain ⟨_, built⟩ := ih a (by rw [children]; exact .head _) rawKind
        exact ⟨_, .qualified isScoped inner children names dotKind spelled others lastRaw names'
          leaf built⟩

end Named

theorem children_of_array (shape : NameShape root) (array : n.rawKind = "array_type") :
    ∃ element dimensions d, n.children = [element, dimensions] ∧
      element.field? = some "element" ∧ dimensions.field? = some "dimensions" ∧
      IsDimensions d ∧ Renders dimensions d := by
  obtain ⟨_, c, below, renders⟩ :=
    exists_renders_of_composed numbered top (n := n) (by rw [array]; decide)
  obtain ⟨x, y, order, role, raw, isDimensions⟩ :=
    shape.array c below (renders.rawKind.symm.trans array)
  have types : ∀ raw ∈ plainTypes ++ builtTypes, raw ≠ splicedRaw := by decide
  obtain ⟨element, dimensions, children, first, second⟩ :=
    renders.pair order (types _ raw) (by rw [isDimensions.raw]; decide)
  have composite : compositeKind? y = some .other :=
    compositeKind_of_others (by rw [isDimensions.raw]; rfl) isDimensions.filled
      (by rw [isDimensions.raw]; decide +kernel)
  obtain ⟨role', inner⟩ := second.renders composite (by rw [isDimensions.raw]; decide)
  exact ⟨element, dimensions, y, children, first.field?_eq.trans role,
    role'.trans isDimensions.field?, isDimensions, inner⟩

omit numbered top in
theorem texts_of_pairs {parent : String} {phrases : List Concrete} {ns : List t.Node}
    (pairs : BracketPairs phrases) (shown : List.Forall₂ (Shows parent) phrases ns)
    (bare : ∀ m ∈ ns, m.rawKind ∉ annotationRaws) :
    ∃ k, String.join (ns.map (·.text)) = brackets k := by
  induction pairs generalizing ns with
  | nil =>
      cases shown
      exact ⟨0, rfl⟩
  | @cons annotations later opening closing annotated opens closes _ ih =>
      cases annotations with
      | cons a rest =>
          obtain ⟨m, _, shows, _, rfl⟩ := List.forall₂_cons_left_iff.1 shown
          obtain ⟨raw, _⟩ := kind_of_annotated shows (annotated a (.head _))
          exact absurd raw (bare m (.head _))
      | nil =>
          obtain ⟨a, _, first, behind, rfl⟩ := List.forall₂_cons_left_iff.1 shown
          obtain ⟨b, _, second, others, rfl⟩ := List.forall₂_cons_left_iff.1 behind
          obtain ⟨k, spelled⟩ := ih others fun m member => bare m (.tail _ (.tail _ member))
          refine ⟨1 + k, ?_⟩
          rw [List.map_cons, List.map_cons, String.join_cons, String.join_cons,
            text_of_token first opens rfl (by decide), text_of_token second closes rfl (by decide),
            spelled, brackets_add, ← String.append_assoc]
          rfl

omit top in
theorem text_of_dimensions (isDimensions : IsDimensions d) (renders : Renders n d)
    (bare : ∀ m ∈ n.children, m.rawKind ∉ annotationRaws) : ∃ k, n.text = brackets k := by
  have whole : ∀ c ∈ solids d.children, c.raw ≠ splicedRaw := by
    have others : ∀ raw ∈ "[" :: "]" :: annotationRaws, raw ≠ splicedRaw := by decide
    exact fun c member => others _ (isDimensions.pairs.raw_mem c member)
  obtain ⟨k, spelled⟩ :=
    texts_of_pairs isDimensions.pairs (shows_solids whole renders.children) bare
  exact ⟨k, (Node.text_of_not_isLeaf (renders.not_isLeaf numbered)).trans spelled⟩

/-- Types with a name, and arrays of them without annotations between their brackets. -/
inductive Nameable : t.Node → Prop
  | named {n : t.Node} (named : n.rawKind ∈ namedTypes) : Nameable n
  | array {n element dimensions : t.Node} (array : n.rawKind = "array_type")
      (isElement : n.childInField? "element" = some element)
      (isDimensions : n.childInField? "dimensions" = some dimensions)
      (bare : ∀ m ∈ dimensions.children, m.rawKind ∉ annotationRaws) (nameable : Nameable element) :
      Nameable n

theorem Nameable.exists_builtFrom (shape : NameShape root) (nameable : Nameable n) :
    ∃ names depth, BuiltFrom n names depth := by
  induction nameable with
  | named named =>
      obtain ⟨names, built⟩ := Java.exists_builtFrom numbered top shape.toTypeShape named
      exact ⟨names, 0, built⟩
  | @array n element dimensions array isElement isDimensions bare _ ih =>
      obtain ⟨names, depth, built⟩ := ih
      obtain ⟨a, b, d, children, role, role', isPart, renders⟩ :=
        children_of_array numbered top shape array
      obtain ⟨here, behind⟩ := parts_of_array children role role'
      cases isElement.symm.trans here
      cases isDimensions.symm.trans behind
      obtain ⟨k, spelled⟩ := text_of_dimensions numbered isPart renders bare
      have inner := (exists_renders_of_composed numbered top (n := n) (by rw [array]; decide)).1
      exact ⟨names, depth + k, .array array inner children role role' spelled built⟩

end Parsed

end Java

end TreeLint

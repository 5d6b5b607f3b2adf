import TreeLint.Proofs.Shapes
import TreeLint.Proofs.Spelled

namespace TreeLint.Java

open Concrete Form Grammar

namespace Phrase

def listed : List Phrase :=
  [annotationUse, elementValue, simpleType, type, typeOrAnnotated, typeArguments, primary,
    arrayInitializer, recordPattern, switchBody, statement, block, declaration, member,
    interfaceMember, annotationMember] ++
  [false, true].flatMap fun inLabel =>
    [expression inLabel, operand inLabel] ++
      (List.range 11).map fun level => operators level inLabel

/-- Beyond the tightest operators all levels are alike. -/
theorem exists_listed (p : Phrase) : ∃ q ∈ listed, q.form = p.form := by
  cases p with
  | expression inLabel => exact ⟨_, by cases inLabel <;> decide, rfl⟩
  | operand inLabel => exact ⟨_, by cases inLabel <;> decide, rfl⟩
  | operators level inLabel =>
      by_cases within : level < 11
      · refine ⟨operators level inLabel, List.mem_append_right _ ?_, rfl⟩
        refine List.mem_flatMap.2 ⟨inLabel, by cases inLabel <;> decide, List.mem_append_right _ ?_⟩
        exact List.mem_map_of_mem (List.mem_range.2 within)
      · obtain ⟨more, rfl⟩ := Nat.exists_eq_add_of_le' (Nat.le_of_not_lt within)
        refine ⟨operators 10 inLabel, by cases inLabel <;> decide, rfl⟩
  | _ => exact ⟨_, by decide, rfl⟩

theorem forall_form (test : Form Phrase → Bool) (all : listed.all (test ·.form)) (p : Phrase) :
    test p.form := by
  obtain ⟨q, member, same⟩ := p.exists_listed
  rw [← same]
  exact List.all_eq_true.1 all q member

end Phrase

def rules : List (String × JavaForm) :=
  topLevel.productions ++ Phrase.listed.flatMap (·.form.productions)

theorem productions_subset_rules (p : Phrase) : p.form.productions ⊆ rules := by
  obtain ⟨q, member, same⟩ := p.exists_listed
  rw [← same]
  intro x made
  exact List.mem_append_right _ (List.mem_flatMap.2 ⟨q, member, made⟩)

def Ruled : Concrete → Prop := Made Phrase.form fun raw body => (raw, body) ∈ rules

section Tests

variable {raw name : String}

def Sieve.barring (raw : String) : Sieve where
  leaf
    | .keyword text | .symbol text => text != raw
    | .keywordAs other _ | .name other _ => other != raw
    | .joined parts => String.join parts != raw
    | .literal => !literalNames.contains raw
    | .content => !contentNames.contains raw
    | .hidden => true
  node := (· != raw)
  role _ := true

theorem ensures_barring (code : raw ∉ commentNames) :
    (Sieve.barring raw).Ensures (·.raw ≠ raw) where
  comment c comment _ same := code (same ▸ isComment_iff.1 comment)
  leaf := by
    intro t x c passed known made
    cases sort : x.sort <;> cases t <;> simp [Terminal.leafOf, sort] at made
    case word.keyword | word.keywordAs | word.name | symbol.symbol =>
      obtain ⟨_, rfl⟩ := made
      exact bne_iff_ne.1 passed
    case literal.literal own | content.content own =>
      subst made
      rintro (rfl : own = raw)
      rw [sort] at known
      have unknown := (Bool.not_eq_true' _).mp passed
      exact absurd known (Bool.eq_false_iff.1 unknown)
  joined parts span passed := bne_iff_ne.1 passed
  node other span children passed _ := bne_iff_ne.1 passed
  role name c _ other := by
    obtain ⟨head, children⟩ := c
    exact other

def Sieve.filled (raw : String) : Sieve := { Sieve.barring raw with node := fun _ => true }

theorem ensures_filled (code : raw ∉ commentNames) :
    (Sieve.filled raw).Ensures fun c => c.raw = raw → c.children ≠ [] where
  comment c comment none same := absurd same ((ensures_barring code).comment c comment none)
  leaf t x c passed known made same :=
    absurd same ((ensures_barring code).leaf t x c passed known made)
  joined parts span passed same := absurd same ((ensures_barring code).joined parts span passed)
  node _ _ _ _ filled _ := filled
  role name c _ filled := by
    obtain ⟨head, children⟩ := c
    exact filled

def Sieve.without (name : String) : Sieve where
  leaf _ := true
  node _ := true
  role := (· != name)

theorem ensures_without (name : String) :
    (Sieve.without name).Ensures (·.head.field? ≠ some name) where
  comment c _ none := by rw [none]; exact nofun
  leaf t x c _ _ made := by
    obtain ⟨_, _, rfl⟩ := exists_leaf made
    exact nofun
  joined _ _ _ := nofun
  node _ _ _ _ _ := nofun
  role other c passed differs := by
    obtain ⟨⟨_, _, _, field?, _, _⟩, children⟩ := c
    cases field? with
    | none => exact fun same => bne_iff_ne.1 passed (Option.some.inj same)
    | some own => exact differs

end Tests

theorem mem_children_concreteTree {source : String}
    (clean : (concreteTree source).hasError = false) {c : Concrete}
    (member : c ∈ (concreteTree source).children) :
    c.IsCommentLeaf ∨ ∃ found, Derives Phrase.form topLevel found ∧ c ∈ found := by
  have below : anyError (readAll (lexemes source).1) = false := by
    rw [concreteTree, hasError, Bool.or_eq_false_iff] at clean
    exact clean.2
  refine mem_readAll (allKnown_lexemes source) ?_ member
  intro d listed
  exact Bool.eq_false_iff.2 fun error =>
    Bool.eq_false_iff.1 (hasError_of_mem listed below) (hasError_of_isError error)

theorem ruled_of_below {source : String} (clean : (concreteTree source).hasError = false)
    {c : Concrete} (below : Below (concreteTree source) c) : c = concreteTree source ∨ Ruled c := by
  rcases below.cases with same | ⟨d, member, below⟩
  · exact .inl same
  · right
    rcases mem_children_concreteTree clean member with ⟨_, _, childless⟩ | ⟨found, derives, listed⟩
    · rcases below.cases with rfl | ⟨e, inner, _⟩
      · exact .inl childless
      · rw [childless] at inner
        cases inner
    · refine derives.made (fun raw body => (raw, body) ∈ rules) ?_ ?_ d listed c below
      · exact fun p x made => productions_subset_rules p made
      · exact fun x made => List.mem_append_left _ made

theorem exists_rule {source : String} (clean : (concreteTree source).hasError = false)
    {c d : Concrete} (below : Below (concreteTree source) c) (inner : c.raw ≠ "program")
    (member : d ∈ c.children) :
    ∃ body found, (c.raw, body) ∈ rules ∧ Derives Phrase.form body found ∧
      c.children = found.dropWhile isComment := by
  rcases ruled_of_below clean below with rfl | childless | ruled
  · exact absurd rfl inner
  · rw [childless] at member
    cases member
  · exact ruled

def bodies (raw : String) : List JavaForm := (rules.filter (·.1 == raw)).map (·.2)

theorem mem_bodies {raw : String} {body : JavaForm} (rule : (raw, body) ∈ rules) :
    body ∈ bodies raw :=
  List.mem_map.2 ⟨(raw, body), List.mem_filter.2 ⟨rule, beq_self_eq_true raw⟩, rfl⟩

theorem eq_of_rule {raw : String} {body whole : JavaForm} {n : Nat}
    (alike : (bodies raw).map (.node raw) = .replicate n whole) (rule : (raw, body) ∈ rules) :
    .node raw body = whole := by
  have listed : .node raw body ∈ (bodies raw).map (Form.node raw) :=
    List.mem_map_of_mem (mem_bodies rule)
  rw [alike] at listed
  exact List.eq_of_mem_replicate listed

section Phrases

variable {leaves nodes : List String} {raw : String}

theorem holdsOf_isPhrase (member : raw ∈ nodes) (code : raw ∉ commentNames) :
    HoldsOf (IsPhrase leaves nodes) raw :=
  ⟨code, fun _ _ some => ⟨rfl, rfl, .inr ⟨member, some⟩⟩⟩

theorem isPhrase_leaf (member : raw ∈ leaves) (x : Lexeme) :
    IsPhrase leaves nodes (x.leaf raw true) :=
  ⟨rfl, rfl, .inl ⟨member, rfl⟩⟩

end Phrases

theorem isToken_leaf {text : String} {x : Lexeme} (spelled : x.text = text) :
    IsToken text (x.leaf text false) :=
  ⟨rfl, rfl, spelled, rfl⟩

theorem solid_word {text : String} (code : text ∉ commentNames) :
    Solid Phrase.form (word text) :=
  (Names.keyword (Q := fun _ => True) code fun _ _ => trivial).solid

theorem names_word {text : String} (code : text ∉ commentNames) :
    Names Phrase.form (word text) (IsToken text) :=
  .keyword code fun _ => isToken_leaf

theorem names_simpleType : Names Phrase.form (.phrase .simpleType) IsType := by
  have words (texts : List String) (code : ∀ text ∈ texts, text ∉ commentNames) :
      Solid Phrase.form (anyWord texts) := by
    refine Names.solid (Q := fun _ => True) (.choice fun f member => ?_)
    obtain ⟨text, listed, rfl⟩ := List.mem_map.1 member
    exact .keyword (code text listed) fun _ _ => trivial
  have typeName (reserved : List String) : Names Phrase.form (Grammar.typeName reserved) IsType :=
    .name (by decide) (isPhrase_leaf (by decide))
  refine .phrase (.choice ?_)
  simp only [List.forall_mem_cons, List.not_mem_nil, false_implies, implies_true, and_true]
  constructor
  · refine .choice ?_
    simp only [List.forall_mem_cons, List.not_mem_nil, false_implies, implies_true, and_true]
    refine ⟨?_, ?_, ?_, ?_⟩
    · exact .keywordAs (by decide) (isPhrase_leaf (by decide))
    · exact .node (holdsOf_isPhrase (by decide) (by decide)) (words _ (by decide))
    · exact .node (holdsOf_isPhrase (by decide) (by decide)) (words _ (by decide))
    · exact .keywordAs (by decide) (isPhrase_leaf (by decide))
  · refine .chain (typeName _) ?_
    simp only [List.forall_mem_cons, List.not_mem_nil, false_implies, implies_true, and_true]
    constructor
    · exact holdsOf_isPhrase (by decide) (by decide)
    · exact holdsOf_isPhrase (by decide) (by decide)

theorem names_type : Names Phrase.form (.phrase .type) IsType := by
  refine .phrase (.chain names_simpleType ?_)
  simp only [List.forall_mem_cons, List.not_mem_nil, false_implies, implies_true, and_true]
  exact holdsOf_isPhrase (by decide) (by decide)

theorem names_anyType : Names Phrase.form anyType IsAnyType := by
  refine .phrase (.choice ?_)
  simp only [List.forall_mem_cons, List.not_mem_nil, false_implies, implies_true, and_true]
  constructor
  · refine .node (holdsOf_isPhrase (by decide) (by decide)) (.seq ?_ names_type.solid)
    exact List.mem_cons_of_mem _ (List.mem_singleton_self _)
  · intro found derives
    exact (names_type found derives).mono fun c isType => isType.isAnyType

/-- The forms of what stands in front of type arguments, and of the last name in a type. -/
def qualifiers : List JavaForm := [
  .chain (Grammar.typeName reservedWords)
    [genericGrowth, scopedGrowth (plainTypeRaws ++ ["generic_type"])],
  .chain (Grammar.typeName reservedWords) [genericGrowth, scopedGrowth plainTypeRaws],
  parametrizedType]

set_option maxRecDepth 4000 in
theorem bodies_generic :
    bodies "generic_type" = qualifiers.map fun f => .seq [f, .phrase .typeArguments] :=
  (rfl)

set_option maxRecDepth 4000 in
theorem bodies_scoped :
    bodies "scoped_type_identifier" =
      qualifiers.map fun f =>
        .seq [f, .seq [sym ".", annotations, Grammar.typeName reservedAfterDot]] :=
  (rfl)

theorem bodies_typeIdentifier : bodies "type_identifier" = [] :=
  List.isEmpty_iff.1 (by decide +kernel)

theorem names_typeName (reserved : List String) :
    Names Phrase.form (Grammar.typeName reserved) IsNamed :=
  .name (by decide) (isPhrase_leaf (by decide))

theorem names_qualifier : ∀ f ∈ qualifiers, Names Phrase.form f IsNamed := by
  have grown {first : JavaForm} {after : List String} (names : Names Phrase.form first IsNamed) :
      Names Phrase.form (.chain first [genericGrowth, scopedGrowth after]) IsNamed := by
    refine .chain names ?_
    rw [List.forall_mem_cons, List.forall_mem_singleton]
    have fresh : ∀ raw ∈ ["generic_type", "scoped_type_identifier"], raw ∉ commentNames := by decide
    exact ⟨holdsOf_isPhrase (.head _) (fresh _ (.head _)),
      holdsOf_isPhrase (.tail _ (.head _)) (fresh _ (.tail _ (.head _)))⟩
  rw [qualifiers, List.forall_mem_cons, List.forall_mem_cons, List.forall_mem_singleton]
  exact ⟨grown (names_typeName _), grown (names_typeName _),
    grown (.only (grown (names_typeName _)))⟩

theorem names_sym {text : String} (code : text ∉ commentNames) :
    Names Phrase.form (sym text) (IsToken text) :=
  .symbol code fun _ => isToken_leaf

theorem names_typeArguments : Names Phrase.form (.phrase .typeArguments) IsTypeArguments :=
  .phrase (.node ⟨by decide, fun _ _ some => ⟨rfl, rfl, some⟩⟩
    (.seq (List.mem_cons_self ..) (names_sym (by decide)).solid))

theorem names_annotationUse : Names Phrase.form (.phrase .annotationUse) IsAnnotation := by
  have start : Solid Phrase.form (.seq [sym "@", .field "name" qualifiedName]) :=
    .seq (List.mem_cons_self ..) (names_sym (by decide)).solid
  refine .phrase (.choice ?_)
  simp only [List.forall_mem_cons, List.not_mem_nil, false_implies, implies_true, and_true]
  constructor
  · exact .node ⟨by decide, fun _ _ some => ⟨.head _, some⟩⟩ (.seq (List.mem_cons_self ..) start)
  · exact .node ⟨by decide, fun _ _ some => ⟨.tail _ (.head _), some⟩⟩ start

theorem eq_classDeclaration {body : JavaForm} (rule : ("class_declaration", body) ∈ rules) :
    Form.node "class_declaration" body = classDeclaration :=
  eq_of_rule (n := 4) rfl rule

theorem names_clause :
    Names Phrase.form (.field "superclass" (.node "superclass" (.seq [word "extends", anyType])))
      IsClause := by
  have solid : Solid Phrase.form (.seq [word "extends", anyType]) :=
    .seq (List.mem_cons_self ..) (solid_word (by decide))
  refine .field (.around (by decide) solid (Q := fun c => IsClause (c.inField "superclass")) ?_)
    fun _ isClause => isClause
  intro found span derives
  refine ⟨rfl, rfl, ?_⟩
  obtain ⟨type, word, parts, isWord, isType⟩ :=
    derives.pair (names_word (by decide)) names_anyType
  exact ⟨type, word, (solids_dropWhile found).trans parts, isWord, isType⟩

theorem clause_or_not {body : JavaForm} (rule : ("class_declaration", body) ∈ rules)
    {found : List Concrete} (derives : Derives Phrase.form body found) {c : Concrete}
    (member : c ∈ found) :
    IsClause c ∨ c.raw ≠ "superclass" ∧ c.head.field? ≠ some "superclass" := by
  have same := eq_classDeclaration rule
  rw [classDeclaration] at same
  cases same
  obtain ⟨f, listed, part, spells, here⟩ := derives.parts.1 c member
  have other (named : f.passes (.barring "superclass"))
      (placed : f.passes (.without "superclass")) :
      c.raw ≠ "superclass" ∧ c.head.field? ≠ some "superclass" :=
    ⟨spells.ensured (ensures_barring (by decide))
        (Phrase.forall_form (·.passes (.barring "superclass")) (by decide +kernel))
        named c here,
      spells.ensured (ensures_without _)
        (Phrase.forall_form (·.passes (.without "superclass")) (by decide +kernel))
        placed c here⟩
  simp only [List.mem_cons, List.not_mem_nil, or_false] at listed
  rcases listed with rfl | rfl | rfl | rfl | rfl | rfl | rfl | rfl
  -- The fifth part is the clause.  The forms of all others keep its name and its role out.
  case inr.inr.inr.inr.inl =>
    rcases spells.of_optional with rfl | clause
    · cases here
    · rcases (names_clause _ clause).of_mem here with comment | isClause
      · right
        constructor
        · rintro same
          rw [isComment_iff, same] at comment
          exact absurd comment (by decide)
        · rw [spells.field?_of_comment c here comment]
          exact nofun
      · exact .inl isClause
  all_goals exact .inr (other (by decide +kernel) (by decide +kernel))

theorem field?_inField {c : Concrete} (unlabelled : c.head.field? = none) (name : String) :
    (c.inField name).head.field? = some name := by
  obtain ⟨head, children⟩ := c
  have none : head.field? = none := unlabelled
  change (head.field? <|> some name) = some name
  rw [none]
  rfl

theorem fills_of_mem {items : List JavaForm} {form : JavaForm} {name : String}
    {leaves nodes : List String} {found : List Concrete}
    (derives : Derives Phrase.form (.seq items) found) (listed : .field name form ∈ items)
    (names : Names Phrase.form form (IsPhrase leaves nodes)) :
    Fills name (leaves ++ nodes) found := by
  obtain ⟨part, spells, fewer⟩ := derives.parts.2 _ listed
  have labelled : Names Phrase.form (.field name form)
      fun c => c.head.field? = some name ∧ c.raw ∈ leaves ++ nodes := by
    refine names.field fun c isPhrase => ⟨field?_inField isPhrase.unlabelled name, ?_⟩
    have raw : c.raw ∈ leaves ++ nodes :=
      List.mem_append.2 (isPhrase.sort.imp (·.1) (·.1))
    obtain ⟨head, children⟩ := c
    exact raw
  obtain ⟨c, here, code, holds⟩ := (labelled part spells).exists_mem
  exact ⟨c, fewer here, code, holds⟩

theorem Concrete.Fills.dropWhile {name : String} {raws : List String} {found : List Concrete}
    (fills : Fills name raws found) : Fills name raws (found.dropWhile isComment) := by
  obtain ⟨c, listed, code, holds⟩ := fills
  rw [← List.takeWhile_append_dropWhile (p := isComment) (l := found)] at listed
  rcases List.mem_append.1 listed with comment | here
  · have all := List.all_eq_true.1 List.all_takeWhile c comment
    rw [code] at all
    cases all
  · exact ⟨c, here, code, holds⟩

theorem fills_name_of_enum {body : JavaForm} (rule : ("enum_declaration", body) ∈ rules)
    {found : List Concrete} (derives : Derives Phrase.form body found) :
    Fills "name" ["identifier"] found := by
  have same : Form.node "enum_declaration" body = enumDeclaration := eq_of_rule (n := 4) rfl rule
  rw [enumDeclaration] at same
  cases same
  have names : Names Phrase.form (.terminal (.name "identifier" [])) (IsPhrase ["identifier"] []) :=
    .name (by decide) (isPhrase_leaf (by decide))
  exact fills_of_mem derives (.tail _ (.tail _ (.head _))) names

set_option maxRecDepth 4000 in
theorem bodies_creation : bodies "object_creation_expression" =
    [creation, .seq [primary, .seq [sym ".", creation]]] :=
  (rfl)

theorem fills_type_of_creation {body : JavaForm}
    (rule : ("object_creation_expression", body) ∈ rules) {found : List Concrete}
    (derives : Derives Phrase.form body found) :
    Fills "type" (plainTypes ++ builtTypes) found := by
  have created {found : List Concrete} (derives : Derives Phrase.form creation found) :
      Fills "type" (plainTypes ++ builtTypes) found :=
    fills_of_mem derives (.tail _ (.tail _ (.head _))) names_simpleType
  have listed := mem_bodies rule
  rw [bodies_creation] at listed
  simp only [List.mem_cons, List.not_mem_nil, or_false] at listed
  rcases listed with rfl | rfl
  · exact created derives
  · obtain ⟨part, grown, fewer⟩ := derives.parts.2 (.seq [sym ".", creation]) (.tail _ (.head _))
    obtain ⟨part', inner, fewer'⟩ := grown.parts.2 creation (.tail _ (.head _))
    obtain ⟨c, here, holds⟩ := created inner
    exact ⟨c, fewer (fewer' here), holds⟩

/-- Whether all that the grammar puts right into phrases passes, the excepted phrases apart. -/
def passedBy (sieve : Sieve) (excepted : String → Bool) : Bool :=
  topLevel.passes sieve && Phrase.listed.all (·.form.passes sieve) &&
    rules.all fun (raw, body) => excepted raw || body.passes sieve

/-- Phrases, each with the only one that the grammar puts it into. -/
def nestings : List (String × String) := [
  ("enum_constant", "enum_body"),
  ("enum_body", "enum_declaration"),
  ("enum_body_declarations", "enum_body")]

theorem nestings_passed : ∀ nesting ∈ nestings, nesting.1 ∉ commentNames ∧
    passedBy (.barring nesting.1) (· == nesting.2) := by
  decide +kernel

section Source

variable {source : String} (clean : (concreteTree source).hasError = false) {c d : Concrete}
  (below : Below (concreteTree source) c) (listed : d ∈ c.children)

include clean below listed

theorem ensured_of_passedBy {sieve : Sieve} {Q : Concrete → Prop} {excepted : String → Bool}
    (ensures : sieve.Ensures Q) (passed : passedBy sieve excepted) : Q d ∨ excepted c.raw := by
  rw [passedBy, Bool.and_eq_true, Bool.and_eq_true] at passed
  obtain ⟨⟨top, forms⟩, ruled⟩ := passed
  have closed := Phrase.forall_form (·.passes sieve) forms
  rcases ruled_of_below clean below with rfl | childless | ⟨body, found, rule, derives, children⟩
  · rcases mem_children_concreteTree clean listed with ⟨comment, none, _⟩ | ⟨found, derives, among⟩
    · exact .inl (ensures.comment d comment none)
    · exact .inl (derives.ensured ensures closed top d among)
  · rw [childless] at listed
    cases listed
  · rw [children] at listed
    have passes := List.all_eq_true.1 ruled _ rule
    exact (Bool.or_eq_true_iff.1 passes).symm.imp_left fun passes =>
      derives.ensured ensures closed passes d (List.dropWhile_subset _ listed)

theorem raw_of_nested {inner outer : String} (nested : (inner, outer) ∈ nestings)
    (named : d.raw = inner) : c.raw = outer := by
  obtain ⟨fresh, passed⟩ := nestings_passed _ nested
  rcases ensured_of_passedBy clean below listed (ensures_barring fresh) passed with other | same
  · exact absurd named other
  · exact beq_iff_eq.1 same

end Source

end TreeLint.Java

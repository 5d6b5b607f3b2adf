import TreeLint.Proofs.Leaves
import TreeLint.Proofs.Roles

/-! The reader's trees of sources without errors have the shapes that results expect of a parser. -/

namespace TreeLint.Java

open Concrete Form Grammar

variable {source : String} {c d host : Concrete} {found : List Concrete}

def neverToken (raw : String) : Bool :=
  raw != "program" && !commentNames.contains raw && passedBy (.filled raw) fun _ => false

def composedRaws : List String :=
  ["generic_type", "scoped_type_identifier", "array_type", "enum_declaration", "enum_constant",
    "object_creation_expression", "formal_parameter", "spread_parameter"]

theorem neverToken_of_composed : ∀ raw ∈ composedRaws, neverToken raw := by decide +kernel

section Composed

variable (clean : (concreteTree source).hasError = false) (below : Below (concreteTree source) c)

include clean below

theorem children_ne_nil (never : neverToken c.raw) : c.children ≠ [] := by
  simp only [neverToken, Bool.and_eq_true, bne_iff_ne, Bool.not_eq_true'] at never
  obtain ⟨⟨inner, code⟩, passed⟩ := never
  have code : c.raw ∉ commentNames := by simpa using code
  cases below with
  | self => exact absurd rfl inner
  | child above listed =>
      have filled := ensured_of_passedBy clean above listed (ensures_filled code) passed
      exact filled.resolve_right Bool.false_ne_true rfl

theorem exists_body_of_composed {raw : String} (composed : raw ∈ composedRaws)
    (named : c.raw = raw) :
    ∃ body found, (raw, body) ∈ rules ∧ Derives Phrase.form body found ∧
      c.children = found.dropWhile isComment := by
  subst named
  have never := neverToken_of_composed _ composed
  obtain ⟨d, member⟩ := List.exists_mem_of_ne_nil _ (children_ne_nil clean below never)
  refine exists_rule clean below ?_ member
  simp only [neverToken, Bool.and_eq_true, bne_iff_ne] at never
  exact never.1.1

theorem exists_solids_of_composed {raw : String} (composed : raw ∈ composedRaws)
    (named : c.raw = raw) :
    ∃ body found, body ∈ bodies raw ∧ Derives Phrase.form body found ∧
      solids c.children = solids found := by
  obtain ⟨body, found, rule, derives, children⟩ :=
    exists_body_of_composed clean below composed named
  exact ⟨body, found, mem_bodies rule, derives, by rw [children, solids_dropWhile]⟩

theorem fills_of_composed {raw role : String} {raws : List String} (composed : raw ∈ composedRaws)
    (fills : ∀ {body}, (raw, body) ∈ rules → ∀ {found}, Derives Phrase.form body found →
      Fills role raws found) (named : c.raw = raw) :
    Fills role raws c.children := by
  obtain ⟨body, found, rule, derives, children⟩ :=
    exists_body_of_composed clean below composed named
  rw [children]
  exact (fills rule derives).dropWhile

end Composed

theorem names_element : Names Phrase.form (.field "element" Grammar.type)
    fun c => c.head.field? = some "element" ∧ c.raw ∈ plainTypes ++ builtTypes := by
  have names : Names Phrase.form Grammar.type IsType :=
    fun found derives => names_type found (.phrase derives)
  refine names.field fun c isType => ⟨field?_inField isType.unlabelled _, ?_⟩
  have raw : c.raw ∈ plainTypes ++ builtTypes := IsPhrase.raw_mem isType
  obtain ⟨head, children⟩ := c
  exact raw

theorem annotated_of_annotations (derives : Derives Phrase.form annotations found) :
    ∀ c ∈ solids found, IsAnnotation c := by
  intro c member
  obtain ⟨listed, code⟩ := mem_solids.1 member
  obtain ⟨part, one, here⟩ := derives.of_many c listed
  exact ((names_annotationUse _ one).of_mem here).resolve_left (Bool.eq_false_iff.1 code)

def bracketPair : JavaForm := .seq [annotations, sym "[", sym "]"]

theorem bracketPairs_of_many (derives : Derives Phrase.form (.many bracketPair) found) :
    BracketPairs (solids found) := by
  generalize form_eq : Form.many bracketPair = form at derives
  induction derives with
  | stop => exact .nil
  | again first _ _ ih =>
      cases form_eq
      obtain ⟨front, later, rfl, annotated, derives⟩ := first.of_cons
      obtain ⟨opening, closing, brackets, opens, closes⟩ :=
        derives.pair (names_sym (by decide)) (names_sym (by decide))
      have pairs :=
        BracketPairs.cons (annotated_of_annotations annotated) opens closes (ih rfl)
      simpa only [solids_append, brackets, List.append_assoc, List.cons_append, List.nil_append]
        using pairs
  | _ => cases form_eq

theorem names_dimensions :
    Names Phrase.form (.field "dimensions" Grammar.dimensions) IsDimensions := by
  have solid : Solid Phrase.form (.many1 bracketPair) :=
    .seq (.head _) (.seq (.tail _ (.head _)) (names_sym (by decide)).solid)
  refine .field (.around (by decide) solid (Q := fun c => IsDimensions (c.inField "dimensions")) ?_)
    fun _ isDimensions => isDimensions
  intro found span derives
  obtain ⟨front, later, rfl, first, rest⟩ := derives.of_cons
  have pairs := bracketPairs_of_many (.again first rest.sole)
  have nonempty : solids (front ++ later) ≠ [] := by
    obtain ⟨c, listed, code⟩ := solid _ derives
    exact List.ne_nil_of_mem (mem_solids.2 ⟨listed, code⟩)
  rw [← solids_dropWhile] at pairs nonempty
  exact ⟨rfl, rfl, fun none => nonempty (congrArg solids none), pairs⟩

set_option maxRecDepth 4000 in
theorem bodies_array : bodies "array_type" =
    [.seq [.field "element" Grammar.type, .field "dimensions" Grammar.dimensions]] :=
  (rfl)

section Types

variable (clean : (concreteTree source).hasError = false) (below : Below (concreteTree source) c)

include clean below

theorem childless_of_name (isName : c.raw = "type_identifier") : c.children = [] := by
  by_contra filled
  obtain ⟨d, member⟩ := List.exists_mem_of_ne_nil _ filled
  obtain ⟨body, _, rule, _⟩ := exists_rule clean below (by rw [isName]; decide) member
  have listed := mem_bodies rule
  rw [isName, bodies_typeIdentifier] at listed
  cases listed

theorem generic_of_rules (isGeneric : c.raw = "generic_type") :
    ∃ base arguments, solids c.children = [base, arguments] ∧ IsNamed base ∧
      IsTypeArguments arguments := by
  obtain ⟨body, found, listed, derives, parts⟩ :=
    exists_solids_of_composed clean below (by decide) isGeneric
  rw [bodies_generic] at listed
  obtain ⟨f, qualifier, rfl⟩ := List.mem_map.1 listed
  rw [parts]
  exact derives.pair (names_qualifier f qualifier) names_typeArguments

theorem qualified_of_rules (isQualified : c.raw = "scoped_type_identifier") :
    ∃ outer dot annotations last,
      solids c.children = outer :: dot :: (annotations ++ [last]) ∧ IsNamed outer ∧
      IsToken "." dot ∧ (∀ a ∈ annotations, IsAnnotation a) ∧ IsTypeName last := by
  have names_last : Names Phrase.form (Grammar.typeName reservedAfterDot) IsTypeName :=
    .name (by decide) (isPhrase_leaf (by decide))
  obtain ⟨body, found, listed, derives, parts⟩ :=
    exists_solids_of_composed clean below (by decide) isQualified
  rw [bodies_scoped] at listed
  obtain ⟨f, qualifier, rfl⟩ := List.mem_map.1 listed
  obtain ⟨outer, _, front, isNamed, derives⟩ := derives.first (names_qualifier f qualifier)
  obtain ⟨dot, _, between, isDot, derives⟩ := derives.sole.first (names_sym (by decide))
  obtain ⟨annotated, _, rfl, annotations, derives⟩ := derives.of_cons
  obtain ⟨last, back, isName⟩ := (names_last _ derives.sole).solids
  refine ⟨outer, dot, solids annotated, last, ?_, isNamed, isDot,
    annotated_of_annotations annotations, isName⟩
  rw [parts, front, between, solids_append, back]

theorem array_of_rules (isArray : c.raw = "array_type") :
    ∃ element dimensions, solids c.children = [element, dimensions] ∧
      element.head.field? = some "element" ∧ element.raw ∈ plainTypes ++ builtTypes ∧
      IsDimensions dimensions := by
  obtain ⟨body, found, listed, derives, parts⟩ :=
    exists_solids_of_composed clean below (by decide) isArray
  rw [bodies_array, List.mem_singleton] at listed
  subst listed
  obtain ⟨element, dimensions, both, isElement, isDimensions⟩ :=
    derives.pair names_element names_dimensions
  exact ⟨element, dimensions, parts.trans both, isElement.1, isElement.2, isDimensions⟩

end Types

section Shapes

variable (clean : (concreteTree source).hasError = false)

include clean

theorem sourceShape_concreteTree : SourceShape (concreteTree source) where
  top := rfl
  declarations _ below _ listed named := raw_of_nested clean below listed (by decide) named

theorem typeShape_concreteTree : TypeShape (concreteTree source) where
  toSourceShape := sourceShape_concreteTree clean
  name _ below isName := childless_of_name clean below isName
  generic _ below isGeneric := generic_of_rules clean below isGeneric
  qualified _ below isQualified := qualified_of_rules clean below isQualified

end Shapes

theorem clause_of_class (clean : (concreteTree source).hasError = false)
    (below : Below (concreteTree source) c) (isClass : c.raw = "class_declaration")
    (member : d ∈ c.children) :
    IsClause d ∨ d.raw ≠ "superclass" ∧ d.head.field? ≠ some "superclass" := by
  obtain ⟨body, found, rule, derives, children⟩ :=
    exists_rule clean below (by rw [isClass]; decide) member
  rw [isClass] at rule
  rw [children] at member
  exact clause_or_not rule derives (List.dropWhile_subset _ member)

theorem reader_obeys_class : reader.Obeys ClassShape := by
  rintro source _ ⟨⟩ clean
  exact {
    toTypeShape := typeShape_concreteTree clean
    clause := fun _ below isClass _ member => clause_of_class clean below isClass member
    constant := fun _ below _ listed named => raw_of_nested clean below listed (by decide) named
    enumBody := fun _ below _ listed named => raw_of_nested clean below listed (by decide) named
    enumName := fun _ below isEnum =>
      fills_of_composed clean below (by decide) fills_name_of_enum isEnum
    created := fun _ below isCreation =>
      fills_of_composed clean below (by decide) fills_type_of_creation isCreation }

def bodyRole : Role bodyRaws where
  toReach := .none
  name := "body"
  hosts := declarationRaws.contains
  bare := by decide +kernel
  kept := by decide +kernel

def declaratorRole : Role ["variable_declarator"] where
  toReach := .none
  name := "declarator"
  hosts := ["field_declaration", "constant_declaration"].contains
  bare := by decide +kernel
  kept := by decide +kernel

theorem reader_obeys_body : reader.Obeys BodyShape := by
  rintro source _ ⟨⟩ clean
  exact {
    toSourceShape := sourceShape_concreteTree clean
    body := fun _ below isDeclaration _ listed labelled =>
      bodyRole.raw_mem clean below listed (List.contains_iff_mem.2 isDeclaration) labelled
    declarator := fun _ below isField _ listed labelled =>
      List.mem_singleton.1 (declaratorRole.raw_mem clean below listed
        (List.contains_iff_mem.2 isField) labelled)
    constant := fun _ below isConstant =>
      children_ne_nil clean below (isConstant ▸ neverToken_of_composed _ (by decide)) }

def Sieve.pieces : Sieve where
  leaf
    | .symbol text => quotes.contains text
    | .content | .hidden => true
    | _ => false
  node := (· == "string_interpolation")
  role _ := false

theorem ensures_pieces : Sieve.pieces.Ensures fun c => c.isComment = true ∨ IsPiece c where
  comment _ comment _ := .inl comment
  leaf t x c passed known made := by
    cases sort : x.sort <;> cases t <;> simp [Terminal.leafOf, sort] at made
    case word.keyword | word.keywordAs | word.name | literal.literal => cases passed
    case symbol.symbol text =>
      obtain ⟨spelled, rfl⟩ := made
      exact .inr (.quote (List.contains_iff_mem.1 passed) (isToken_leaf spelled))
    case content.content raw =>
      subst made
      rw [sort] at known
      exact .inr (.content (List.contains_iff_mem.1 known) rfl rfl)
  joined _ _ passed := by cases passed
  node raw _ _ passed filled := .inr (.interpolation (beq_iff_eq.1 passed) filled)
  role _ _ passed := by cases passed

def stringContents : Contents Sieve.pieces where
  toReach := .none
  hosts := ["string_literal"]
  inner := by decide
  kept := by decide +kernel

theorem reader_obeys_string : reader.Obeys StringShape := by
  rintro source _ ⟨⟩ clean
  exact {
    toSourceShape := sourceShape_concreteTree clean
    piece := fun _ below isString _ listed =>
      stringContents.ensured clean below listed ensures_pieces (List.mem_singleton.2 isString) }

/-- What stands for a type, whether it is a simple one or not. -/
def typeReach : Reach (.within (plainTypes ++ builtTypes)) where
  leads p := p == .simpleType || p == .type
  closed := by
    intro p among
    rw [Bool.or_eq_true, beq_iff_eq, beq_iff_eq] at among
    rcases among with rfl | rfl <;> decide +kernel

def nameRole : Role nameRaws where
  toReach := .none
  name := "name"
  hosts _ := true
  bare := by decide +kernel
  kept := by decide +kernel

def elementRole : Role (plainTypes ++ builtTypes) where
  toReach := typeReach
  name := "element"
  hosts _ := true
  bare := by decide +kernel
  kept := by decide +kernel

def typeRole : Role (plainTypes ++ builtTypes) where
  toReach := typeReach
  name := "type"
  hosts raw := !otherTyped.contains raw
  bare := by decide +kernel
  kept := by decide +kernel

/-- A heading is a name between words and points, behind annotations. -/
def headingContents : Contents (.within (annotationRaws ++ ";" :: plainRaws)) where
  leads := (· == .annotationUse)
  closed := by
    intro p among
    cases beq_iff_eq.1 among
    decide +kernel
  hosts := ["package_declaration", "import_declaration"]
  inner := by decide
  kept := by decide +kernel

def plainContents : Contents (.within plainRaws) where
  toReach := .none
  hosts := plainRaws
  inner := by decide
  kept := by decide +kernel

set_option maxRecDepth 8000 in
theorem eq_formalParameter {body : JavaForm} (rule : ("formal_parameter", body) ∈ rules) :
    Form.node "formal_parameter" body = formalParameter :=
  eq_of_rule (n := 27) rfl rule

theorem fills_type_of_formal {body : JavaForm} (rule : ("formal_parameter", body) ∈ rules)
    {found : List Concrete} (derives : Derives Phrase.form body found) :
    Fills "type" (plainTypes ++ builtTypes) found := by
  have same := eq_formalParameter rule
  rw [formalParameter] at same
  cases same
  exact fills_of_mem derives (.tail _ (.head _)) names_type

set_option maxRecDepth 8000 in
theorem eq_spreadParameter {body : JavaForm} (rule : ("spread_parameter", body) ∈ rules) :
    Form.node "spread_parameter" body = spreadParameter :=
  eq_of_rule (n := 27) rfl rule

section Names

variable (clean : (concreteTree source).hasError = false) (below : Below (concreteTree source) c)

include clean below

theorem spread_of_rules (isSpread : c.raw = "spread_parameter") :
    ∃ front type more, solids c.children = front ++ type :: more ∧
      (∀ d ∈ front, d.raw = "modifiers") ∧ IsType type := by
  obtain ⟨body, found, rule, derives, children⟩ :=
    exists_body_of_composed clean below (by decide) isSpread
  have same := eq_spreadParameter rule
  rw [spreadParameter] at same
  cases same
  obtain ⟨front, _, rfl, modifiers, derives⟩ := derives.of_cons
  obtain ⟨type, more, later, isType, _⟩ := derives.first names_type
  refine ⟨solids front, type, solids more, ?_, ?_, isType⟩
  · rw [children, solids_dropWhile, solids_append, later]
  · intro d member
    obtain ⟨here, code⟩ := mem_solids.1 member
    rcases modifiers.of_optional with rfl | derives
    · cases here
    · cases derives with
      | node _ =>
          rcases mem_wrap here with ⟨_, comment⟩ | ⟨_, _, rfl⟩
          · cases code.symm.trans comment
          · rfl

theorem not_anonymous : c.raw ≠ anonymousClass := by
  have code : anonymousClass ∉ commentNames := by decide
  have passed : passedBy (.barring anonymousClass) fun _ => false := by decide +kernel
  cases below with
  | self => exact show "program" ≠ anonymousClass by decide
  | child above listed =>
      have other := ensured_of_passedBy clean above listed (ensures_barring code) passed
      exact other.resolve_right Bool.false_ne_true

end Names

/-- All leaves but those that read like the token and are something else. -/
def Sieve.token (raw : String) : Sieve where
  leaf
    | .keywordAs other _ | .name other _ => other != raw
    | .literal => !literalNames.contains raw
    | .content => !contentNames.contains raw
    | .keyword _ | .symbol _ | .joined _ | .hidden => true
  node := (· != raw)
  role _ := true

theorem ensures_token {raw : String} (code : raw ∉ commentNames) :
    (Sieve.token raw).Ensures fun c =>
      c.raw = raw → c.children = [] ∧ c.head.named = false ∧ c.head.text = raw where
  comment c comment _ same := absurd (same ▸ isComment_iff.1 comment) code
  leaf := by
    intro t x c passed known made
    cases sort : x.sort <;> cases t <;> simp [Terminal.leafOf, sort] at made
    case word.keyword | symbol.symbol =>
      obtain ⟨spelled, rfl⟩ := made
      exact fun same => ⟨rfl, rfl, spelled.trans same⟩
    case word.keywordAs | word.name =>
      obtain ⟨_, rfl⟩ := made
      exact fun same => absurd same (bne_iff_ne.1 passed)
    case literal.literal own | content.content own =>
      subst made
      rintro (rfl : own = raw)
      rw [sort] at known
      have unknown := (Bool.not_eq_true' _).mp passed
      exact absurd known (Bool.eq_false_iff.1 unknown)
  joined parts span _ same := ⟨rfl, rfl, same⟩
  node other span children passed _ same := absurd same (bne_iff_ne.1 passed)
  role name c _ holds := by
    obtain ⟨head, children⟩ := c
    exact holds

section Semicolons

variable (clean : (concreteTree source).hasError = false) (below : Below (concreteTree source) c)

include clean below

theorem childless_of_comment
    (comment : c.isComment = true) : c.children = [] := by
  have plain : ∀ rule ∈ rules, rule.1 ∉ commentNames := by decide +kernel
  rcases ruled_of_below clean below with rfl | childless | ⟨body, _, rule, _⟩
  · cases comment
  · exact childless
  · exact absurd (isComment_iff.1 comment) (plain _ rule)

theorem token_of_semicolon (semicolon : c.raw = ";") :
    c.children = [] ∧ c.head.named = false ∧ c.head.text = ";" := by
  have code : ";" ∉ commentNames := by decide
  have passed : passedBy (.token ";") fun _ => false := by decide +kernel
  cases below with
  | self => exact absurd semicolon (show "program" ≠ ";" by decide)
  | child above listed =>
      have holds := ensured_of_passedBy clean above listed (ensures_token code) passed
      exact holds.resolve_right Bool.false_ne_true semicolon

end Semicolons

/-- The semicolon behind the constants stands with the declarations after it. -/
def enumContents : Contents (.barring ";") where
  toReach := .none
  hosts := ["enum_body"]
  inner := by decide
  kept := by decide +kernel

theorem reader_obeys_name : reader.Obeys NameShape := by
  rintro source _ ⟨⟩ clean
  exact {
    toTypeShape := typeShape_concreteTree clean
    array := fun _ below isArray => array_of_rules clean below isArray
    named := fun _ below _ listed labelled => nameRole.raw_mem clean below listed rfl labelled
    element := fun _ below _ listed labelled =>
      elementRole.raw_mem clean below listed rfl labelled
    typed := fun _ below typed _ listed labelled =>
      typeRole.raw_mem clean below listed (by simpa [typeRole] using typed) labelled
    heading := fun _ below heading _ listed code =>
      headingContents.raw_mem clean below listed heading code
    plain := fun _ below plain _ listed code => plainContents.raw_mem clean below listed plain code
    formal := fun _ below isFormal =>
      fills_of_composed clean below (by decide) fills_type_of_formal isFormal
    spread := fun _ below isSpread => spread_of_rules clean below isSpread
    semicolon := fun _ below semicolon => (token_of_semicolon clean below semicolon).1
    unmade := fun _ below => not_anonymous clean below }

theorem reader_obeys_grammatical : reader.Obeys Grammatical := by
  rintro source _ ⟨⟩ clean
  refine {
    top := rfl
    comment := fun _ below => childless_of_comment clean below
    semicolon := fun c below semicolon => ?_
    line := fun c below semicolon => ?_
    declarations := (sourceShape_concreteTree clean).declarations
    constants := fun host below c listed semicolon isEnum => ?_ }
  · obtain ⟨childless, unnamed, text⟩ := token_of_semicolon clean below semicolon
    exact ⟨childless, unnamed, fun _ => text⟩
  · refine line_pos_of_below below ?_ (token_of_semicolon clean below semicolon).1
    rintro rfl
    exact absurd semicolon (show "program" ≠ ";" by decide)
  · exact enumContents.ensured clean below listed (ensures_barring (by decide))
      (List.mem_singleton.2 isEnum) semicolon

end TreeLint.Java

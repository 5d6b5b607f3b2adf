import TreeLint.Java.Parser
import TreeLint.Proofs.Phrases

/-! What the grammar of Java gives the trees of sources without errors, as far as results rest on
it: each shape is what one of them expects of a parser. -/

namespace TreeLint.Java

open Lowering

namespace Concrete

structure IsToken (text : String) (c : Concrete) : Prop where
  raw : c.raw = text
  unnamed : c.head.named = false
  spelled : c.head.text = text
  childless : c.children = []

/-- A phrase that has one of the first names and no children, or one of the others and some. -/
structure IsPhrase (leaves nodes : List String) (c : Concrete) : Prop where
  named : c.head.named = true
  unlabelled : c.head.field? = none
  sort : c.raw ∈ leaves ∧ c.children = [] ∨ c.raw ∈ nodes ∧ c.children ≠ []

theorem IsPhrase.mono {leaves nodes leaves' nodes' : List String} {c : Concrete}
    (isPhrase : IsPhrase leaves nodes c) (more : leaves ⊆ leaves') (more' : nodes ⊆ nodes') :
    IsPhrase leaves' nodes' c where
  named := isPhrase.named
  unlabelled := isPhrase.unlabelled
  sort := isPhrase.sort.imp (fun leaf => ⟨more leaf.1, leaf.2⟩) fun node => ⟨more' node.1, node.2⟩

theorem IsPhrase.raw_mem {leaves nodes : List String} {c : Concrete}
    (isPhrase : IsPhrase leaves nodes c) : c.raw ∈ leaves ++ nodes :=
  List.mem_append.2 (isPhrase.sort.imp And.left And.left)

def plainTypes : List String := ["type_identifier", "void_type", "boolean_type"]

def builtTypes : List String :=
  ["generic_type", "scoped_type_identifier", "array_type", "integral_type", "floating_point_type"]

def IsType : Concrete → Prop := IsPhrase plainTypes builtTypes

def IsAnyType : Concrete → Prop := IsPhrase plainTypes ("annotated_type" :: builtTypes)

theorem IsType.isAnyType {c : Concrete} (isType : IsType c) : IsAnyType c :=
  isType.mono (List.Subset.refl _) (List.subset_cons_self _ _)

def namedTypes : List String := ["type_identifier", "generic_type", "scoped_type_identifier"]

def IsNamed : Concrete → Prop :=
  IsPhrase ["type_identifier"] ["generic_type", "scoped_type_identifier"]

theorem IsNamed.raw_mem_namedTypes {c : Concrete} (isNamed : IsNamed c) : c.raw ∈ namedTypes :=
  IsPhrase.raw_mem isNamed

theorem IsNamed.isAnyType {c : Concrete} (isNamed : IsNamed c) : IsAnyType c :=
  isNamed.mono (by decide) (by decide)

def IsTypeName : Concrete → Prop := IsPhrase ["type_identifier"] []

def annotationRaws : List String := ["annotation", "marker_annotation"]

structure IsAnnotation (c : Concrete) : Prop where
  raw : c.raw ∈ annotationRaws
  filled : c.children ≠ []

structure IsTypeArguments (c : Concrete) : Prop where
  raw : c.raw = "type_arguments"
  unlabelled : c.head.field? = none
  filled : c.children ≠ []

inductive BracketPairs : List Concrete → Prop
  | nil : BracketPairs []
  | cons {annotations later : List Concrete} {opening closing : Concrete}
      (annotated : ∀ a ∈ annotations, IsAnnotation a) (opens : IsToken "[" opening)
      (closes : IsToken "]" closing) (pairs : BracketPairs later) :
      BracketPairs (annotations ++ opening :: closing :: later)

theorem BracketPairs.raw_mem {phrases : List Concrete} (pairs : BracketPairs phrases) :
    ∀ c ∈ phrases, c.raw ∈ "[" :: "]" :: annotationRaws := by
  induction pairs with
  | nil => exact nofun
  | cons annotated opens closes _ ih =>
      rw [List.forall_mem_append, List.forall_mem_cons, List.forall_mem_cons, opens.raw,
        closes.raw]
      exact ⟨fun a member => .tail _ (.tail _ (annotated a member).raw), .head _,
        .tail _ (.head _), ih⟩

structure IsDimensions (c : Concrete) : Prop where
  raw : c.raw = "dimensions"
  field? : c.head.field? = some "dimensions"
  filled : c.children ≠ []
  pairs : BracketPairs (solids c.children)

structure IsClause (c : Concrete) : Prop where
  raw : c.raw = "superclass"
  field? : c.head.field? = some "superclass"
  parts : ∃ word type, solids c.children = [word, type] ∧ IsToken "extends" word ∧ IsAnyType type

def quotes : List String := ["\"", "\"\"\""]

inductive IsPiece (c : Concrete) : Prop
  | quote {text : String} (isQuote : text ∈ quotes) (token : IsToken text c)
  | content (raw : c.raw ∈ contentNames) (named : c.head.named = true) (childless : c.children = [])
  | interpolation (raw : c.raw = "string_interpolation") (filled : c.children ≠ [])

def Fills (name : String) (raws : List String) (phrases : List Concrete) : Prop :=
  ∃ c ∈ phrases, c.isComment = false ∧ c.head.field? = some name ∧ c.raw ∈ raws

structure SourceShape (root : Concrete) : Prop where
  top : root.raw = "program"
  declarations : ∀ host, Below root host → ∀ c ∈ host.children, c.raw = splicedRaw →
    host.raw = "enum_body"

/-- Types that have a name are names, perhaps behind others and with arguments. -/
structure TypeShape (root : Concrete) : Prop extends SourceShape root where
  name : ∀ c, Below root c → c.raw = "type_identifier" → c.children = []
  generic : ∀ c, Below root c → c.raw = "generic_type" →
    ∃ base arguments, solids c.children = [base, arguments] ∧ IsNamed base ∧
      IsTypeArguments arguments
  qualified : ∀ c, Below root c → c.raw = "scoped_type_identifier" →
    ∃ outer dot annotations last,
      solids c.children = outer :: dot :: (annotations ++ [last]) ∧ IsNamed outer ∧
      IsToken "." dot ∧ (∀ a ∈ annotations, IsAnnotation a) ∧ IsTypeName last

/-- Classes have their superclass in a clause, constants of enumerations have them around, and what
creates an object says of which type. -/
structure ClassShape (root : Concrete) : Prop extends TypeShape root where
  clause : ∀ c, Below root c → c.raw = "class_declaration" → ∀ d ∈ c.children,
    IsClause d ∨ d.raw ≠ "superclass" ∧ d.head.field? ≠ some "superclass"
  constant : ∀ host, Below root host → ∀ c ∈ host.children, c.raw = "enum_constant" →
    host.raw = "enum_body"
  enumBody : ∀ host, Below root host → ∀ c ∈ host.children, c.raw = "enum_body" →
    host.raw = "enum_declaration"
  enumName : ∀ c, Below root c → c.raw = "enum_declaration" →
    Fills "name" ["identifier"] c.children
  created : ∀ c, Below root c → c.raw = "object_creation_expression" →
    Fills "type" (plainTypes ++ builtTypes) c.children

def declarationRaws : List String :=
  ["class_declaration", "interface_declaration", "enum_declaration", "record_declaration",
    "annotation_type_declaration"]

def bodyRaws : List String :=
  ["class_body", "interface_body", "enum_body", "annotation_type_body"]

/-- Bodies of types are bodies, and declarators declare variables. -/
structure BodyShape (root : Concrete) : Prop extends SourceShape root where
  body : ∀ c, Below root c → c.raw ∈ declarationRaws → ∀ d ∈ c.children,
    d.head.field? = some "body" → d.raw ∈ bodyRaws
  declarator : ∀ c, Below root c → c.raw ∈ ["field_declaration", "constant_declaration"] →
    ∀ d ∈ c.children, d.head.field? = some "declarator" → d.raw = "variable_declarator"
  constant : ∀ c, Below root c → c.raw = "enum_constant" → c.children ≠ []

/-- Strings consist of quotes, content and interpolations. -/
structure StringShape (root : Concrete) : Prop extends SourceShape root where
  piece : ∀ c, Below root c → c.raw = "string_literal" → ∀ d ∈ c.children,
    d.isComment = true ∨ IsPiece d

def plainRaws : List String :=
  ["identifier", "underscore_pattern", "scoped_identifier", ".", "type_identifier", "void_type",
    "boolean_type", "integral_type", "floating_point_type", "byte", "short", "int", "long", "char",
    "float", "double", "asterisk", "*", "package", "import", "static"]

def nameRaws : List String := ["identifier", "underscore_pattern", "scoped_identifier"]

def otherTyped : List String := ["uses_module_directive", "cast_expression"]

/-- Names, types and headings are made of what the grammar makes them of. -/
structure NameShape (root : Concrete) : Prop extends TypeShape root where
  array : ∀ c, Below root c → c.raw = "array_type" →
    ∃ element dimensions, solids c.children = [element, dimensions] ∧
      element.head.field? = some "element" ∧ element.raw ∈ plainTypes ++ builtTypes ∧
      IsDimensions dimensions
  named : ∀ c, Below root c → ∀ d ∈ c.children, d.head.field? = some "name" → d.raw ∈ nameRaws
  element : ∀ c, Below root c → ∀ d ∈ c.children, d.head.field? = some "element" →
    d.raw ∈ plainTypes ++ builtTypes
  typed : ∀ c, Below root c → c.raw ∉ otherTyped → ∀ d ∈ c.children,
    d.head.field? = some "type" → d.raw ∈ plainTypes ++ builtTypes
  heading : ∀ c, Below root c → c.raw ∈ ["package_declaration", "import_declaration"] →
    ∀ d ∈ c.children, d.isComment = false → d.raw ∈ annotationRaws ++ ";" :: plainRaws
  plain : ∀ c, Below root c → c.raw ∈ plainRaws → ∀ d ∈ c.children, d.isComment = false →
    d.raw ∈ plainRaws
  formal : ∀ c, Below root c → c.raw = "formal_parameter" →
    Fills "type" (plainTypes ++ builtTypes) c.children
  spread : ∀ c, Below root c → c.raw = "spread_parameter" →
    ∃ front type more, solids c.children = front ++ type :: more ∧
      (∀ d ∈ front, d.raw = "modifiers") ∧ IsType type
  semicolon : ∀ c, Below root c → c.raw = ";" → c.children = []
  unmade : ∀ c, Below root c → c.raw ≠ anonymousClass

/-- What the check of empty statements expects. -/
structure Grammatical (root : Concrete) : Prop where
  top : root.raw = "program"
  comment : ∀ c, Below root c → c.isComment = true → c.children = []
  semicolon : ∀ c, Below root c → c.raw = ";" →
    c.children = [] ∧ c.head.named = false ∧ (c.head.missing = false → c.head.text = ";")
  line : ∀ c, Below root c → c.raw = ";" → 0 < c.span.startLine
  declarations : ∀ host, Below root host → ∀ c ∈ host.children,
    c.raw = "enum_body_declarations" → host.raw = "enum_body"
  /-- The semicolon behind the constants is in the declarations. -/
  constants : ∀ host, Below root host → ∀ c ∈ host.children, c.raw = ";" → host.raw ≠ "enum_body"

end Concrete

/-- Without errors the trees of the parser have the shape. -/
def Parser.Obeys (p : Parser) (shape : Concrete → Prop) : Prop :=
  ∀ source root, p source = .ok root → root.hasError = false → shape root

end TreeLint.Java

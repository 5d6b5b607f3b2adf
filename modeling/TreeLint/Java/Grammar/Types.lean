import TreeLint.Java.Form

/-! The phrases of Java, and the forms of its names, annotations and types.  A phrase stands
for a form wherever forms refer to each other in circles. -/

namespace TreeLint.Java

inductive Phrase where
  | annotationUse
  | elementValue
  | simpleType
  | type
  | typeOrAnnotated
  | typeArguments
  /-- The next three do not start a lambda at their end in the label of a case, since an arrow
  ends the label. -/
  | expression (inLabel : Bool)
  | operators (level : Nat) (inLabel : Bool)
  | operand (inLabel : Bool)
  | primary
  | arrayInitializer
  | recordPattern
  | switchBody
  | statement
  | block
  | declaration
  | member
  | interfaceMember
  | annotationMember
  deriving DecidableEq, Repr

namespace Grammar

abbrev JavaForm := Form Phrase

def word (text : String) : JavaForm := .terminal (.keyword text)

def wordAs (raw text : String) : JavaForm := .terminal (.keywordAs raw text)

def sym (text : String) : JavaForm := .terminal (.symbol text)

def joined (parts : List String) : JavaForm := .terminal (.joined parts)

def comma : String := ","

def anyWord (words : List String) : JavaForm := .choice (words.map word)

def anySym (texts : List String) : JavaForm := .choice (texts.map sym)

def parens (body : JavaForm) : JavaForm := .seq [sym "(", body, sym ")"]

def braces (body : JavaForm) : JavaForm := .seq [sym "\x7b", body, sym "\x7d"]

/-- Words that are never a name where an expression or a type can stand. -/
def reservedWords : List String :=
  ["new", "switch", "this", "super", "true", "false", "null", "void", "boolean", "byte", "short",
    "int", "long", "char", "float", "double"]

def reservedAfterDot : List String := ["new", "this", "super", "class"]

def modifierWords : List String :=
  ["public", "protected", "private", "abstract", "static", "final", "strictfp", "default",
    "synchronized", "native", "transient", "volatile", "sealed"]

def leadingWords : List String :=
  ["if", "else", "while", "for", "do", "try", "return", "break", "continue", "throw", "assert",
    "yield", "case", "class", "interface", "enum", "import", "package"] ++
    modifierWords.filter (· != "sealed")

def untypedWords : List String :=
  leadingWords ++ ["switch", "record", "sealed", "module", "open", "with"]

def identifier : JavaForm := .terminal (.name "identifier" reservedWords)

def identifierAfterDot : JavaForm := .terminal (.name "identifier" reservedAfterDot)

def qualifiedName : JavaForm :=
  .chain identifier
    [⟨[], "scoped_identifier", some "scope", .seq [sym ".", .field "name" identifierAfterDot]⟩]

def annotations : JavaForm := .many (.phrase .annotationUse)

def elementValues : JavaForm :=
  .node "element_value_array_initializer"
    (braces (.seq [.sepBy comma (.phrase .elementValue), .optional (sym comma)]))

def elementValue : JavaForm :=
  .choice [elementValues, .phrase .annotationUse, .phrase (.expression false)]

def elementValuePair : JavaForm :=
  .node "element_value_pair"
    (.seq [.field "key" identifier, sym "=", .field "value" (.phrase .elementValue)])

def annotationArguments : JavaForm :=
  .node "annotation_argument_list"
    (.choice [parens (.sepBy comma elementValuePair), parens (.phrase .elementValue)])

def annotationUse : JavaForm :=
  let start := Form.seq [sym "@", .field "name" qualifiedName]
  .choice [.node "annotation" (.seq [start, .field "arguments" annotationArguments]),
    .node "marker_annotation" start]

def modifiers : JavaForm :=
  .node "modifiers"
    (.many1 (.choice
      [.phrase .annotationUse, joined ["non", "-", "sealed"], anyWord modifierWords]))

def typeName (reserved : List String) : JavaForm :=
  .terminal (.name "type_identifier" reserved)

def primitiveType : JavaForm :=
  .choice [wordAs "void_type" "void",
    .node "integral_type" (anyWord ["byte", "short", "int", "long", "char"]),
    .node "floating_point_type" (anyWord ["float", "double"]),
    wordAs "boolean_type" "boolean"]

def plainTypeRaws : List String := ["type_identifier", "scoped_type_identifier"]

def genericGrowth : Growth JavaForm :=
  ⟨plainTypeRaws, "generic_type", none, .phrase .typeArguments⟩

def scopedGrowth (after : List String) : Growth JavaForm :=
  ⟨after, "scoped_type_identifier", none,
    .seq [sym ".", annotations, typeName reservedAfterDot]⟩

def simpleType : JavaForm :=
  .choice [primitiveType,
    .chain (typeName reservedWords)
      [genericGrowth, scopedGrowth (plainTypeRaws ++ ["generic_type"])]]

/-- A named type with type arguments somewhere in it. -/
def parametrizedType : JavaForm :=
  .chain
    (.only ["generic_type"]
      (.chain (typeName reservedWords) [genericGrowth, scopedGrowth plainTypeRaws]))
    [genericGrowth, scopedGrowth (plainTypeRaws ++ ["generic_type"])]

def dimensions : JavaForm :=
  .node "dimensions" (.many1 (.seq [annotations, sym "[", sym "]"]))

def type : JavaForm :=
  .chain (.phrase .simpleType)
    [⟨[], "array_type", some "element", .field "dimensions" dimensions⟩]

def typeOrAnnotated : JavaForm :=
  .choice [.node "annotated_type" (.seq [.many1 (.phrase .annotationUse), .phrase .type]),
    .phrase .type]

def anyType : JavaForm := .phrase .typeOrAnnotated

def wildcard : JavaForm :=
  let bound := Form.choice
    [.seq [word "extends", anyType], .seq [wordAs "super" "super", anyType]]
  .node "wildcard" (.seq [annotations, sym "?", .optional bound])

def typeArguments : JavaForm :=
  .node "type_arguments"
    (.seq [sym "<", .sepBy comma (.choice [wildcard, anyType]), sym ">"])

def typeParameter : JavaForm :=
  let bound := Form.node "type_bound" (.seq [word "extends", .sepBy1 "&" anyType])
  .node "type_parameter" (.seq [annotations, typeName [], .optional bound])

def typeParameters : JavaForm :=
  .node "type_parameters" (.seq [sym "<", .sepBy1 comma typeParameter, sym ">"])

end Grammar

end TreeLint.Java

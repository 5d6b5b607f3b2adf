import TreeLint.Java.Grammar.Types

namespace TreeLint.Java.Grammar

def expression : JavaForm := .phrase (.expression false)

def parenthesized : JavaForm := .node "parenthesized_expression" (parens expression)

def declaratorName : JavaForm :=
  .seq [.field "name" (.choice [wordAs "underscore_pattern" "_",
      .terminal (.name "identifier" ["instanceof", "this", "super"])]),
    .optional (.field "dimensions" dimensions)]

def initializer : JavaForm := .choice [.phrase .arrayInitializer, expression]

def arrayInitializer : JavaForm :=
  .node "array_initializer" (braces (.seq [.sepBy comma initializer, .optional (sym comma)]))

def variableDeclarator : JavaForm :=
  .node "variable_declarator"
    (.seq [declaratorName, .optional (.seq [sym "=", .field "value" initializer])])

def variableDeclarators : JavaForm := .sepBy1 comma (.field "declarator" variableDeclarator)

def thisWord : JavaForm := wordAs "this" "this"

def superWord : JavaForm := wordAs "super" "super"

def formalParameter : JavaForm :=
  .node "formal_parameter"
    (.seq [.optional modifiers, .field "type" (.phrase .type), declaratorName])

def spreadParameter : JavaForm :=
  .node "spread_parameter"
    (.seq [.optional modifiers, .phrase .type, sym "...", annotations, variableDeclarator])

def receiverParameter : JavaForm :=
  .node "receiver_parameter"
    (.seq [annotations, .phrase .type, .many (.seq [identifier, sym "."]), thisWord])

def formalParameters : JavaForm :=
  let parameter := Form.choice [formalParameter, spreadParameter]
  .node "formal_parameters"
    (parens (.choice
      [.seq [receiverParameter, .many (.seq [sym comma, parameter])],
        .sepBy comma parameter]))

def interpolation : JavaForm :=
  .node "string_interpolation" (.seq [sym "\\\x7b", expression, sym "\x7d"])

def stringLiteral : JavaForm :=
  .node "string_literal"
    (.choice
      [.seq [sym "\"", .many (.choice [.terminal .content, interpolation]), sym "\""],
        .seq [sym "\"\"\"",
          .many (.choice [.terminal .content, .terminal .hidden, interpolation]),
          sym "\"\"\""]])

def arguments : JavaForm := .node "argument_list" (parens (.sepBy comma expression))

def literal : JavaForm :=
  .choice [.terminal .literal, wordAs "true" "true", wordAs "false" "false",
    wordAs "null_literal" "null", stringLiteral]

def classLiteral : JavaForm :=
  .node "class_literal" (.seq [.phrase .type, sym ".", word "class"])

def methodReferenceEnd : JavaForm :=
  .seq [sym "::", .optional (.phrase .typeArguments), .choice [word "new", identifierAfterDot]]

def typeMethodReference : JavaForm :=
  .node "method_reference"
    (.seq [.choice
        [.only ["array_type", "integral_type", "floating_point_type", "boolean_type",
            "void_type"] (.phrase .type),
          parametrizedType],
      methodReferenceEnd])

def arrayCreation : JavaForm :=
  let length := Form.node "dimensions_expr"
    (.seq [annotations, sym "[", expression, sym "]"])
  .node "array_creation_expression"
    (.seq [word "new", annotations, .field "type" (.phrase .simpleType),
      .choice
        [.seq [.field "dimensions" (.many1 length),
            .optional (.field "dimensions" dimensions)],
          .seq [.field "dimensions" dimensions, .field "value" (.phrase .arrayInitializer)]]])

def classBody : JavaForm := .node "class_body" (braces (.many (.phrase .member)))

def creation : JavaForm :=
  .seq [word "new",
    .choice
      [.seq [annotations, .field "type_arguments" (.phrase .typeArguments), annotations],
        annotations],
    .field "type" (.phrase .simpleType), .field "arguments" arguments, .optional classBody]

def primaryStart : JavaForm :=
  .choice [literal, classLiteral, typeMethodReference, thisWord, superWord, parenthesized,
    arrayCreation, .node "object_creation_expression" creation,
    .node "method_invocation"
      (.seq [.field "name" identifier, .field "arguments" arguments]),
    identifier]

def primaryGrowths : List (Growth JavaForm) :=
  let viaSuper := Form.optional (.seq [superWord, sym "."])
  [⟨[], "method_invocation", some "object",
      .seq [sym ".", viaSuper, .optional (.field "type_arguments" (.phrase .typeArguments)),
        .field "name" identifierAfterDot, .field "arguments" arguments]⟩,
    ⟨[], "template_expression", some "template_processor",
      .seq [sym ".", .field "template_argument" stringLiteral]⟩,
    ⟨[], "object_creation_expression", none, .seq [sym ".", creation]⟩,
    ⟨[], "field_access", some "object",
      .seq [.optional (.seq [sym ".", superWord]), sym ".",
        .field "field" (.choice [identifierAfterDot, thisWord])]⟩,
    ⟨[], "array_access", some "array",
      .seq [sym "[", .field "index" expression, sym "]"]⟩,
    ⟨[], "method_reference", none, methodReferenceEnd⟩]

def primary : JavaForm := .chain primaryStart primaryGrowths

def growByOperator (raw : String) (operator right : JavaForm) : Growth JavaForm :=
  ⟨[], raw, some "left", .seq [.field "operator" operator, .field "right" right]⟩

def operatorsAt (level : Nat) : List JavaForm :=
  match level with
  | 0 => [sym "||"]
  | 1 => [sym "&&"]
  | 2 => [sym "|"]
  | 3 => [sym "^"]
  | 4 => [sym "&"]
  | 5 => [sym "==", sym "!="]
  | 6 => [sym "<", sym "<=", joined [">", "="], joined [">"]]
  | 7 => [sym "<<", joined [">", ">", ">"], joined [">", ">"]]
  | 8 => [sym "+", sym "-"]
  | 9 => [sym "*", sym "/", sym "%"]
  | _ => []

def relationLevel : Nat := 6

def instanceofGrowth : Growth JavaForm :=
  let name := Form.field "name" (.terminal (.name "identifier" ["instanceof"]))
  ⟨[], "instanceof_expression", some "left",
    .seq [word "instanceof", .optional (word "final"),
      .choice [.field "pattern" (.phrase .recordPattern),
        .seq [.field "right" anyType, .optional name]]]⟩

def operators (level : Nat) (inLabel : Bool) : JavaForm :=
  match operatorsAt level with
  | [] =>
      .chain (.phrase (.operand inLabel)) [⟨[], "update_expression", none, anySym ["++", "--"]⟩]
  | symbols =>
      let tighter := Form.phrase (.operators (level + 1) inLabel)
      .chain tighter
        (symbols.map (growByOperator "binary_expression" · tighter) ++
          if level = relationLevel then [instanceofGrowth] else [])

def expressionIn (inLabel : Bool) : JavaForm :=
  let again := Form.phrase (.expression inLabel)
  .chain (.phrase (.operators 0 inLabel))
    [⟨[], "ternary_expression", some "condition",
      .seq [sym "?", .field "consequence" again, sym ":", .field "alternative" again]⟩]

def assignmentOperators : List JavaForm :=
  [joined [">", ">", ">", "="], joined [">", ">", "="]] ++
    ["=", "+=", "-=", "*=", "/=", "&=", "|=", "^=", "%=", "<<="].map sym

def lambda : JavaForm :=
  let inferred := Form.node "inferred_parameters" (parens (.sepBy1 comma identifier))
  .node "lambda_expression"
    (.seq [.field "parameters" (.choice [identifier, inferred, formalParameters]), sym "->",
      .field "body" (.choice [.phrase .block, expression])])

/-- How tight the value of a cast binds: below all operators between two operands. -/
def unaryLevel : Nat := 10

/-- A name in parentheses is no type where a sign follows, but the left side of the sign.  The
value of a cast to several types does not start with a sign. -/
def cast (inLabel : Bool) : JavaForm :=
  let typed (form : JavaForm) := Form.field "type" form
  let named := parens (typed (.only ["type_identifier"] (.phrase .type)))
  let unnamed := parens (typed (.only ["generic_type", "scoped_type_identifier", "array_type",
    "annotated_type", "integral_type", "floating_point_type", "boolean_type", "void_type"]
    anyType))
  let value (form : JavaForm) := Form.seq [.barring ["instanceof"], .field "value" form]
  let unary := Form.phrase (.operators unaryLevel inLabel)
  let simple := Form.choice ((if inLabel then [] else [lambda]) ++ [.phrase .primary])
  .choice
    [.node "cast_expression" (.seq [named, .barring ["+", "-", "++", "--"], value unary]),
      .node "cast_expression" (.seq [unnamed, value unary]),
      .node "cast_expression" (.seq [parens (.sepBy1 "&" (typed anyType)), value simple])]

def switchExpression : JavaForm :=
  .node "switch_expression"
    (.seq [word "switch", .field "condition" parenthesized,
      .field "body" (.phrase .switchBody)])

def assignment (inLabel : Bool) : JavaForm :=
  .chain (.phrase .primary)
    (assignmentOperators.map fun operator =>
      { growByOperator "assignment_expression" operator (.phrase (.expression inLabel)) with
        after := ["identifier", "field_access", "array_access"] })

def operand (inLabel : Bool) : JavaForm :=
  let again := Form.phrase (.operand inLabel)
  .choice ((if inLabel then [] else [lambda]) ++
    [cast inLabel,
      .node "unary_expression"
        (.seq [.field "operator" (anySym ["+", "-", "!", "~"]), .field "operand" again]),
      .node "update_expression" (.seq [anySym ["++", "--"], again]),
      switchExpression, assignment inLabel])

def patternName : JavaForm := .terminal (.name "identifier" ["when"])

def recordPattern : JavaForm :=
  let component := Form.node "record_pattern_component"
    (.choice [.seq [.phrase .type, patternName], wordAs "underscore_pattern" "_"])
  let body := Form.node "record_pattern_body"
    (parens (.sepBy comma (.choice [.phrase .recordPattern, component])))
  .node "record_pattern"
    (.seq [.choice [.only ["generic_type"] (.phrase .simpleType), identifier], body])

def pattern : JavaForm :=
  .node "pattern"
    (.choice [.phrase .recordPattern,
      .node "type_pattern" (.seq [.phrase .type, patternName])])

def switchLabel : JavaForm :=
  let inLabel := Form.phrase (.expression true)
  let guard := Form.node "guard" (.seq [word "when", inLabel])
  .node "switch_label"
    (.choice
      [.seq [word "case", .choice [pattern, .sepBy1 comma inLabel], .optional guard],
        word "default"])

def expressionStatement : JavaForm := .node "expression_statement" (.seq [expression, sym ";"])

def throwStatement : JavaForm :=
  .node "throw_statement" (.seq [word "throw", expression, sym ";"])

def switchBody : JavaForm :=
  let rule := Form.node "switch_rule"
    (.seq [switchLabel, sym "->",
      .choice [throwStatement, .phrase .block, expressionStatement]])
  let group := Form.node "switch_block_statement_group"
    (.seq [switchLabel, sym ":", .many (.phrase .statement)])
  .node "switch_block"
    (.choice [braces (.many1 rule), braces (.many group)])

end TreeLint.Java.Grammar

import TreeLint.Java.Grammar.Expressions

namespace TreeLint.Java.Grammar

def typedVariables (raw : String) : JavaForm :=
  .node raw
    (.seq [.optional modifiers, .barring untypedWords, .field "type" (.phrase .type),
      variableDeclarators, sym ";"])

def localVariables : JavaForm := typedVariables "local_variable_declaration"

def block : JavaForm := .node "block" (braces (.many (.phrase .statement)))

def body : JavaForm := .field "body" (.phrase .statement)

def blockBody : JavaForm := .field "body" (.phrase .block)

def condition : JavaForm := .field "condition" parenthesized

def ifStatement : JavaForm :=
  .node "if_statement"
    (.seq [word "if", condition, .field "consequence" (.phrase .statement),
      .optional (.seq [word "else", .field "alternative" (.phrase .statement)])])

def forStatement : JavaForm :=
  .node "for_statement"
    (.seq [word "for",
      parens (.seq
        [.choice [.field "init" localVariables,
            .seq [.sepBy comma (.field "init" expression), sym ";"]],
          .optional (.field "condition" expression), sym ";",
          .sepBy comma (.field "update" expression)]),
      body])

def enhancedForStatement : JavaForm :=
  .node "enhanced_for_statement"
    (.seq [word "for",
      parens (.seq [.optional modifiers, .field "type" (.phrase .type), declaratorName, sym ":",
        .field "value" expression]),
      body])

def catchClause : JavaForm :=
  .node "catch_clause"
    (.seq [word "catch",
      parens (.node "catch_formal_parameter"
        (.seq [.optional modifiers, .node "catch_type" (.sepBy1 "|" (.phrase .type)),
          declaratorName])),
      blockBody])

def finallyClause : JavaForm := .node "finally_clause" (.seq [word "finally", .phrase .block])

def tryStatement : JavaForm :=
  .node "try_statement"
    (.seq [word "try", blockBody,
      .choice [.seq [.many1 catchClause, .optional finallyClause], finallyClause]])

def resource : JavaForm :=
  .node "resource"
    (.choice
      [.seq [.optional modifiers, .field "type" (.phrase .type), declaratorName, sym "=",
          .field "value" expression],
        .only ["identifier", "field_access"] (.phrase .primary)])

def tryWithResources : JavaForm :=
  .node "try_with_resources_statement"
    (.seq [word "try",
      .field "resources" (.node "resource_specification"
        (parens (.seq [.sepBy1 ";" resource, .optional (sym ";")]))),
      blockBody, .many catchClause, .optional finallyClause])

def jump (raw text : String) : JavaForm :=
  .node raw (.seq [word text, .optional identifier, sym ";"])

/-- A switch that stands for itself, or with a semicolon as an expression. -/
def switchStatement : JavaForm :=
  .chain switchExpression [⟨["switch_expression"], "expression_statement", none, sym ";"⟩]

def statement : JavaForm :=
  .choice
    [.phrase .block, sym ";", ifStatement,
      .node "while_statement" (.seq [word "while", condition, body]),
      forStatement, enhancedForStatement,
      .node "do_statement" (.seq [word "do", body, word "while", condition, sym ";"]),
      tryStatement, tryWithResources, switchStatement,
      .node "synchronized_statement" (.seq [word "synchronized", parenthesized, blockBody]),
      jump "break_statement" "break", jump "continue_statement" "continue",
      .node "return_statement" (.seq [word "return", .optional expression, sym ";"]),
      throwStatement,
      .node "assert_statement"
        (.seq [word "assert", expression, .optional (.seq [sym ":", expression]), sym ";"]),
      .phrase .declaration,
      .node "labeled_statement"
        (.seq [.barring leadingWords, identifier, sym ":", .phrase .statement]),
      localVariables, .seq [.barring leadingWords, expressionStatement],
      .node "yield_statement" (.seq [word "yield", expression, sym ";"])]

def name : JavaForm := .field "name" identifier

/-- A name where nothing else can stand, so that no word is reserved. -/
def anyName : JavaForm := .field "name" (.terminal (.name "identifier" []))

def superInterfaces : JavaForm :=
  .optional (.field "interfaces" (.node "super_interfaces"
    (.seq [word "implements", .node "type_list" (.sepBy1 comma anyType)])))

def permits : JavaForm :=
  .optional (.field "permits" (.node "permits"
    (.seq [word "permits", .node "type_list" (.sepBy1 comma anyType)])))

def generics : JavaForm := .optional (.field "type_parameters" typeParameters)

def classDeclaration : JavaForm :=
  let superclass := Form.node "superclass" (.seq [word "extends", anyType])
  .node "class_declaration"
    (.seq [.optional modifiers, word "class", anyName, generics,
      .optional (.field "superclass" superclass), superInterfaces, permits,
      .field "body" classBody])

def recordDeclaration : JavaForm :=
  .node "record_declaration"
    (.seq [.optional modifiers, word "record", anyName, generics,
      .field "parameters" formalParameters, superInterfaces, .field "body" classBody])

def interfaceDeclaration : JavaForm :=
  let extended := Form.node "extends_interfaces"
    (.seq [word "extends", .node "type_list" (.sepBy1 comma anyType)])
  .node "interface_declaration"
    (.seq [.optional modifiers, word "interface", anyName, generics, .optional extended, permits,
      .field "body" (.node "interface_body" (braces (.many (.phrase .interfaceMember))))])

def annotationTypeDeclaration : JavaForm :=
  .node "annotation_type_declaration"
    (.seq [.optional modifiers, sym "@interface", anyName,
      .field "body" (.node "annotation_type_body"
        (braces (.many (.phrase .annotationMember))))])

def enumDeclaration : JavaForm :=
  let constant := Form.node "enum_constant"
    (.seq [.optional modifiers, anyName, .optional (.field "arguments" arguments),
      .optional (.field "body" classBody)])
  let declarations := Form.node "enum_body_declarations"
    (.seq [sym ";", .many (.phrase .member)])
  .node "enum_declaration"
    (.seq [.optional modifiers, word "enum", anyName, superInterfaces,
      .field "body" (.node "enum_body"
        (braces (.seq [.sepBy comma constant, .optional (sym comma),
          .optional declarations])))])

def throwsClause : JavaForm :=
  .optional (.node "throws" (.seq [word "throws", .sepBy1 comma anyType]))

def methodDeclaration : JavaForm :=
  .node "method_declaration"
    (.seq [.optional modifiers,
      .optional (.seq [.field "type_parameters" typeParameters, annotations]),
      .barring untypedWords, .field "type" (.phrase .type), anyName,
      .field "parameters" formalParameters, .optional (.field "dimensions" dimensions),
      throwsClause, .choice [blockBody, sym ";"]])

def constructorCall : JavaForm :=
  let typeArguments := Form.optional (.field "type_arguments" (.phrase .typeArguments))
  let constructor (word : JavaForm) := Form.field "constructor" word
  let rest := Form.seq [.field "arguments" arguments, sym ";"]
  let unqualified := Form.seq
    [typeArguments, constructor (.choice [thisWord, superWord]), rest]
  let qualified := Form.seq
    [.field "object" (.phrase .primary), sym ".", typeArguments, constructor superWord, rest]
  .node "explicit_constructor_invocation" (.choice [unqualified, qualified])

def constructorDeclaration : JavaForm :=
  .node "constructor_declaration"
    (.seq [.optional modifiers, generics, .barring untypedWords, name,
      .field "parameters" formalParameters, throwsClause,
      .field "body" (.node "constructor_body"
        (braces (.seq [.optional constructorCall, .many (.phrase .statement)])))])

def compactConstructor : JavaForm :=
  .node "compact_constructor_declaration"
    (.seq [.optional modifiers, .barring untypedWords, name, blockBody])

def typeDeclarations : List JavaForm :=
  [classDeclaration, interfaceDeclaration, enumDeclaration, annotationTypeDeclaration]

def member : JavaForm :=
  .choice ([sym ";", .phrase .block,
      .node "static_initializer" (.seq [word "static", .phrase .block])] ++
    typeDeclarations ++
    [recordDeclaration, compactConstructor, constructorDeclaration, methodDeclaration,
      typedVariables "field_declaration"])

def interfaceMember : JavaForm :=
  .choice ([sym ";"] ++ typeDeclarations ++
    [recordDeclaration, methodDeclaration, typedVariables "constant_declaration"])

def annotationMember : JavaForm :=
  let default := Form.seq [word "default", .field "value" (.phrase .elementValue)]
  let element := Form.node "annotation_type_element_declaration"
    (.seq [.optional modifiers, .barring untypedWords, .field "type" (.phrase .type), anyName,
      sym "(", sym ")", .optional (.field "dimensions" dimensions), .optional default,
      sym ";"])
  .choice ([sym ";"] ++ typeDeclarations ++ [element, typedVariables "constant_declaration"])

def moduleNames (fieldName : String) : JavaForm :=
  .sepBy1 comma (.field fieldName qualifiedName)

def packageDirective (raw text : String) : JavaForm :=
  .node raw
    (.seq [word text, .field "package" qualifiedName,
      .optional (.seq [word "to", moduleNames "modules"]), sym ";"])

def moduleDirective : JavaForm :=
  let modifier := Form.node "requires_modifier" (anyWord ["transitive", "static"])
  .choice
    [.node "requires_module_directive"
        (.seq [word "requires", .many (.field "modifiers" modifier),
          .field "module" qualifiedName, sym ";"]),
      packageDirective "exports_module_directive" "exports",
      packageDirective "opens_module_directive" "opens",
      .node "uses_module_directive"
        (.seq [word "uses", .field "type" qualifiedName, sym ";"]),
      .node "provides_module_directive"
        (.seq [word "provides", .field "provided" qualifiedName, word "with", qualifiedName,
          .many (.seq [sym comma, .field "provider" qualifiedName]), sym ";"])]

def moduleDeclaration : JavaForm :=
  .node "module_declaration"
    (.seq [annotations, .optional (word "open"), word "module", .field "name" qualifiedName,
      .field "body" (.node "module_body" (braces (.many moduleDirective)))])

def packageDeclaration : JavaForm :=
  .node "package_declaration" (.seq [annotations, word "package", qualifiedName, sym ";"])

def importDeclaration : JavaForm :=
  .node "import_declaration"
    (.seq [word "import", .optional (word "static"), qualifiedName,
      .optional (.seq [sym ".", .node "asterisk" (sym "*")]), sym ";"])

def declaration : JavaForm :=
  .choice ([importDeclaration, packageDeclaration, moduleDeclaration] ++ typeDeclarations ++
    [recordDeclaration])

def topLevel : JavaForm := .choice [.phrase .statement, methodDeclaration]

end TreeLint.Java.Grammar

namespace TreeLint

inductive Kind where
  | compilationUnit
  | packageDeclaration
  | importDeclaration
  | «class»
  | interface
  | enum
  | record
  | annotationType
  | classBody
  | superclass
  | superInterfaces
  | method
  | constructor
  | field
  | parameters
  | parameter
  | modifiers
  | typeRef
  | block
  | emptyStatement
  | expressionStatement
  | localVariable
  | return
  | if
  | for
  | while
  | doWhile
  | switch
  | try
  | throw
  | labeled
  | jump
  | expression
  | error
  | other
  | identifier
  | keyword
  | literal
  | semicolon
  | leftBrace
  | rightBrace
  | leftParen
  | rightParen
  | comma
  | dot
  | operator
  | punctuator
  deriving DecidableEq, Repr

namespace Kind

/-- Every kind once, composite kinds before token kinds. -/
def all : List Kind :=
  [compilationUnit, packageDeclaration, importDeclaration, .class, interface, enum, record,
    annotationType, classBody, superclass, superInterfaces, method, constructor, field,
    parameters, parameter, modifiers, typeRef, block, emptyStatement, expressionStatement,
    localVariable, .return, .if, .for, .while, doWhile, .switch, .try, .throw, labeled, jump,
    expression, error, other, identifier, keyword, literal, semicolon, leftBrace, rightBrace,
    leftParen, rightParen, comma, dot, operator, punctuator]

def name : Kind → String
  | compilationUnit => "compilation_unit"
  | packageDeclaration => "package_declaration"
  | importDeclaration => "import_declaration"
  | .class => "class"
  | interface => "interface"
  | enum => "enum"
  | record => "record"
  | annotationType => "annotation_type"
  | classBody => "class_body"
  | superclass => "superclass"
  | superInterfaces => "super_interfaces"
  | method => "method"
  | constructor => "constructor"
  | field => "field"
  | parameters => "parameters"
  | parameter => "parameter"
  | modifiers => "modifiers"
  | typeRef => "type_ref"
  | block => "block"
  | emptyStatement => "empty_statement"
  | expressionStatement => "expression_statement"
  | localVariable => "local_variable"
  | .return => "return"
  | .if => "if"
  | .for => "for"
  | .while => "while"
  | doWhile => "do_while"
  | .switch => "switch"
  | .try => "try"
  | .throw => "throw"
  | labeled => "labeled"
  | jump => "jump"
  | expression => "expression"
  | error => "error"
  | other => "other"
  | identifier => "identifier"
  | keyword => "keyword"
  | literal => "literal"
  | semicolon => "semicolon"
  | leftBrace => "left_brace"
  | rightBrace => "right_brace"
  | leftParen => "left_paren"
  | rightParen => "right_paren"
  | comma => "comma"
  | dot => "dot"
  | operator => "operator"
  | punctuator => "punctuator"

instance : ToString Kind := ⟨name⟩

def ofName? (text : String) : Option Kind :=
  all.find? (·.name == text)

def isToken : Kind → Bool
  | identifier | keyword | literal | semicolon | leftBrace | rightBrace | leftParen | rightParen
  | comma | dot | operator | punctuator => true
  | _ => false

def isTypeDeclaration : Kind → Bool
  | interface | enum | record | annotationType => true
  | .class => true
  | _ => false

def isCallable : Kind → Bool
  | method | constructor => true
  | _ => false

def isStatement : Kind → Bool
  | emptyStatement | expressionStatement | localVariable | .return | .if | .for | .while
  | doWhile | .switch | .try | .throw | labeled | jump => true
  | _ => false

def operatorChars : List Char := "+-*/%=<>!&|^~?:".toList

/-- Classifies a punctuation or keyword token by its spelling.  The empty spelling counts as an
operator, since all of its characters are operator characters. -/
def ofTokenText (text : String) : Kind :=
  match text with
  | ";" => semicolon
  | "\x7b" => leftBrace
  | "\x7d" => rightBrace
  | "(" => leftParen
  | ")" => rightParen
  | "," => comma
  | "." => dot
  | _ =>
      if text.toList.head?.any Char.isAlpha then keyword
      else if text.toList.all operatorChars.contains then operator
      else punctuator

@[simp] theorem isToken_ofTokenText (text : String) : (ofTokenText text).isToken = true := by
  unfold ofTokenText
  split
  case h_8 =>
    split
    · rfl
    · split <;> rfl
  all_goals rfl

end Kind

end TreeLint

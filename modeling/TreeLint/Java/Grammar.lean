import TreeLint.Java.Grammar.Declarations

namespace TreeLint.Java

def Phrase.form : Phrase → Form Phrase
  | annotationUse => Grammar.annotationUse
  | elementValue => Grammar.elementValue
  | simpleType => Grammar.simpleType
  | type => Grammar.type
  | typeOrAnnotated => Grammar.typeOrAnnotated
  | typeArguments => Grammar.typeArguments
  | expression inLabel => Grammar.expressionIn inLabel
  | operators level inLabel => Grammar.operators level inLabel
  | operand inLabel => Grammar.operand inLabel
  | primary => Grammar.primary
  | arrayInitializer => Grammar.arrayInitializer
  | recordPattern => Grammar.recordPattern
  | switchBody => Grammar.switchBody
  | statement => Grammar.statement
  | block => Grammar.block
  | declaration => Grammar.declaration
  | member => Grammar.member
  | interfaceMember => Grammar.interfaceMember
  | annotationMember => Grammar.annotationMember

end TreeLint.Java

import TreeLint.Symbols.Table

/-! Filling a symbol table in place: what a call has changed before it fails stays changed. -/

namespace TreeLint.SymbolTable

abbrev Edit := EStateM SymbolError SymbolTable

namespace Edit

def typeAt (id : SymbolId) : Edit TypeSymbol := do
  match (← get).symbol? id with
  | some (.type s) => return s
  | some _ => throw (.notAType id)
  | none => throw (.unknownSymbol id)

def amend (id : SymbolId) (f : TypeSymbol → TypeSymbol) : Edit Unit := do
  let s ← typeAt id
  modify fun table =>
    { table with symbols := table.symbols.setIfInBounds id.number (.type (f s)) }

def indexDeclaration (id : SymbolId) : Option Nat → Edit Unit
  | some node =>
      modify fun table => { table with byDeclaration := table.byDeclaration.insert node id }
  | none => return

def push (symbol : Symbol) : Edit SymbolId := do
  let id : SymbolId := ⟨(← get).size⟩
  indexDeclaration id symbol.declaration?
  modify fun table => { table with symbols := table.symbols.push symbol }
  return id

def declareType (name qualifiedName : String) (kind : TypeKind) (declaration? : Option Nat) :
    Edit SymbolId := do
  let id ← push (.type {
    name, qualifiedName, kind, superclass? := none, interfaces := [], members := [],
    declaration? })
  modify fun table =>
    { table with byQualifiedName := table.byQualifiedName.insertIfNew qualifiedName id }
  return id

def externalType (qualifiedName : String) (kind : TypeKind) : Edit SymbolId := do
  match (← get).typeNamed? qualifiedName with
  | some id => return id
  | none => declareType (simpleName qualifiedName) qualifiedName kind none

/-- Changes a type on account of another one, which is looked at first. -/
def link (id supertype : SymbolId) (f : TypeSymbol → TypeSymbol) : Edit Unit := do
  let _ ← typeAt supertype
  amend id f

def setSuperclass (id superclass : SymbolId) : Edit Unit :=
  link id superclass fun s => { s with superclass? := some superclass }

def addInterface (id interface : SymbolId) : Edit Unit :=
  link id interface fun s => { s with interfaces := s.interfaces ++ [interface] }

def setKind (id : SymbolId) (kind : TypeKind) : Edit Unit := amend id fun s => { s with kind }

def addMember (owner : SymbolId) (symbol : Symbol) : Edit SymbolId := do
  let _ ← typeAt owner
  let id ← push symbol
  amend owner fun s => { s with members := s.members.add symbol.name id }
  return id

def addMethod (s : MethodSymbol) : Edit SymbolId := addMember s.owner (.method s)

def declareMethod (owner : SymbolId) (name : String) (parameterTypes : List String)
    (declaration? : Option Nat) : Edit SymbolId :=
  addMethod {
    name, owner, parameterTypes, returnType? := some "void", inherited := false, declaration? }

def addVariable (s : VariableSymbol) : Edit SymbolId := addMember s.owner (.value s)

end Edit

end TreeLint.SymbolTable

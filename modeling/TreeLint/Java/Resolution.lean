import TreeLint.Java.Lowering
import TreeLint.Java.Platform
import TreeLint.Java.TypeName
import TreeLint.Symbols.Table

/-! What one file tells about its symbols: the types it declares, their members and their
supertypes.  Types of other files are entered by name only. -/

namespace TreeLint.Java

open TreeLint.Tree

inductive ResolutionError where
  | syntaxErrors
  | notACompilationUnit (kind : Kind)
  | symbols (error : SymbolError)
  deriving DecidableEq, Repr

def ResolutionError.message : ResolutionError → String
  | syntaxErrors => "file has syntax errors; symbols were not resolved"
  | notACompilationUnit kind => s!"expected a compilation unit at the root, found {kind}"
  | symbols error => error.message

namespace Resolution

variable {t : Tree}

structure Header where
  package? : Option String
  /-- Simple names with the qualified names that they are imported under, the last first. -/
  imports : List (String × String)
  deriving Repr

namespace Header

def package (h : Header) : String := h.package?.getD ""

def isStatic (declaration : t.Node) : Bool :=
  declaration.children.any fun c => c.kind == .keyword && c.text == "static"

/-- Imports of members and of whole packages tell nothing about single types. -/
def addImport (h : Header) (declaration : t.Node) : Header :=
  let name := declaredName declaration
  if isStatic declaration || name.endsWith "*" then h
  else { h with imports := (SymbolTable.simpleName name, name) :: h.imports }

def add (h : Header) (n : t.Node) : Header :=
  match n.kind with
  | .packageDeclaration => { h with package? := some (declaredName n) }
  | .importDeclaration => h.addImport n
  | _ => h

def read (root : t.Node) : Header := root.children.foldl add ⟨none, []⟩

end Header

structure Declared (t : Tree) where
  node : t.Node
  id : SymbolId
  name : String
  qualifiedName : String
  kind : TypeKind
  /-- The position of the innermost type declared around this one. -/
  enclosing? : Option Nat

def isAnonymous (n : t.Node) : Bool := n.rawKind == anonymousClass

def typeKind? : Kind → Option TypeKind
  | .class => some .class
  | .interface => some .interface
  | .enum => some .enum
  | .record => some .record
  | .annotationType => some .annotationType
  | _ => none

def declarationName? (n : t.Node) : Option String :=
  match n.childInField? "name" with
  | some name => some name.text
  | none => if isAnonymous n then some "" else none

def enclosingType? (types : Array (Declared t)) (n : t.Node) : Option Nat := do
  let around ← n.ancestors.find? (·.kind.isTypeDeclaration)
  types.findIdx? (·.node == around)

/-- Classes without a name are numbered within the type around them. -/
def qualifiedNameOf (h : Header) (types : Array (Declared t)) (n : t.Node) (name : String) :
    String :=
  let enclosing? := enclosingType? types n
  let outer? := match enclosing?.bind (types[·]?) with
    | some outer => some outer.qualifiedName
    | none => h.package?
  if isAnonymous n then
    let before := types.toList.filter fun d =>
      d.enclosing? == enclosing? && isAnonymous d.node
    (outer?.getD "") ++ "$" ++ toString (1 + before.length)
  else
    match outer? with
    | some outer => outer ++ "." ++ name
    | none => name

def declareTypes (h : Header) (types : Array (Declared t)) (table : SymbolTable) :
    List t.Node → Array (Declared t) × SymbolTable
  | [] => (types, table)
  | n :: rest =>
      match typeKind? n.kind, declarationName? n with
      | some kind, some name =>
          let qualifiedName := qualifiedNameOf h types n name
          let (symbol, table) := table.declareType name qualifiedName kind (some n.index)
          let declared : Declared t :=
            { node := n, id := symbol, name, qualifiedName, kind
              enclosing? := enclosingType? types n }
          declareTypes h (types.push declared) table rest
      | _, _ => declareTypes h types table rest

structure NameScope (t : Tree) where
  header : Header
  types : Array (Declared t)

namespace NameScope

def container (d : Declared t) : String :=
  let name := d.qualifiedName.toList.reverse
  let outer := if d.qualifiedName.endsWith d.name then name.drop d.name.length else []
  String.ofList (outer.dropWhile (· == '.')).reverse

def deeper (a b : Declared t) : Declared t :=
  if (container a).utf8ByteSize ≤ (container b).utf8ByteSize then b else a

/-- The type of this file that a simple name means in the scope of a type: the one declared
deepest among those at the top and those declared by a type around. -/
def visible? (scope : NameScope t) (name : String) (within : Declared t) : Option String :=
  let candidates := scope.types.toList.filter fun d =>
    d.name == name &&
      (container d == scope.header.package || within.qualifiedName == container d ||
        within.qualifiedName.startsWith (container d ++ "."))
  match candidates with
  | [] => none
  | first :: rest => some (rest.foldl deeper first).qualifiedName

def qualify (scope : NameScope t) (name : String) (within : Declared t) : String :=
  let head := String.ofList (name.toList.takeWhile (· != '.'))
  let rest := String.ofList (name.toList.dropWhile (· != '.'))
  match scope.visible? head within <|> scope.header.imports.lookup head with
  | some qualified => qualified ++ rest
  | none =>
      if rest != "" then name
      else if Platform.isKnown head then Platform.qualifiedPrefix ++ head
      else
        match scope.header.package? with
        | some package => package ++ "." ++ name
        | none => name

end NameScope

abbrev Resolve := StateT SymbolTable (Except SymbolError)

def change (f : SymbolTable → Except SymbolError SymbolTable) : Resolve Unit := do
  set (← f (← get))

def mention (qualifiedName : String) (kind : TypeKind) : Resolve SymbolId :=
  modifyGet fun table => table.externalType qualifiedName kind

/-- A type in the place of a class, with the superclasses that are known of it.  Such a type of
another file is a class from now on, whatever it was taken for before. -/
def mentionClass (qualifiedName : String) (superclasses : List String) : Resolve SymbolId := do
  let symbol ← mention qualifiedName .class
  match (← get).type? symbol with
  | none => return symbol
  | some s =>
      if qualifiedName = Platform.object || !s.isExternal || s.superclass?.isSome then
        return symbol
      else
        if s.kind ≠ .class then change (·.setKind symbol .class)
        match superclasses with
        | [] => return symbol
        | parent :: above =>
            let superclass ← mentionClass parent above
            change (·.setSuperclass symbol superclass)
            return symbol

def classNamed (qualifiedName : String) : Resolve SymbolId :=
  mentionClass qualifiedName (Platform.superclasses qualifiedName)

def objectClass : Resolve SymbolId := classNamed Platform.object

def declaredKind? (table : SymbolTable) (qualifiedName : String) : Option TypeKind := do
  let s ← table.type? (← table.typeNamed? qualifiedName)
  if s.isExternal then none else some s.kind

def isInterface (table : SymbolTable) (qualifiedName : String) : Bool :=
  match declaredKind? table qualifiedName with
  | some kind => kind == .interface || kind == .annotationType
  | none => Platform.isInterface qualifiedName

/-- The body of an enum's constant extends the enum; other classes without a name extend what
they make an instance of, or `Object` if that is an interface. -/
def anonymousSuperclass (scope : NameScope t) (d : Declared t) : Resolve SymbolId := do
  let site? := d.node.parent?
  let owner? := d.enclosing?.bind (scope.types[·]?)
  match owner?.filter fun _ => site?.any (·.rawKind == "enum_constant") with
  | some owner => return owner.id
  | none =>
      match site?.bind (·.childInField? "type") with
      | none => objectClass
      | some created =>
          let name := scope.qualify (typeName created) (owner?.getD d)
          if isInterface (← get) name then
            let interface ← mention name .interface
            change (·.addInterface d.id interface)
            objectClass
          else classNamed name

def superclass? (scope : NameScope t) (d : Declared t) : Resolve (Option SymbolId) := do
  match d.kind with
  | .class =>
      if isAnonymous d.node then some <$> anonymousSuperclass scope d
      else
        match d.node.childInField? "superclass" with
        | some clause =>
            match supertypes clause with
            | type :: _ => some <$> classNamed (scope.qualify (typeName type) d)
            | [] => return none
        | none =>
            if d.qualifiedName = Platform.object then return none else some <$> objectClass
  | .enum => some <$> classNamed "java.lang.Enum"
  | .record => some <$> classNamed "java.lang.Record"
  | .interface | .annotationType => return none

def addInterfaces (scope : NameScope t) (d : Declared t) : List t.Node → Resolve Unit
  | [] => return
  | type :: rest => do
      let interface ← mention (scope.qualify (typeName type) d) .interface
      change (·.addInterface d.id interface)
      addInterfaces scope d rest

def linkSupertypes (scope : NameScope t) (d : Declared t) : Resolve Unit := do
  if let some superclass ← superclass? scope d then
    change (·.setSuperclass d.id superclass)
  if let some clause := d.node.childOfKind? .superInterfaces then
    addInterfaces scope d (supertypes clause)
  if d.kind = .annotationType then
    let interface ← mention "java.lang.annotation.Annotation" .interface
    change (·.addInterface d.id interface)

def addMethod (d : Declared t) (member : t.Node) : Resolve Unit := do
  match member.childInField? "name" with
  | none => return
  | some name =>
      let written := ((member.childInField? "type").map typeName).getD "void"
      change fun table => (table.addMethod {
        name := name.text
        owner := d.id
        parameterTypes := parameterTypes member
        returnType? := if member.kind = .method then some written else none
        inherited := false
        declaration? := some member.index }).map (·.2)

def addVariable (d : Declared t) (type : String) (declaration : t.Node) : Resolve Unit := do
  match declaration.childInField? "name" with
  | none => return
  | some name =>
      change fun table => (table.addVariable {
        name := name.text
        owner := d.id
        typeName := type
        declaration? := some declaration.index }).map (·.2)

def addMember (d : Declared t) (member : t.Node) : Resolve Unit :=
  match member.kind with
  | .method | .constructor => addMethod d member
  | .field =>
      let type := ((member.childInField? "type").map typeName).getD ""
      let declarators := member.children.filter (·.field? == some "declarator")
      declarators.forM (addVariable d type)
  | _ =>
      if member.rawKind == "enum_constant" then addVariable d d.name member else return

def addMembers (d : Declared t) : Resolve Unit :=
  match d.node.childInField? "body" with
  | none => return
  | some body => body.children.forM (addMember d)

end Resolution

open Resolution

/-- The symbols of a tree.  A tree with syntax errors has none. -/
def resolve (t : Tree) : Except ResolutionError SymbolTable :=
  if t.hasErrors then .error .syntaxErrors
  else if t.root.kind ≠ .compilationUnit then .error (.notACompilationUnit t.root.kind)
  else
    let header := Header.read t.root
    let (types, table) := declareTypes header #[] (.new t.id) t.root.descendants
    let scope : NameScope t := ⟨header, types⟩
    let link : Resolve Unit := do
      types.toList.forM (linkSupertypes scope)
      types.toList.forM addMembers
    match link.run table with
    | .ok ((), table) => .ok table
    | .error e => .error (.symbols e)

end TreeLint.Java

import Std.Data.HashMap
import TreeLint.Tree.Basic

/-! The types, methods and variables of one file, numbered in the order they were added. -/

namespace TreeLint

structure SymbolId where
  number : Nat
  deriving DecidableEq, Repr, Hashable

instance : ToString SymbolId := ⟨fun id => s!"SymbolId({id.number})"⟩

inductive TypeKind where
  | «class»
  | interface
  | enum
  | record
  | annotationType
  deriving DecidableEq, Repr

namespace TypeKind

def all : List TypeKind := [.class, interface, enum, record, annotationType]

def name : TypeKind → String
  | .class => "class"
  | interface => "interface"
  | enum => "enum"
  | record => "record"
  | annotationType => "annotation"

instance : ToString TypeKind := ⟨name⟩

def ofName? (text : String) : Option TypeKind := all.find? (·.name == text)

end TypeKind

/-- Declared members by name, names in increasing order.  Overloads share a name. -/
abbrev Members := List (String × List SymbolId)

namespace Members

def add (name : String) (id : SymbolId) : Members → Members
  | [] => [(name, [id])]
  | (key, ids) :: rest =>
      if name = key then (key, ids ++ [id]) :: rest
      else if name < key then (name, [id]) :: (key, ids) :: rest
      else (key, ids) :: add name id rest

def named (members : Members) (name : String) : List SymbolId := (members.lookup name).getD []

def Ascending (members : Members) : Prop := (members.map (·.1)).Pairwise (· < ·)

@[simp] theorem named_cons (entry : String × List SymbolId) (rest : Members) (name : String) :
    named (entry :: rest) name = if name = entry.1 then entry.2 else rest.named name := by
  obtain ⟨key, ids⟩ := entry
  by_cases same : name = key
  · simp [named, same]
  · simp [named, List.lookup_cons, same, beq_false_of_ne same]

theorem named_of_forall_ne {members : Members} {name : String}
    (absent : ∀ entry ∈ members, entry.1 ≠ name) : members.named name = [] := by
  induction members with
  | nil => rfl
  | cons entry rest ih =>
      rw [named_cons, if_neg (Ne.symm (absent entry (by simp)))]
      exact ih fun other member => absent other (by simp [member])

theorem mem_add {name : String} {id : SymbolId} {members : Members} {entry : String × List SymbolId}
    (member : entry ∈ members.add name id) : entry.1 = name ∨ entry ∈ members := by
  induction members with
  | nil => exact .inl (by simp_all [add])
  | cons first rest ih =>
      simp only [add] at member
      split at member
      · rcases List.mem_cons.1 member with rfl | later
        · exact .inl (Eq.symm ‹_›)
        · exact .inr (by simp [later])
      · split at member
        · rcases List.mem_cons.1 member with rfl | old
          · exact .inl rfl
          · exact .inr old
        · rcases List.mem_cons.1 member with rfl | later
          · exact .inr (by simp)
          · rcases ih later with same | old
            · exact .inl same
            · exact .inr (by simp [old])

@[simp] theorem ascending_cons {entry : String × List SymbolId} {rest : Members} :
    Ascending (entry :: rest) ↔ (∀ other ∈ rest, entry.1 < other.1) ∧ rest.Ascending := by
  simp [Ascending]

theorem Ascending.add {members : Members} (ascending : members.Ascending) (name : String)
    (id : SymbolId) : (members.add name id).Ascending := by
  induction members with
  | nil => simp [Members.add, Ascending]
  | cons first rest ih =>
      obtain ⟨before, ascends⟩ := ascending_cons.1 ascending
      simp only [Members.add]
      split
      · exact ascending_cons.2 ⟨before, ascends⟩
      next differs =>
        split
        next less =>
          refine ascending_cons.2 ⟨?_, ascending⟩
          intro other member
          rcases List.mem_cons.1 member with rfl | later
          · exact less
          · exact String.lt_trans less (before other later)
        next notLess =>
          have greater : first.1 < name := by grind
          refine ascending_cons.2 ⟨?_, ih ascends⟩
          intro other member
          rcases mem_add member with same | later
          · rw [same]
            exact greater
          · exact before other later

@[simp] theorem named_add {members : Members} (ascending : members.Ascending) (name other : String)
    (id : SymbolId) :
    (members.add name id).named other =
      if other = name then members.named name ++ [id] else members.named other := by
  induction members with
  | nil =>
      rw [add, named_cons]
      rfl
  | cons first rest ih =>
      obtain ⟨before, ascends⟩ := ascending_cons.1 ascending
      simp only [add]
      split
      next same =>
        subst same
        simp only [named_cons, if_pos]
        split <;> rfl
      next differs =>
        split
        next less =>
          have absent : Members.named (first :: rest) name = [] := by
            apply named_of_forall_ne
            intro entry member same
            rcases List.mem_cons.1 member with rfl | later
            · exact differs same.symm
            · have := before entry later
              grind
          rw [named_cons, absent, List.nil_append]
        next notLess =>
          simp only [named_cons, ih ascends, if_neg differs]
          grind

theorem exists_of_mem_named {members : Members} {name : String} {id : SymbolId}
    (member : id ∈ members.named name) : ∃ entry ∈ members, id ∈ entry.2 := by
  induction members with
  | nil => cases member
  | cons first rest ih =>
      rw [named_cons] at member
      split at member
      · exact ⟨first, by simp, member⟩
      · obtain ⟨entry, present, listed⟩ := ih member
        exact ⟨entry, by simp [present], listed⟩

theorem Ascending.named_of_mem {members : Members} (ascending : members.Ascending)
    {entry : String × List SymbolId} (member : entry ∈ members) :
    members.named entry.1 = entry.2 := by
  induction members with
  | nil => cases member
  | cons first rest ih =>
      obtain ⟨before, ascends⟩ := ascending_cons.1 ascending
      rw [named_cons]
      rcases List.mem_cons.1 member with rfl | later
      · rw [if_pos rfl]
      · rw [if_neg, ih ascends later]
        intro same
        have := before entry later
        grind

end Members

structure TypeSymbol where
  name : String
  qualifiedName : String
  kind : TypeKind
  superclass? : Option SymbolId
  interfaces : List SymbolId
  members : Members
  /-- The node that declares the type; none for types known only by reference. -/
  declaration? : Option Nat
  deriving Repr

namespace TypeSymbol

def isExternal (s : TypeSymbol) : Bool := s.declaration?.isNone

instance : ToString TypeSymbol := ⟨fun s => s!"{s.kind} {s.qualifiedName}"⟩

end TypeSymbol

structure MethodSymbol where
  name : String
  owner : SymbolId
  parameterTypes : List String
  /-- Constructors have none. -/
  returnType? : Option String
  inherited : Bool
  declaration? : Option Nat
  deriving DecidableEq, Repr

namespace MethodSymbol

def arity (s : MethodSymbol) : Nat := s.parameterTypes.length

def isConstructor (s : MethodSymbol) : Bool := s.returnType?.isNone

instance : ToString MethodSymbol :=
  ⟨fun s => s.name ++ "(" ++ String.intercalate ", " s.parameterTypes ++ ")"⟩

end MethodSymbol

structure VariableSymbol where
  name : String
  owner : SymbolId
  typeName : String
  declaration? : Option Nat
  deriving DecidableEq, Repr

inductive Symbol where
  | type (s : TypeSymbol)
  | method (s : MethodSymbol)
  | value (s : VariableSymbol)
  deriving Repr

namespace Symbol

def name : Symbol → String
  | type s => s.name
  | method s => s.name
  | value s => s.name

def declaration? : Symbol → Option Nat
  | type s => s.declaration?
  | method s => s.declaration?
  | value s => s.declaration?

def type? : Symbol → Option TypeSymbol
  | type s => some s
  | _ => none

def method? : Symbol → Option MethodSymbol
  | method s => some s
  | _ => none

end Symbol

inductive SymbolError where
  | unknownSymbol (id : SymbolId)
  | notAType (id : SymbolId)
  deriving DecidableEq, Repr

def SymbolError.message : SymbolError → String
  | unknownSymbol id => s!"unknown symbol {id}"
  | notAType id => s!"symbol {id} is not a type"

structure SymbolTable where
  /-- The tree that the declarations belong to. -/
  tree : TreeId
  symbols : Array Symbol
  byDeclaration : Std.HashMap Nat SymbolId
  byQualifiedName : Std.HashMap String SymbolId

namespace SymbolTable

def new (tree : TreeId) : SymbolTable := ⟨tree, #[], ∅, ∅⟩

def size (table : SymbolTable) : Nat := table.symbols.size

def isEmpty (table : SymbolTable) : Bool := table.symbols.isEmpty

def symbol? (table : SymbolTable) (id : SymbolId) : Option Symbol := table.symbols[id.number]?

def type? (table : SymbolTable) (id : SymbolId) : Option TypeSymbol :=
  (table.symbol? id).bind Symbol.type?

def method? (table : SymbolTable) (id : SymbolId) : Option MethodSymbol :=
  (table.symbol? id).bind Symbol.method?

/-- The first type added under the qualified name. -/
def typeNamed? (table : SymbolTable) (qualifiedName : String) : Option SymbolId :=
  table.byQualifiedName[qualifiedName]?

/-- The last symbol declared by the node.  Nodes of other trees declare nothing here. -/
def declaredBy? (table : SymbolTable) {t : Tree} (n : t.Node) : Option SymbolId :=
  if t.id = table.tree then table.byDeclaration[n.index]? else none

def typeOf? (table : SymbolTable) {t : Tree} (n : t.Node) : Option (SymbolId × TypeSymbol) :=
  (table.declaredBy? n).bind fun id => (table.type? id).map (id, ·)

def superclass? (table : SymbolTable) (id : SymbolId) : Option SymbolId := do
  let parent ← (← table.type? id).superclass?
  let _ ← table.type? parent
  return parent

theorem superclass?_eq_some_iff {table : SymbolTable} {id parent : SymbolId} :
    table.superclass? id = some parent ↔
      ∃ s, table.type? id = some s ∧ s.superclass? = some parent ∧
        ∃ r, table.type? parent = some r := by
  simp only [superclass?, bind, Option.bind_eq_some_iff, pure, Option.some.injEq]
  constructor
  · rintro ⟨s, known, _, stored, r, found, rfl⟩
    exact ⟨s, known, stored, r, found⟩
  · rintro ⟨s, known, stored, r, found⟩
    exact ⟨s, known, parent, stored, r, found, rfl⟩

def interfacesOf (table : SymbolTable) (s : TypeSymbol) : List (SymbolId × TypeSymbol) :=
  s.interfaces.filterMap fun id => (table.type? id).map (id, ·)

def membersNamed (table : SymbolTable) (s : TypeSymbol) (name : String) :
    List (SymbolId × Symbol) :=
  (s.members.named name).filterMap fun id => (table.symbol? id).map (id, ·)

def methodsOf (table : SymbolTable) (s : TypeSymbol) : List (SymbolId × MethodSymbol) :=
  s.members.flatMap fun (_, ids) => ids.filterMap fun id => (table.method? id).map (id, ·)

def typeIds (table : SymbolTable) : List SymbolId :=
  ((List.range table.size).map SymbolId.mk).filter fun id => (table.type? id).isSome

def push (table : SymbolTable) (symbol : Symbol) : SymbolId × SymbolTable :=
  let id : SymbolId := ⟨table.size⟩
  (id, { table with
    symbols := table.symbols.push symbol
    byDeclaration := match symbol.declaration? with
      | some node => table.byDeclaration.insert node id
      | none => table.byDeclaration })

def declareType (table : SymbolTable) (name qualifiedName : String) (kind : TypeKind)
    (declaration? : Option Nat) : SymbolId × SymbolTable :=
  let (id, table) := table.push (.type {
    name, qualifiedName, kind, superclass? := none, interfaces := [], members := [],
    declaration? })
  (id, { table with byQualifiedName := table.byQualifiedName.insertIfNew qualifiedName id })

def simpleName (qualifiedName : String) : String :=
  String.ofList (qualifiedName.toList.reverse.takeWhile (· != '.')).reverse

/-- A type declared in another file, added once per qualified name. -/
def externalType (table : SymbolTable) (qualifiedName : String) (kind : TypeKind) :
    SymbolId × SymbolTable :=
  match table.typeNamed? qualifiedName with
  | some id => (id, table)
  | none => table.declareType (simpleName qualifiedName) qualifiedName kind none

def expectType (table : SymbolTable) (id : SymbolId) : Except SymbolError TypeSymbol :=
  match table.symbol? id with
  | some (.type s) => .ok s
  | some _ => .error (.notAType id)
  | none => .error (.unknownSymbol id)

def modifyType (table : SymbolTable) (id : SymbolId) (f : TypeSymbol → TypeSymbol) :
    Except SymbolError SymbolTable :=
  (table.expectType id).map fun s =>
    { table with symbols := table.symbols.setIfInBounds id.number (.type (f s)) }

def setSuperclass (table : SymbolTable) (id superclass : SymbolId) :
    Except SymbolError SymbolTable := do
  let _ ← table.expectType superclass
  table.modifyType id fun s => { s with superclass? := some superclass }

def addInterface (table : SymbolTable) (id interface : SymbolId) :
    Except SymbolError SymbolTable := do
  let _ ← table.expectType interface
  table.modifyType id fun s => { s with interfaces := s.interfaces ++ [interface] }

def setKind (table : SymbolTable) (id : SymbolId) (kind : TypeKind) :
    Except SymbolError SymbolTable :=
  table.modifyType id fun s => { s with kind }

def addMember (table : SymbolTable) (owner : SymbolId) (symbol : Symbol) :
    Except SymbolError (SymbolId × SymbolTable) := do
  let _ ← table.expectType owner
  let (id, table) := table.push symbol
  let table ← table.modifyType owner fun s =>
    { s with members := s.members.add symbol.name id }
  return (id, table)

def addMethod (table : SymbolTable) (s : MethodSymbol) :
    Except SymbolError (SymbolId × SymbolTable) :=
  table.addMember s.owner (.method s)

def declareMethod (table : SymbolTable) (owner : SymbolId) (name : String)
    (parameterTypes : List String) (declaration? : Option Nat) :
    Except SymbolError (SymbolId × SymbolTable) :=
  table.addMethod {
    name, owner, parameterTypes, returnType? := some "void", inherited := false, declaration? }

def addVariable (table : SymbolTable) (s : VariableSymbol) :
    Except SymbolError (SymbolId × SymbolTable) :=
  table.addMember s.owner (.value s)

theorem type?_eq_some_iff {table : SymbolTable} {id : SymbolId} {s : TypeSymbol} :
    table.type? id = some s ↔ table.symbol? id = some (.type s) := by
  simp only [type?, Option.bind_eq_some_iff]
  constructor
  · rintro ⟨symbol, found, isType⟩
    cases symbol <;> cases isType
    exact found
  · intro found
    exact ⟨_, found, rfl⟩

theorem lt_size_of_symbol? {table : SymbolTable} {id : SymbolId} {symbol : Symbol}
    (found : table.symbol? id = some symbol) : id.number < table.size :=
  (Array.getElem?_eq_some_iff.1 found).1

@[simp] theorem symbol?_size (table : SymbolTable) : table.symbol? ⟨table.size⟩ = none :=
  Array.getElem?_eq_none (Nat.le_refl _)

/-- The second table has one symbol more, the last one. -/
structure Appends (table : SymbolTable) (symbol : Symbol) (table' : SymbolTable) : Prop where
  symbol? : ∀ id, table'.symbol? id = if id = ⟨table.size⟩ then some symbol else table.symbol? id
  byDeclaration : ∀ node, table'.byDeclaration[node]? =
    if symbol.declaration? = some node then some ⟨table.size⟩ else table.byDeclaration[node]?

structure Amends (table : SymbolTable) (id : SymbolId) (s s' : TypeSymbol)
    (table' : SymbolTable) : Prop where
  known : table.type? id = some s
  symbol? : ∀ other,
    table'.symbol? other = if other = id then some (.type s') else table.symbol? other
  byDeclaration : table'.byDeclaration = table.byDeclaration
  byQualifiedName : table'.byQualifiedName = table.byQualifiedName

private theorem push_appends (table : SymbolTable) (symbol : Symbol) :
    table.Appends symbol (table.push symbol).2 where
  symbol? := by
    rintro ⟨number⟩
    simp [push, SymbolTable.symbol?, size, Array.getElem?_push]
  byDeclaration := by
    intro node
    cases declared : symbol.declaration? with
    | none => simp [push, declared]
    | some other => simp [push, declared, Std.HashMap.getElem?_insert]

@[simp] theorem expectType_eq_ok {table : SymbolTable} {id : SymbolId} {s : TypeSymbol} :
    table.expectType id = .ok s ↔ table.type? id = some s := by
  rw [type?_eq_some_iff, expectType]
  split <;> simp_all

private theorem modifyType_amends {table table' : SymbolTable} {id : SymbolId}
    {f : TypeSymbol → TypeSymbol} (modified : table.modifyType id f = .ok table') :
    ∃ s, table.Amends id s (f s) table' := by
  cases expected : table.expectType id with
  | error e => simp [modifyType, expected, Except.map] at modified
  | ok s =>
      simp only [modifyType, expected, Except.map, Except.ok.injEq] at modified
      subst modified
      have known := expectType_eq_ok.1 expected
      have inside := lt_size_of_symbol? (type?_eq_some_iff.1 known)
      refine ⟨s, known, ?_, rfl, rfl⟩
      rintro ⟨number⟩
      obtain ⟨place⟩ := id
      simp only [SymbolTable.symbol?, Array.getElem?_setIfInBounds, SymbolId.mk.injEq,
        eq_comm (a := number)]
      split
      · exact if_pos inside
      · rfl

theorem declareType_appends (table : SymbolTable) (name qualifiedName : String) (kind : TypeKind)
    (declaration? : Option Nat) :
    table.Appends
      (.type {
        name, qualifiedName, kind, superclass? := none, interfaces := [], members := [],
        declaration? })
      (table.declareType name qualifiedName kind declaration?).2 :=
  ⟨(table.push_appends _).symbol?, (table.push_appends _).byDeclaration⟩

@[simp] theorem fst_declareType (table : SymbolTable) (name qualifiedName : String)
    (kind : TypeKind) (declaration? : Option Nat) :
    (table.declareType name qualifiedName kind declaration?).1 = ⟨table.size⟩ :=
  rfl

@[simp] theorem size_declareType (table : SymbolTable) (name qualifiedName : String)
    (kind : TypeKind) (declaration? : Option Nat) :
    (table.declareType name qualifiedName kind declaration?).2.size = table.size + 1 :=
  Array.size_push _

@[simp] theorem typeNamed?_declareType (table : SymbolTable) (name qualifiedName : String)
    (kind : TypeKind) (declaration? : Option Nat) (other : String) :
    (table.declareType name qualifiedName kind declaration?).2.typeNamed? other =
      if other = qualifiedName then (table.typeNamed? other).or (some ⟨table.size⟩)
      else table.typeNamed? other := by
  simp only [declareType, push, typeNamed?, Std.HashMap.getElem?_insertIfNew]
  by_cases same : other = qualifiedName
  · subst same
    cases found : table.byQualifiedName[other]? with
    | none => simp [found, Std.HashMap.mem_iff_isSome_getElem?]
    | some id => simp [found, Std.HashMap.mem_iff_isSome_getElem?]
  · simp [same, Ne.symm same]

theorem setSuperclass_amends {table table' : SymbolTable} {id superclass : SymbolId}
    (set : table.setSuperclass id superclass = .ok table') :
    (∃ r, table.type? superclass = some r) ∧
      ∃ s, table.Amends id s { s with superclass? := some superclass } table' := by
  cases expected : table.expectType superclass with
  | error e => simp [setSuperclass, expected, bind, Except.bind] at set
  | ok r =>
      simp only [setSuperclass, expected, bind, Except.bind] at set
      exact ⟨⟨r, expectType_eq_ok.1 expected⟩, modifyType_amends set⟩

theorem addInterface_amends {table table' : SymbolTable} {id interface : SymbolId}
    (added : table.addInterface id interface = .ok table') :
    (∃ r, table.type? interface = some r) ∧
      ∃ s, table.Amends id s { s with interfaces := s.interfaces ++ [interface] } table' := by
  cases expected : table.expectType interface with
  | error e => simp [addInterface, expected, bind, Except.bind] at added
  | ok r =>
      simp only [addInterface, expected, bind, Except.bind] at added
      exact ⟨⟨r, expectType_eq_ok.1 expected⟩, modifyType_amends added⟩

theorem setKind_amends {table table' : SymbolTable} {id : SymbolId} {kind : TypeKind}
    (set : table.setKind id kind = .ok table') :
    ∃ s, table.Amends id s { s with kind } table' :=
  modifyType_amends set

private theorem exists_modifyType {table : SymbolTable} {id : SymbolId}
    (known : ∃ s, table.type? id = some s) (f : TypeSymbol → TypeSymbol) :
    ∃ table', table.modifyType id f = .ok table' := by
  obtain ⟨s, known⟩ := known
  rw [modifyType, expectType_eq_ok.2 known]
  exact ⟨_, rfl⟩

theorem exists_setSuperclass {table : SymbolTable} {id superclass : SymbolId}
    (known : ∃ s, table.type? id = some s) (target : ∃ r, table.type? superclass = some r) :
    ∃ table', table.setSuperclass id superclass = .ok table' := by
  obtain ⟨r, target⟩ := target
  rw [setSuperclass, expectType_eq_ok.2 target]
  exact exists_modifyType known _

theorem exists_addInterface {table : SymbolTable} {id interface : SymbolId}
    (known : ∃ s, table.type? id = some s) (target : ∃ r, table.type? interface = some r) :
    ∃ table', table.addInterface id interface = .ok table' := by
  obtain ⟨r, target⟩ := target
  rw [addInterface, expectType_eq_ok.2 target]
  exact exists_modifyType known _

theorem exists_setKind {table : SymbolTable} {id : SymbolId} (known : ∃ s, table.type? id = some s)
    (kind : TypeKind) : ∃ table', table.setKind id kind = .ok table' :=
  exists_modifyType known _

theorem expectType_push {table : SymbolTable} {id : SymbolId} {s : TypeSymbol}
    (expected : table.expectType id = .ok s) (symbol : Symbol) :
    (table.push symbol).2.expectType id = .ok s := by
  have known := type?_eq_some_iff.1 (expectType_eq_ok.1 expected)
  have inside := lt_size_of_symbol? known
  rw [expectType_eq_ok, type?_eq_some_iff, (table.push_appends symbol).symbol?, if_neg, known]
  rintro rfl
  exact Nat.lt_irrefl _ inside

theorem exists_addMember {table : SymbolTable} {owner : SymbolId} {symbol : Symbol}
    (known : ∃ s, table.type? owner = some s) :
    ∃ id table', table.addMember owner symbol = .ok (id, table') := by
  obtain ⟨s, known⟩ := known
  have expected := expectType_eq_ok.2 known
  obtain ⟨table', listed⟩ :=
    exists_modifyType ⟨s, expectType_eq_ok.1 (expectType_push expected symbol)⟩
      fun o => { o with members := o.members.add symbol.name (table.push symbol).1 }
  refine ⟨(table.push symbol).1, table', ?_⟩
  rw [addMember, expected]
  simp only [bind, Except.bind, listed]
  rfl

theorem exists_addMethod {table : SymbolTable} {s : MethodSymbol}
    (known : ∃ o, table.type? s.owner = some o) :
    ∃ id table', table.addMethod s = .ok (id, table') :=
  exists_addMember known

theorem exists_addVariable {table : SymbolTable} {s : VariableSymbol}
    (known : ∃ o, table.type? s.owner = some o) :
    ∃ id table', table.addVariable s = .ok (id, table') :=
  exists_addMember known

/-- The second table has one member more, which its owner lists last under its name. -/
structure Enrols (table : SymbolTable) (owner : SymbolId) (symbol : Symbol)
    (table' : SymbolTable) : Prop where
  known : ∃ s, table.type? owner = some s
  steps : ∃ between s, table.Appends symbol between ∧
    between.byQualifiedName = table.byQualifiedName ∧
    between.Amends owner s { s with members := s.members.add symbol.name ⟨table.size⟩ } table'

private theorem addMember_enrols {table table' : SymbolTable} {owner id : SymbolId}
    {symbol : Symbol} (added : table.addMember owner symbol = .ok (id, table')) :
    table.Enrols owner symbol table' := by
  cases expected : table.expectType owner with
  | error e => simp [addMember, expected, bind, Except.bind] at added
  | ok o =>
      simp only [addMember, expected, bind, Except.bind] at added
      split at added
      · cases added
      next modified =>
        cases added
        obtain ⟨s, amends⟩ := modifyType_amends modified
        exact ⟨⟨o, expectType_eq_ok.1 expected⟩, _, s, table.push_appends symbol, rfl, amends⟩

theorem addMethod_enrols {table table' : SymbolTable} {id : SymbolId} {s : MethodSymbol}
    (added : table.addMethod s = .ok (id, table')) : table.Enrols s.owner (.method s) table' :=
  addMember_enrols added

theorem addVariable_enrols {table table' : SymbolTable} {id : SymbolId} {s : VariableSymbol}
    (added : table.addVariable s = .ok (id, table')) : table.Enrols s.owner (.value s) table' :=
  addMember_enrols added

section Tree

variable {table table' : SymbolTable} {id : SymbolId}

@[simp] theorem tree_declareType (table : SymbolTable) (name qualifiedName : String)
    (kind : TypeKind) (declaration? : Option Nat) :
    (table.declareType name qualifiedName kind declaration?).2.tree = table.tree :=
  rfl

@[simp] theorem tree_externalType (table : SymbolTable) (qualifiedName : String) (kind : TypeKind) :
    (table.externalType qualifiedName kind).2.tree = table.tree := by
  unfold externalType
  split <;> rfl

private theorem tree_modifyType {f : TypeSymbol → TypeSymbol}
    (modified : table.modifyType id f = .ok table') : table'.tree = table.tree := by
  unfold modifyType at modified
  cases expected : table.expectType id with
  | error e => simp [expected, Except.map] at modified
  | ok s =>
      rw [expected] at modified
      cases modified
      rfl

theorem tree_setSuperclass {superclass : SymbolId}
    (set : table.setSuperclass id superclass = .ok table') : table'.tree = table.tree := by
  cases expected : table.expectType superclass with
  | error e => simp [setSuperclass, expected, bind, Except.bind] at set
  | ok r =>
      simp only [setSuperclass, expected, bind, Except.bind] at set
      exact tree_modifyType set

theorem tree_addInterface {interface : SymbolId}
    (added : table.addInterface id interface = .ok table') : table'.tree = table.tree := by
  cases expected : table.expectType interface with
  | error e => simp [addInterface, expected, bind, Except.bind] at added
  | ok r =>
      simp only [addInterface, expected, bind, Except.bind] at added
      exact tree_modifyType added

theorem tree_setKind {kind : TypeKind} (set : table.setKind id kind = .ok table') :
    table'.tree = table.tree :=
  tree_modifyType set

private theorem tree_addMember {owner : SymbolId} {symbol : Symbol}
    (added : table.addMember owner symbol = .ok (id, table')) : table'.tree = table.tree := by
  cases expected : table.expectType owner with
  | error e => simp [addMember, expected, bind, Except.bind] at added
  | ok o =>
      simp only [addMember, expected, bind, Except.bind] at added
      split at added
      · cases added
      next modified =>
        cases added
        have kept := tree_modifyType modified
        exact kept

theorem tree_addMethod {s : MethodSymbol} (added : table.addMethod s = .ok (id, table')) :
    table'.tree = table.tree :=
  tree_addMember added

theorem tree_addVariable {s : VariableSymbol} (added : table.addVariable s = .ok (id, table')) :
    table'.tree = table.tree :=
  tree_addMember added

end Tree

end SymbolTable

end TreeLint

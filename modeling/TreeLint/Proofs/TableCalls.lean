import TreeLint.Symbols.Table

/-! Calls that fill a symbol table, in any order and failing or not, and how each changes it. -/

namespace TreeLint

def TypeSymbol.supertypes (s : TypeSymbol) : List SymbolId := s.superclass?.toList ++ s.interfaces

def Symbol.owner? : Symbol → Option SymbolId
  | type _ => none
  | method s => some s.owner
  | value s => some s.owner

namespace SymbolTable

inductive Call where
  | declareType (name qualifiedName : String) (kind : TypeKind) (declaration? : Option Nat)
  | externalType (qualifiedName : String) (kind : TypeKind)
  | lookUp (qualifiedName : String)
  | readType (id : SymbolId)
  | setSuperclass (id superclass : SymbolId)
  | addInterface (id interface : SymbolId)
  | setKind (id : SymbolId) (kind : TypeKind)
  | declareMethod (owner : SymbolId) (name : String) (parameterTypes : List String)
      (declaration? : Option Nat)
  | addMethod (s : MethodSymbol)
  | addVariable (s : VariableSymbol)

/-- Makes one call.  Those that only read leave the table as it is. -/
def perform (table : SymbolTable) : Call → Except SymbolError SymbolTable
  | .declareType name qualifiedName kind declaration? =>
      .ok (table.declareType name qualifiedName kind declaration?).2
  | .externalType qualifiedName kind => .ok (table.externalType qualifiedName kind).2
  | .lookUp _ | .readType _ => .ok table
  | .setSuperclass id superclass => table.setSuperclass id superclass
  | .addInterface id interface => table.addInterface id interface
  | .setKind id kind => table.setKind id kind
  | .declareMethod owner name parameterTypes declaration? =>
      (table.declareMethod owner name parameterTypes declaration?).map (·.2)
  | .addMethod s => (table.addMethod s).map (·.2)
  | .addVariable s => (table.addVariable s).map (·.2)

def attemptAll (table : SymbolTable) : List Call → SymbolTable
  | [] => table
  | call :: rest =>
      match table.perform call with
      | .ok table => attemptAll table rest
      | .error _ => attemptAll table rest

/-- What a call can do to a table. -/
inductive Change (table table' : SymbolTable) : Prop
  | nothing (same : table' = table)
  /-- One more type, without links and members. -/
  | declares (s : TypeSymbol) (supertypes : s.supertypes = []) (members : s.members = [])
    (appends : table.Appends (.type s) table')
    (named : ∀ name, table'.typeNamed? name =
      if name = s.qualifiedName then (table.typeNamed? name).or (some ⟨table.size⟩)
      else table.typeNamed? name)
  /-- A type that may have another kind or more links to other types. -/
  | amends (id : SymbolId) (s s' : TypeSymbol) (amends : table.Amends id s s' table')
    (members : s'.members = s.members) (qualifiedName : s'.qualifiedName = s.qualifiedName)
    (declaration? : s'.declaration? = s.declaration?)
    (linked : ∀ parent ∈ s'.supertypes,
      parent ∈ s.supertypes ∨ ∃ r, table.type? parent = some r)
  /-- One more method or variable. -/
  | enrols (owner : SymbolId) (symbol : Symbol) (owned : symbol.owner? = some owner)
    (enrols : table.Enrols owner symbol table')

variable {table table' : SymbolTable}

theorem change_of_declareType (table : SymbolTable) (name qualifiedName : String)
    (kind : TypeKind) (declaration? : Option Nat) :
    Change table (table.declareType name qualifiedName kind declaration?).2 :=
  .declares _ rfl rfl (table.declareType_appends name qualifiedName kind declaration?)
    (table.typeNamed?_declareType name qualifiedName kind declaration?)

theorem change_of_setSuperclass {id superclass : SymbolId}
    (set : table.setSuperclass id superclass = .ok table') : Change table table' := by
  obtain ⟨known, s, amends⟩ := setSuperclass_amends set
  refine .amends id s _ amends rfl rfl rfl ?_
  intro parent member
  rcases List.mem_append.1 member with own | interface
  · cases List.mem_singleton.1 own
    exact .inr known
  · exact .inl (List.mem_append_right _ interface)

theorem change_of_addInterface {id interface : SymbolId}
    (added : table.addInterface id interface = .ok table') : Change table table' := by
  obtain ⟨known, s, amends⟩ := addInterface_amends added
  refine .amends id s _ amends rfl rfl rfl ?_
  intro parent member
  rcases List.mem_append.1 member with own | listed
  · exact .inl (List.mem_append_left _ own)
  · rcases List.mem_append.1 listed with old | new
    · exact .inl (List.mem_append_right _ old)
    · cases List.mem_singleton.1 new
      exact .inr known

theorem change_of_setKind {id : SymbolId} {kind : TypeKind}
    (set : table.setKind id kind = .ok table') : Change table table' := by
  obtain ⟨s, amends⟩ := setKind_amends set
  exact .amends id s _ amends rfl rfl rfl fun parent member => .inl member

private theorem exists_ok_of_map {x : Except ε (α × β)} {y : β} (mapped : x.map (·.2) = .ok y) :
    ∃ a, x = .ok (a, y) := by
  cases x with
  | error e => cases mapped
  | ok pair =>
      cases mapped
      exact ⟨pair.1, rfl⟩

theorem change_of_addMethod {s : MethodSymbol}
    (added : (table.addMethod s).map (·.2) = .ok table') : Change table table' := by
  obtain ⟨id, made⟩ := exists_ok_of_map added
  exact .enrols s.owner (.method s) rfl (addMethod_enrols made)

theorem change_of_addVariable {s : VariableSymbol}
    (added : (table.addVariable s).map (·.2) = .ok table') : Change table table' := by
  obtain ⟨id, made⟩ := exists_ok_of_map added
  exact .enrols s.owner (.value s) rfl (addVariable_enrols made)

theorem change_of_perform {call : Call} (made : table.perform call = .ok table') :
    Change table table' := by
  cases call with
  | declareType name qualifiedName kind declaration? =>
      cases made
      exact change_of_declareType table name qualifiedName kind declaration?
  | externalType qualifiedName kind =>
      cases made
      unfold externalType
      split
      · exact .nothing rfl
      · exact change_of_declareType table _ qualifiedName kind none
  | lookUp qualifiedName =>
      cases made
      exact .nothing rfl
  | readType id =>
      cases made
      exact .nothing rfl
  | setSuperclass id superclass => exact change_of_setSuperclass made
  | addInterface id interface => exact change_of_addInterface made
  | setKind id kind => exact change_of_setKind made
  | declareMethod owner name parameterTypes declaration? => exact change_of_addMethod made
  | addMethod s => exact change_of_addMethod made
  | addVariable s => exact change_of_addVariable made

/-- What holds at first and survives every change holds whatever is called. -/
theorem attemptAll_induction {P : SymbolTable → Prop}
    (change : ∀ {table table'}, Change table table' → P table → P table') (calls : List Call)
    (initial : P table) : P (table.attemptAll calls) := by
  induction calls generalizing table with
  | nil => exact initial
  | cons call rest ih =>
      rw [attemptAll]
      cases made : table.perform call with
      | error e => exact ih initial
      | ok table' => exact ih (change (change_of_perform made) initial)

private theorem tree_of_addMethod {s : MethodSymbol}
    (added : (table.addMethod s).map (·.2) = .ok table') : table'.tree = table.tree := by
  obtain ⟨id, made⟩ := exists_ok_of_map added
  exact tree_addMethod made

theorem tree_perform {call : Call} (made : table.perform call = .ok table') :
    table'.tree = table.tree := by
  cases call with
  | declareType name qualifiedName kind declaration? =>
      cases made
      exact tree_declareType table name qualifiedName kind declaration?
  | externalType qualifiedName kind =>
      cases made
      exact tree_externalType table qualifiedName kind
  | lookUp qualifiedName =>
      cases made
      rfl
  | readType id =>
      cases made
      rfl
  | setSuperclass id superclass => exact tree_setSuperclass made
  | addInterface id interface => exact tree_addInterface made
  | setKind id kind => exact tree_setKind made
  | declareMethod owner name parameterTypes declaration? => exact tree_of_addMethod made
  | addMethod s => exact tree_of_addMethod made
  | addVariable s =>
      obtain ⟨id, added⟩ := exists_ok_of_map made
      exact tree_addVariable added

@[simp] theorem tree_attemptAll (table : SymbolTable) (calls : List Call) :
    (table.attemptAll calls).tree = table.tree := by
  induction calls generalizing table with
  | nil => rfl
  | cons call rest ih =>
      rw [attemptAll]
      cases made : table.perform call with
      | error e => exact ih table
      | ok table' => exact (ih table').trans (tree_perform made)

end SymbolTable

end TreeLint

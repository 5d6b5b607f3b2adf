import TreeLint.Proofs.Alike

/-! Computations on tables that differ only in the nodes that declare their symbols. -/

namespace TreeLint

theorem error_or_ok_of_map {ε α β γ : Type} {f : α → γ} {g : β → γ} {x : Except ε α}
    {y : Except ε β} (same : x.map f = y.map g) :
    (∃ e, x = .error e ∧ y = .error e) ∨ ∃ a b, x = .ok a ∧ y = .ok b ∧ f a = g b := by
  cases x with
  | error e =>
      cases y with
      | error =>
          cases same
          exact .inl ⟨e, rfl, rfl⟩
      | ok => cases same
  | ok a =>
      cases y with
      | error => cases same
      | ok b => exact .inr ⟨a, b, rfl, rfl, Except.ok.inj same⟩

def TypeSymbol.unplaced (s : TypeSymbol) : TypeSymbol :=
  { s with declaration? := s.declaration?.map fun _ => 0 }

def Symbol.unplaced : Symbol → Symbol
  | type s => type s.unplaced
  | method s => method { s with declaration? := s.declaration?.map fun _ => 0 }
  | value s => value { s with declaration? := s.declaration?.map fun _ => 0 }

theorem TypeSymbol.fields_of_unplaced {s s' : TypeSymbol} (same : s.unplaced = s'.unplaced) :
    s.kind = s'.kind ∧ s.superclass? = s'.superclass? ∧ s.isExternal = s'.isExternal := by
  refine ⟨congrArg (·.kind) same, congrArg (·.superclass?) same, ?_⟩
  have places := congrArg (·.declaration?.isNone) same
  simpa [unplaced, isExternal] using places

@[simp] theorem Symbol.name_unplaced (symbol : Symbol) : symbol.unplaced.name = symbol.name := by
  cases symbol <;> rfl

namespace SymbolTable

/-- What a table tells about its symbols, whatever nodes declare them. -/
def unplaced (table : SymbolTable) : SymbolTable where
  tree := ⟨0⟩
  symbols := table.symbols.map Symbol.unplaced
  byDeclaration := ∅
  byQualifiedName := table.byQualifiedName

theorem unplaced_eq_iff {table table' : SymbolTable} :
    table.unplaced = table'.unplaced ↔
      table.symbols.map Symbol.unplaced = table'.symbols.map Symbol.unplaced ∧
        table.byQualifiedName = table'.byQualifiedName := by
  simp [unplaced]

@[simp] theorem symbol?_unplaced (table : SymbolTable) (id : SymbolId) :
    table.unplaced.symbol? id = (table.symbol? id).map Symbol.unplaced :=
  Array.getElem?_map

@[simp] theorem type?_unplaced (table : SymbolTable) (id : SymbolId) :
    table.unplaced.type? id = (table.type? id).map TypeSymbol.unplaced := by
  rw [type?, type?, symbol?_unplaced]
  cases table.symbol? id with
  | none => rfl
  | some symbol => cases symbol <;> rfl

@[simp] theorem expectType_unplaced (table : SymbolTable) (id : SymbolId) :
    table.unplaced.expectType id = (table.expectType id).map TypeSymbol.unplaced := by
  rw [expectType, expectType, symbol?_unplaced]
  cases table.symbol? id with
  | none => rfl
  | some symbol => cases symbol <;> rfl

section Reading

variable {table table' : SymbolTable} (same : table.unplaced = table'.unplaced)

include same

theorem size_of_unplaced : table.size = table'.size := by
  have sizes := congrArg Array.size (unplaced_eq_iff.1 same).1
  rwa [Array.size_map, Array.size_map] at sizes

theorem typeNamed?_of_unplaced (qualifiedName : String) :
    table.typeNamed? qualifiedName = table'.typeNamed? qualifiedName := by
  rw [typeNamed?, typeNamed?, (unplaced_eq_iff.1 same).2]

theorem type?_of_unplaced (id : SymbolId) :
    (table.type? id).map TypeSymbol.unplaced = (table'.type? id).map TypeSymbol.unplaced := by
  rw [← type?_unplaced, ← type?_unplaced, same]

theorem expectType_of_unplaced (id : SymbolId) :
    (table.expectType id).map TypeSymbol.unplaced =
      (table'.expectType id).map TypeSymbol.unplaced := by
  rw [← expectType_unplaced, ← expectType_unplaced, same]

end Reading

theorem map_snd_addMember {table : SymbolTable} {owner : SymbolId} {o : TypeSymbol}
    (known : table.expectType owner = .ok o) (symbol : Symbol) :
    (table.addMember owner symbol).map (·.2) =
      (table.push symbol).2.modifyType owner fun s =>
        { s with members := s.members.add symbol.name (table.push symbol).1 } := by
  rw [addMember, known]
  simp only [bind, Except.bind]
  cases (table.push symbol).2.modifyType owner fun s =>
    { s with members := s.members.add symbol.name (table.push symbol).1 } <;> rfl

section Calls

variable {table table' : SymbolTable} (same : table.unplaced = table'.unplaced)

include same

theorem push_of_unplaced {symbol symbol' : Symbol} (alike : symbol.unplaced = symbol'.unplaced) :
    (table.push symbol).1 = (table'.push symbol').1 ∧
      (table.push symbol).2.unplaced = (table'.push symbol').2.unplaced := by
  obtain ⟨symbols, names⟩ := unplaced_eq_iff.1 same
  refine ⟨congrArg SymbolId.mk (size_of_unplaced same), unplaced_eq_iff.2 ⟨?_, names⟩⟩
  simp only [push, Array.map_push, symbols, alike]

theorem declareType_of_unplaced (name qualifiedName : String) (kind : TypeKind)
    {declaration? declaration'? : Option Nat}
    (declared : declaration?.isSome = declaration'?.isSome) :
    (table.declareType name qualifiedName kind declaration?).1 =
        (table'.declareType name qualifiedName kind declaration'?).1 ∧
      (table.declareType name qualifiedName kind declaration?).2.unplaced =
        (table'.declareType name qualifiedName kind declaration'?).2.unplaced := by
  have places : declaration?.map (fun _ => 0) = declaration'?.map fun _ => 0 := by
    cases declaration? <;> cases declaration'? <;> simp_all
  let bare (declaration? : Option Nat) : TypeSymbol :=
    { name, qualifiedName, kind, superclass? := none, interfaces := [], members := [],
      declaration? }
  have alike : Symbol.unplaced (.type (bare declaration?)) =
      Symbol.unplaced (.type (bare declaration'?)) := by
    simp only [bare, Symbol.unplaced, TypeSymbol.unplaced, places]
  obtain ⟨id, pushed⟩ := push_of_unplaced same alike
  obtain ⟨symbols, names⟩ := unplaced_eq_iff.1 pushed
  exact ⟨id, unplaced_eq_iff.2 ⟨symbols, congrArg₂ (·.insertIfNew qualifiedName ·) names id⟩⟩

theorem externalType_of_unplaced (qualifiedName : String) (kind : TypeKind) :
    (table.externalType qualifiedName kind).1 = (table'.externalType qualifiedName kind).1 ∧
      (table.externalType qualifiedName kind).2.unplaced =
        (table'.externalType qualifiedName kind).2.unplaced := by
  rw [externalType, externalType, typeNamed?_of_unplaced same]
  split
  · exact ⟨rfl, same⟩
  · exact declareType_of_unplaced same _ _ _ rfl

theorem modifyType_of_unplaced (id : SymbolId) {f : TypeSymbol → TypeSymbol}
    (commutes : ∀ s, (f s).unplaced = f s.unplaced) :
    (table.modifyType id f).map unplaced = (table'.modifyType id f).map unplaced := by
  rw [modifyType, modifyType]
  rcases error_or_ok_of_map (expectType_of_unplaced same id) with
    ⟨error, found, found'⟩ | ⟨s, s', found, found', alike⟩ <;> rw [found, found']
  · rfl
  · obtain ⟨symbols, names⟩ := unplaced_eq_iff.1 same
    refine congrArg (fun last => Except.ok last) (unplaced_eq_iff.2 ⟨?_, names⟩)
    simp only [Array.map_setIfInBounds, symbols, Symbol.unplaced, commutes, alike]

theorem setSuperclass_of_unplaced (id superclass : SymbolId) :
    (table.setSuperclass id superclass).map unplaced =
      (table'.setSuperclass id superclass).map unplaced := by
  rw [setSuperclass, setSuperclass]
  rcases error_or_ok_of_map (expectType_of_unplaced same superclass) with
    ⟨error, found, found'⟩ | ⟨s, s', found, found', _⟩ <;> rw [found, found']
  · rfl
  · exact modifyType_of_unplaced same id fun _ => rfl

theorem addInterface_of_unplaced (id interface : SymbolId) :
    (table.addInterface id interface).map unplaced =
      (table'.addInterface id interface).map unplaced := by
  rw [addInterface, addInterface]
  rcases error_or_ok_of_map (expectType_of_unplaced same interface) with
    ⟨error, found, found'⟩ | ⟨s, s', found, found', _⟩ <;> rw [found, found']
  · rfl
  · exact modifyType_of_unplaced same id fun _ => rfl

theorem setKind_of_unplaced (id : SymbolId) (kind : TypeKind) :
    (table.setKind id kind).map unplaced = (table'.setKind id kind).map unplaced :=
  modifyType_of_unplaced same id fun _ => rfl

theorem addMember_of_unplaced (owner : SymbolId) {symbol symbol' : Symbol}
    (alike : symbol.unplaced = symbol'.unplaced) :
    ((table.addMember owner symbol).map (·.2)).map unplaced =
      ((table'.addMember owner symbol').map (·.2)).map unplaced := by
  have name : symbol.name = symbol'.name := by
    rw [← symbol.name_unplaced, alike, symbol'.name_unplaced]
  obtain ⟨id, pushed⟩ := push_of_unplaced same alike
  rcases error_or_ok_of_map (expectType_of_unplaced same owner) with
    ⟨error, found, found'⟩ | ⟨s, s', found, found', _⟩
  · rw [addMember, addMember, found, found']
    rfl
  · rw [map_snd_addMember found, map_snd_addMember found', name, id]
    exact modifyType_of_unplaced pushed owner fun _ => rfl

end Calls

end SymbolTable

namespace Java.Resolution

open SymbolTable

theorem isInterface_of_unplaced {table table' : SymbolTable}
    (same : table.unplaced = table'.unplaced) (name : String) :
    isInterface table name = isInterface table' name := by
  have kinds : declaredKind? table name = declaredKind? table' name := by
    rw [declaredKind?, declaredKind?, typeNamed?_of_unplaced same]
    cases table'.typeNamed? name with
    | none => rfl
    | some id =>
        simp only [Option.bind_eq_bind, Option.bind_some]
        rcases none_or_some_of_map (type?_of_unplaced same id) with
          ⟨found, found'⟩ | ⟨s, s', found, found', alike⟩
        · rw [found, found']
        · obtain ⟨kind, _, external⟩ := TypeSymbol.fields_of_unplaced alike
          simp only [found, found', Option.bind_some, kind, external]
  rw [isInterface, isInterface, kinds]

section Runs

variable {α β : Type}

/-- On tables that differ only in nodes the computations fail alike, or answer alike and leave such
tables. -/
def Lockstep (m m' : Resolve α) : Prop :=
  ∀ table table', table.unplaced = table'.unplaced →
    (m.run table).map (fun r => (r.1, r.2.unplaced)) =
      (m'.run table').map fun r => (r.1, r.2.unplaced)

namespace Lockstep

theorem pure (a : α) : Lockstep (Pure.pure a) (Pure.pure a) :=
  fun _ _ same => congrArg (fun last => Except.ok (a, last)) same

theorem bind {m m' : Resolve α} {f f' : α → Resolve β} (first : Lockstep m m')
    (next : ∀ a, Lockstep (f a) (f' a)) : Lockstep (m >>= f) (m' >>= f') := by
  intro table table' same
  rw [StateT.run_bind, StateT.run_bind]
  rcases error_or_ok_of_map (first table table' same) with
    ⟨error, ran, ran'⟩ | ⟨⟨answer, last⟩, ⟨answer', last'⟩, ran, ran', both⟩ <;> rw [ran, ran']
  · rfl
  · obtain ⟨rfl, same⟩ := Prod.mk.inj both
    exact next answer last last' same

theorem map {m m' : Resolve α} (f : α → β) (run : Lockstep m m') :
    Lockstep (f <$> m) (f <$> m') := by
  rw [map_eq_pure_bind, map_eq_pure_bind]
  exact run.bind fun a => .pure (f a)

theorem get_bind {f f' : SymbolTable → Resolve β}
    (next : ∀ table table', table.unplaced = table'.unplaced → Lockstep (f table) (f' table')) :
    Lockstep (get >>= f) (get >>= f') :=
  fun table table' same => next table table' same table table' same

theorem change {f f' : SymbolTable → Except SymbolError SymbolTable}
    (alike : ∀ table table', table.unplaced = table'.unplaced →
      (f table).map unplaced = (f' table').map unplaced) :
    Lockstep (Resolution.change f) (Resolution.change f') := by
  intro table table' same
  simp only [Resolution.change, StateT.run_bind, StateT.run_get, pure_bind, StateT.run_set,
    StateT.run_monadLift]
  rcases error_or_ok_of_map (alike table table' same) with
    ⟨error, made, made'⟩ | ⟨last, last', made, made', left⟩ <;> rw [made, made']
  · rfl
  · exact congrArg (fun last => Except.ok ((), last)) left

theorem mention (qualifiedName : String) (kind : TypeKind) :
    Lockstep (Resolution.mention qualifiedName kind) (Resolution.mention qualifiedName kind) := by
  intro table table' same
  obtain ⟨id, left⟩ := externalType_of_unplaced same qualifiedName kind
  exact congrArg₂ (fun id last => Except.ok (id, last)) id left

theorem forM {ι κ : Type} {R : ι → κ → Prop} {xs : List ι} {ys : List κ} {f : ι → Resolve Unit}
    {g : κ → Resolve Unit} (all : List.Forall₂ R xs ys)
    (each : ∀ a b, R a b → Lockstep (f a) (g b)) : Lockstep (xs.forM f) (ys.forM g) := by
  induction all with
  | nil => exact .pure ()
  | cons related _ ih => exact (each _ _ related).bind fun _ => ih

theorem ite {c : Prop} [Decidable c] {m m' k k' : Resolve α} (first : Lockstep m m')
    (second : Lockstep k k') : Lockstep (if c then m else k) (if c then m' else k') := by
  split
  · exact first
  · exact second

theorem setSuperclass (id superclass : SymbolId) :
    Lockstep (Resolution.change (·.setSuperclass id superclass))
      (Resolution.change (·.setSuperclass id superclass)) :=
  .change fun _ _ same => setSuperclass_of_unplaced same id superclass

theorem addInterface (id interface : SymbolId) :
    Lockstep (Resolution.change (·.addInterface id interface))
      (Resolution.change (·.addInterface id interface)) :=
  .change fun _ _ same => addInterface_of_unplaced same id interface

theorem mentionClass (qualifiedName : String) (above : List String) :
    Lockstep (Resolution.mentionClass qualifiedName above)
      (Resolution.mentionClass qualifiedName above) := by
  unfold Resolution.mentionClass
  refine (mention qualifiedName .class).bind fun symbol => ?_
  refine .get_bind fun table table' same => ?_
  rcases none_or_some_of_map (type?_of_unplaced same symbol) with
    ⟨found, found'⟩ | ⟨s, s', found, found', alike⟩ <;> rw [found, found']
  · exact .pure symbol
  · obtain ⟨kind, superclass?, external⟩ := TypeSymbol.fields_of_unplaced alike
    dsimp only
    rw [kind, superclass?, external]
    have known := Lockstep.change fun _ _ same => setKind_of_unplaced same symbol .class
    refine .ite (.pure symbol) (.ite (known.bind fun _ => ?_) ?_)
    all_goals
      cases above with
      | nil => exact .pure symbol
      | cons parent above =>
          refine (mentionClass parent above).bind fun superclass => ?_
          exact (setSuperclass symbol superclass).bind fun _ => .pure symbol

theorem classNamed (name : String) :
    Lockstep (Resolution.classNamed name) (Resolution.classNamed name) :=
  mentionClass name _

theorem enrol {symbol symbol' : Symbol} (alike : symbol.unplaced = symbol'.unplaced) :
    Lockstep (Resolution.enrol symbol) (Resolution.enrol symbol') := by
  cases symbol <;> cases symbol' <;>
    simp only [Symbol.unplaced, Symbol.type.injEq, Symbol.method.injEq, Symbol.value.injEq,
      reduceCtorEq] at alike
  · exact .pure ()
  next s s' =>
    have owner : s.owner = s'.owner := congrArg (·.owner) alike
    refine .change fun table table' same => ?_
    rw [SymbolTable.addMethod, SymbolTable.addMethod, owner]
    exact addMember_of_unplaced same s'.owner (congrArg Symbol.method alike)
  next s s' =>
    have owner : s.owner = s'.owner := congrArg (·.owner) alike
    refine .change fun table table' same => ?_
    rw [SymbolTable.addVariable, SymbolTable.addVariable, owner]
    exact addMember_of_unplaced same s'.owner (congrArg Symbol.value alike)

end Lockstep

end Runs

end Java.Resolution

end TreeLint

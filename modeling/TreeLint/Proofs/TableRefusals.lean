import TreeLint.Proofs.TableCalls
import TreeLint.Proofs.Transcripts
import TreeLint.Symbols.InPlace

/-! Calls of a symbol table that are refused: when, and that nothing is left of them. -/

namespace TreeLint.SymbolTable

/-- What is wrong with an id that is to be a type's. -/
inductive Ill (table : SymbolTable) (id : SymbolId) : SymbolError → Prop
  | unknown (beyond : table.size ≤ id.number) : Ill table id (.unknownSymbol id)
  | notAType (found : table.symbol? id = some symbol) (other : symbol.type? = none) :
    Ill table id (.notAType id)

/-- The first of the ids that is not a type's is refused, for what is wrong with it. -/
inductive FirstIll (table : SymbolTable) : List SymbolId → SymbolError → Prop
  | here {id : SymbolId} (ill : Ill table id e) : FirstIll table (id :: rest) e
  | later {id : SymbolId} (known : table.type? id = some s) (ill : FirstIll table rest e) :
    FirstIll table (id :: rest) e

/-- The types that a call is about, in the order in which they are looked at. -/
def Call.types : Call → List SymbolId
  | .setSuperclass id superclass => [superclass, id]
  | .addInterface id interface => [interface, id]
  | .setKind id _ => [id]
  | .declareMethod owner .. => [owner]
  | .addMethod s => [s.owner]
  | .addVariable s => [s.owner]
  | .declareType .. | .externalType .. | .lookUp _ | .readType _ => []

section Refusals

variable {table : SymbolTable} {id : SymbolId} {e : SymbolError}

@[simp] theorem expectType_eq_error_iff : table.expectType id = .error e ↔ Ill table id e := by
  rw [expectType]
  cases found : table.symbol? id with
  | none =>
      have beyond : table.size ≤ id.number := Array.getElem?_eq_none_iff.1 found
      constructor
      · rintro ⟨⟩
        exact .unknown beyond
      · rintro (_ | ⟨there, _⟩)
        · rfl
        · rw [found] at there
          cases there
  | some symbol =>
      have inside := lt_size_of_symbol? found
      cases symbol with
      | type s =>
          constructor
          · rintro ⟨⟩
          · rintro (beyond | ⟨there, other⟩)
            · omega
            · rw [found] at there
              cases there
              cases other
      | _ =>
          constructor
          · rintro ⟨⟩
            exact .notAType found rfl
          · rintro (beyond | ⟨there, _⟩)
            · omega
            · rfl

@[simp] theorem map_eq_error_iff {x : Except SymbolError α} {f : α → β} :
    x.map f = .error e ↔ x = .error e := by
  cases x with
  | ok a => constructor <;> rintro ⟨⟩
  | error e' => constructor <;> (rintro ⟨⟩; rfl)

@[simp] theorem modifyType_eq_error_iff {f : TypeSymbol → TypeSymbol} :
    table.modifyType id f = .error e ↔ Ill table id e :=
  map_eq_error_iff.trans expectType_eq_error_iff

@[simp] theorem firstIll_singleton : FirstIll table [id] e ↔ Ill table id e := by
  constructor
  · rintro (ill | ⟨_, ⟨⟩⟩)
    exact ill
  · exact .here

theorem link_eq_error_iff {supertype : SymbolId} {f : TypeSymbol → TypeSymbol} :
    (table.expectType supertype >>= fun _ => table.modifyType id f) = .error e ↔
      FirstIll table [supertype, id] e := by
  cases expected : table.expectType supertype with
  | error e' =>
      have ill := expectType_eq_error_iff.1 expected
      constructor
      · rintro ⟨⟩
        exact .here ill
      · rintro (other | ⟨known, _⟩)
        · cases expected.symm.trans (expectType_eq_error_iff.2 other)
          rfl
        · rw [expectType_eq_ok.2 known] at expected
          cases expected
  | ok r =>
      have known := expectType_eq_ok.1 expected
      refine modifyType_eq_error_iff.trans ⟨fun ill => .later known (.here ill), ?_⟩
      rintro (ill | ⟨_, rest⟩)
      · rw [expectType_eq_error_iff.2 ill] at expected
        cases expected
      · exact firstIll_singleton.1 rest

theorem addMember_eq_error_iff {symbol : Symbol} :
    table.addMember id symbol = .error e ↔ Ill table id e := by
  rw [← expectType_eq_error_iff]
  cases expected : table.expectType id with
  | error e' =>
      rw [addMember, expected]
      constructor <;> (rintro ⟨⟩; rfl)
  | ok s =>
      obtain ⟨added, table', made⟩ :
          ∃ added table', table.addMember id symbol = .ok (added, table') :=
        exists_addMember ⟨s, expectType_eq_ok.1 expected⟩
      rw [made]
      constructor <;> rintro ⟨⟩

end Refusals

inductive Answer where
  | done
  | id (id : SymbolId)
  | found (id? : Option SymbolId)
  | read (s? : Option TypeSymbol)

def respond (table : SymbolTable) : Call → Except SymbolError (Answer × SymbolTable)
  | .declareType name qualifiedName kind declaration? =>
      let (id, table) := table.declareType name qualifiedName kind declaration?
      .ok (.id id, table)
  | .externalType qualifiedName kind =>
      let (id, table) := table.externalType qualifiedName kind
      .ok (.id id, table)
  | .lookUp qualifiedName => .ok (.found (table.typeNamed? qualifiedName), table)
  | .readType id => .ok (.read (table.type? id), table)
  | .setSuperclass id superclass => (table.setSuperclass id superclass).map (.done, ·)
  | .addInterface id interface => (table.addInterface id interface).map (.done, ·)
  | .setKind id kind => (table.setKind id kind).map (.done, ·)
  | .declareMethod owner name parameterTypes declaration? =>
      (table.declareMethod owner name parameterTypes declaration?).map fun (id, table) =>
        (.id id, table)
  | .addMethod s => (table.addMethod s).map fun (id, table) => (.id id, table)
  | .addVariable s => (table.addVariable s).map fun (id, table) => (.id id, table)

@[simp] theorem map_respond (table : SymbolTable) (call : Call) :
    (table.respond call).map (·.2) = table.perform call := by
  have map_map {α : Type} {x : Except SymbolError α} {f : α → Answer × SymbolTable} :
      (x.map f).map (·.2) = x.map fun a => (f a).2 := by
    cases x <;> rfl
  have map_id {x : Except SymbolError SymbolTable} : x.map (fun table => table) = x := by
    cases x <;> rfl
  cases call with
  | declareType | externalType | lookUp | readType => rfl
  | setSuperclass | addInterface | setKind => exact map_map.trans map_id
  | declareMethod | addMethod | addVariable => exact map_map

theorem respond_eq_error_iff {table : SymbolTable} {call : Call} {e : SymbolError} :
    table.respond call = .error e ↔ FirstIll table call.types e := by
  cases call with
  | declareType | externalType | lookUp | readType => exact iff_of_false nofun nofun
  | setSuperclass | addInterface => exact map_eq_error_iff.trans link_eq_error_iff
  | setKind =>
      exact map_eq_error_iff.trans (modifyType_eq_error_iff.trans firstIll_singleton.symm)
  | declareMethod | addMethod | addVariable =>
      exact map_eq_error_iff.trans (addMember_eq_error_iff.trans firstIll_singleton.symm)

namespace Edit

open InPlace

variable {table : SymbolTable}

theorem typeAt_eq (table : SymbolTable) (id : SymbolId) :
    typeAt id table = result table ((table.expectType id).map (·, table)) := by
  rw [typeAt, bind_of_ok (get_eq _), expectType]
  cases table.symbol? id with
  | none => rfl
  | some symbol => cases symbol <;> rfl

theorem typeAt_of_ok {id : SymbolId} {s : TypeSymbol} (expected : table.expectType id = .ok s) :
    typeAt id table = .ok s table := by
  rw [typeAt_eq, expected]
  rfl

theorem typeAt_of_error {id : SymbolId} {e : SymbolError}
    (expected : table.expectType id = .error e) : typeAt id table = .error e table := by
  rw [typeAt_eq, expected]
  rfl

theorem amend_eq (table : SymbolTable) (id : SymbolId) (f : TypeSymbol → TypeSymbol) :
    amend id f table = result table ((table.modifyType id f).map ((), ·)) := by
  rw [amend, modifyType]
  cases expected : table.expectType id with
  | error e => exact bind_of_error (typeAt_of_error expected) _
  | ok s => exact bind_of_ok (typeAt_of_ok expected) _

@[simp] theorem push_eq (table : SymbolTable) (symbol : Symbol) :
    push symbol table = .ok (table.push symbol).1 (table.push symbol).2 := by
  rw [push, bind_of_ok (get_eq _), SymbolTable.push]
  cases symbol.declaration? with
  | none => rfl
  | some node => rfl

theorem declareType_eq (table : SymbolTable) (name qualifiedName : String) (kind : TypeKind)
    (declaration? : Option Nat) :
    declareType name qualifiedName kind declaration? table =
      result table (.ok (table.declareType name qualifiedName kind declaration?)) := by
  rw [declareType, bind_of_ok (push_eq _ _)]
  rfl

theorem externalType_eq (table : SymbolTable) (qualifiedName : String) (kind : TypeKind) :
    externalType qualifiedName kind table =
      result table (.ok (table.externalType qualifiedName kind)) := by
  rw [externalType, bind_of_ok (get_eq _), SymbolTable.externalType]
  cases table.typeNamed? qualifiedName with
  | none => exact declareType_eq table _ qualifiedName kind none
  | some id => rfl

theorem link_eq (table : SymbolTable) (id supertype : SymbolId) (f : TypeSymbol → TypeSymbol) :
    link id supertype f table =
      result table
        ((table.expectType supertype >>= fun _ => table.modifyType id f).map ((), ·)) := by
  rw [link]
  cases expected : table.expectType supertype with
  | error e => exact bind_of_error (typeAt_of_error expected) _
  | ok r => exact (bind_of_ok (typeAt_of_ok expected) _).trans (amend_eq table id f)

theorem addMember_eq (table : SymbolTable) (owner : SymbolId) (symbol : Symbol) :
    addMember owner symbol table = result table (table.addMember owner symbol) := by
  rw [addMember, SymbolTable.addMember]
  cases expected : table.expectType owner with
  | error e => exact bind_of_error (typeAt_of_error expected) _
  | ok s =>
      rw [bind_of_ok (typeAt_of_ok expected), bind_of_ok (push_eq _ _)]
      have listed := amend_eq (table.push symbol).2 owner fun s =>
        { s with members := s.members.add symbol.name (table.push symbol).1 }
      rw [modifyType, expectType_push expected symbol] at listed
      rw [bind_of_ok listed]
      simp only [bind, Except.bind, modifyType, expectType_push expected symbol]
      rfl

def perform : Call → Edit Answer
  | .declareType name qualifiedName kind declaration? =>
      .id <$> declareType name qualifiedName kind declaration?
  | .externalType qualifiedName kind => .id <$> externalType qualifiedName kind
  | .lookUp qualifiedName => do return .found ((← get).typeNamed? qualifiedName)
  | .readType id => do return .read ((← get).type? id)
  | .setSuperclass id superclass => do
      setSuperclass id superclass
      return .done
  | .addInterface id interface => do
      addInterface id interface
      return .done
  | .setKind id kind => do
      setKind id kind
      return .done
  | .declareMethod owner name parameterTypes declaration? =>
      .id <$> declareMethod owner name parameterTypes declaration?
  | .addMethod s => .id <$> addMethod s
  | .addVariable s => .id <$> addVariable s

theorem perform_eq (table : SymbolTable) (call : Call) :
    perform call table = result table (table.respond call) := by
  cases call with
  | declareType name qualifiedName kind declaration? =>
      exact map_result (declareType_eq table name qualifiedName kind declaration?) _
  | externalType qualifiedName kind => exact map_result (externalType_eq table qualifiedName kind) _
  | lookUp | readType => rfl
  | setSuperclass id superclass =>
      exact then_return_result (link_eq table id superclass _) Answer.done
  | addInterface id interface =>
      exact then_return_result (link_eq table id interface _) Answer.done
  | setKind id kind => exact then_return_result (amend_eq table id _) Answer.done
  | declareMethod owner name parameterTypes declaration? =>
      exact map_result (addMember_eq table owner _) _
  | addMethod s => exact map_result (addMember_eq table s.owner _) _
  | addVariable s => exact map_result (addMember_eq table s.owner _) _

theorem perform_eq_error_iff {table table' : SymbolTable} {call : Call} {e : SymbolError} :
    perform call table = .error e table' ↔ table' = table ∧ FirstIll table call.types e := by
  rw [perform_eq, result_eq_error_iff, respond_eq_error_iff]

theorem careful_perform : Careful perform fun _ => True where
  stays _ _ := trivial
  harmless _ failed := (perform_eq_error_iff.1 failed).1

theorem after_eq_attemptAll (table : SymbolTable) (calls : List Call) :
    after perform table calls = table.attemptAll calls := by
  induction calls generalizing table with
  | nil => rfl
  | cons call rest ih =>
      rw [after, left, perform_eq, attemptAll, ← map_respond]
      cases table.respond call with
      | ok pair => exact ih pair.2
      | error e => exact ih table

/-- A call fails exactly if one of the ids that it takes for types is not a type's, with what is
wrong with the first of them, and then nothing has changed.  Without the calls that fail all others
answer as before, also those that come later, and the table is the same.  It is the one that the
calls make of a table that is not changed in place. -/
theorem refused_edits_leave_no_trace :
    (∀ (table : SymbolTable) (call : Call) (e : SymbolError) (table' : SymbolTable),
      perform call table = .error e table' ↔ table' = table ∧ FirstIll table call.types e) ∧
    (∀ (table : SymbolTable) (calls later : List Call),
      transcript perform table (succeeding perform table calls ++ later) =
          (transcript perform table calls).filter (·.2.isOk) ++
            transcript perform (after perform table calls) later ∧
        after perform table (succeeding perform table calls ++ later) =
          after perform table (calls ++ later)) ∧
    ∀ (table : SymbolTable) (calls : List Call),
      after perform table calls = table.attemptAll calls := by
  refine ⟨fun table call e table' => perform_eq_error_iff, fun table calls later => ?_,
    after_eq_attemptAll⟩
  exact ⟨careful_perform.transcript_succeeding_append trivial calls later,
    careful_perform.after_succeeding_append trivial calls later⟩

end Edit

end TreeLint.SymbolTable

import TreeLint.Java.Resolution
import TreeLint.Proofs.Coherence

namespace TreeLint.Java.Resolution

open TreeLint.Tree

variable {t : Tree} {h : Header} {types : Array (Declared t)} {table : SymbolTable}

def declares (n : t.Node) : Bool := (typeKind? n.kind).isSome && (declarationName? n).isSome

def recordOf (h : Header) (before : Array (Declared t)) (n : t.Node) (kind : TypeKind)
    (name : String) : Declared t where
  node := n
  id := ⟨before.size⟩
  name := name
  qualifiedName := qualifiedNameOf h before n name
  kind := kind
  enclosing? := enclosingType? before n

def Declared.bare (d : Declared t) : TypeSymbol where
  name := d.name
  qualifiedName := d.qualifiedName
  kind := d.kind
  superclass? := none
  interfaces := []
  members := []
  declaration? := some d.node.index

/-- The table holds the types and no other symbols, and every type was recorded by its node and the
types before it. -/
structure Registered (h : Header) (types : Array (Declared t)) (table : SymbolTable) : Prop where
  kept : table.Kept
  size : table.size = types.size
  recorded : ∀ i d, types[i]? = some d → ∃ kind name, typeKind? d.node.kind = some kind ∧
    declarationName? d.node = some name ∧ d = recordOf h (types.extract 0 i) d.node kind name
  bare : ∀ i d, types[i]? = some d → table.type? ⟨i⟩ = some d.bare

namespace Registered

theorem new (h : Header) (tree : TreeId) : Registered h (#[] : Array (Declared t)) (.new tree) where
  kept := SymbolTable.kept_new tree
  size := rfl
  recorded := nofun
  bare := nofun

theorem push (registered : Registered h types table) {n : t.Node} {kind : TypeKind} {name : String}
    (kind_eq : typeKind? n.kind = some kind) (name_eq : declarationName? n = some name) :
    Registered h (types.push (recordOf h types n kind name))
      (table.declareType name (qualifiedNameOf h types n name) kind (some n.index)).2 where
  kept := registered.kept.change (SymbolTable.change_of_declareType ..)
  size := by
    rw [SymbolTable.size_declareType, registered.size, Array.size_push]
  recorded := by
    intro i d found
    rw [Array.getElem?_push] at found
    split at found
    next last =>
      cases found
      subst last
      refine ⟨kind, name, kind_eq, name_eq, ?_⟩
      rw [Array.extract_push_of_le (Nat.le_refl _), Array.extract_size]
      rfl
    next earlier =>
      obtain ⟨inside, _⟩ := Array.getElem?_eq_some_iff.1 found
      rw [Array.extract_push_of_le (Nat.le_of_lt inside)]
      exact registered.recorded i d found
  bare := by
    intro i d found
    rw [(table.declareType_appends ..).type?, registered.size]
    rw [Array.getElem?_push] at found
    split at found
    next last =>
      cases found
      rw [if_pos (congrArg SymbolId.mk last)]
      rfl
    next earlier =>
      rw [if_neg (mt SymbolId.mk.inj earlier)]
      exact registered.bare i d found

end Registered

/-- Declaring types records those among the nodes that declare some, in order. -/
theorem registered_declareTypes (registered : Registered h types table) (nodes : List t.Node) :
    Registered h (declareTypes h types table nodes).1 (declareTypes h types table nodes).2 ∧
      (declareTypes h types table nodes).1.toList.map (·.node) =
        types.toList.map (·.node) ++ nodes.filter declares := by
  induction nodes generalizing types table with
  | nil => exact ⟨registered, (List.append_nil _).symm⟩
  | cons n rest ih =>
      rw [declareTypes]
      cases kind_eq : typeKind? n.kind with
      | none =>
          have passed : declares n = false := by rw [declares, kind_eq]; rfl
          rw [List.filter_cons_of_neg (Bool.eq_false_iff.1 passed)]
          exact ih registered
      | some kind =>
          cases name_eq : declarationName? n with
          | none =>
              have passed : declares n = false := by rw [declares, kind_eq, name_eq]; rfl
              rw [List.filter_cons_of_neg (Bool.eq_false_iff.1 passed)]
              exact ih registered
          | some name =>
              have taken : declares n = true := by rw [declares, kind_eq, name_eq]; rfl
              have next : Declared t := recordOf h types n kind name
              have entered : (table.declareType name (qualifiedNameOf h types n name) kind
                  (some n.index)).1 = ⟨types.size⟩ := by
                rw [SymbolTable.fst_declareType, registered.size]
              have later := ih (registered.push kind_eq name_eq)
              rw [Array.toList_push, List.map_append, List.append_assoc] at later
              rw [List.filter_cons_of_pos taken]
              dsimp only
              rw [entered]
              exact later

end TreeLint.Java.Resolution

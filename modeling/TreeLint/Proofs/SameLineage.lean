import Mathlib.Data.Option.Basic
import TreeLint.Proofs.Coherence
import TreeLint.Proofs.Externals
import TreeLint.Proofs.Lineage

/-! Tables in which types of the same names have superclasses of the same names: climbs in both come
to the same. -/

namespace TreeLint

namespace SymbolTable

variable {table table' : SymbolTable} {id id' other other' : SymbolId}

def SameName (table table' : SymbolTable) (id id' : SymbolId) : Prop :=
  ∃ s s', table.type? id = some s ∧ table'.type? id' = some s' ∧
    s.qualifiedName = s'.qualifiedName

def Unambiguous (table : SymbolTable) : Prop :=
  ∀ id s, table.type? id = some s → table.typeNamed? s.qualifiedName = some id

theorem SameName.symm (same : SameName table table' id id') : SameName table' table id' id := by
  obtain ⟨s, s', known, known', name⟩ := same
  exact ⟨s', s, known', known, name.symm⟩

theorem SameName.eq (unambiguous : table'.Unambiguous) (same : SameName table table' id id')
    (also : SameName table table' id other') : id' = other' := by
  obtain ⟨s, s', known, known', name⟩ := same
  obtain ⟨_, r', here, there, name'⟩ := also
  cases known.symm.trans here
  have found := unambiguous _ _ known'
  rw [← name, name', unambiguous _ _ there] at found
  exact (Option.some.inj found).symm

structure SameParents (table table' : SymbolTable) : Prop where
  unambiguous : table.Unambiguous
  unambiguous' : table'.Unambiguous
  parentName? : ∀ id id', SameName table table' id id' →
    table.parentName? id = table'.parentName? id'

theorem exists_of_superclass? (above : table.superclass? id = some other) :
    ∃ s, table.type? other = some s ∧ table.parentName? id = some s.qualifiedName := by
  obtain ⟨r, known, stored, s, there⟩ := superclass?_eq_some_iff.1 above
  exact ⟨s, there, parentName?_eq known stored there⟩

namespace SameParents

theorem symm (parents : SameParents table table') : SameParents table' table where
  unambiguous := parents.unambiguous'
  unambiguous' := parents.unambiguous
  parentName? := fun id id' same => (parents.parentName? id' id same.symm).symm

variable (parents : SameParents table table') (same : SameName table table' id id')

include parents same

theorem superclass? :
    Option.Rel (SameName table table') (table.superclass? id) (table'.superclass? id') := by
  have names := parents.parentName? id id' same
  cases above : table.superclass? id with
  | none =>
      rw [SymbolTable.parentName?, above, Option.bind_none] at names
      cases above' : table'.superclass? id' with
      | none => exact .none
      | some other' =>
          obtain ⟨_, _, named⟩ := exists_of_superclass? above'
          rw [named] at names
          cases names
  | some other =>
      obtain ⟨s, known, named⟩ := exists_of_superclass? above
      cases above' : table'.superclass? id' with
      | none =>
          rw [named, SymbolTable.parentName?, above', Option.bind_none] at names
          cases names
      | some other' =>
          obtain ⟨s', known', named'⟩ := exists_of_superclass? above'
          rw [named, named'] at names
          exact .some ⟨s, s', known, known', Option.some.inj names⟩

theorem ancestor? (n : Nat) :
    Option.Rel (SameName table table') (table.ancestor? id n) (table'.ancestor? id' n) := by
  induction n with
  | zero => exact .some same
  | succ n ih =>
      rw [SymbolTable.ancestor?, SymbolTable.ancestor?]
      generalize table.ancestor? id n = x, table'.ancestor? id' n = y at ih
      cases ih with
      | none => exact .none
      | some one => exact parents.superclass? one

theorem ancestor?_eq (i j : Nat) (again : table.ancestor? id i = table.ancestor? id j) :
    table'.ancestor? id' i = table'.ancestor? id' j := by
  have first := parents.ancestor? same i
  have second := parents.ancestor? same j
  rw [← again] at second
  generalize table.ancestor? id i = x, table'.ancestor? id' i = y at first second
  generalize table'.ancestor? id' j = z at second
  cases first with
  | none =>
      cases second
      rfl
  | some one =>
      cases second with
      | some two => rw [one.eq parents.unambiguous' two]

theorem distinct {last : Nat} (distinct : table.Distinct id last) : table'.Distinct id' last where
  present := by
    intro i small
    obtain ⟨ancestor, above⟩ := distinct.present i small
    have related := parents.ancestor? same i
    rw [above] at related
    generalize table'.ancestor? id' i = y at related
    cases related
    exact ⟨_, rfl⟩
  apart := fun i j before small again =>
    distinct.apart i j before small (parents.symm.ancestor?_eq same.symm i j again)

theorem lineage {limit : Nat} {lineage : Lineage} (holds : lineage.Of table id limit) :
    lineage.Of table' id' limit := by
  cases lineage with
  | ends depth =>
      obtain ⟨short, distinct, top⟩ := holds
      refine ⟨short, parents.distinct same distinct, ?_⟩
      have related := parents.ancestor? same (depth + 1)
      rw [top] at related
      generalize table'.ancestor? id' (depth + 1) = y at related
      cases related
      rfl
  | repeats place =>
      obtain ⟨short, distinct, earlier, before, again⟩ := holds
      exact ⟨short, parents.distinct same distinct, earlier, before,
        parents.ancestor?_eq same place earlier again⟩
  | exceeds => exact parents.distinct same holds

theorem inheritanceDepth : table.inheritanceDepth id = table'.inheritanceDepth id' := by
  obtain ⟨s, s', known, known', name⟩ := same
  obtain ⟨lineage, holds⟩ := Lineage.exists_of table id maxAncestryDepth
  have holds' := parents.lineage ⟨s, s', known, known', name⟩ holds
  cases lineage with
  | ends depth =>
      rw [(Climbs.of_ends holds).inheritanceDepth, (Climbs.of_ends holds').inheritanceDepth]
  | repeats place =>
      obtain ⟨_, r, above, there, climbs⟩ := Climbs.of_repeats holds known
      obtain ⟨_, r', above', there', climbs'⟩ := Climbs.of_repeats holds' known'
      have related := parents.ancestor? ⟨s, s', known, known', name⟩ place
      rw [above, above'] at related
      cases related with
      | some one =>
          obtain ⟨_, _, here, here', repeated⟩ := one
          cases here.symm.trans there
          cases here'.symm.trans there'
          have depth := climbs.inheritanceDepth
          have depth' := climbs'.inheritanceDepth
          dsimp only at depth depth'
          rw [depth, depth', name, repeated]
  | exceeds =>
      have depth := (Climbs.of_exceeds holds known).inheritanceDepth
      have depth' := (Climbs.of_exceeds holds' known').inheritanceDepth
      dsimp only at depth depth'
      rw [depth, depth', name]

end SameParents

end SymbolTable

end TreeLint

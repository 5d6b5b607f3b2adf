import TreeLint.Proofs.Blocks
import TreeLint.Proofs.Naming

/-! The types that a table has from its file, in order, and the names that tell them apart. -/

namespace TreeLint

def SymbolTable.declaredTypes (table : SymbolTable) : List TypeSymbol :=
  table.typeIds.filterMap fun id => (table.type? id).filter (!·.isExternal)

namespace Java

open TreeLint.Tree Resolution

variable {t : Tree} {d d' : Declared t} {table : SymbolTable}

def declaresType (n : t.Node) : Bool :=
  n.kind.isTypeDeclaration && ((n.childInField? "name").isSome || isAnonymous n)

theorem isSome_typeKind? (kind : Kind) : (typeKind? kind).isSome = kind.isTypeDeclaration := by
  cases kind <;> rfl

theorem declares_eq (n : t.Node) : declares n = declaresType n := by
  rw [declares, declaresType, isSome_typeKind?, declarationName?]
  cases n.childInField? "name" with
  | some name => rfl
  | none => cases isAnonymous n <;> rfl

namespace Resolved

variable (resolved : Resolved t table)

include resolved

theorem type?_of_getElem? {i : Nat} (found : (fileScope t).types[i]? = some d) :
    ∃ s, table.type? ⟨i⟩ = some s ∧ d.bare.Becomes s := by
  have member : d ∈ (fileScope t).types.toList :=
    Array.mem_toList_iff.2 (Array.mem_of_getElem? found)
  obtain ⟨s, linked⟩ := resolved.tied d member
  have known := linked.known
  rw [(registered_declarations t).id_eq found] at known
  exact ⟨s, known, resolved.becomes member linked.known⟩

theorem lt_size_types {id : SymbolId} {s : TypeSymbol} (known : table.type? id = some s)
    (declared : s.isExternal = false) : id.number < (fileScope t).types.size := by
  obtain ⟨d, member, rfl, _⟩ := resolved.exists_linked known declared
  obtain ⟨i, found, place, _⟩ := exists_place member
  rw [place]
  exact (Array.getElem?_eq_some_iff.1 found).1

theorem size_types_le : (fileScope t).types.size ≤ table.size := by
  cases some : (fileScope t).types.size with
  | zero => exact Nat.zero_le _
  | succ last =>
      have inside : last < (fileScope t).types.size := by omega
      obtain ⟨_, known, _⟩ := resolved.type?_of_getElem? (Array.getElem?_eq_getElem inside)
      exact SymbolTable.lt_size_of_type? known

def declared? (table : SymbolTable) (i : Nat) : Option TypeSymbol :=
  (table.type? ⟨i⟩).filter (!·.isExternal)

omit resolved in
theorem declaredTypes_eq (table : SymbolTable) :
    table.declaredTypes = (List.range table.size).filterMap (declared? table) := by
  rw [SymbolTable.declaredTypes, SymbolTable.typeIds, List.filterMap_filter, List.filterMap_map]
  refine List.filterMap_congr fun i _ => ?_
  cases known : table.type? ⟨i⟩ <;> simp [declared?, known]

theorem declared?_foreign (i : Nat) : declared? table ((fileScope t).types.size + i) = none := by
  refine Option.eq_none_iff_forall_ne_some.2 fun s found => ?_
  obtain ⟨known, declared⟩ := Option.filter_eq_some_iff.1 found
  have inside := resolved.lt_size_types known (by simpa using declared)
  exact Nat.not_lt.2 (Nat.le_add_right _ i) inside

theorem map_declared?_take {f : TypeSymbol → α} {g : Declared t → α}
    (same : ∀ d s, d.bare.Becomes s → f s = g d) {k : Nat}
    (within : k ≤ (fileScope t).types.size) :
    ((List.range k).filterMap (declared? table)).map f =
      ((fileScope t).types.toList.take k).map g := by
  induction k with
  | zero => rfl
  | succ k ih =>
      have found : (fileScope t).types[k]? = some (fileScope t).types[k] :=
        Array.getElem?_eq_getElem within
      obtain ⟨s, known, becomes⟩ := resolved.type?_of_getElem? found
      have here : declared? table k = some s := by
        rw [declared?, known, Option.filter_some, becomes.isExternal]
        rfl
      rw [List.range_succ, List.filterMap_append, List.map_append, ih (Nat.le_of_lt within),
        List.take_add_one, Array.getElem?_toList, found, List.map_append]
      simp [here, same _ s becomes]

theorem map_declaredTypes {f : TypeSymbol → α} {g : Declared t → α}
    (same : ∀ d s, d.bare.Becomes s → f s = g d) :
    table.declaredTypes.map f = (fileScope t).types.toList.map g := by
  obtain ⟨more, size⟩ := Nat.exists_eq_add_of_le resolved.size_types_le
  have foreign : ((List.range more).map ((fileScope t).types.size + ·)).filterMap
      (declared? table) = [] := by
    rw [List.filterMap_map]
    exact List.filterMap_eq_nil_iff.2 fun i _ => resolved.declared?_foreign i
  rw [declaredTypes_eq, size, List.range_add, List.filterMap_append, foreign, List.append_nil,
    resolved.map_declared?_take same (Nat.le_refl _), ← Array.length_toList, List.take_length]

end Resolved

theorem enclosing?_eq_iff (numbered : WellNumbered t) (member : d ∈ (fileScope t).types.toList)
    (member' : d' ∈ (fileScope t).types.toList) :
    d.enclosing? = d'.enclosing? ↔ around? d.node = around? d'.node := by
  rw [← map_node_owner? numbered member, ← map_node_owner? numbered member']
  constructor
  · intro together
    rw [owner?, owner?, together]
  · intro same
    rw [enclosing?_eq member, enclosing?_eq member']
    cases owned : owner? (fileScope t) d with
    | none =>
        rw [owned, Option.map_none, eq_comm, Option.map_eq_none_iff] at same
        rw [same]
    | some o =>
        rw [owned, Option.map_some, eq_comm] at same
        obtain ⟨o', owned', same⟩ := Option.map_eq_some_iff.1 same
        rw [owned', eq_of_node numbered (mem_types_of_owner? owned') (mem_types_of_owner? owned)
          same]

/-- The classes without a name that are declared right in a type, or outside all types. -/
def anonymousIn (around : Option t.Node) : List t.Node :=
  (t.root.descendants.filter declaresType).filter fun n => isAnonymous n && around? n == around

theorem exists_of_anonymousIn (numbered : WellNumbered t) {around : Option t.Node} {i : Nat}
    {n : t.Node} (found : (anonymousIn around)[i]? = some n) :
    ∃ d ∈ (fileScope t).types.toList, d.node = n ∧ isAnonymous d.node ∧
      around? d.node = around ∧ ordinal (fileScope t) d = i + 1 := by
  have nodes : t.root.descendants.filter declaresType =
      (fileScope t).types.toList.map (·.node) := by
    rw [map_node_types, funext declares_eq]
  rw [anonymousIn, nodes, List.filter_map, List.getElem?_map, Option.map_eq_some_iff] at found
  obtain ⟨d, found, rfl⟩ := found
  obtain ⟨member, told⟩ := List.mem_filter.1 (List.mem_of_getElem? found)
  simp only [Function.comp_apply, Bool.and_eq_true, beq_iff_eq] at told
  obtain ⟨j, place, count⟩ := exists_of_getElem?_filter found
  refine ⟨d, member, rfl, told.1, told.2, ?_⟩
  rw [Array.getElem?_toList] at place
  rw [ordinal_eq_countP place, ← count, Nat.add_comm]
  refine congrArg (· + 1) (List.countP_congr fun other listed => ?_)
  have member' := List.mem_of_mem_take listed
  simp only [Function.comp_apply, Bool.and_eq_true, beq_iff_eq,
    enclosing?_eq_iff numbered member' member, told.2, and_comm]

def Has (table : SymbolTable) (n : t.Node) (s : TypeSymbol) : Prop :=
  ∃ id, table.type? id = some s ∧ s.declaration? = some n.index

theorem Resolved.exists_has (resolved : Resolved t table)
    (member : d ∈ (fileScope t).types.toList) :
    ∃ s, Has table d.node s ∧ s.qualifiedName = d.qualifiedName := by
  obtain ⟨s, linked⟩ := resolved.tied d member
  have becomes := resolved.becomes member linked.known
  exact ⟨s, ⟨d.id, linked.known, becomes.declaration?⟩, becomes.qualifiedName⟩

theorem Resolved.exists_numbered (resolved : Resolved t table) (numbered : WellNumbered t)
    (member : d ∈ (fileScope t).types.toList) (anonymous : isAnonymous d.node) :
    ∃ s, Has table d.node s ∧
      (∀ m, around? d.node = some m → ∃ o, Has table m o ∧
        s.qualifiedName = o.qualifiedName ++ "$" ++ toString (ordinal (fileScope t) d)) ∧
      (around? d.node = none → s.qualifiedName =
        (fileScope t).header.package ++ "$" ++ toString (ordinal (fileScope t) d)) := by
  obtain ⟨s, has, named⟩ := resolved.exists_has member
  have spelled := qualifiedName_eq member
  rw [if_pos anonymous] at spelled
  refine ⟨s, has, fun m around => ?_, fun outside => ?_⟩
  · rw [← map_node_owner? numbered member] at around
    obtain ⟨o, owned, rfl⟩ := Option.map_eq_some_iff.1 around
    obtain ⟨r, outer, same⟩ := resolved.exists_has (mem_types_of_owner? owned)
    refine ⟨r, outer, ?_⟩
    rw [named, spelled, outerName?_of_owner? owned, Option.getD_some, same]
  · rw [← map_node_owner? numbered member, Option.map_eq_none_iff] at outside
    rw [named, spelled, outerName?_of_top outside, Header.package]

/-- The types of a file are those that its nodes declare, in document order, and classes without a
name are numbered from one on in each type.  If their names tell them apart, qualified names do,
and lead back to the types of the file. -/
theorem declared_types_told_apart {calls : List Builder.Call} {id : TreeId}
    (built : ((Builder.new id).attemptAll calls).finish = .ok t) (ran : resolve t = .ok table) :
    table.declaredTypes.map (·.declaration?) =
        (t.root.descendants.filter declaresType).map (fun n => some n.index) ∧
      (∀ around i n, (anonymousIn (t := t) around)[i]? = some n →
        ∃ s, Has table n s ∧
          (∀ m, around = some m → ∃ o, Has table m o ∧
            s.qualifiedName = o.qualifiedName ++ "$" ++ toString (i + 1)) ∧
          (around = none →
            s.qualifiedName = (Header.read t.root).package ++ "$" ++ toString (i + 1))) ∧
      (NamesApart t →
        (table.declaredTypes.map (·.qualifiedName)).Nodup ∧
        ∀ id s, table.type? id = some s → s.isExternal = false →
          table.typeNamed? s.qualifiedName = some id) := by
  obtain ⟨_, laid⟩ := exists_laidOut built
  have numbered := laid.wellNumbered
  have resolved := resolved_of_resolve ran
  refine ⟨?_, ?_, fun names => ⟨?_, ?_⟩⟩
  · rw [resolved.map_declaredTypes (g := fun d => some d.node.index)
      (fun d s becomes => becomes.declaration?), ← funext declares_eq, ← map_node_types,
      List.map_map]
    rfl
  · intro around i n found
    obtain ⟨d, member, rfl, anonymous, rfl, number⟩ := exists_of_anonymousIn numbered found
    rw [← number]
    exact resolved.exists_numbered numbered member anonymous
  · rw [resolved.map_declaredTypes (g := (·.qualifiedName))
      fun d s becomes => becomes.qualifiedName]
    exact (nodup_node numbered).of_map.map_on fun d member d' member' same =>
      names.eq_of_qualifiedName numbered member member' same
  · intro id s known declared
    obtain ⟨d, member, rfl, linked⟩ := resolved.exists_linked known declared
    rw [(resolved.becomes member known).qualifiedName]
    exact resolved.typeNamed?_of_distinct
      (fun _ member _ member' => names.eq_of_qualifiedName numbered member member') member

/-- A class around two without a name, next to another one without. -/
def unnamedCalls : List Builder.Call := [
  .start .compilationUnit none,
  .start .class none, .field "name", .token .identifier none "A" .empty,
  .start .class (some ("anonymous_class", .empty)), .finishNode,
  .start .class (some ("anonymous_class", .empty)), .finishNode, .finishNode,
  .start .class (some ("anonymous_class", .empty)), .finishNode, .finishNode]

def unnamed : Tree where
  id := ⟨0⟩
  nodes := ((Builder.new ⟨0⟩).attemptAll unnamedCalls).nodes
  hasErrors := false
  nonempty := by decide +kernel
  links := ((Builder.new ⟨0⟩).attemptAll unnamedCalls).links

theorem unnamed_namesApart (numbered : WellNumbered unnamed) : NamesApart unnamed where
  plain := by
    have all : ∀ d ∈ (fileScope unnamed).types.toList, isAnonymous d.node = false →
        d.name.toList.all (!isSeparator ·) := by
      decide +kernel
    simpa using all
  apart := by
    have nodes : ∀ d ∈ (fileScope unnamed).types.toList,
        ∀ d' ∈ (fileScope unnamed).types.toList, isAnonymous d.node = false →
          isAnonymous d'.node = false → d.name = d'.name → around? d.node = around? d'.node →
            d.node = d'.node := by
      decide +kernel
    intro d member d' member' named named' same together
    exact eq_of_node numbered member member' (nodes d member d' member' named named' same together)
  rooted := by decide +kernel

theorem unnamed_types_told_apart :
    ∃ table, resolve unnamed = .ok table ∧ NamesApart unnamed ∧
      (table.declaredTypes.map (·.qualifiedName)).Nodup ∧
      ∃ n m s o, around? n = some m ∧ Has (t := unnamed) table n s ∧ Has table m o ∧
        s.qualifiedName = o.qualifiedName ++ "$" ++ toString 2 := by
  have built : ((Builder.new ⟨0⟩).attemptAll unnamedCalls).finish = .ok unnamed := rfl
  obtain ⟨_, laid⟩ := exists_laidOut built
  have names := unnamed_namesApart laid.wellNumbered
  obtain ⟨table, ran, _⟩ := exists_resolved (t := unnamed) rfl (by decide +kernel)
  obtain ⟨_, ordinals, apart⟩ := declared_types_told_apart built ran
  have told : ∃ m n : unnamed.Node, (anonymousIn (some m))[1]? = some n ∧ around? n = some m :=
    ⟨⟨1, by decide +kernel⟩, ⟨4, by decide +kernel⟩, by decide +kernel⟩
  obtain ⟨m, n, second, around⟩ := told
  obtain ⟨s, has, inside, _⟩ := ordinals (some m) 1 n second
  obtain ⟨o, outer, spelled⟩ := inside m rfl
  exact ⟨table, ran, names, (apart names).1, n, m, s, o, around, has, outer, spelled⟩

/-- A class with the empty name around one without a name, next to another one without. -/
def namelessCalls : List Builder.Call := [
  .start .compilationUnit none,
  .start .class none, .field "name", .token .identifier none "" .empty,
  .start .class (some ("anonymous_class", .empty)), .finishNode, .finishNode,
  .start .class (some ("anonymous_class", .empty)), .finishNode, .finishNode]

def nameless : Tree where
  id := ⟨0⟩
  nodes := ((Builder.new ⟨0⟩).attemptAll namelessCalls).nodes
  hasErrors := false
  nonempty := by decide +kernel
  links := ((Builder.new ⟨0⟩).attemptAll namelessCalls).links

theorem nameless_names_clash :
    ((Builder.new ⟨0⟩).attemptAll namelessCalls).finish = .ok nameless ∧
      (∀ d ∈ (fileScope nameless).types.toList, ∀ c ∈ d.name.toList, isSeparator c = false) ∧
      (∀ d ∈ (fileScope nameless).types.toList, ∀ d' ∈ (fileScope nameless).types.toList,
        isAnonymous d.node = false → isAnonymous d'.node = false → d.name = d'.name →
          around? d.node = around? d'.node → d.node = d'.node) ∧
      ∃ table, resolve nameless = .ok table ∧
        ¬(table.declaredTypes.map (·.qualifiedName)).Nodup := by
  obtain ⟨table, ran, resolved⟩ := exists_resolved (t := nameless) rfl (by decide +kernel)
  have plain : ∀ d ∈ (fileScope nameless).types.toList, d.name.toList.all (!isSeparator ·) := by
    decide +kernel
  refine ⟨rfl, by simpa using plain, by decide +kernel, table, ran, ?_⟩
  rw [resolved.map_declaredTypes (g := (·.qualifiedName)) fun d s becomes => becomes.qualifiedName]
  decide +kernel

end Java

end TreeLint

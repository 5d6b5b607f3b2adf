import TreeLint.Proofs.Entries
import TreeLint.Proofs.Naming

/-! The names by which the types of a resolved file are linked, and those of the types of other
files that it comes to know. -/

namespace TreeLint

namespace SymbolTable

variable (table : SymbolTable)

def parentName? (id : SymbolId) : Option String :=
  (table.superclass? id).bind fun parent => (table.type? parent).map (·.qualifiedName)

def listedNames (s : TypeSymbol) : List String := (table.interfacesOf s).map (·.2.qualifiedName)

variable {table}

theorem parentName?_eq {id parent : SymbolId} {s r : TypeSymbol} (known : table.type? id = some s)
    (stored : s.superclass? = some parent) (above : table.type? parent = some r) :
    table.parentName? id = some r.qualifiedName := by
  have linked : table.superclass? id = some parent :=
    superclass?_eq_some_iff.2 ⟨s, known, stored, r, above⟩
  rw [parentName?, linked, Option.bind_some, above]
  rfl

theorem parentName?_of_none {id : SymbolId} {s : TypeSymbol} (known : table.type? id = some s)
    (unlinked : s.superclass? = none) : table.parentName? id = none := by
  rw [parentName?, Option.bind_eq_none_iff]
  intro parent linked
  obtain ⟨_, same, stored, _⟩ := superclass?_eq_some_iff.1 linked
  cases known.symm.trans same
  rw [unlinked] at stored
  cases stored

theorem map_qualifiedName_filterMap (kept : table.Kept) {ids : List SymbolId}
    {names : List String} (found : ids.map some = names.map table.typeNamed?) :
    (ids.filterMap fun id => (table.type? id).map (id, ·)).map (·.2.qualifiedName) = names := by
  induction ids generalizing names with
  | nil =>
      cases names with
      | nil => rfl
      | cons => cases found
  | cons id ids ih =>
      cases names with
      | nil => cases found
      | cons name names =>
          obtain ⟨first, rest⟩ := List.cons.inj found
          obtain ⟨s, known, rfl⟩ := kept.names.named name id first.symm
          rw [List.filterMap_cons_some (b := (id, s)) (by rw [known]; rfl), List.map_cons, ih rest]

end SymbolTable

namespace Java

open TreeLint.Tree SymbolTable Resolution

variable {t : Tree} {table : SymbolTable} {d : Declared t} {name : String}

/-- A type of the file extends a class of the name, or the class is known to be above such a one of
another file. -/
inductive ClassMention (t : Tree) : String → Prop
  | extended {d : Declared t} {name : String} (member : d ∈ (fileScope t).types.toList)
      (extends_ : superclassName? (fileScope t) (declarations t).2 d = some name) :
      ClassMention t name
  | above {name upper : String} (lower : ClassMention t name)
      (undeclared : (declarations t).2.typeNamed? name = none)
      (onto : Platform.superclass? name = some upper) : ClassMention t upper

/-- A type of the file lists an interface of the name. -/
def InterfaceMention (t : Tree) (name : String) : Prop :=
  ∃ d ∈ (fileScope t).types.toList, name ∈ interfaceNames (fileScope t) (declarations t).2 d

theorem covers_mentions (t : Tree) : Covers t (ClassMention t) (InterfaceMention t) where
  superclasses := fun _ member _ extends_ => .extended member extends_
  interfaces := fun d member _ listed => ⟨d, member, listed⟩
  onward := fun _ _ lower undeclared onto => .above lower undeclared onto

theorem typeNamed?_declarations_eq_none_iff :
    (declarations t).2.typeNamed? name = none ↔
      ∀ d ∈ (fileScope t).types.toList, d.qualifiedName ≠ name := by
  have registered := registered_declarations t
  constructor
  · rintro none d member rfl
    obtain ⟨first, found⟩ :=
      registered.kept.names.complete d.id d.bare (registered.bare_of_mem member)
    exact absurd (none.symm.trans found) nofun
  · intro none
    refine Option.eq_none_iff_forall_ne_some.2 fun id found => ?_
    obtain ⟨s, known, same⟩ := registered.kept.names.named _ _ found
    obtain ⟨d, member, _, rfl⟩ := registered.exists_of_type? known
    exact none d member same

theorem extending_iff_isSome (scope : NameScope t) (table : SymbolTable) (d : Declared t) :
    extending d ↔ (superclassName? scope table d).isSome := by
  rw [extending, superclassName?]
  cases d.kind with
  | «class» =>
      dsimp only
      cases isAnonymous d.node with
      | true =>
          cases constantOwner? scope d <;> cases createdName? scope d <;> simp
      | false =>
          rw [if_neg Bool.false_ne_true]
          cases d.node.childInField? "superclass" with
          | some clause => cases supertypes clause <;> simp
          | none =>
              dsimp only
              split <;> simp [*]
  | _ => simp

section Table

variable (ran : resolve t = .ok table)
  (distinct : ∀ d ∈ (fileScope t).types.toList, ∀ d' ∈ (fileScope t).types.toList,
    d.qualifiedName = d'.qualifiedName → d = d')

include ran distinct

theorem superclass?_eq {s : TypeSymbol} (linked : Linked (fileScope t) d table s) :
    s.superclass? =
      (superclassName? (fileScope t) (declarations t).2 d).bind table.typeNamed? := by
  have resolved := resolved_of_resolve ran
  have registered := registered_declarations t
  rw [← linked.superclass.now resolved.settled.kept, superclassIn_eq, superclassName?_of_leaves
    registered.kept resolved.settled.kept resolved.leaves]
  intro owner owned
  have around : owner? (fileScope t) d = some owner := (Option.filter_eq_some_iff.1 owned).1
  exact resolved.typeNamed?_of_distinct distinct (mem_types_of_owner? around)

theorem exists_superclass (member : d ∈ (fileScope t).types.toList)
    (goesBy : superclassName? (fileScope t) (declarations t).2 d = some name) :
    ∃ s parent, table.type? d.id = some s ∧ s.superclass? = some parent ∧
      table.typeNamed? name = some parent ∧ AsClass table parent := by
  obtain ⟨s, linked⟩ := (resolved_of_resolve ran).tied d member
  have extends_ := (extending_iff_isSome (fileScope t) (declarations t).2 d).2 (by rw [goesBy]; rfl)
  obtain ⟨parent, stored⟩ := linked.found extends_
  have named := superclass?_eq ran distinct linked
  rw [goesBy, Option.bind_some, stored] at named
  exact ⟨s, parent, linked.known, stored, named.symm, linked.asClass parent stored⟩

theorem parentName?_declared (member : d ∈ (fileScope t).types.toList) :
    table.parentName? d.id = superclassName? (fileScope t) (declarations t).2 d := by
  have kept := (resolved_of_resolve ran).settled.kept
  cases goesBy : superclassName? (fileScope t) (declarations t).2 d with
  | none =>
      obtain ⟨s, linked⟩ := (resolved_of_resolve ran).tied d member
      have unlinked := superclass?_eq ran distinct linked
      rw [goesBy, Option.bind_none] at unlinked
      exact parentName?_of_none linked.known unlinked
  | some name =>
      obtain ⟨s, parent, known, stored, found, _⟩ := exists_superclass ran distinct member goesBy
      obtain ⟨r, above, rfl⟩ := kept.names.named _ _ found
      exact parentName?_eq known stored above

omit distinct in
theorem listedNames_declared (member : d ∈ (fileScope t).types.toList) {s : TypeSymbol}
    (known : table.type? d.id = some s) :
    table.listedNames s = interfaceNames (fileScope t) (declarations t).2 d := by
  have resolved := resolved_of_resolve ran
  obtain ⟨_, linked⟩ := resolved.tied d member
  cases known.symm.trans linked.known
  have named := linked.interfaces
  rw [interfaceNames_of_leaves (registered_declarations t).kept resolved.settled.kept
    resolved.leaves] at named
  exact map_qualifiedName_filterMap resolved.settled.kept named

omit distinct in
theorem external_of_undeclared (undeclared : (declarations t).2.typeNamed? name = none)
    {id : SymbolId} {s : TypeSymbol} (known : table.type? id = some s)
    (named : s.qualifiedName = name) : s.isExternal = true := by
  have resolved := resolved_of_resolve ran
  cases external : s.isExternal with
  | true => rfl
  | false =>
      obtain ⟨d, member, rfl, _⟩ := resolved.exists_linked known external
      rw [(resolved.becomes member known).qualifiedName] at named
      exact absurd named (typeNamed?_declarations_eq_none_iff.1 undeclared d member)

omit distinct in
theorem mention_of_external {id : SymbolId} {s : TypeSymbol} (known : table.type? id = some s)
    (external : s.isExternal = true) :
    (declarations t).2.typeNamed? s.qualifiedName = none ∧
      (s.kind = .class → ClassMention t s.qualifiedName) ∧
      (s.kind ≠ .class → InterfaceMention t s.qualifiedName) ∧
      ∀ parent, s.superclass? = some parent → AsClass table parent := by
  obtain ⟨linked, traced, enrolled⟩ := exists_enrolled (covers_mentions t) ran
  have found := (resolved_of_resolve ran).settled.named id s known external
  rw [enrolled.enlists.named] at found
  obtain ⟨r, members, earlier, rfl⟩ := enrolled.enlists.before known
  refine ⟨traced.undeclared found earlier external, traced.classes id r earlier external,
    traced.interfaces id r earlier external, fun parent stored => ?_⟩
  exact (traced.above id r parent earlier external stored).2.leaves enrolled.enlists.leaves

omit distinct in
theorem exists_upper {id : SymbolId} {s : TypeSymbol} (known : table.type? id = some s)
    (external : s.isExternal = true)
    (kinds : s.kind = .class ∨ s.qualifiedName = Platform.object) {upper : String}
    (onto : Platform.superclass? s.qualifiedName = some upper) :
    ∃ parent, s.superclass? = some parent ∧ table.typeNamed? upper = some parent := by
  have settled := (resolved_of_resolve ran).settled
  have notObject : s.qualifiedName ≠ Platform.object := by
    intro object
    rw [Platform.superclass?_eq_none_iff.2 (.inl object)] at onto
    cases onto
  obtain ⟨parent, stored⟩ := settled.settled id s upper known external nofun
    (kinds.resolve_right notObject) notObject onto
  obtain ⟨_, _, _, onto', above⟩ := settled.linked id s parent known external stored
  cases onto.symm.trans onto'
  exact ⟨parent, stored, above⟩

theorem exists_of_classMention (mention : ClassMention t name) :
    ∃ id, table.typeNamed? name = some id ∧ AsClass table id := by
  have settled := (resolved_of_resolve ran).settled
  induction mention with
  | extended member extends_ =>
      obtain ⟨_, parent, _, _, found, asClass⟩ := exists_superclass ran distinct member extends_
      exact ⟨parent, found, asClass⟩
  | @above name upper _ undeclared onto ih =>
      obtain ⟨id, found, s, known, kinds⟩ := ih
      obtain ⟨_, same, rfl⟩ := settled.kept.names.named _ _ found
      cases known.symm.trans same
      have external := external_of_undeclared ran undeclared known rfl
      obtain ⟨parent, stored, above⟩ := exists_upper ran known external (kinds external) onto
      exact ⟨parent, above, (mention_of_external ran known external).2.2.2 parent stored⟩

omit distinct in
theorem exists_of_interfaceMention (mention : InterfaceMention t name) :
    ∃ id, table.typeNamed? name = some id := by
  have resolved := resolved_of_resolve ran
  obtain ⟨d, member, listed⟩ := mention
  obtain ⟨s, linked⟩ := resolved.tied d member
  have named := linked.interfaces
  rw [interfaceNames_of_leaves (registered_declarations t).kept resolved.settled.kept
    resolved.leaves] at named
  have found : table.typeNamed? name ∈ s.interfaces.map some := by
    rw [named]
    exact List.mem_map_of_mem listed
  obtain ⟨id, _, same⟩ := List.mem_map.1 found
  exact ⟨id, same.symm⟩

/-- The types of other files are those that are mentioned and not declared. -/
theorem exists_external_iff :
    (∃ id s, table.type? id = some s ∧ s.isExternal = true ∧ s.qualifiedName = name) ↔
      (declarations t).2.typeNamed? name = none ∧
        (ClassMention t name ∨ InterfaceMention t name) := by
  constructor
  · rintro ⟨id, s, known, external, rfl⟩
    obtain ⟨undeclared, classes, interfaces, _⟩ := mention_of_external ran known external
    refine ⟨undeclared, ?_⟩
    by_cases isClass : s.kind = .class
    · exact .inl (classes isClass)
    · exact .inr (interfaces isClass)
  · rintro ⟨undeclared, mention⟩
    have found : ∃ id, table.typeNamed? name = some id := by
      rcases mention with asClass | asInterface
      · obtain ⟨id, found, _⟩ := exists_of_classMention ran distinct asClass
        exact ⟨id, found⟩
      · exact exists_of_interfaceMention ran asInterface
    obtain ⟨id, found⟩ := found
    obtain ⟨s, known, named⟩ := (resolved_of_resolve ran).settled.kept.names.named _ _ found
    exact ⟨id, s, known, external_of_undeclared ran undeclared known named, named⟩

theorem parentName?_external {id : SymbolId} {s : TypeSymbol} (known : table.type? id = some s)
    (external : s.isExternal = true) (upper : String) :
    table.parentName? id = some upper ↔
      ClassMention t s.qualifiedName ∧ Platform.superclass? s.qualifiedName = some upper := by
  have settled := (resolved_of_resolve ran).settled
  constructor
  · intro goesBy
    cases stored : s.superclass? with
    | none => exact absurd ((parentName?_of_none known stored).symm.trans goesBy) nofun
    | some parent =>
        obtain ⟨isClass, _, above, onto, found⟩ := settled.linked id s parent known external stored
        obtain ⟨r, there, rfl⟩ := settled.kept.names.named _ _ found
        cases (parentName?_eq known stored there).symm.trans goesBy
        exact ⟨(mention_of_external ran known external).2.1 isClass, onto⟩
  · rintro ⟨mention, onto⟩
    obtain ⟨other, found, r, there, kinds⟩ := exists_of_classMention ran distinct mention
    cases found.symm.trans (settled.named id s known external)
    cases known.symm.trans there
    obtain ⟨parent, stored, above⟩ := exists_upper ran known external (kinds external) onto
    obtain ⟨_, upward, rfl⟩ := settled.kept.names.named _ _ above
    exact parentName?_eq known stored upward

end Table

end Java

end TreeLint

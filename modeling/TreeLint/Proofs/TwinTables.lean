import TreeLint.Proofs.Twins

/-! Trees that differ in the arguments of types resolve to tables that differ only in nodes. -/

namespace TreeLint.Java

open TreeLint.Tree SymbolTable Resolution

variable {t t' : Tree} {n : t.Node} {n' : t'.Node} {scope : NameScope t} {scope' : NameScope t'}
  {d : Declared t} {d' : Declared t'}

namespace Resolution.Lockstep

theorem objectClass : Lockstep Resolution.objectClass Resolution.objectClass :=
  classNamed Platform.object

theorem addInterface_of_id (same : d.id = d'.id) (name : String) :
    Lockstep (Resolution.addInterface d name) (Resolution.addInterface d' name) := by
  rw [Resolution.addInterface, Resolution.addInterface, same]
  exact (mention name .interface).bind fun interface => addInterface d'.id interface

end Resolution.Lockstep

namespace TwinScopes

variable (scopes : TwinScopes scope scope') (twin : Twin d d') (numbered : WellNumbered t)
  (numbered' : WellNumbered t')

include scopes twin numbered numbered'

theorem constantOwner? :
    Option.Rel Twin (constantOwner? scope d) (Resolution.constantOwner? scope' d') := by
  have constant : d.node.parent?.any (·.rawKind == "enum_constant") =
      d'.node.parent?.any (·.rawKind == "enum_constant") := by
    rcases none_or_some_of_rel (twin.facing.parent? numbered numbered') with
      ⟨absent, absent'⟩ | ⟨p, p', parent, parent', site⟩
    · rw [absent, absent']
      rfl
    · rw [parent, parent', Option.any_some, Option.any_some, site.related.rawKind]
  have owners := scopes.owner? twin
  rw [Resolution.constantOwner?, Resolution.constantOwner?, constant]
  generalize Resolution.owner? scope d = x, Resolution.owner? scope' d' = y at owners
  cases owners with
  | none => exact .none
  | some one =>
      rw [Option.filter_some, Option.filter_some]
      split
      · exact .some one
      · exact .none

theorem createdName? (anonymous : Resolution.isAnonymous d.node) :
    createdName? scope d = Resolution.createdName? scope' d' := by
  have owners := scopes.owner? twin
  have within : Twin ((Resolution.owner? scope d).getD d)
      ((Resolution.owner? scope' d').getD d') := by
    generalize Resolution.owner? scope d = x, Resolution.owner? scope' d' = y at owners
    cases owners with
    | none => exact twin
    | some one => exact one
  rw [Resolution.createdName?, Resolution.createdName?]
  rcases none_or_some_of_rel (twin.facing.parent? numbered numbered') with
    ⟨absent, absent'⟩ | ⟨p, p', parent, parent', site⟩
  · rw [absent, absent']
    rfl
  · have child := numbered.mem_children parent
    have other : ¬IsArguments p := fun old => by
      have bare := old.bare d.node ((Node.children_sublist p).subset child)
      cases bare.symm.trans twin.declares
    have holds : p.children.any Resolution.isAnonymous :=
      List.any_eq_true.2 ⟨d.node, child, anonymous⟩
    have created := site.related.map_typeName_type numbered numbered' other
      (by rw [holds, Bool.or_true])
    rw [parent, parent', Option.bind_some, Option.bind_some,
      ← Function.comp_def (scope.qualify · _), ← Function.comp_def (scope'.qualify · _),
      ← Option.map_map, ← Option.map_map, created]
    exact congrArg (Option.map · _) (funext fun name => scopes.qualify within name)

theorem anonymousSuperclass (anonymous : Resolution.isAnonymous d.node) :
    Lockstep (anonymousSuperclass scope d) (Resolution.anonymousSuperclass scope' d') := by
  have owners := scopes.constantOwner? twin numbered numbered'
  rw [anonymousSuperclass_eq, anonymousSuperclass_eq,
    scopes.createdName? twin numbered numbered' anonymous]
  generalize Resolution.constantOwner? scope d = x, Resolution.constantOwner? scope' d' = y
    at owners
  cases owners with
  | some owner =>
      dsimp only
      rw [owner.id]
      exact .pure _
  | none =>
      cases Resolution.createdName? scope' d' with
      | none => exact .objectClass
      | some name =>
          refine .get_bind fun table table' same => ?_
          rw [isInterface_of_unplaced same]
          refine .ite ?_ (.classNamed name)
          exact (Lockstep.addInterface_of_id twin.id name).bind fun _ => .objectClass

theorem superclass? : Lockstep (superclass? scope d) (Resolution.superclass? scope' d') := by
  rw [Resolution.superclass?, Resolution.superclass?, ← twin.kind]
  cases d.kind with
  | interface | annotationType => exact .pure none
  | enum | record => exact (Lockstep.classNamed _).map some
  | «class» =>
      dsimp only
      rw [← twin.facing.related.isAnonymous, ← twin.qualifiedName]
      split
      next anonymous =>
        exact (scopes.anonymousSuperclass twin numbered numbered' anonymous).map some
      next =>
        rcases none_or_some_of_rel (twin.facing.related.childInField? twin.other "superclass") with
          ⟨absent, absent'⟩ | ⟨clause, clause', found, found', related⟩
        · rw [absent, absent']
          exact .ite (.pure none) (Lockstep.objectClass.map some)
        · have types := related.supertypes numbered numbered' fun old => old.ne_childInField? found
          rw [found, found']
          dsimp only
          generalize supertypes clause = xs, supertypes clause' = ys at types
          cases types with
          | nil => exact .pure none
          | cons same =>
              dsimp only
              rw [same, scopes.qualify twin]
              exact (Lockstep.classNamed _).map some

omit numbered numbered' in
theorem addInterfaces {types : List t.Node} {types' : List t'.Node}
    (all : List.Forall₂ (fun c c' => typeName c = typeName c') types types') :
    Lockstep (addInterfaces scope d types) (Resolution.addInterfaces scope' d' types') := by
  induction all with
  | nil => exact .pure ()
  | @cons c c' _ _ same _ ih =>
      rw [Resolution.addInterfaces, Resolution.addInterfaces, same, scopes.qualify twin, twin.id]
      refine (Lockstep.mention _ .interface).bind fun interface => ?_
      exact (Lockstep.addInterface d'.id interface).bind fun _ => ih

omit scopes in
theorem clauseTypes : List.Forall₂ (fun c c' => typeName c = typeName c') (clauseTypes d)
    (Resolution.clauseTypes d') := by
  rw [Resolution.clauseTypes, Resolution.clauseTypes]
  rcases none_or_some_of_rel (twin.facing.related.childOfKind? twin.other .superInterfaces) with
    ⟨absent, absent'⟩ | ⟨clause, clause', found, found', related⟩
  · rw [absent, absent']
    exact .nil
  · rw [found, found']
    refine related.supertypes numbered numbered' fun old => ?_
    have kind := List.find?_some (p := fun c : t.Node => c.kind == .superInterfaces) found
    simp [old.kind] at kind

theorem linkSupertypes :
    Lockstep (linkSupertypes scope d) (Resolution.linkSupertypes scope' d') := by
  rw [linkSupertypes_eq, linkSupertypes_eq, annotationName?, annotationName?, ← twin.kind]
  refine (scopes.superclass? twin numbered numbered').bind fun parent? => ?_
  refine Lockstep.bind ?_ fun _ => ?_
  · cases parent? with
    | none => exact .pure ()
    | some parent =>
        rw [← twin.id]
        exact .setSuperclass d.id parent
  · refine (scopes.addInterfaces twin (clauseTypes twin numbered numbered')).bind fun _ => ?_
    split
    · exact .addInterface_of_id twin.id _
    · exact .pure ()

end TwinScopes

section Members

variable (related : Reargued n n') (other : ¬IsArguments n) (numbered : WellNumbered t)

include related other numbered

theorem namedEntries_reargued {symbol : t.Node → Symbol} {symbol' : t'.Node → Symbol}
    (same : ∀ c c', c.text = c'.text → (symbol c).unplaced = (symbol' c').unplaced) :
    (namedEntries n symbol).map (fun e => e.2.unplaced) =
      (namedEntries n' symbol').map fun e => e.2.unplaced := by
  rw [namedEntries, namedEntries]
  rcases none_or_some_of_map (related.map_text_name numbered other) with
    ⟨absent, absent'⟩ | ⟨name, name', found, found', text⟩
  · rw [absent, absent']
    rfl
  · rw [found, found']
    exact congrArg (fun s => [s]) (same name name' text)

theorem variableEntries_reargued (id : d.id = d'.id) (type : String) :
    (variableEntries d type n).map (fun e => e.2.unplaced) =
      (variableEntries d' type n').map fun e => e.2.unplaced := by
  refine namedEntries_reargued related other numbered fun c c' text => ?_
  simp only [Symbol.unplaced, text, id, Option.map_some]

variable (numbered' : WellNumbered t')

include numbered'

theorem methodEntries_reargued (callable : n.kind = .method ∨ n.kind = .constructor)
    (id : d.id = d'.id) :
    (methodEntries d n).map (fun e => e.2.unplaced) =
      (methodEntries d' n').map fun e => e.2.unplaced := by
  have typed := related.typeBefore numbered numbered' (by
    rcases callable with kind | kind <;> rw [kind] <;> rfl) "void"
  refine namedEntries_reargued related other numbered fun c c' text => ?_
  simp only [Symbol.unplaced, text, id, Option.map_some, related.kind, typed,
    related.parameterTypes numbered numbered' other]

omit other in
theorem memberEntries_reargued (id : d.id = d'.id) (name : d.name = d'.name) :
    (memberEntries d n).map (fun e => e.2.unplaced) =
      (memberEntries d' n').map fun e => e.2.unplaced := by
  rw [memberEntries, memberEntries, ← related.kind, ← related.rawKind]
  split
  next kind =>
    have other : ¬IsArguments n := fun old => by cases kind.symm.trans old.kind
    exact methodEntries_reargued related other numbered numbered' (.inl kind) id
  next kind =>
    have other : ¬IsArguments n := fun old => by cases kind.symm.trans old.kind
    exact methodEntries_reargued related other numbered numbered' (.inr kind) id
  next kind =>
    have other : ¬IsArguments n := fun old => by cases kind.symm.trans old.kind
    have typed := related.typeBefore numbered numbered' (by rw [kind]; rfl) ""
    rw [List.map_flatMap, List.map_flatMap, typed]
    have declarators := filter_forall₂ (related.children other)
      (p := (·.field? == some "declarator")) (q := (·.field? == some "declarator"))
      fun _ _ child => by rw [child.field?]
    refine flatMap_eq_of_forall₂ ((List.forall₂_and_left _ _).2
      ⟨fun c member => (List.mem_filter.1 member).2, declarators⟩) fun c c' child => ?_
    refine variableEntries_reargued child.2 (fun old => ?_) numbered id _
    rw [old.field?] at child
    exact absurd child.1 (by decide)
  next =>
    split
    next constant =>
      have other : ¬IsArguments n := fun old => by
        rw [old.rawKind] at constant
        exact absurd constant (by decide)
      rw [name]
      exact variableEntries_reargued related other numbered id _
    next => rfl

end Members

section Numbered

variable (numbered : WellNumbered t) (numbered' : WellNumbered t')

include numbered numbered'

theorem Twin.bodyEntries (twin : Twin d d') :
    (bodyEntries d).map (fun e => e.2.unplaced) =
      (Resolution.bodyEntries d').map fun e => e.2.unplaced := by
  rw [Resolution.bodyEntries, Resolution.bodyEntries]
  rcases none_or_some_of_rel (twin.facing.related.childInField? twin.other "body") with
    ⟨absent, absent'⟩ | ⟨body, body', found, found', related⟩
  · rw [absent, absent']
    rfl
  · have members := related.children fun old => old.ne_childInField? found
    rw [found, found']
    dsimp only
    rw [List.map_flatMap, List.map_flatMap]
    exact flatMap_eq_of_forall₂ members fun c c' child =>
      memberEntries_reargued child numbered numbered' twin.id twin.name

theorem Twin.addMembers (twin : Twin d d') :
    Lockstep (addMembers d) (Resolution.addMembers d') := by
  have entries := twin.bodyEntries numbered numbered'
  rw [← List.forall₂_eq_eq_eq, List.forall₂_map_left_iff, List.forall₂_map_right_iff] at entries
  rw [addMembers_eq, addMembers_eq]
  exact .forM entries fun e e' same => .enrol same

variable (related : Reargued t.root t'.root)

include related

theorem twins_declarations (header : Header.read t.root = Header.read t'.root) :
    List.Forall₂ Twin (declarations t).1.toList (declarations t').1.toList ∧
      (declarations t).2.unplaced = (declarations t').2.unplaced := by
  rw [declarations, declarations, ← header, ← declareTypes_filter, ← declareTypes_filter (t := t')]
  exact twins_declareTypes numbered numbered' ((Facing.root related).declarations numbered) _ .nil
    rfl

theorem header_reargued (unit : t.root.kind = .compilationUnit) :
    Header.read t.root = Header.read t'.root := by
  have other : ¬IsArguments t.root := fun old => by cases unit.symm.trans old.kind
  have each (c : t.Node) (c' : t'.Node) (child : Reargued c c') (h : Header) : h.add c = h.add c' :=
    child.add numbered numbered' h
  rw [Header.read, Header.read]
  exact foldl_eq_of_forall₂ (related.children other) each _

theorem linkAll_lockstep (unit : t.root.kind = .compilationUnit) :
    Lockstep (linkAll (fileScope t)) (linkAll (fileScope t')) := by
  have header := header_reargued numbered numbered' related unit
  have twins := (twins_declarations numbered numbered' related header).1
  have scopes : TwinScopes (fileScope t) (fileScope t') := ⟨header, twins⟩
  refine (Lockstep.forM twins fun d d' twin => ?_).bind fun _ => ?_
  · exact scopes.linkSupertypes twin numbered numbered'
  · exact .forM twins fun d d' twin => twin.addMembers numbered numbered'

theorem resolve_reargued (errors : t.hasErrors = t'.hasErrors) :
    (resolve t).map unplaced = (resolve t').map unplaced := by
  cases clean : t.hasErrors with
  | true => rw [resolve_of_refused clean, resolve_of_refused (errors.symm.trans clean)]
  | false =>
      have clean' := errors.symm.trans clean
      by_cases unit : t.root.kind = .compilationUnit
      · have unit' := related.kind.symm.trans unit
        have header := header_reargued numbered numbered' related unit
        have start := (twins_declarations numbered numbered' related header).2
        obtain ⟨_, table, ran, _⟩ := linkAll_achieves t
        obtain ⟨_, table', ran', _⟩ := linkAll_achieves t'
        have same := linkAll_lockstep numbered numbered' related unit _ _ start
        rw [ran, ran'] at same
        rw [resolve_of_linkAll clean unit ran, resolve_of_linkAll clean' unit' ran']
        exact congrArg (fun r => Except.ok r) (congrArg Prod.snd (Except.ok.inj same))
      · have other' : t'.root.kind ≠ .compilationUnit := related.kind ▸ unit
        rw [resolve_of_other_root clean unit, resolve_of_other_root clean' other', related.kind]

end Numbered

end TreeLint.Java

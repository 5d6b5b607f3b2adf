import TreeLint.Proofs.Calls
import TreeLint.Proofs.Linking

namespace TreeLint

namespace SymbolTable

variable {table table' table'' : SymbolTable}

/-- From the first table to the second no type changes, but for its members. -/
structure Enlists (table table' : SymbolTable) : Prop where
  type? : ∀ id s, table.type? id = some s →
    ∃ members, table'.type? id = some { s with members }
  older : ∀ id s', table'.type? id = some s' → ∃ s, table.type? id = some s
  named : ∀ name, table'.typeNamed? name = table.typeNamed? name

namespace Enlists

theorem refl (table : SymbolTable) : Enlists table table where
  type? := fun _ s known => ⟨s.members, known⟩
  older := fun _ s known => ⟨s, known⟩
  named := fun _ => rfl

theorem trans (first : Enlists table table') (second : Enlists table' table'') :
    Enlists table table'' where
  type? := by
    intro id s known
    obtain ⟨_, next⟩ := first.type? id s known
    obtain ⟨members, last⟩ := second.type? id _ next
    exact ⟨members, last⟩
  older := by
    intro id s'' known
    obtain ⟨s', next⟩ := second.older id s'' known
    exact first.older id s' next
  named := fun name => (second.named name).trans (first.named name)

theorem before (enlists : Enlists table table') {id : SymbolId} {s' : TypeSymbol}
    (known : table'.type? id = some s') :
    ∃ s members, table.type? id = some s ∧ s' = { s with members } := by
  obtain ⟨s, earlier⟩ := enlists.older id s' known
  obtain ⟨members, next⟩ := enlists.type? id s earlier
  exact ⟨s, members, earlier, Option.some.inj (known.symm.trans next)⟩

theorem leaves (enlists : Enlists table table') :
    Leaves (fun _ => True) table table' where
  becomes := by
    intro id s known
    obtain ⟨members, next⟩ := enlists.type? id s known
    exact ⟨_, next, rfl, rfl, rfl, .inl rfl, List.prefix_rfl⟩
  same := fun _ _ _ _ other => absurd trivial other
  older := fun id s' known _ => enlists.older id s' known
  named := fun name id known => (enlists.named name).trans known

theorem settled (enlists : Enlists table table') (settled : Settled nothing nothing table)
    (kept : table'.Kept) : Settled nothing nothing table' := by
  refine ⟨kept, ?_, ?_, ?_, ?_⟩
  · intro id s' known external
    obtain ⟨s, members, earlier, rfl⟩ := enlists.before known
    exact (enlists.named _).trans (settled.named id s earlier external)
  · intro id s' parent known external stored
    obtain ⟨s, members, earlier, rfl⟩ := enlists.before known
    simp only [enlists.named]
    exact settled.linked id s parent earlier external stored
  · intro id s' above known external
    obtain ⟨s, members, earlier, rfl⟩ := enlists.before known
    exact settled.settled id s above earlier external
  · intro id s' known external free
    obtain ⟨s, members, earlier, rfl⟩ := enlists.before known
    rcases settled.listed id s earlier external free with isClass | ⟨other, o, there, lists⟩
    · exact .inl isClass
    · obtain ⟨_, next⟩ := enlists.type? other o there
      exact .inr ⟨other, _, next, lists⟩

end Enlists

theorem Enrols.enlists {owner : SymbolId} {symbol : Symbol}
    (enrols : table.Enrols owner symbol table') (owned : symbol.owner? = some owner) :
    Enlists table table' := by
  obtain ⟨_, between, s, appends, names, amends⟩ := enrols
  have types := appends.type?_of_owned owned
  have here : table.type? owner = some s := (types owner).symm.trans amends.known
  refine ⟨?_, ?_, ?_⟩
  · intro id r known
    rw [amends.type?, types]
    split
    next same =>
      rw [same, here] at known
      cases known
      exact ⟨_, rfl⟩
    next => exact ⟨r.members, known⟩
  · intro id r known
    rw [amends.type?, types] at known
    split at known
    next same => exact ⟨s, same ▸ here⟩
    next => exact ⟨r, known⟩
  · intro name
    rw [amends.typeNamed?, SymbolTable.typeNamed?, names, SymbolTable.typeNamed?]

end SymbolTable

namespace Java.Resolution

open TreeLint.Tree SymbolTable

variable {t : Tree} {table : SymbolTable} {scope : NameScope t} {d : Declared t}

theorem Tied.enlists {table' : SymbolTable} (tied : Tied scope d table) (kept : table.Kept)
    (kept' : table'.Kept) (enlists : Enlists table table') : Tied scope d table' := by
  obtain ⟨s, linked⟩ := tied
  obtain ⟨members, next⟩ := enlists.type? d.id s linked.known
  exact ⟨_, linked.leaves kept kept' enlists.leaves next linked.declared rfl rfl⟩

theorem Achieves.forM {f : α → Resolve Unit} {P : SymbolTable → Prop} (xs : List α)
    (step : ∀ x ∈ xs, ∀ table, P table → Achieves (f x) table fun _ table' => P table')
    (holds : P table) : Achieves (xs.forM f) table fun _ table' => P table' := by
  induction xs generalizing table with
  | nil => exact .pure holds
  | cons x rest ih =>
      refine (step x (List.mem_cons_self ..) table holds).bind ?_
      intro _ table' next
      exact ih (fun y member => step y (List.mem_cons_of_mem _ member)) next

structure Enlisted (base : SymbolTable) (table : SymbolTable) : Prop where
  kept : table.Kept
  enlists : Enlists base table

private theorem change_achieves {base table' : SymbolTable}
    (call : SymbolTable → Except SymbolError (SymbolId × SymbolTable)) {owner id : SymbolId}
    {symbol : Symbol} (enlisted : Enlisted base table) (owned : symbol.owner? = some owner)
    (made : call table = .ok (id, table')) (enrols : table.Enrols owner symbol table') :
    Achieves (change fun table => (call table).map (·.2)) table fun _ table' =>
      Enlisted base table' := by
  have changed : (call table).map (·.2) = .ok table' := by
    rw [made]
    rfl
  refine Achieves.change changed ⟨?_, ?_⟩
  · exact enlisted.kept.change (.enrols owner symbol owned enrols)
  · exact enlisted.enlists.trans (enrols.enlists owned)

section Members

variable {base : SymbolTable}

theorem Enlisted.known (enlisted : Enlisted base table) {id : SymbolId}
    (known : ∃ s, base.type? id = some s) : ∃ s, table.type? id = some s := by
  obtain ⟨s, known⟩ := known
  obtain ⟨members, next⟩ := enlisted.enlists.type? id s known
  exact ⟨_, next⟩

theorem addMethod_achieves (known : ∃ s, base.type? d.id = some s) (member : t.Node)
    (enlisted : Enlisted base table) :
    Achieves (addMethod d member) table fun _ table' => Enlisted base table' := by
  unfold addMethod
  split
  · exact .pure enlisted
  · obtain ⟨id, table', made⟩ :=
      exists_addMethod (s := ⟨_, d.id, _, _, _, _⟩) (enlisted.known known)
    exact change_achieves (fun table => table.addMethod _) enlisted rfl made
      (addMethod_enrols made)

theorem addVariable_achieves (known : ∃ s, base.type? d.id = some s) (type : String)
    (declaration : t.Node) (enlisted : Enlisted base table) :
    Achieves (addVariable d type declaration) table fun _ table' => Enlisted base table' := by
  unfold addVariable
  split
  · exact .pure enlisted
  · obtain ⟨id, table', made⟩ := exists_addVariable (s := ⟨_, d.id, _, _⟩) (enlisted.known known)
    exact change_achieves (fun table => table.addVariable _) enlisted rfl made
      (addVariable_enrols made)

theorem addMember_achieves (known : ∃ s, base.type? d.id = some s) (member : t.Node)
    (enlisted : Enlisted base table) :
    Achieves (addMember d member) table fun _ table' => Enlisted base table' := by
  unfold addMember
  split
  · exact addMethod_achieves known member enlisted
  · exact addMethod_achieves known member enlisted
  · exact .forM _ (fun declarator _ _ next => addVariable_achieves known _ declarator next) enlisted
  · split
    · exact addVariable_achieves known d.name member enlisted
    · exact .pure enlisted

theorem addMembers_achieves (known : ∃ s, base.type? d.id = some s)
    (enlisted : Enlisted base table) :
    Achieves (addMembers d) table fun _ table' => Enlisted base table' := by
  unfold addMembers
  split
  · exact .pure enlisted
  · exact .forM _ (fun member _ _ next => addMember_achieves known member next) enlisted

end Members

end Java.Resolution

namespace Java

open TreeLint.Tree SymbolTable Resolution

variable {t : Tree} {table : SymbolTable}

def declarations (t : Tree) : Array (Declared t) × SymbolTable :=
  declareTypes (Header.read t.root) #[] (.new t.id) t.root.descendants

def fileScope (t : Tree) : NameScope t := ⟨Header.read t.root, (declarations t).1⟩

theorem registered_declarations (t : Tree) :
    Registered (Header.read t.root) (fileScope t).types (declarations t).2 :=
  (registered_declareTypes (.new _ t.id) t.root.descendants).1

@[simp] theorem map_node_types (t : Tree) :
    (fileScope t).types.toList.map (·.node) = t.root.descendants.filter declares :=
  (registered_declareTypes (.new _ t.id) t.root.descendants).2

namespace Resolution.Registered

variable {h : Header} {types : Array (Declared t)}

theorem id_eq (registered : Registered h types table) {i : Nat} {d : Declared t}
    (found : types[i]? = some d) : d.id = ⟨i⟩ := by
  obtain ⟨inside, _⟩ := Array.getElem?_eq_some_iff.1 found
  obtain ⟨kind, name, _, _, same⟩ := registered.recorded i d found
  rw [same]
  simp [recordOf, Nat.min_eq_left (Nat.le_of_lt inside)]

theorem enclosing_lt (registered : Registered h types table) {i j : Nat} {d : Declared t}
    (found : types[i]? = some d) (around : d.enclosing? = some j) : j < i := by
  obtain ⟨kind, name, _, _, same⟩ := registered.recorded i d found
  rw [same] at around
  simp only [recordOf, enclosingType?, Option.bind_eq_bind, Option.bind_eq_some_iff] at around
  obtain ⟨_, _, place⟩ := around
  have := (Array.findIdx?_eq_some_iff_findIdx_eq.1 place).1
  simp at this
  omega

theorem bare_of_mem (registered : Registered h types table) {d : Declared t}
    (member : d ∈ types.toList) : table.type? d.id = some d.bare := by
  obtain ⟨i, found⟩ := List.mem_iff_getElem?.1 member
  rw [Array.getElem?_toList] at found
  rw [registered.id_eq found]
  exact registered.bare i d found

theorem ids_differ (registered : Registered h types table) :
    types.toList.Pairwise fun a b => a.id ≠ b.id := by
  rw [List.pairwise_iff_getElem]
  intro i j inside beyond before
  rw [Array.getElem_toList, Array.getElem_toList,
    registered.id_eq (Array.getElem?_eq_getElem _), registered.id_eq (Array.getElem?_eq_getElem _)]
  simp
  omega

theorem exists_of_type? (registered : Registered h types table) {id : SymbolId} {s : TypeSymbol}
    (known : table.type? id = some s) : ∃ d ∈ types.toList, d.id = id ∧ s = d.bare := by
  have inside : id.number < types.size := by
    rw [← registered.size]
    exact lt_size_of_type? known
  have found := Array.getElem?_eq_getElem inside
  have id_eq := registered.id_eq found
  refine ⟨types[id.number], by simp, id_eq, ?_⟩
  have here := registered.bare _ _ found
  rw [known] at here
  exact Option.some.inj here

end Resolution.Registered

/-- The table holds what the tree declares, with all links. -/
structure Resolved (t : Tree) (table : SymbolTable) : Prop where
  settled : Settled nothing nothing table
  leaves : Leaves (fun _ => True) (declarations t).2 table
  tied : ∀ d ∈ (fileScope t).types.toList, Tied (fileScope t) d table

def linkAll (scope : NameScope t) : Resolve Unit := do
  scope.types.toList.forM (linkSupertypes scope)
  scope.types.toList.forM addMembers

theorem linkAll_achieves (t : Tree) :
    Achieves (linkAll (fileScope t)) (declarations t).2 fun _ table => Resolved t table := by
  have registered := registered_declarations t
  have declared (id : SymbolId) (s : TypeSymbol)
      (known : (declarations t).2.type? id = some s) : s.isExternal = false := by
    obtain ⟨d, _, _, rfl⟩ := registered.exists_of_type? known
    rfl
  have held : Held (fileScope t) (declarations t).2 := by
    intro i d found
    have member : d ∈ (fileScope t).types.toList := by
      rw [List.mem_iff_getElem?]
      exact ⟨i, by rw [Array.getElem?_toList]; exact found⟩
    exact ⟨d.bare, registered.bare_of_mem member, rfl⟩
  refine (forM_linkSupertypes_achieves (fileScope t).types.toList registered.ids_differ
    (.of_declared registered.kept declared) held fun _ => registered.bare_of_mem).bind ?_
  rintro _ linked ⟨leaves, settled, tied⟩
  have step : ∀ d ∈ (fileScope t).types.toList, ∀ table, Enlisted linked table →
      Achieves (addMembers d) table fun _ table' => Enlisted linked table' := by
    intro d member table enlisted
    obtain ⟨s, linkedNow⟩ := tied d member
    exact addMembers_achieves ⟨s, linkedNow.known⟩ enlisted
  refine (Achieves.forM _ step ⟨settled.kept, .refl _⟩).imp ?_
  rintro _ table ⟨kept, enlists⟩
  refine ⟨enlists.settled settled kept, ?_, ?_⟩
  · exact (leaves.mono fun _ _ => trivial).trans enlists.leaves
  · exact fun d member => (tied d member).enlists settled.kept kept enlists

theorem resolve_of_refused {t : Tree} (errors : t.hasErrors = true) :
    resolve t = .error .syntaxErrors := by
  rw [resolve, if_pos errors]

theorem resolve_of_other_root {t : Tree} (clean : t.hasErrors = false)
    (other : t.root.kind ≠ .compilationUnit) :
    resolve t = .error (.notACompilationUnit t.root.kind) := by
  rw [resolve, clean, if_neg Bool.false_ne_true, if_pos other]

theorem resolve_of_linkAll {t : Tree} {table : SymbolTable} (clean : t.hasErrors = false)
    (root : t.root.kind = .compilationUnit)
    (ran : (linkAll (fileScope t)).run (declarations t).2 = .ok ((), table)) :
    resolve t = .ok table := by
  rw [resolve, clean, if_neg Bool.false_ne_true, if_neg (not_not_intro root)]
  dsimp only
  split
  next same =>
    cases ran.symm.trans same
    rfl
  next failed => cases ran.symm.trans failed

theorem exists_resolved {t : Tree} (clean : t.hasErrors = false)
    (root : t.root.kind = .compilationUnit) :
    ∃ table, resolve t = .ok table ∧ Resolved t table := by
  obtain ⟨_, table, ran, resolved⟩ := linkAll_achieves t
  exact ⟨table, resolve_of_linkAll clean root ran, resolved⟩

theorem accepted_of_resolve (ran : resolve t = .ok table) :
    t.hasErrors = false ∧ t.root.kind = .compilationUnit := by
  by_cases errors : t.hasErrors = true
  · rw [resolve_of_refused errors] at ran
    cases ran
  · by_cases root : t.root.kind = .compilationUnit
    · exact ⟨Bool.eq_false_iff.2 errors, root⟩
    · rw [resolve_of_other_root (Bool.eq_false_iff.2 errors) root] at ran
      cases ran

theorem resolved_of_resolve (ran : resolve t = .ok table) : Resolved t table := by
  obtain ⟨clean, root⟩ := accepted_of_resolve ran
  obtain ⟨other, same, resolved⟩ := exists_resolved clean root
  cases ran.symm.trans same
  exact resolved

/-- A tree is refused for its syntax errors or else for its root, and never for what it declares.
A type that another one is declared in is at hand by then. -/
theorem resolve_outcomes (t : Tree) :
    (resolve t = .error .syntaxErrors ↔ t.hasErrors = true) ∧
    (∀ kind, resolve t = .error (.notACompilationUnit kind) ↔
      t.hasErrors = false ∧ t.root.kind = kind ∧ kind ≠ .compilationUnit) ∧
    (∀ error, resolve t ≠ .error (.symbols error)) ∧
    ((∃ table, resolve t = .ok table) ↔
      t.hasErrors = false ∧ t.root.kind = .compilationUnit) ∧
    ∀ (i j : Nat) (d : Declared t), (fileScope t).types[i]? = some d → d.enclosing? = some j →
      j < i ∧ i < (fileScope t).types.size := by
  have within (i j : Nat) (d : Declared t) (found : (fileScope t).types[i]? = some d)
      (around : d.enclosing? = some j) : j < i ∧ i < (fileScope t).types.size :=
    ⟨(registered_declarations t).enclosing_lt found around, (Array.getElem?_eq_some_iff.1 found).1⟩
  cases clean : t.hasErrors with
  | true =>
      rw [resolve_of_refused clean]
      exact ⟨by simp, by simp, by simp, by simp, within⟩
  | false =>
      by_cases root : t.root.kind = .compilationUnit
      · obtain ⟨table, ran, _⟩ := exists_resolved clean root
        rw [ran]
        refine ⟨by simp, ?_, by simp, by simp [root], within⟩
        intro kind
        simp only [reduceCtorEq, false_iff, true_and]
        rintro ⟨rfl, other⟩
        exact other root
      · rw [resolve_of_other_root clean root]
        refine ⟨by simp, ?_, by simp, by simp [root], within⟩
        intro kind
        simp only [Except.error.injEq, ResolutionError.notACompilationUnit.injEq, true_and]
        exact ⟨fun same => ⟨same, same ▸ root⟩, fun both => both.1⟩

theorem typeNamed?_declarations
    (distinct : ∀ d ∈ (fileScope t).types.toList, ∀ d' ∈ (fileScope t).types.toList,
      d.qualifiedName = d'.qualifiedName → d = d')
    {d : Declared t} (member : d ∈ (fileScope t).types.toList) :
    (declarations t).2.typeNamed? d.qualifiedName = some d.id := by
  have registered := registered_declarations t
  obtain ⟨first, found⟩ :=
    registered.kept.names.complete d.id d.bare (registered.bare_of_mem member)
  obtain ⟨s, known, same⟩ := registered.kept.names.named _ _ found
  obtain ⟨other, listed, rfl, rfl⟩ := registered.exists_of_type? known
  cases distinct other listed d member same
  exact found

namespace Resolved

theorem becomes (resolved : Resolved t table) {d : Declared t} {s : TypeSymbol}
    (member : d ∈ (fileScope t).types.toList) (known : table.type? d.id = some s) :
    d.bare.Becomes s := by
  obtain ⟨_, same, becomes⟩ :=
    resolved.leaves.becomes d.id d.bare ((registered_declarations t).bare_of_mem member)
  cases known.symm.trans same
  exact becomes

theorem exists_linked (resolved : Resolved t table) {id : SymbolId} {s : TypeSymbol}
    (known : table.type? id = some s) (declared : s.isExternal = false) :
    ∃ d ∈ (fileScope t).types.toList, d.id = id ∧ Linked (fileScope t) d table s := by
  obtain ⟨_, earlier⟩ := resolved.leaves.older id s known declared
  obtain ⟨d, member, rfl, _⟩ := (registered_declarations t).exists_of_type? earlier
  obtain ⟨other, linked⟩ := resolved.tied d member
  cases known.symm.trans linked.known
  exact ⟨d, member, rfl, linked⟩

/-- A name that one type of the file has is that type's, whatever else is mentioned under it. -/
theorem typeNamed?_of_distinct (resolved : Resolved t table)
    (distinct : ∀ d ∈ (fileScope t).types.toList, ∀ d' ∈ (fileScope t).types.toList,
      d.qualifiedName = d'.qualifiedName → d = d')
    {d : Declared t} (member : d ∈ (fileScope t).types.toList) :
    table.typeNamed? d.qualifiedName = some d.id :=
  resolved.leaves.named _ _ (typeNamed?_declarations distinct member)

end Resolved

/-- A type of another file that a declared type extends has the superclass that is known of it.  It
is a class, except that `Object` may be what a type listed it as, an interface. -/
theorem external_superclass_settled (ran : resolve t = .ok table) {id parent : SymbolId}
    {s : TypeSymbol} (known : table.type? id = some s) (declared : s.isExternal = false)
    (extended : s.superclass? = some parent) :
    ∃ p, table.type? parent = some p ∧ (p.isExternal = true →
      (p.kind = .class ∨ p.qualifiedName = Platform.object ∧
        ∃ other o, table.type? other = some o ∧ parent ∈ o.interfaces) ∧
      (p.qualifiedName = Platform.object ∨ Platform.isInterface p.qualifiedName →
        p.superclass? = none) ∧
      (¬(p.qualifiedName = Platform.object ∨ Platform.isInterface p.qualifiedName) →
        ∃ above u, p.superclass? = some above ∧ table.type? above = some u ∧
          Platform.superclass? p.qualifiedName = some u.qualifiedName)) := by
  have resolved := resolved_of_resolve ran
  have settled := resolved.settled
  obtain ⟨d, _, _, linked⟩ := resolved.exists_linked known declared
  obtain ⟨p, target, kinds⟩ := linked.asClass parent extended
  refine ⟨p, target, fun external => ⟨?_, ?_, ?_⟩⟩
  · rcases settled.listed parent p target external nofun with isClass | lister
    · exact .inl isClass
    · exact (kinds external).imp_right fun object => ⟨object, lister⟩
  · intro top
    rw [← Platform.superclass?_eq_none_iff] at top
    cases stored : p.superclass? with
    | none => rfl
    | some above =>
        obtain ⟨_, _, _, onto, _⟩ := settled.linked parent p above target external stored
        rw [top] at onto
        cases onto
  · intro below
    rw [← Platform.superclass?_eq_none_iff] at below
    obtain ⟨name, onto⟩ := Option.ne_none_iff_exists'.1 below
    have notObject : p.qualifiedName ≠ Platform.object := by
      intro isObject
      exact below (Platform.superclass?_eq_none_iff.2 (.inl isObject))
    have isClass : p.kind = .class := (kinds external).resolve_right notObject
    obtain ⟨above, stored⟩ :=
      settled.settled parent p name target external nofun isClass notObject onto
    obtain ⟨_, _, _, same, found⟩ := settled.linked parent p above target external stored
    cases onto.symm.trans same
    obtain ⟨u, upper, rfl⟩ := settled.kept.names.named _ _ found
    exact ⟨above, u, stored, upper, onto⟩

def orphanedCalls : List Builder.Call := [
  .start .compilationUnit none,
  .start .class none, .field "name", .token .identifier none "A" .empty,
  .field "superclass", .start .superclass none, .token .identifier none "B" .empty,
  .finishNode, .finishNode, .finishNode]

def orphaned : Tree where
  id := ⟨0⟩
  nodes := ((Builder.new ⟨0⟩).attemptAll orphanedCalls).nodes
  hasErrors := false
  nonempty := by decide +kernel
  links := ((Builder.new ⟨0⟩).attemptAll orphanedCalls).links

theorem orphaned_superclass_settled :
    ∃ table id s parent p above u, resolve orphaned = .ok table ∧ table.type? id = some s ∧
      s.isExternal = false ∧ s.superclass? = some parent ∧ table.type? parent = some p ∧
      p.isExternal = true ∧ p.qualifiedName = "B" ∧ p.kind = .class ∧ p.superclass? = some above ∧
      table.type? above = some u ∧ u.qualifiedName = Platform.object := by
  obtain ⟨table, ran, resolved⟩ := exists_resolved (t := orphaned) rfl (by decide +kernel)
  have alone : ∀ d ∈ (fileScope orphaned).types.toList, d.qualifiedName ≠ "B" := by decide +kernel
  have told : ∃ d ∈ (fileScope orphaned).types.toList, d.kind = .class ∧
      isAnonymous d.node = false ∧
      (d.node.childInField? "superclass").map (fun clause =>
        (supertypes clause).map fun type => (fileScope orphaned).qualify (typeName type) d) =
          some ["B"] := by
    decide +kernel
  obtain ⟨d, member, isClass, named, extended⟩ := told
  obtain ⟨clause, found, spelled⟩ := Option.map_eq_some_iff.1 extended
  obtain ⟨type, listed, name⟩ := List.map_eq_singleton_iff.1 spelled
  obtain ⟨s, linked⟩ := resolved.tied d member
  obtain ⟨parent, stored⟩ := linked.found (by
    rw [extending_iff_of_named isClass named, found]
    simp [listed])
  have goesBy := linked.superclass.now resolved.settled.kept
  rw [superclassIn_of_named _ _ isClass named, found] at goesBy
  dsimp only at goesBy
  rw [listed, List.head?_cons, Option.bind_some, name, stored] at goesBy
  obtain ⟨p, target, same⟩ := resolved.settled.kept.names.named _ _ goesBy
  have external : p.isExternal = true := by
    cases declared : p.isExternal with
    | true => rfl
    | false =>
        obtain ⟨e, member, rfl, _⟩ := resolved.exists_linked target declared
        exact absurd ((resolved.becomes member target).qualifiedName.symm.trans same)
          (alone e member)
  obtain ⟨_, there, told⟩ := external_superclass_settled ran linked.known linked.declared stored
  cases target.symm.trans there
  obtain ⟨kinds, _, linkedOn⟩ := told external
  have onto : Platform.superclass? "B" = some Platform.object := by decide +kernel
  have below : ¬(p.qualifiedName = Platform.object ∨ Platform.isInterface p.qualifiedName) := by
    rw [← Platform.superclass?_eq_none_iff, same, onto]
    exact nofun
  obtain ⟨above, u, up, upper, next⟩ := linkedOn below
  rw [same, onto] at next
  refine ⟨table, d.id, s, parent, p, above, u, ran, linked.known, linked.declared, stored, target,
    external, same, ?_, up, upper, (Option.some.inj next).symm⟩
  exact kinds.resolve_right fun object => below (.inl object.1)

end Java

end TreeLint

import TreeLint.Proofs.SameLineage
import TreeLint.Proofs.SameNames

/-! Two files that declare the same types in different orders resolve to tables that tell the same
of them. -/

namespace TreeLint.Java

open TreeLint.Tree SymbolTable Resolution

variable {t t' : Tree} {tops : List t.Node} {tops' : List t'.Node} {table table' : SymbolTable}

theorem Regular.reordered (regular : Regular t) (reordered : Reordered tops tops')
    (numbered : WellNumbered t) (numbered' : WellNumbered t')
    (root : t.root.kind = .compilationUnit) (root' : t'.root.kind = .compilationUnit) :
    Regular t' := by
  have paired (d' : Declared t') (member' : d' ∈ (fileScope t').types.toList) :
      ∃ d, Pair tops tops' d d' := by
    obtain ⟨d, back⟩ := exists_pair reordered.symm numbered' numbered root' member'
    exact ⟨d, back.symm⟩
  refine ⟨fun d' member' => ?_, fun d' member' => ?_, fun d' member' anonymous => ?_,
    fun d' member' e' other' same => ?_⟩
  · obtain ⟨d, pair⟩ := paired d' member'
    rw [← pair.isAnonymous reordered, ← pair.name reordered]
    exact regular.anonymous_iff d pair.member
  · obtain ⟨d, pair⟩ := paired d' member'
    rw [← pair.name reordered]
    exact regular.undotted d pair.member
  · obtain ⟨d, pair⟩ := paired d' member'
    rw [← pair.isAnonymous reordered] at anonymous
    obtain ⟨m, around⟩ := regular.rooted d pair.member anonymous
    have mates := pair.mate.around? reordered numbered numbered' root root'
    rw [around] at mates
    generalize around? d'.node = y at mates
    cases mates
    exact ⟨_, rfl⟩
  · obtain ⟨d, pair⟩ := paired d' member'
    obtain ⟨e, other⟩ := paired e' other'
    have names := pair.qualifiedName reordered numbered numbered' root root' regular.rooted
    have names' := other.qualifiedName reordered numbered numbered' root root' regular.rooted
    cases regular.distinct d pair.member e other.member (names.trans (same.trans names'.symm))
    exact pair.eq reordered numbered numbered' other

namespace Redeclared

variable (redeclared : Redeclared tops tops')

include redeclared

theorem undeclared {name : String} (undeclared : (declarations t).2.typeNamed? name = none) :
    (declarations t').2.typeNamed? name = none := by
  rw [typeNamed?_declarations_eq_none_iff] at undeclared ⊢
  intro d' member' named
  obtain ⟨d, back⟩ := redeclared.symm.exists_pair member'
  exact undeclared d back.member' ((redeclared.qualifiedName back.symm).trans named)

theorem classMention {name : String} (mention : ClassMention t name) : ClassMention t' name := by
  induction mention with
  | extended member extends_ =>
      obtain ⟨d', pair⟩ := redeclared.exists_pair member
      exact .extended pair.member' (redeclared.superclassName? pair ▸ extends_)
  | above _ undeclared onto ih => exact .above ih (redeclared.undeclared undeclared) onto

theorem interfaceMention {name : String} (mention : InterfaceMention t name) :
    InterfaceMention t' name := by
  obtain ⟨d, member, listed⟩ := mention
  obtain ⟨d', pair⟩ := redeclared.exists_pair member
  exact ⟨d', pair.member', redeclared.interfaceNames pair ▸ listed⟩

end Redeclared

theorem Resolved.kind (resolved : Resolved t table) {d : Declared t} {s : TypeSymbol}
    (member : d ∈ (fileScope t).types.toList) (known : table.type? d.id = some s) :
    s.kind = d.kind :=
  (resolved.becomes member known).kind.resolve_right fun external => Bool.false_ne_true external.1

/-- There is a type of the name, declared in the file or not. -/
def Knows (table : SymbolTable) (name : String) (external : Bool) : Prop :=
  ∃ id s, table.type? id = some s ∧ s.isExternal = external ∧ s.qualifiedName = name

structure Agree (table table' : SymbolTable) (id id' : SymbolId) (s s' : TypeSymbol) : Prop where
  kind : s.kind = s'.kind
  superclass : table.parentName? id = table'.parentName? id'
  interfaces : table.listedNames s = table'.listedNames s'
  members : ∀ name, (table.membersNamed s name).map (fun m => signature m.2) =
    (table'.membersNamed s' name).map fun m => signature m.2
  depth : table.inheritanceDepth id = table'.inheritanceDepth id'

theorem unambiguous_of_resolve (regular : Regular t) (ran : resolve t = .ok table) :
    table.Unambiguous := by
  have resolved := resolved_of_resolve ran
  intro id s known
  cases external : s.isExternal with
  | true => exact resolved.settled.named id s known external
  | false =>
      obtain ⟨d, member, rfl, _⟩ := resolved.exists_linked known external
      rw [(resolved.becomes member known).qualifiedName]
      exact resolved.typeNamed?_of_distinct regular.distinct member

namespace Redeclared

variable (redeclared : Redeclared tops tops') (ran : resolve t = .ok table)
  (ran' : resolve t' = .ok table')

include redeclared ran ran'

variable {id id' : SymbolId} {s s' : TypeSymbol}

theorem exists_pair_of_known (known : table.type? id = some s) (declared : s.isExternal = false)
    (known' : table'.type? id' = some s') (name : s.qualifiedName = s'.qualifiedName) :
    ∃ d d', Pair tops tops' d d' ∧ d.id = id ∧ d'.id = id' := by
  have resolved := resolved_of_resolve ran
  have resolved' := resolved_of_resolve ran'
  obtain ⟨d, member, rfl, _⟩ := resolved.exists_linked known declared
  obtain ⟨d', pair⟩ := redeclared.exists_pair member
  have named : s'.qualifiedName = d'.qualifiedName :=
    name.symm.trans ((resolved.becomes member known).qualifiedName.trans
      (redeclared.qualifiedName pair))
  have found := unambiguous_of_resolve redeclared.regular' ran' id' s' known'
  rw [named, resolved'.typeNamed?_of_distinct redeclared.regular'.distinct pair.member'] at found
  exact ⟨d, d', pair, rfl, Option.some.inj found⟩

theorem knows {name : String} {external : Bool} (knows : Knows table name external) :
    Knows table' name external := by
  cases external with
  | true =>
      obtain ⟨undeclared, mention⟩ := (exists_external_iff ran redeclared.regular.distinct).1 knows
      exact (exists_external_iff ran' redeclared.regular'.distinct).2
        ⟨redeclared.undeclared undeclared,
          mention.imp redeclared.classMention redeclared.interfaceMention⟩
  | false =>
      have resolved := resolved_of_resolve ran
      have resolved' := resolved_of_resolve ran'
      obtain ⟨id, s, known, declared, rfl⟩ := knows
      obtain ⟨d, member, rfl, _⟩ := resolved.exists_linked known declared
      obtain ⟨d', pair⟩ := redeclared.exists_pair member
      obtain ⟨s', linked'⟩ := resolved'.tied d' pair.member'
      have becomes := resolved.becomes member known
      have becomes' := resolved'.becomes pair.member' linked'.known
      refine ⟨d'.id, s', linked'.known, ?_, ?_⟩
      · rw [TypeSymbol.isExternal, becomes'.declaration?]
        rfl
      · rw [becomes.qualifiedName, becomes'.qualifiedName]
        exact (redeclared.qualifiedName pair).symm

theorem parentName? (known : table.type? id = some s) (known' : table'.type? id' = some s')
    (name : s.qualifiedName = s'.qualifiedName) :
    table.parentName? id = table'.parentName? id' := by
  have distinct := redeclared.regular.distinct
  have distinct' := redeclared.regular'.distinct
  cases external : s.isExternal with
  | false =>
      obtain ⟨d, d', pair, rfl, rfl⟩ :=
        redeclared.exists_pair_of_known ran ran' known external known' name
      rw [parentName?_declared ran distinct pair.member,
        parentName?_declared ran' distinct' pair.member', redeclared.superclassName? pair]
  | true =>
      obtain ⟨undeclared, _⟩ := mention_of_external ran known external
      have external' :=
        external_of_undeclared ran' (redeclared.undeclared undeclared) known' name.symm
      refine Option.ext fun upper => ?_
      rw [parentName?_external ran distinct known external,
        parentName?_external ran' distinct' known' external', ← name]
      exact and_congr_left fun _ => ⟨redeclared.classMention, redeclared.symm.classMention⟩

theorem sameParents : SameParents table table' where
  unambiguous := unambiguous_of_resolve redeclared.regular ran
  unambiguous' := unambiguous_of_resolve redeclared.regular' ran'
  parentName? := by
    rintro id id' ⟨s, s', known, known', name⟩
    exact redeclared.parentName? ran ran' known known' name

theorem members {d : Declared t} {d' : Declared t'} (pair : Pair tops tops' d d')
    (known : table.type? d.id = some s) (known' : table'.type? d'.id = some s') (name : String) :
    (table.membersNamed s name).map (fun m => signature m.2) =
      (table'.membersNamed s' name).map fun m => signature m.2 := by
  have all := signatures_alike (redeclared.alike pair) (redeclared.name pair)
  rw [signatures, signatures, ← List.forall₂_eq_eq_eq, List.forall₂_map_left_iff,
    List.forall₂_map_right_iff] at all
  have symbols : List.Forall₂ (fun a b => signature a = signature b) ((bodyEntries d).map (·.2))
      ((bodyEntries d').map (·.2)) := by
    rw [List.forall₂_map_left_iff, List.forall₂_map_right_iff]
    exact all
  have named := filter_forall₂ symbols (p := (·.name == name)) (q := (·.name == name))
    fun _ _ same => by rw [name_signature same]
  rw [← listed_eq ran pair.member known, ← listed_eq ran' pair.member' known',
    List.forall₂_map_left_iff, List.forall₂_map_right_iff] at named
  exact map_eq_of_forall₂ named fun _ _ same => same

theorem agree (known : table.type? id = some s) (declared : s.isExternal = false)
    (known' : table'.type? id' = some s') (name : s.qualifiedName = s'.qualifiedName) :
    Agree table table' id id' s s' := by
  obtain ⟨d, d', pair, rfl, rfl⟩ :=
    redeclared.exists_pair_of_known ran ran' known declared known' name
  refine ⟨?_, redeclared.parentName? ran ran' known known' name, ?_, fun member => ?_,
    (redeclared.sameParents ran ran').inheritanceDepth ⟨s, s', known, known', name⟩⟩
  · rw [(resolved_of_resolve ran).kind pair.member known,
      (resolved_of_resolve ran').kind pair.member' known', redeclared.kind pair]
  · rw [listedNames_declared ran pair.member known, listedNames_declared ran' pair.member' known',
      redeclared.interfaceNames pair]
  · exact redeclared.members ran ran' pair known known' member

end Redeclared

/-- The order of the types at the top is immaterial to what is told of them by name. -/
theorem order_of_types_immaterial {calls calls' : List Builder.Call} {id id' : TreeId}
    (built : ((Builder.new id).attemptAll calls).finish = .ok t)
    (built' : ((Builder.new id').attemptAll calls').finish = .ok t')
    (reordered : Reordered tops tops') (errors : t'.hasErrors = t.hasErrors)
    (root : t'.root.kind = t.root.kind) (ran : resolve t = .ok table) (regular : Regular t) :
    ∃ table', resolve t' = .ok table' ∧
      (∀ name external, Knows table name external ↔ Knows table' name external) ∧
      ∀ id s id' s', table.type? id = some s → table'.type? id' = some s' →
        s.qualifiedName = s'.qualifiedName →
          table.parentName? id = table'.parentName? id' ∧
            (s.isExternal = false → Agree table table' id id' s s') := by
  obtain ⟨clean, unit⟩ := accepted_of_resolve ran
  have unit' := root.trans unit
  obtain ⟨table', ran', _⟩ := exists_resolved (errors.trans clean) unit'
  obtain ⟨_, laid⟩ := exists_laidOut built
  obtain ⟨_, laid'⟩ := exists_laidOut built'
  have numbered := laid.wellNumbered
  have numbered' := laid'.wellNumbered
  have redeclared : Redeclared tops tops' :=
    ⟨reordered, numbered, numbered', unit, unit', regular,
      regular.reordered reordered numbered numbered' unit unit'⟩
  refine ⟨table', ran', fun name external => ⟨redeclared.knows ran ran',
    redeclared.symm.knows ran' ran⟩, fun id s id' s' known known' name => ⟨?_, fun declared => ?_⟩⟩
  · exact redeclared.parentName? ran ran' known known' name
  · exact redeclared.agree ran ran' known declared known' name

def looksAlike : Nat → t.Node → t'.Node → Bool
  | 0, _, _ => false
  | k + 1, n, n' => n.kind == n'.kind && n.rawKind == n'.rawKind && n.field? == n'.field? &&
    n.token?.map (·.text) == n'.token?.map (·.text) && n.children.length == n'.children.length &&
    (n.children.zip n'.children).all fun c => looksAlike k c.1 c.2

theorem alike_of_looksAlike {k : Nat} {n : t.Node} {n' : t'.Node} (looks : looksAlike k n n') :
    Alike n n' := by
  induction k generalizing n n' with
  | zero => cases looks
  | succ k ih =>
      simp only [looksAlike, Bool.and_eq_true, beq_iff_eq, List.all_eq_true] at looks
      obtain ⟨⟨⟨⟨⟨kind, rawKind⟩, field?⟩, text?⟩, length⟩, below⟩ := looks
      refine .intro kind rawKind field? text? length fun i c c' here there => ih ?_
      exact below (c, c') (List.mem_of_getElem? (List.getElem?_zip_eq_some.2 ⟨here, there⟩))

theorem reordered_of_looksAlike {k : Nat}
    (looks : List.Forall₂ (fun n n' => looksAlike k n n') t.root.children t'.root.children.reverse)
    (types : ∀ n ∈ t'.root.children, n.kind.isTypeDeclaration) :
    Reordered t.root.children t'.root.children.reverse where
  alike := looks.imp fun _ _ => alike_of_looksAlike
  perm := .refl _
  perm' := List.reverse_perm _
  others := rfl
  others' := by
    rw [List.filter_reverse, List.filter_eq_nil_iff.2 fun n member => by simp [types n member]]
    rfl

theorem distinct_of_nodup (nodup : ((fileScope t).types.toList.map (·.qualifiedName)).Nodup) :
    ∀ d ∈ (fileScope t).types.toList, ∀ d' ∈ (fileScope t).types.toList,
      d.qualifiedName = d'.qualifiedName → d = d' :=
  fun _ member _ member' => List.inj_on_of_nodup_map nodup member member'

theorem exists_parentName? {name parent : String} (clean : t.hasErrors = false)
    (root : t.root.kind = .compilationUnit)
    (nodup : ((fileScope t).types.toList.map (·.qualifiedName)).Nodup)
    (extends_ : ∃ d ∈ (fileScope t).types.toList, d.qualifiedName = name ∧
      superclassName? (fileScope t) (declarations t).2 d = some parent) :
    ∃ table id, resolve t = .ok table ∧ table.typeNamed? name = some id ∧
      table.parentName? id = some parent := by
  obtain ⟨table, ran, resolved⟩ := exists_resolved clean root
  obtain ⟨d, member, rfl, goesBy⟩ := extends_
  have distinct := distinct_of_nodup nodup
  exact ⟨table, d.id, ran, resolved.typeNamed?_of_distinct distinct member,
    (parentName?_declared ran distinct member).trans goesBy⟩

def classCalls (name : String) (rest : List Builder.Call) : List Builder.Call :=
  [.start .class none, .field "name", .token .identifier none name .empty] ++ rest ++ [.finishNode]

def anonymousCalls (name : String) : List Builder.Call :=
  [.start .class (some ("anonymous_class", .empty)), .field "name",
    .token .identifier none name .empty, .finishNode]

def extendsCalls (name : String) : List Builder.Call :=
  [.field "superclass", .start .superclass none, .token .identifier none name .empty, .finishNode]

def fileCalls (classes : List (List Builder.Call)) : List Builder.Call :=
  .start .compilationUnit none :: classes.flatten ++ [.finishNode]

def fileOf (classes : List (List Builder.Call))
    (nonempty : 0 < ((Builder.new ⟨0⟩).attemptAll (fileCalls classes)).nodes.size) : Tree where
  id := ⟨0⟩
  nodes := ((Builder.new ⟨0⟩).attemptAll (fileCalls classes)).nodes
  hasErrors := false
  nonempty := nonempty
  links := ((Builder.new ⟨0⟩).attemptAll (fileCalls classes)).links

/-- A class around two of which one extends the other, and another class of the same name. -/
def orderly : List (List Builder.Call) := [
  classCalls "A" (classCalls "B" [] ++ classCalls "C" (extendsCalls "B")),
  classCalls "B" (extendsCalls "Thread")]

def inOrder : Tree := fileOf orderly (by decide +kernel)

def outOfOrder : Tree := fileOf orderly.reverse (by decide +kernel)

theorem inOrder_regular : Regular inOrder where
  anonymous_iff := by decide +kernel
  undotted := by decide +kernel
  rooted := by
    have all : ∀ d ∈ (fileScope inOrder).types.toList, isAnonymous d.node →
        (around? d.node).isSome := by
      decide +kernel
    exact fun d member anonymous => Option.isSome_iff_exists.1 (all d member anonymous)
  distinct := distinct_of_nodup (by decide +kernel)

theorem inOrder_agrees_outOfOrder :
    ∃ table table' id s id' s', resolve inOrder = .ok table ∧ resolve outOfOrder = .ok table' ∧
      table.type? id = some s ∧ table'.type? id' = some s' ∧ s.isExternal = false ∧
      s.qualifiedName = "A.C" ∧ s'.qualifiedName = "A.C" ∧ Agree table table' id id' s s' ∧
      table.parentName? id = some "A.B" := by
  have built : ((Builder.new ⟨0⟩).attemptAll (fileCalls orderly)).finish = .ok inOrder := rfl
  have built' : ((Builder.new ⟨0⟩).attemptAll (fileCalls orderly.reverse)).finish =
    .ok outOfOrder := rfl
  have reordered : Reordered inOrder.root.children outOfOrder.root.children.reverse :=
    reordered_of_looksAlike (k := 4) (by decide +kernel) (by decide +kernel)
  have extends_ : ∃ d ∈ (fileScope inOrder).types.toList, d.qualifiedName = "A.C" ∧
      superclassName? (fileScope inOrder) (declarations inOrder).2 d = some "A.B" := by
    decide +kernel
  obtain ⟨d, member, named, goesBy⟩ := extends_
  obtain ⟨table, ran, resolved⟩ := exists_resolved (t := inOrder) rfl (by decide +kernel)
  obtain ⟨table', ran', knows, told⟩ := order_of_types_immaterial built built' reordered rfl
    (by decide +kernel) ran inOrder_regular
  obtain ⟨s, linked⟩ := resolved.tied d member
  have becomes := resolved.becomes member linked.known
  have declared : s.isExternal = false := by
    rw [TypeSymbol.isExternal, becomes.declaration?]
    rfl
  have name : s.qualifiedName = "A.C" := becomes.qualifiedName.trans named
  obtain ⟨id', s', known', _, name'⟩ :=
    (knows "A.C" false).1 ⟨d.id, s, linked.known, declared, name⟩
  have both := told d.id s id' s' linked.known known' (name.trans name'.symm)
  exact ⟨table, table', d.id, s, id', s', ran, ran', linked.known, known', declared, name, name',
    both.2 declared, (parentName?_declared ran inOrder_regular.distinct member).trans goesBy⟩

/-- What the class of a name extends depends on the order of the types at the top, although these
go by different names. -/
structure Swayed (classes : List (List Builder.Call)) (name : String) (t t' : Tree) : Prop where
  built : ((Builder.new ⟨0⟩).attemptAll (fileCalls classes)).finish = .ok t
  built' : ((Builder.new ⟨0⟩).attemptAll (fileCalls classes.reverse)).finish = .ok t'
  reordered : Reordered t.root.children t'.root.children.reverse
  named : ∀ n ∈ t.root.descendants, n.kind.isTypeDeclaration → declaresType n
  distinct : ((fileScope t).types.toList.map (·.qualifiedName)).Nodup
  rooted : ∀ d ∈ (fileScope t).types.toList, isAnonymous d.node → (around? d.node).isSome
  differ : ∃ table table' id id', resolve t = .ok table ∧ resolve t' = .ok table' ∧
    table.typeNamed? name = some id ∧ table'.typeNamed? name = some id' ∧
    table.parentName? id ≠ table'.parentName? id'

theorem Swayed.of_clash {k : Nat} {classes : List (List Builder.Call)}
    {name parent parent' : String} (clash : parent ≠ parent')
    (built : ((Builder.new ⟨0⟩).attemptAll (fileCalls classes)).finish = .ok t)
    (built' : ((Builder.new ⟨0⟩).attemptAll (fileCalls classes.reverse)).finish = .ok t')
    (clean : t.hasErrors = false) (clean' : t'.hasErrors = false)
    (root : t.root.kind = .compilationUnit) (root' : t'.root.kind = .compilationUnit)
    (looks : List.Forall₂ (fun n n' => looksAlike k n n') t.root.children t'.root.children.reverse)
    (types : ∀ n ∈ t'.root.children, n.kind.isTypeDeclaration)
    (named : ∀ n ∈ t.root.descendants, n.kind.isTypeDeclaration → declaresType n)
    (distinct : ((fileScope t).types.toList.map (·.qualifiedName)).Nodup)
    (distinct' : ((fileScope t').types.toList.map (·.qualifiedName)).Nodup)
    (rooted : ∀ d ∈ (fileScope t).types.toList, isAnonymous d.node → (around? d.node).isSome)
    (extends_ : ∃ d ∈ (fileScope t).types.toList, d.qualifiedName = name ∧
      superclassName? (fileScope t) (declarations t).2 d = some parent)
    (extends' : ∃ d' ∈ (fileScope t').types.toList, d'.qualifiedName = name ∧
      superclassName? (fileScope t') (declarations t').2 d' = some parent') :
    Swayed classes name t t' := by
  obtain ⟨table, id, ran, known, goesBy⟩ := exists_parentName? clean root distinct extends_
  obtain ⟨table', id', ran', known', goesBy'⟩ := exists_parentName? clean' root' distinct' extends'
  refine ⟨built, built', reordered_of_looksAlike looks types, named, distinct, rooted,
    table, table', id, id', ran, ran', known, known', fun same => clash ?_⟩
  rw [goesBy, goesBy'] at same
  exact Option.some.inj same

def dotEnded : List (List Builder.Call) := [
  classCalls "A." (classCalls "B" []),
  classCalls "A" (classCalls "B" [] ++ classCalls "C" (extendsCalls "B"))]

def unspelled : List (List Builder.Call) := [
  classCalls "" (classCalls "B" []), classCalls "B" [], classCalls "C" (extendsCalls "B")]

def spelledOut : List (List Builder.Call) := [
  classCalls "A$" (classCalls "1" [] ++ classCalls "C" (extendsCalls "1")),
  classCalls "A" (anonymousCalls "1")]

/-- Which of two classes of one name a third one extends may depend on the order if a name ends in
a dot or is empty, or if an anonymous class has one. -/
theorem swaying_orders : (∃ t t', Swayed dotEnded "A.C" t t') ∧
    (∃ t t', Swayed unspelled "C" t t') ∧ ∃ t t', Swayed spelledOut "A$.C" t t' := by
  have dots : ∃ t t', Swayed dotEnded "A.C" t t' := by
    refine ⟨fileOf dotEnded ?_, fileOf dotEnded.reverse ?_, .of_clash (k := 4)
      (show "A.B" ≠ "A..B" by decide) rfl rfl rfl rfl ?_ ?_ ?_ ?_ ?_ ?_ ?_ ?_ ?_ ?_⟩ <;>
      decide +kernel
  have empty : ∃ t t', Swayed unspelled "C" t t' := by
    refine ⟨fileOf unspelled ?_, fileOf unspelled.reverse ?_, .of_clash (k := 4)
      (show "B" ≠ ".B" by decide) rfl rfl rfl rfl ?_ ?_ ?_ ?_ ?_ ?_ ?_ ?_ ?_ ?_⟩ <;>
      decide +kernel
  have anonymous : ∃ t t', Swayed spelledOut "A$.C" t t' := by
    refine ⟨fileOf spelledOut ?_, fileOf spelledOut.reverse ?_, .of_clash (k := 4)
      (show "A$1" ≠ "A$.1" by decide) rfl rfl rfl rfl ?_ ?_ ?_ ?_ ?_ ?_ ?_ ?_ ?_ ?_⟩ <;>
      decide +kernel
  exact ⟨dots, empty, anonymous⟩

end TreeLint.Java

import TreeLint.Proofs.Resolved

/-! Where the types of other files come from: a declaration mentions each, or it is known as the
superclass of one that came so. -/

namespace TreeLint.Java.Resolution

open TreeLint.Tree SymbolTable

variable {t : Tree} {α β : Type} {table table' : SymbolTable}

def Leads (m : Resolve α) (table : SymbolTable) (post : α → SymbolTable → Prop) : Prop :=
  ∀ a table', m.run table = .ok (a, table') → post a table'

namespace Leads

variable {post post' : α → SymbolTable → Prop}

theorem pure {a : α} (holds : post a table) : Leads (Pure.pure a) table post := by
  intro b table' ran
  cases ran
  exact holds

theorem bind {m : Resolve α} {f : α → Resolve β} {last : β → SymbolTable → Prop}
    (first : Leads m table post)
    (next : ∀ a table', post a table' → Leads (f a) table' last) : Leads (m >>= f) table last := by
  intro b table'' ran
  rw [StateT.run_bind] at ran
  cases here : m.run table with
  | error e =>
      rw [here] at ran
      cases ran
  | ok both =>
      rw [here] at ran
      exact next both.1 both.2 (first both.1 both.2 here) b table'' ran

theorem map {m : Resolve α} {f : α → β} {last : β → SymbolTable → Prop}
    (first : Leads m table post) (next : ∀ a table', post a table' → last (f a) table') :
    Leads (f <$> m) table last := by
  rw [map_eq_pure_bind]
  exact first.bind fun a table' holds => pure (next a table' holds)

theorem get_bind {f : SymbolTable → Resolve α} (next : Leads (f table) table post) :
    Leads (get >>= f) table post :=
  next

theorem change {f : SymbolTable → Except SymbolError SymbolTable}
    {post : Unit → SymbolTable → Prop}
    (made : ∀ table', f table = .ok table' → post () table') : Leads (change f) table post := by
  intro _ table' ran
  simp only [Resolution.change, StateT.run_bind, StateT.run_get, pure_bind, StateT.run_set,
    StateT.run_monadLift] at ran
  cases here : f table with
  | error e =>
      rw [here] at ran
      cases ran
  | ok table₁ =>
      rw [here] at ran
      cases ran
      exact made _ here

theorem imp {m : Resolve α} (leads : Leads m table post)
    (weaker : ∀ a table', post a table' → post' a table') : Leads m table post' :=
  fun a table' ran => weaker a table' (leads a table' ran)

theorem forM {f : α → Resolve Unit} {P : SymbolTable → Prop} (xs : List α)
    (step : ∀ x ∈ xs, ∀ table, P table → Leads (f x) table fun _ table' => P table')
    (holds : P table) : Leads (xs.forM f) table fun _ table' => P table' := by
  induction xs generalizing table with
  | nil => exact pure holds
  | cons x rest ih =>
      refine (step x (List.mem_cons_self ..) table holds).bind fun _ table' next => ?_
      exact ih (fun y member => step y (List.mem_cons_of_mem _ member)) next

end Leads

theorem Achieves.leads {m : Resolve α} {post : α → SymbolTable → Prop}
    (achieves : Achieves m table post) : Leads m table post := by
  intro a table' ran
  obtain ⟨_, _, other, holds⟩ := achieves
  cases other.symm.trans ran
  exact holds

def superclassName? (scope : NameScope t) (table : SymbolTable) (d : Declared t) : Option String :=
  match d.kind with
  | .class =>
      if isAnonymous d.node then
        match constantOwner? scope d, createdName? scope d with
        | some owner, _ => some owner.qualifiedName
        | none, some name => some (if isInterface table name then Platform.object else name)
        | none, none => some Platform.object
      else
        match d.node.childInField? "superclass" with
        | some clause => (supertypes clause).head?.map fun type => scope.qualify (typeName type) d
        | none => if d.qualifiedName = Platform.object then none else some Platform.object
  | .enum => some "java.lang.Enum"
  | .record => some "java.lang.Record"
  | .interface | .annotationType => none

theorem superclassIn_eq {scope : NameScope t} {d : Declared t}
    (known : ∀ owner, constantOwner? scope d = some owner →
      table.typeNamed? owner.qualifiedName = some owner.id) :
    superclassIn scope table d = (superclassName? scope table d).bind table.typeNamed? := by
  rw [superclassIn, superclassName?]
  cases d.kind with
  | «class» =>
      dsimp only
      split
      · rw [anonymousSuperclassIn]
        cases owned : constantOwner? scope d with
        | some owner => exact (known owner owned).symm
        | none => cases createdName? scope d <;> rfl
      · cases d.node.childInField? "superclass" with
        | some clause =>
            dsimp only
            cases (supertypes clause).head? <;> rfl
        | none =>
            dsimp only
            split <;> rfl
  | _ => rfl

theorem superclassName?_of_leaves {own : SymbolId → Prop} (kept : table.Kept) (kept' : table'.Kept)
    (leaves : Leaves own table table') (scope : NameScope t) (d : Declared t) :
    superclassName? scope table' d = superclassName? scope table d := by
  rw [superclassName?, funext (isInterface_of_leaves kept kept' leaves), superclassName?]

/-- The names include those that the declarations of the file mention, and go on to the classes
above types of other files. -/
structure Covers (t : Tree) (asClass asInterface : String → Prop) : Prop where
  superclasses : ∀ d ∈ (fileScope t).types.toList, ∀ name,
    superclassName? (fileScope t) (declarations t).2 d = some name → asClass name
  interfaces : ∀ d ∈ (fileScope t).types.toList,
    ∀ name ∈ interfaceNames (fileScope t) (declarations t).2 d, asInterface name
  onward : ∀ name above, asClass name → (declarations t).2.typeNamed? name = none →
    Platform.superclass? name = some above → asClass above

/-- Types of other files are named in the place of a class or of an interface, and what a class
among them extends is known in the place of a class. -/
structure Traced (t : Tree) (asClass asInterface : String → Prop) (table : SymbolTable) :
    Prop where
  kept : table.Kept
  tree : table.tree = t.id
  types : ∀ id symbol, table.symbol? id = some symbol → ∃ s, symbol = .type s
  leaves : Leaves (fun _ => True) (declarations t).2 table
  classes : ∀ id s, table.type? id = some s → s.isExternal = true → s.kind = .class →
    asClass s.qualifiedName
  interfaces : ∀ id s, table.type? id = some s → s.isExternal = true → s.kind ≠ .class →
    asInterface s.qualifiedName
  above : ∀ id s parent, table.type? id = some s → s.isExternal = true →
    s.superclass? = some parent → s.kind = .class ∧ AsClass table parent

namespace Traced

variable {asClass asInterface : String → Prop} {id : SymbolId} {s s' : TypeSymbol}

theorem enters (traced : Traced t asClass asInterface table) (enters : table.Enters s table')
    (tree : table'.tree = table.tree) (isClass : s.kind = .class → asClass s.qualifiedName)
    (isInterface : s.kind ≠ .class → asInterface s.qualifiedName) :
    Traced t asClass asInterface table' where
  kept := traced.kept.change enters.change
  tree := tree.trans traced.tree
  types := by
    intro id symbol found
    rw [enters.appends.symbol?] at found
    split at found
    · exact ⟨s, (Option.some.inj found).symm⟩
    · exact traced.types id symbol found
  leaves := traced.leaves.trans (enters.leaves _)
  classes := by
    intro id r known external kind
    rcases enters.appends.new_or_found known with ⟨_, rfl⟩ | old
    · exact isClass kind
    · exact traced.classes id r old external kind
  interfaces := by
    intro id r known external kind
    rcases enters.appends.new_or_found known with ⟨_, rfl⟩ | old
    · exact isInterface kind
    · exact traced.interfaces id r old external kind
  above := by
    intro id r parent known external stored
    rcases enters.appends.new_or_found known with ⟨_, rfl⟩ | old
    · have unlinked := enters.supertypes
      simp [TypeSymbol.supertypes, stored] at unlinked
    · obtain ⟨kind, upper⟩ := traced.above id r parent old external stored
      exact ⟨kind, upper.leaves (enters.leaves nothing)⟩

theorem amends (traced : Traced t asClass asInterface table)
    (amends : table.Amends id s s' table') (kept : table'.Kept) (tree : table'.tree = table.tree)
    (becomes : s.Becomes s')
    (isClass : s.isExternal = true → s'.kind = .class → asClass s.qualifiedName)
    (upper : s.isExternal = true → ∀ parent, s'.superclass? = some parent →
      s'.kind = .class ∧ AsClass table parent) :
    Traced t asClass asInterface table' := by
  have leaves : Leaves (fun _ => True) table table' := amends.leaves becomes (.inr trivial)
  refine ⟨kept, tree.trans traced.tree, ?_, traced.leaves.trans leaves, ?_, ?_, ?_⟩
  · intro other symbol found
    rw [amends.symbol?] at found
    split at found
    · exact ⟨s', (Option.some.inj found).symm⟩
    · exact traced.types other symbol found
  · intro other r known external kind
    rw [amends.type?] at known
    split at known
    · cases known
      rw [becomes.qualifiedName]
      exact isClass (becomes.isExternal ▸ external) kind
    · exact traced.classes other r known external kind
  · intro other r known external kind
    rw [amends.type?] at known
    split at known
    · cases known
      rw [becomes.qualifiedName]
      exact traced.interfaces id s amends.known (becomes.isExternal ▸ external)
        (mt becomes.isClass kind)
    · exact traced.interfaces other r known external kind
  · intro other r parent known external stored
    rw [amends.type?] at known
    split at known
    · cases known
      obtain ⟨kind, above⟩ := upper (becomes.isExternal ▸ external) parent stored
      exact ⟨kind, above.leaves leaves⟩
    · obtain ⟨kind, above⟩ := traced.above other r parent known external stored
      exact ⟨kind, above.leaves leaves⟩

theorem amends_declared (traced : Traced t asClass asInterface table)
    (amends : table.Amends id s s' table') (kept : table'.Kept) (tree : table'.tree = table.tree)
    (becomes : s.Becomes s') (declared : s.isExternal = false) :
    Traced t asClass asInterface table' := by
  have absurd {P : Prop} (external : s.isExternal = true) : P := by
    rw [declared] at external
    cases external
  exact traced.amends amends kept tree becomes (fun external => absurd external)
    fun external => absurd external

theorem undeclared (traced : Traced t asClass asInterface table) {name : String}
    (found : table.typeNamed? name = some id) (known : table.type? id = some s)
    (external : s.isExternal = true) : (declarations t).2.typeNamed? name = none := by
  have registered := registered_declarations t
  refine Option.eq_none_iff_forall_ne_some.2 fun first declared => ?_
  cases found.symm.trans (traced.leaves.named _ _ declared)
  obtain ⟨r, there, _⟩ := registered.kept.names.named _ _ declared
  obtain ⟨d, _, _, rfl⟩ := registered.exists_of_type? there
  obtain ⟨_, same, becomes⟩ := traced.leaves.becomes _ _ there
  cases known.symm.trans same
  rw [becomes.isExternal] at external
  cases external

theorem mention (traced : Traced t asClass asInterface table) (name : String) (kind : TypeKind)
    (isClass : kind = .class → asClass name) (isInterface : kind ≠ .class → asInterface name) :
    Leads (mention name kind) table fun id table' =>
      Traced t asClass asInterface table' ∧ Leaves nothing table table' ∧
        table'.typeNamed? name = some id ∧
        ∃ s, table'.type? id = some s ∧ s.qualifiedName = name := by
  intro id table' ran
  obtain ⟨known, found, mentioned⟩ :=
    (mention_achieves traced.kept name kind).leads id table' ran
  have tree : table'.tree = table.tree := by
    have made : (table.externalType name kind).2 = table' := congrArg Prod.snd (Except.ok.inj ran)
    rw [← made, table.tree_externalType]
  rcases mentioned with rfl | ⟨s, enters, rfl, rfl, -⟩
  · exact ⟨traced, .refl _ _, found, known⟩
  · exact ⟨traced.enters enters tree isClass isInterface, enters.leaves _, found, known⟩

private theorem turnsIntoClass {Q : SymbolId → SymbolTable → Prop} {goOn : Resolve SymbolId}
    (traced : Traced t asClass asInterface table) (known : table.type? id = some s)
    (external : s.isExternal = true) (unlinked : s.superclass? = none)
    (isClass : asClass s.qualifiedName)
    (goesOn : ∀ table', Traced t asClass asInterface table' → Leaves nothing table table' →
      table'.type? id = some { s with kind := .class } → Leads goOn table' Q) :
    Leads (if s.kind ≠ .class then change (·.setKind id .class) >>= fun _ => goOn else goOn)
      table Q := by
  split
  next other =>
    have turns : Leads (change (·.setKind id .class)) table fun _ table' =>
        Traced t asClass asInterface table' ∧ Leaves nothing table table' ∧
          table'.type? id = some { s with kind := .class } := by
      refine .change fun table' made => ?_
      obtain ⟨_, amends⟩ := setKind_amends made
      cases known.symm.trans amends.known
      have becomes : s.Becomes { s with kind := .class } :=
        ⟨rfl, rfl, rfl, .inr ⟨external, rfl⟩, List.prefix_rfl⟩
      refine ⟨traced.amends amends (traced.kept.change (change_of_setKind made))
        (tree_setKind made) becomes (fun _ _ => isClass) fun _ parent stored => ?_,
        amends.leaves becomes (.inl external), amends.type?_self⟩
      rw [unlinked] at stored
      cases stored
    exact turns.bind fun _ table' next => goesOn table' next.1 next.2.1 next.2.2
  next kind =>
    have same : { s with kind := .class } = s := by rw [← not_not.1 kind]
    exact goesOn table traced (.refl _ _) (same.symm ▸ known)

theorem mentionClass (covers : Covers t asClass asInterface) (above : List String) {name : String}
    (chain : Platform.superclasses name = above) {table : SymbolTable}
    (traced : Traced t asClass asInterface table) (isClass : asClass name) :
    Leads (mentionClass name above) table fun id table' =>
      Traced t asClass asInterface table' ∧ Leaves nothing table table' ∧ AsClass table' id := by
  rw [Platform.superclasses_eq] at chain
  unfold Resolution.mentionClass
  refine (traced.mention name .class (fun _ => isClass) fun other => absurd rfl other).bind ?_
  rintro id table₁ ⟨traced₁, leaves₁, found₁, s, known₁, name_eq⟩
  apply Leads.get_bind
  simp only [known₁]
  split
  next past =>
    refine .pure ⟨traced₁, leaves₁, s, known₁, fun external => ?_⟩
    have past : name = Platform.object ∨ s.isExternal = false ∨
        ∃ parent, s.superclass? = some parent := by
      simpa [or_assoc, Option.isSome_iff_exists] using past
    rcases past with object | declared | ⟨parent, linked⟩
    · exact .inr (name_eq.trans object)
    · rw [external] at declared
      cases declared
    · exact .inl (traced₁.above id s parent known₁ external linked).1
  next fresh =>
    have fresh : name ≠ Platform.object ∧ s.isExternal = true ∧ s.superclass? = none := by
      simpa [and_assoc] using fresh
    obtain ⟨_, external, unlinked⟩ := fresh
    have undeclared := traced₁.undeclared found₁ known₁ external
    refine traced₁.turnsIntoClass known₁ external unlinked (name_eq.symm ▸ isClass) ?_
    intro table₂ traced₂ leaves₂ known₂
    cases above with
    | nil => exact .pure ⟨traced₂, leaves₁.trans leaves₂, _, known₂, fun _ => .inl rfl⟩
    | cons parent rest =>
        have onto : Platform.superclass? name = some parent ∧
            Platform.superclasses parent = rest := by
          cases onto : Platform.superclass? name with
          | none =>
              rw [onto] at chain
              cases chain
          | some upper =>
              rw [onto] at chain
              obtain ⟨rfl, rfl⟩ := List.cons.inj chain
              exact ⟨rfl, rfl⟩
        refine (mentionClass covers rest onto.2 traced₂
          (covers.onward _ _ isClass undeclared onto.1)).bind ?_
        rintro superclass table₃ ⟨traced₃, leaves₃, upper⟩
        obtain ⟨s₃, known₃, becomes⟩ := leaves₃.becomes id _ known₂
        have kind : s₃.kind = .class := becomes.isClass rfl
        refine Leads.bind (.change fun table' made => ?_) fun _ table' next => .pure next
        obtain ⟨_, _, amends⟩ := setSuperclass_amends made
        cases known₃.symm.trans amends.known
        have external₃ := becomes.isExternal.trans external
        have links : s₃.Becomes { s₃ with superclass? := some superclass } :=
          ⟨rfl, rfl, rfl, .inl rfl, List.prefix_rfl⟩
        have leaves := ((leaves₁.trans leaves₂).trans leaves₃).trans
          (amends.leaves links (.inl external₃))
        refine ⟨traced₃.amends amends (traced₃.kept.change (change_of_setSuperclass made))
          (tree_setSuperclass made) links (traced₃.classes id s₃ known₃) fun _ _ stored => ?_,
          leaves, _, amends.type?_self, fun _ => .inl kind⟩
        cases stored
        exact ⟨kind, upper⟩

variable {d : Declared t} (covers : Covers t asClass asInterface)

include covers

theorem classNamed (traced : Traced t asClass asInterface table) {name : String}
    (isClass : asClass name) :
    Leads (classNamed name) table fun _ table' => Traced t asClass asInterface table' :=
  (traced.mentionClass covers _ rfl isClass).imp fun _ _ next => next.1

omit covers in
theorem exists_type? (traced : Traced t asClass asInterface table)
    (member : d ∈ (fileScope t).types.toList) :
    ∃ s, table.type? d.id = some s ∧ s.isExternal = false := by
  obtain ⟨s, known, becomes⟩ :=
    traced.leaves.becomes _ _ ((registered_declarations t).bare_of_mem member)
  exact ⟨s, known, becomes.isExternal⟩

omit covers in
theorem setSuperclass (traced : Traced t asClass asInterface table)
    (member : d ∈ (fileScope t).types.toList) (parent : SymbolId) :
    Leads (change (·.setSuperclass d.id parent)) table fun _ table' =>
      Traced t asClass asInterface table' := by
  obtain ⟨s, known, declared⟩ := traced.exists_type? member
  refine .change fun table' made => ?_
  obtain ⟨_, _, amends⟩ := setSuperclass_amends made
  cases known.symm.trans amends.known
  exact traced.amends_declared amends (traced.kept.change (change_of_setSuperclass made))
    (tree_setSuperclass made) ⟨rfl, rfl, rfl, .inl rfl, List.prefix_rfl⟩ declared

omit covers in
theorem addInterface (traced : Traced t asClass asInterface table)
    (member : d ∈ (fileScope t).types.toList) {name : String} (isInterface : asInterface name) :
    Leads (addInterface d name) table fun _ table' => Traced t asClass asInterface table' := by
  refine (traced.mention name .interface nofun fun _ => isInterface).bind ?_
  rintro id table₁ ⟨traced₁, _⟩
  obtain ⟨s, known, declared⟩ := traced₁.exists_type? member
  refine .change fun table' made => ?_
  obtain ⟨_, _, amends⟩ := addInterface_amends made
  cases known.symm.trans amends.known
  exact traced₁.amends_declared amends (traced₁.kept.change (change_of_addInterface made))
    (tree_addInterface made) ⟨rfl, rfl, rfl, .inl rfl, List.prefix_append _ _⟩ declared

omit covers in
theorem addInterfaces (member : d ∈ (fileScope t).types.toList) (types : List t.Node)
    {table : SymbolTable} (traced : Traced t asClass asInterface table)
    (named : ∀ type ∈ types, asInterface ((fileScope t).qualify (typeName type) d)) :
    Leads (addInterfaces (fileScope t) d types) table fun _ table' =>
      Traced t asClass asInterface table' := by
  induction types generalizing table with
  | nil => exact .pure traced
  | cons type rest ih =>
      change Leads (Resolution.mention _ .interface >>= fun made =>
        change (·.addInterface d.id made) >>= fun _ =>
          Resolution.addInterfaces (fileScope t) d rest) _ _
      rw [← bind_assoc]
      refine (traced.addInterface member (named type (List.mem_cons_self ..))).bind ?_
      exact fun _ _ next => ih next fun other listed => named other (List.mem_cons_of_mem _ listed)

omit covers in
theorem isInterface_eq (traced : Traced t asClass asInterface table) (name : String) :
    isInterface table name = isInterface (declarations t).2 name :=
  isInterface_of_leaves (registered_declarations t).kept traced.kept traced.leaves name

theorem anonymousSuperclass (traced : Traced t asClass asInterface table)
    (member : d ∈ (fileScope t).types.toList) (isClass : d.kind = .class)
    (anonymous : isAnonymous d.node) :
    Leads (anonymousSuperclass (fileScope t) d) table fun _ table' =>
      Traced t asClass asInterface table' := by
  have superclass := covers.superclasses d member
  have interfaces := covers.interfaces d member
  rw [superclassName?, isClass] at superclass
  dsimp only at superclass
  rw [if_pos anonymous] at superclass
  rw [anonymousSuperclass_eq]
  cases constant : constantOwner? (fileScope t) d with
  | some owner => exact .pure traced
  | none =>
      rw [constant] at superclass
      dsimp only
      cases created : createdName? (fileScope t) d with
      | none =>
          rw [created] at superclass
          exact traced.classNamed covers (superclass _ rfl)
      | some name =>
          rw [created] at superclass
          dsimp only at superclass
          apply Leads.get_bind
          rw [traced.isInterface_eq]
          split
          next isInterface =>
            have listed : name ∈ interfaceNames (fileScope t) (declarations t).2 d := by
              simp [interfaceNames, createdInterface?, isClass, anonymous, constant, created,
                isInterface]
            refine (traced.addInterface member (interfaces name listed)).bind fun _ _ next => ?_
            exact next.classNamed covers (superclass _ (by rw [if_pos isInterface]))
          next other => exact traced.classNamed covers (superclass _ (by rw [if_neg other]))

theorem superclass? (traced : Traced t asClass asInterface table)
    (member : d ∈ (fileScope t).types.toList) :
    Leads (superclass? (fileScope t) d) table fun _ table' =>
      Traced t asClass asInterface table' := by
  have superclass := covers.superclasses d member
  have named {name : String}
      (same : superclassName? (fileScope t) (declarations t).2 d = some name) :
      Leads (some <$> Resolution.classNamed name) table fun _ table' =>
        Traced t asClass asInterface table' :=
    (traced.classNamed covers (superclass name same)).map fun _ _ next => next
  unfold Resolution.superclass?
  cases kind : d.kind with
  | «class» =>
      dsimp only
      split
      next anonymous =>
        exact (traced.anonymousSuperclass covers member kind anonymous).map fun _ _ next => next
      next isNamed =>
        cases extended : d.node.childInField? "superclass" with
        | some clause =>
            dsimp only
            cases listed : supertypes clause with
            | nil => exact .pure traced
            | cons type rest =>
                exact named (by simp [superclassName?, kind, isNamed, extended, listed])
        | none =>
            dsimp only
            split
            · exact .pure traced
            next notObject =>
              exact named (by simp [superclassName?, kind, isNamed, extended, notObject])
  | enum => exact named (by simp [superclassName?, kind])
  | record => exact named (by simp [superclassName?, kind])
  | interface => exact .pure traced
  | annotationType => exact .pure traced

theorem linkSupertypes (member : d ∈ (fileScope t).types.toList)
    (traced : Traced t asClass asInterface table) :
    Leads (linkSupertypes (fileScope t) d) table fun _ table' =>
      Traced t asClass asInterface table' := by
  have interfaces := covers.interfaces d member
  rw [interfaceNames, clauseNames_eq] at interfaces
  rw [linkSupertypes_eq]
  refine (traced.superclass? covers member).bind fun parent? table₁ traced₁ => ?_
  refine Leads.bind (?linked : Leads _ _ fun _ table' => Traced t asClass asInterface table')
    fun _ table₂ traced₂ => ?_
  case linked =>
    cases parent? with
    | none => exact .pure traced₁
    | some parent => exact traced₁.setSuperclass member parent
  refine (traced₂.addInterfaces member (clauseTypes d) fun type listed => ?_).bind
    fun _ table₃ traced₃ => ?_
  · exact interfaces _ (by simp [List.mem_map_of_mem listed])
  · cases annotated : annotationName? d with
    | none => exact .pure traced₃
    | some name => exact traced₃.addInterface member (interfaces _ (by simp [annotated]))

end Traced

@[simp] theorem tree_declareTypes (h : Header) (types : Array (Declared t)) (table : SymbolTable)
    (nodes : List t.Node) : (declareTypes h types table nodes).2.tree = table.tree := by
  induction nodes generalizing types table with
  | nil => rfl
  | cons n rest ih =>
      rw [declareTypes]
      split
      · exact ih _ _
      · exact ih _ _

/-- Before anything is linked there are no types of other files. -/
theorem traced_declarations (t : Tree) (asClass asInterface : String → Prop) :
    Traced t asClass asInterface (declarations t).2 := by
  have registered := registered_declarations t
  have own {id : SymbolId} {s : TypeSymbol} {P : Prop}
      (known : (declarations t).2.type? id = some s) (external : s.isExternal = true) : P := by
    obtain ⟨d, _, _, rfl⟩ := registered.exists_of_type? known
    cases external
  refine ⟨registered.kept, ?_, ?_, .refl _ _, ?_, ?_, ?_⟩
  · exact tree_declareTypes _ _ _ _
  · intro id symbol found
    have inside := lt_size_of_symbol? found
    rw [registered.size] at inside
    have bare := registered.bare _ _ (Array.getElem?_eq_getElem inside)
    exact ⟨_, Option.some.inj (found.symm.trans (type?_eq_some_iff.1 bare))⟩
  · exact fun _ _ known external => own known external
  · exact fun _ _ known external => own known external
  · exact fun _ _ _ known external => own known external

theorem exists_linked_of_resolve {asClass asInterface : String → Prop}
    (covers : Covers t asClass asInterface) (ran : resolve t = .ok table) :
    ∃ linked, Traced t asClass asInterface linked ∧
      ((fileScope t).types.toList.forM addMembers).run linked = .ok ((), table) := by
  obtain ⟨clean, root⟩ := accepted_of_resolve ran
  obtain ⟨_, other, linkedAll, _⟩ := linkAll_achieves t
  cases ran.symm.trans (resolve_of_linkAll clean root linkedAll)
  have steps : Leads (linkAll (fileScope t)) (declarations t).2 fun _ table =>
      ∃ linked, Traced t asClass asInterface linked ∧
        ((fileScope t).types.toList.forM addMembers).run linked = .ok ((), table) := by
    refine Leads.bind (.forM _ (fun d member _ traced => traced.linkSupertypes covers member)
      (traced_declarations t _ _)) fun _ linked traced => ?_
    exact fun _ table ran => ⟨linked, traced, ran⟩
  exact steps _ _ linkedAll

end TreeLint.Java.Resolution

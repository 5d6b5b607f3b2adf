import TreeLint.Proofs.Declared
import TreeLint.Proofs.Settled

/-! Linking a type to its supertypes never fails, whatever the types and names are, and every
reference leaves the types of other files settled. -/

namespace TreeLint.Java.Resolution

open TreeLint.Tree SymbolTable

variable {t : Tree} {α β : Type}

/-- The computation succeeds, and what it answers and leaves is as said. -/
def Achieves (m : Resolve α) (table : SymbolTable) (post : α → SymbolTable → Prop) : Prop :=
  ∃ a table', m.run table = .ok (a, table') ∧ post a table'

namespace Achieves

variable {table : SymbolTable} {post post' : α → SymbolTable → Prop}

theorem pure {a : α} (holds : post a table) : Achieves (Pure.pure a) table post :=
  ⟨a, table, rfl, holds⟩

theorem bind {m : Resolve α} {f : α → Resolve β} {last : β → SymbolTable → Prop}
    (first : Achieves m table post)
    (next : ∀ a table', post a table' → Achieves (f a) table' last) :
    Achieves (m >>= f) table last := by
  obtain ⟨a, table', ran, holds⟩ := first
  obtain ⟨b, table'', further, done⟩ := next a table' holds
  refine ⟨b, table'', ?_, done⟩
  rw [StateT.run_bind, ran]
  exact further

theorem map {m : Resolve α} {f : α → β} {last : β → SymbolTable → Prop}
    (first : Achieves m table post) (next : ∀ a table', post a table' → last (f a) table') :
    Achieves (f <$> m) table last := by
  rw [map_eq_pure_bind]
  exact first.bind fun a table' holds => pure (next a table' holds)

theorem get_bind {f : SymbolTable → Resolve α} (next : Achieves (f table) table post) :
    Achieves (get >>= f) table post :=
  next

theorem change {f : SymbolTable → Except SymbolError SymbolTable} {table' : SymbolTable}
    {post : Unit → SymbolTable → Prop} (made : f table = .ok table') (holds : post () table') :
    Achieves (change f) table post := by
  refine ⟨(), table', ?_, holds⟩
  simp only [Resolution.change, StateT.run_bind, StateT.run_get, pure_bind, StateT.run_set,
    StateT.run_monadLift, made]
  rfl

theorem imp {m : Resolve α} (achieves : Achieves m table post)
    (weaker : ∀ a table', post a table' → post' a table') : Achieves m table post' := by
  obtain ⟨a, table', ran, holds⟩ := achieves
  exact ⟨a, table', ran, weaker a table' holds⟩

end Achieves

section Mention

variable {table : SymbolTable} {pending : String → Prop} {awaited : SymbolId → Prop}

/-- What a mention finds or makes has the name, and what it makes is of the kind. -/
theorem mention_achieves (kept : table.Kept) (qualifiedName : String) (kind : TypeKind) :
    Achieves (mention qualifiedName kind) table fun id table' =>
      (∃ s, table'.type? id = some s ∧ s.qualifiedName = qualifiedName) ∧
        table'.typeNamed? qualifiedName = some id ∧
        (table' = table ∨ ∃ s, table.Enters s table' ∧ s.qualifiedName = qualifiedName ∧
          s.kind = kind ∧ id = ⟨table.size⟩) := by
  have ran : (mention qualifiedName kind).run table = .ok (table.externalType qualifiedName kind) :=
    rfl
  cases found : table.typeNamed? qualifiedName with
  | some id =>
      obtain ⟨s, known, named⟩ := kept.names.named _ _ found
      refine ⟨id, table, ?_, ⟨s, known, named⟩, found, .inl rfl⟩
      rw [ran, externalType, found]
  | none =>
      let made := table.declareType (simpleName qualifiedName) qualifiedName kind none
      have named (name : String) : made.2.typeNamed? name =
          if name = qualifiedName then some ⟨table.size⟩ else table.typeNamed? name := by
        rw [typeNamed?_declareType]
        split
        next same => rw [same, found, Option.none_or]
        next => rfl
      have enters : table.Enters _ made.2 :=
        ⟨table.declareType_appends _ qualifiedName kind none, rfl, rfl, rfl, found, named⟩
      refine ⟨made.1, made.2, ?_, ⟨_, enters.type?_new, rfl⟩, ?_, .inr ⟨_, enters, rfl, rfl, rfl⟩⟩
      · rw [ran, externalType, found]
      · rw [named, if_pos rfl]
        rfl

/-- A type that is known in the place of a class. -/
def AsClass (table : SymbolTable) (id : SymbolId) : Prop :=
  ∃ s, table.type? id = some s ∧
    (s.isExternal = true → s.kind = .class ∨ s.qualifiedName = Platform.object)

theorem AsClass.leaves {table' : SymbolTable} {own : SymbolId → Prop} {id : SymbolId}
    (asClass : AsClass table id) (leaves : Leaves own table table') : AsClass table' id := by
  obtain ⟨s, known, kinds⟩ := asClass
  obtain ⟨s', next, becomes⟩ := leaves.becomes id s known
  refine ⟨s', next, ?_⟩
  intro external
  rcases kinds (becomes.isExternal ▸ external) with isClass | object
  · exact .inl (becomes.isClass isClass)
  · exact .inr (becomes.qualifiedName.trans object)

theorem mention_class_achieves (settled : Settled pending nothing table)
    (qualifiedName : String) :
    Achieves (mention qualifiedName .class) table fun id table' =>
      Leaves nothing table table' ∧
        Settled (fun name => pending name ∨ name = qualifiedName) nothing table' ∧
        table'.typeNamed? qualifiedName = some id ∧
        ∃ s, table'.type? id = some s ∧ s.qualifiedName = qualifiedName := by
  apply (mention_achieves settled.kept qualifiedName .class).imp
  rintro id table' ⟨found, named, rfl | ⟨s, enters, rfl, isClass, rfl⟩⟩
  · refine ⟨.refl _ _, settled.weaken ?_, named, found⟩
    intro other r above _ _ before after
    exact absurd (.inl before) after
  · refine ⟨enters.leaves _, settled.enters enters ?_ ?_, named, found⟩
    · intro name free
      exact ⟨fun before => free (.inl before), fun same => absurd (.inr same) free⟩
    · intro other free
      exact ⟨free, fun _ => isClass⟩

variable {id : SymbolId} {s : TypeSymbol} {qualifiedName : String}

private theorem ready_of_done (settled : Settled (fun name => pending name ∨ name = qualifiedName)
    nothing table) (known : table.type? id = some s)
    (named : table.typeNamed? qualifiedName = some id)
    (done : s.isExternal = true → s.kind = .class → qualifiedName ≠ Platform.object →
      (∃ above, Platform.superclass? qualifiedName = some above) →
      ∃ parent, s.superclass? = some parent) :
    Settled (fun name => pending name ∧ name ≠ qualifiedName) nothing table := by
  apply settled.weaken
  intro other r upper found external before after isClass notObject onto
  have same : r.qualifiedName = qualifiedName := by
    rcases before with before | same
    · exact Decidable.byContradiction fun differs => after ⟨before, differs⟩
    · exact same
  have one := settled.named other r found external
  rw [same, named] at one
  cases one
  cases known.symm.trans found
  exact done external isClass (same ▸ notObject) ⟨upper, same ▸ onto⟩

private theorem setKind_achieves
    (settled : Settled (fun name => pending name ∨ name = qualifiedName) nothing table)
    (known : table.type? id = some s) (name_eq : s.qualifiedName = qualifiedName)
    (external : s.isExternal = true) (unlinked : s.superclass? = none) :
    Achieves (change (·.setKind id .class)) table fun _ table' =>
      Leaves nothing table table' ∧
        Settled (fun name => pending name ∨ name = qualifiedName) nothing table' ∧
        table'.type? id = some { s with kind := .class } := by
  obtain ⟨table', made⟩ := exists_setKind ⟨s, known⟩ .class
  obtain ⟨r, amends⟩ := setKind_amends made
  cases known.symm.trans amends.known
  have becomes : s.Becomes { s with kind := .class } :=
    ⟨rfl, rfl, rfl, .inr ⟨external, rfl⟩, List.prefix_rfl⟩
  refine Achieves.change made ⟨amends.leaves becomes (.inl external), ?_, amends.type?_self⟩
  refine settled.amends amends (settled.kept.change (change_of_setKind made)) becomes ?_ ?_ ?_ ?_
  · intro _ parent stored
    rw [unlinked] at stored
    cases stored
  · intro _ _ free
    exact absurd (.inr name_eq) free
  · intro name free before
    exact absurd before free
  · intro other free before
    exact absurd before free

private theorem setSuperclass_achieves {parent : String} {superclass : SymbolId}
    (settled : Settled (fun name => (pending name ∨ name = qualifiedName) ∧ name ≠ parent) nothing
      table)
    (known : table.type? id = some s) (name_eq : s.qualifiedName = qualifiedName)
    (external : s.isExternal = true) (isClass : s.kind = .class)
    (notObject : qualifiedName ≠ Platform.object)
    (onto : Platform.superclass? qualifiedName = some parent)
    (found : table.typeNamed? parent = some superclass) :
    Achieves (change (·.setSuperclass id superclass)) table fun _ table' =>
      Leaves nothing table table' ∧
        Settled (fun name => pending name ∧ name ≠ qualifiedName) nothing table' ∧
        table'.type? id = some { s with superclass? := some superclass } := by
  obtain ⟨r, target, _⟩ := settled.kept.names.named _ _ found
  obtain ⟨table', made⟩ := exists_setSuperclass ⟨s, known⟩ ⟨r, target⟩
  obtain ⟨_, o, amends⟩ := setSuperclass_amends made
  cases known.symm.trans amends.known
  have becomes : s.Becomes { s with superclass? := some superclass } :=
    ⟨rfl, rfl, rfl, .inl rfl, List.prefix_rfl⟩
  refine Achieves.change made ⟨amends.leaves becomes (.inl external), ?_, amends.type?_self⟩
  refine settled.amends amends (settled.kept.change (change_of_setSuperclass made)) becomes
    ?_ ?_ ?_ ?_
  · intro _ stored same
    cases same
    exact ⟨isClass, name_eq ▸ notObject, parent, name_eq ▸ onto, found⟩
  · intro _ _ _ _ _ _
    exact ⟨superclass, rfl⟩
  · intro name free before
    refine ⟨external, ?_⟩
    rw [name_eq]
    rcases before.1 with before | same
    · exact Decidable.byContradiction fun differs => free ⟨before, differs⟩
    · exact same
  · intro other free before
    exact absurd before free

private theorem fresh_achieves {Q : SymbolId → SymbolTable → Prop} {goOn : Resolve SymbolId}
    (settled : Settled (fun name => pending name ∨ name = qualifiedName) nothing table)
    (known : table.type? id = some s) (name_eq : s.qualifiedName = qualifiedName)
    (external : s.isExternal = true) (unlinked : s.superclass? = none)
    (goesOn : ∀ table', Leaves nothing table table' →
      Settled (fun name => pending name ∨ name = qualifiedName) nothing table' →
      table'.type? id = some { s with kind := .class } → Achieves goOn table' Q) :
    Achieves (if s.kind ≠ .class then change (·.setKind id .class) >>= fun _ => goOn else goOn)
      table Q := by
  split
  next other =>
    refine (setKind_achieves settled known name_eq external unlinked).bind ?_
    rintro _ table' ⟨leaves, settled', known'⟩
    exact goesOn table' leaves settled' known'
  next isClass =>
    have isClass : s.kind = .class := not_not.1 isClass
    have same : { s with kind := .class } = s := by rw [← isClass]
    exact goesOn _ (.refl _ _) settled (same.symm ▸ known)

/-- A mention in the place of a class leaves the type settled, and pending types above it. -/
theorem mentionClass_achieves (above : List String) {pending : String → Prop}
    {table : SymbolTable} {qualifiedName : String}
    (chain : Platform.superclasses qualifiedName = above)
    (settled : Settled pending nothing table) :
    Achieves (mentionClass qualifiedName above) table fun id table' =>
      Leaves nothing table table' ∧
        Settled (fun name => pending name ∧ name ≠ qualifiedName) nothing table' ∧
        table'.typeNamed? qualifiedName = some id ∧ AsClass table' id := by
  rw [Platform.superclasses_eq] at chain
  unfold mentionClass
  refine (mention_class_achieves settled qualifiedName).bind ?_
  rintro id table₁ ⟨leaves₁, settled₁, named₁, s, known₁, name_eq⟩
  apply Achieves.get_bind
  simp only [known₁]
  split
  next past =>
    -- `Object`, a type of this file, or a type that is linked already.
    have past : qualifiedName = Platform.object ∨ s.isExternal = false ∨
        ∃ parent, s.superclass? = some parent := by
      simpa [or_assoc, Option.isSome_iff_exists] using past
    refine .pure ⟨leaves₁, ready_of_done settled₁ known₁ named₁ ?_, named₁, s, known₁, ?_⟩
    · rintro external - notObject -
      rcases past with object | declared | linked
      · exact absurd object notObject
      · rw [external] at declared
        cases declared
      · exact linked
    · intro external
      rcases past with object | declared | ⟨parent, linked⟩
      · exact .inr (name_eq.trans object)
      · rw [external] at declared
        cases declared
      · exact .inl (settled₁.linked id s parent known₁ external linked).1
  next fresh =>
    have fresh : qualifiedName ≠ Platform.object ∧ s.isExternal = true ∧ s.superclass? = none := by
      simpa [and_assoc] using fresh
    obtain ⟨notObject, external, unlinked⟩ := fresh
    refine fresh_achieves settled₁ known₁ name_eq external unlinked ?_
    intro table₂ leaves₂ settled₂ known₂
    have named₂ := leaves₂.named _ _ named₁
    have leaves := leaves₁.trans leaves₂
    cases above with
    | nil =>
        refine .pure ⟨leaves, ready_of_done settled₂ known₂ named₂ ?_, named₂, _, known₂, ?_⟩
        · rintro - - - ⟨parent, onto⟩
          rw [onto] at chain
          cases chain
        · exact fun _ => .inl rfl
    | cons parent rest =>
        have onto : Platform.superclass? qualifiedName = some parent ∧
            Platform.superclasses parent = rest := by
          cases onto : Platform.superclass? qualifiedName with
          | none =>
              rw [onto] at chain
              cases chain
          | some upper =>
              rw [onto] at chain
              obtain ⟨rfl, rfl⟩ := List.cons.inj chain
              exact ⟨rfl, rfl⟩
        refine (mentionClass_achieves rest onto.2 settled₂).bind ?_
        rintro superclass table₃ ⟨leaves₃, settled₃, found₃, _⟩
        obtain ⟨s₃, known₃, becomes⟩ := leaves₃.becomes id _ known₂
        refine (setSuperclass_achieves settled₃ known₃ (becomes.qualifiedName.trans name_eq)
          (becomes.isExternal.trans external) (becomes.isClass rfl) notObject onto.1 found₃).bind ?_
        rintro _ table₄ ⟨leaves₄, settled₄, known₄⟩
        refine .pure ⟨(leaves.trans leaves₃).trans leaves₄, settled₄, ?_, _, known₄, ?_⟩
        · exact leaves₄.named _ _ (leaves₃.named _ _ named₂)
        · exact fun _ => .inl (becomes.isClass rfl)

end Mention

section Names

variable (scope : NameScope t) (table : SymbolTable) (d : Declared t)

def owner? : Option (Declared t) := d.enclosing?.bind (scope.types[·]?)

/-- The enumeration around, if the type is the body of a constant. -/
def constantOwner? : Option (Declared t) :=
  (owner? scope d).filter fun _ => d.node.parent?.any (·.rawKind == "enum_constant")

def createdName? : Option String :=
  (d.node.parent?.bind (·.childInField? "type")).map fun created =>
    scope.qualify (typeName created) ((owner? scope d).getD d)

def createdInterface? : Option String :=
  if d.kind = .class ∧ isAnonymous d.node ∧ constantOwner? scope d = none then
    (createdName? scope d).filter (isInterface table)
  else none

def anonymousSuperclassIn : Option SymbolId :=
  match constantOwner? scope d with
  | some owner => some owner.id
  | none =>
      match createdName? scope d with
      | some name => table.typeNamed? (if isInterface table name then Platform.object else name)
      | none => table.typeNamed? Platform.object

def superclassIn : Option SymbolId :=
  match d.kind with
  | .class =>
      if isAnonymous d.node then anonymousSuperclassIn scope table d
      else
        match d.node.childInField? "superclass" with
        | some clause =>
            (supertypes clause).head?.bind fun type =>
              table.typeNamed? (scope.qualify (typeName type) d)
        | none =>
            if d.qualifiedName = Platform.object then none else table.typeNamed? Platform.object
  | .enum => table.typeNamed? "java.lang.Enum"
  | .record => table.typeNamed? "java.lang.Record"
  | .interface | .annotationType => none

/-- Whether the declaration leaves the type a superclass. -/
def extending : Prop :=
  match d.kind with
  | .class =>
      isAnonymous d.node ∨
        match d.node.childInField? "superclass" with
        | some clause => supertypes clause ≠ []
        | none => d.qualifiedName ≠ Platform.object
  | .enum | .record => True
  | .interface | .annotationType => False

def clauseNames : List String :=
  match d.node.childOfKind? .superInterfaces with
  | some clause => (supertypes clause).map fun type => scope.qualify (typeName type) d
  | none => []

def annotationName? : Option String :=
  if d.kind = .annotationType then some "java.lang.annotation.Annotation" else none

def interfaceNames : List String :=
  (createdInterface? scope table d).toList ++ clauseNames scope d ++ (annotationName? d).toList

end Names

theorem superclassIn_of_named (scope : NameScope t) (table : SymbolTable) {d : Declared t}
    (isClass : d.kind = .class) (named : isAnonymous d.node = false) :
    superclassIn scope table d =
      match d.node.childInField? "superclass" with
      | some clause =>
          (supertypes clause).head?.bind fun type =>
            table.typeNamed? (scope.qualify (typeName type) d)
      | none =>
          if d.qualifiedName = Platform.object then none else table.typeNamed? Platform.object := by
  rw [superclassIn, isClass]
  dsimp only
  rw [if_neg (Bool.eq_false_iff.1 named)]

theorem extending_iff_of_named {d : Declared t} (isClass : d.kind = .class)
    (named : isAnonymous d.node = false) :
    extending d ↔
      match d.node.childInField? "superclass" with
      | some clause => supertypes clause ≠ []
      | none => d.qualifiedName ≠ Platform.object := by
  rw [extending, isClass]
  exact or_iff_right (Bool.eq_false_iff.1 named)

section Later

variable {table table' : SymbolTable} {own : SymbolId → Prop}

theorem declaredKind?_of_leaves (kept : table.Kept) (kept' : table'.Kept)
    (leaves : Leaves own table table') (name : String) :
    declaredKind? table' name = declaredKind? table name := by
  unfold declaredKind?
  cases found : table.typeNamed? name with
  | some id =>
      obtain ⟨s, known, _⟩ := kept.names.named name id found
      obtain ⟨s', next, becomes⟩ := leaves.becomes id s known
      simp only [leaves.named name id found, known, next, Option.bind_eq_bind, Option.bind_some]
      rw [becomes.isExternal]
      cases external : s.isExternal with
      | true => rfl
      | false =>
          rcases becomes.kind with same | ⟨other, _⟩
          · rw [same]
          · rw [external] at other
            cases other
  | none =>
      cases later : table'.typeNamed? name with
      | none => rfl
      | some id =>
          obtain ⟨s', next, name_eq⟩ := kept'.names.named name id later
          simp only [next, Option.bind_eq_bind, Option.bind_some, Option.bind_none]
          cases external : s'.isExternal with
          | true => rfl
          | false =>
              -- A type of this file was there before, and so was its name.
              obtain ⟨s, known⟩ := leaves.older id s' next external
              obtain ⟨_, same, becomes⟩ := leaves.becomes id s known
              cases next.symm.trans same
              obtain ⟨first, before⟩ := kept.names.complete id s known
              rw [← becomes.qualifiedName, name_eq, found] at before
              cases before

theorem isInterface_of_leaves (kept : table.Kept) (kept' : table'.Kept)
    (leaves : Leaves own table table') (name : String) :
    isInterface table' name = isInterface table name := by
  rw [isInterface, declaredKind?_of_leaves kept kept' leaves, isInterface]

theorem createdInterface?_of_leaves (kept : table.Kept) (kept' : table'.Kept)
    (leaves : Leaves own table table') (scope : NameScope t) (d : Declared t) :
    createdInterface? scope table' d = createdInterface? scope table d := by
  rw [createdInterface?, funext (isInterface_of_leaves kept kept' leaves), createdInterface?]

theorem interfaceNames_of_leaves (kept : table.Kept) (kept' : table'.Kept)
    (leaves : Leaves own table table') (scope : NameScope t) (d : Declared t) :
    interfaceNames scope table' d = interfaceNames scope table d := by
  rw [interfaceNames, createdInterface?_of_leaves kept kept' leaves, interfaceNames]

theorem map_typeNamed?_of_leaves {ids : List SymbolId} {names : List String}
    (leaves : Leaves own table table') (found : ids.map some = names.map table.typeNamed?) :
    ids.map some = names.map table'.typeNamed? := by
  induction ids generalizing names with
  | nil =>
      cases names with
      | nil => rfl
      | cons => cases found
  | cons id ids ih =>
      cases names with
      | nil => cases found
      | cons name names =>
          obtain ⟨first, rest⟩ := List.cons.inj found
          rw [List.map_cons, List.map_cons, ih rest, leaves.named name id first.symm]

def Lasting (P : SymbolTable → Prop) (table : SymbolTable) : Prop :=
  ∀ later, Leaves (fun _ => True) table later → later.Kept → P later

theorem Lasting.leaves {P : SymbolTable → Prop} (lasting : Lasting P table)
    (leaves : Leaves own table table') : Lasting P table' :=
  fun later next kept => lasting later ((leaves.mono fun _ _ => trivial).trans next) kept

theorem Lasting.now {P : SymbolTable → Prop} (lasting : Lasting P table) (kept : table.Kept) :
    P table :=
  lasting table (.refl _ _) kept

end Later

section Link

variable {scope : NameScope t} {d : Declared t} {base table : SymbolTable}
  {linked? : Option SymbolId} {names : List String}

/-- The type is being linked, and so far has the given superclass and interfaces. -/
structure Under (d : Declared t) (base : SymbolTable) (superclass? : Option SymbolId)
    (names : List String) (table : SymbolTable) : Prop where
  leaves : Leaves (· = d.id) base table
  settled : Settled nothing nothing table
  record : ∃ s, table.type? d.id = some s ∧ s.isExternal = false ∧ s.superclass? = superclass? ∧
    s.interfaces.map some = names.map table.typeNamed?

theorem Under.elsewhere {table' : SymbolTable} (under : Under d base linked? names table)
    (leaves : Leaves nothing table table') (settled : Settled nothing nothing table') :
    Under d base linked? names table' where
  leaves := under.leaves.trans (leaves.mono nofun)
  settled := settled
  record := by
    obtain ⟨s, known, declared, linked, lists⟩ := under.record
    exact ⟨s, leaves.same d.id s known declared nofun, declared, linked,
      map_typeNamed?_of_leaves leaves lists⟩

theorem Under.classNamed (under : Under d base linked? names table) (name : String) :
    Achieves (classNamed name) table fun id table' =>
      Under d base linked? names table' ∧ Leaves nothing table table' ∧
        table'.typeNamed? name = some id ∧ AsClass table' id := by
  apply (mentionClass_achieves _ rfl under.settled).imp
  rintro id table' ⟨leaves, settled, found, asClass⟩
  have settled : Settled nothing nothing table' :=
    settled.weaken fun _ _ _ _ _ before => before.1.elim
  exact ⟨under.elsewhere leaves settled, leaves, found, asClass⟩

theorem Under.setSuperclass (under : Under d base linked? names table) {parent : SymbolId}
    (target : ∃ r, table.type? parent = some r) :
    Achieves (change (·.setSuperclass d.id parent)) table fun _ table' =>
      Under d base (some parent) names table' ∧ Leaves (· = d.id) table table' := by
  obtain ⟨s, known, declared, linked, lists⟩ := under.record
  obtain ⟨table', made⟩ := exists_setSuperclass ⟨s, known⟩ target
  obtain ⟨_, o, amends⟩ := setSuperclass_amends made
  cases known.symm.trans amends.known
  have leaves : Leaves (· = d.id) table table' :=
    amends.leaves ⟨rfl, rfl, rfl, .inl rfl, List.prefix_rfl⟩ (.inr rfl)
  have foreign {P : Prop} (external : s.isExternal = true) : P := by
    rw [declared] at external
    cases external
  refine Achieves.change made ⟨⟨under.leaves.trans leaves, ?_, ?_⟩, leaves⟩
  · exact under.settled.amends amends (under.settled.kept.change (change_of_setSuperclass made))
      ⟨rfl, rfl, rfl, .inl rfl, List.prefix_rfl⟩ foreign foreign nofun nofun
  · exact ⟨_, amends.type?_self, declared, rfl, map_typeNamed?_of_leaves leaves lists⟩

def addInterface (d : Declared t) (name : String) : Resolve Unit :=
  mention name .interface >>= fun interface => change (·.addInterface d.id interface)

theorem Under.addInterface (under : Under d base linked? names table) (name : String) :
    Achieves (addInterface d name) table fun _ table' =>
      Under d base linked? (names ++ [name]) table' ∧ Leaves (· = d.id) table table' := by
  refine (mention_achieves under.settled.kept name .interface).bind ?_
  rintro interface table₁ ⟨⟨r, target, _⟩, found, mentioned⟩
  obtain ⟨leaves₁, settled₁⟩ : Leaves nothing table table₁ ∧
      Settled nothing (· = interface) table₁ := by
    rcases mentioned with rfl | ⟨s, enters, _, isInterface, rfl⟩
    · refine ⟨.refl _ _, ?_⟩
      have settled := under.settled
      exact ⟨settled.kept, settled.named, settled.linked, settled.settled,
        fun id s known external _ => settled.listed id s known external nofun⟩
    · refine ⟨enters.leaves _, under.settled.enters enters ?_ ?_⟩
      · intro other _
        refine ⟨nofun, fun _ isClass => ?_⟩
        rw [isInterface] at isClass
        cases isClass
      · exact fun id free => ⟨nofun, fun new => absurd new free⟩
  obtain ⟨s, before, declared, linked, lists⟩ := under.record
  have known := leaves₁.same d.id s before declared nofun
  obtain ⟨table₂, made⟩ := exists_addInterface ⟨s, known⟩ ⟨r, target⟩
  obtain ⟨_, o, amends⟩ := addInterface_amends made
  cases known.symm.trans amends.known
  have becomes : s.Becomes { s with interfaces := s.interfaces ++ [interface] } :=
    ⟨rfl, rfl, rfl, .inl rfl, List.prefix_append _ _⟩
  have leaves₂ : Leaves (· = d.id) table₁ table₂ := amends.leaves becomes (.inr rfl)
  have leaves : Leaves (· = d.id) table table₂ := (leaves₁.mono nofun).trans leaves₂
  have foreign {P : Prop} (external : s.isExternal = true) : P := by
    rw [declared] at external
    cases external
  refine Achieves.change made ⟨⟨under.leaves.trans leaves, ?_, ?_⟩, leaves⟩
  · refine settled₁.amends amends (settled₁.kept.change (change_of_addInterface made)) becomes
      foreign foreign nofun ?_
    rintro other - rfl
    exact List.mem_append_right _ (List.mem_singleton.2 rfl)
  · refine ⟨_, amends.type?_self, declared, linked, ?_⟩
    rw [List.map_append, List.map_append, map_typeNamed?_of_leaves leaves lists, List.map_singleton,
      List.map_singleton, leaves₂.named _ _ found]

def Held (scope : NameScope t) (table : SymbolTable) : Prop :=
  ∀ (i : Nat) (d : Declared t), scope.types[i]? = some d →
    ∃ s, table.type? d.id = some s ∧ s.isExternal = false

theorem Held.leaves {own : SymbolId → Prop} {table' : SymbolTable} (held : Held scope table)
    (leaves : Leaves own table table') : Held scope table' := by
  intro i d found
  obtain ⟨s, known, declared⟩ := held i d found
  obtain ⟨s', next, becomes⟩ := leaves.becomes d.id s known
  exact ⟨s', next, becomes.isExternal.trans declared⟩

theorem Held.constantOwner? (held : Held scope table) {owner : Declared t}
    (found : constantOwner? scope d = some owner) : AsClass table owner.id := by
  obtain ⟨around, _⟩ := Option.filter_eq_some_iff.1 found
  obtain ⟨i, _, there⟩ := Option.bind_eq_some_iff.1 around
  obtain ⟨s, known, declared⟩ := held i owner there
  refine ⟨s, known, ?_⟩
  intro external
  rw [declared] at external
  cases external

theorem anonymousSuperclass_eq (scope : NameScope t) (d : Declared t) :
    anonymousSuperclass scope d =
      match constantOwner? scope d with
      | some owner => pure owner.id
      | none =>
          match createdName? scope d with
          | none => objectClass
          | some name => get >>= fun table =>
              if isInterface table name then addInterface d name >>= fun _ => objectClass
              else classNamed name := by
  unfold anonymousSuperclass
  change (match constantOwner? scope d with
    | some owner => pure owner.id
    | none => _) = _
  cases constantOwner? scope d with
  | some owner => rfl
  | none =>
      unfold createdName? addInterface
      simp only [bind_assoc]
      cases d.node.parent?.bind (·.childInField? "type") <;> rfl

theorem Under.anonymousSuperclass (under : Under d base none [] table) (held : Held scope table)
    (isClass : d.kind = .class) (anonymous : isAnonymous d.node) :
    Achieves (anonymousSuperclass scope d) table fun id table' =>
      Under d base none (createdInterface? scope table d).toList table' ∧
        Lasting (fun later => anonymousSuperclassIn scope later d = some id) table' ∧
        AsClass table' id := by
  rw [anonymousSuperclass_eq]
  cases constant : constantOwner? scope d with
  | some owner =>
      have none : createdInterface? scope table d = none := by
        rw [createdInterface?, constant, if_neg]
        rintro ⟨_, _, impossible⟩
        cases impossible
      rw [none]
      refine .pure ⟨under, ?_, held.constantOwner? constant⟩
      intro later _ _
      rw [anonymousSuperclassIn, constant]
  | none =>
      have created_eq : createdInterface? scope table d =
          (createdName? scope d).filter (isInterface table) := by
        rw [createdInterface?, if_pos ⟨isClass, anonymous, constant⟩]
      rw [created_eq]
      dsimp only
      cases named : createdName? scope d with
      | none =>
          apply (under.classNamed Platform.object).imp
          rintro id table' ⟨under', _, found, asClass⟩
          refine ⟨under', ?_, asClass⟩
          intro later next _
          rw [anonymousSuperclassIn, constant, named]
          exact next.named _ _ found
      | some name =>
          apply Achieves.get_bind
          rw [Option.filter_some]
          cases interface : isInterface table name with
          | true =>
              refine (under.addInterface name).bind ?_
              rintro _ table₁ ⟨under₁, leaves₁⟩
              apply (under₁.classNamed Platform.object).imp
              rintro id table₂ ⟨under₂, leaves₂, found, asClass⟩
              have leaves := leaves₁.trans (leaves₂.mono nofun)
              refine ⟨under₂, ?_, asClass⟩
              intro later next kept
              have still : isInterface later name = true := by
                rw [isInterface_of_leaves under₂.settled.kept kept next,
                  isInterface_of_leaves under.settled.kept under₂.settled.kept leaves, interface]
              simp only [anonymousSuperclassIn, constant, named, still, if_true]
              exact next.named _ _ found
          | false =>
              apply (under.classNamed name).imp
              rintro id table' ⟨under', leaves, found, asClass⟩
              refine ⟨under', ?_, asClass⟩
              intro later next kept
              have still : isInterface later name = false := by
                rw [isInterface_of_leaves under'.settled.kept kept next,
                  isInterface_of_leaves under.settled.kept under'.settled.kept leaves, interface]
              simp only [anonymousSuperclassIn, constant, named, still]
              exact next.named _ _ found

/-- The superclass of the type is answered for good, and no more interfaces are listed than that of
a class without a name. -/
structure Ascends (scope : NameScope t) (d : Declared t) (base table : SymbolTable)
    (result : Option SymbolId) (table' : SymbolTable) : Prop where
  under : Under d base none (createdInterface? scope table d).toList table'
  lasting : Lasting (fun later => superclassIn scope later d = result) table'
  asClass : ∀ parent, result = some parent → AsClass table' parent
  found : extending d → ∃ parent, result = some parent

theorem createdInterface?_of_not {scope : NameScope t} {table : SymbolTable}
    (other : ¬(d.kind = .class ∧ isAnonymous d.node)) : createdInterface? scope table d = none :=
  if_neg fun all => other ⟨all.1, all.2.1⟩

private theorem Under.named (under : Under d base none [] table)
    (created : createdInterface? scope table d = none) {name : String}
    (goesBy : ∀ later : SymbolTable, superclassIn scope later d = later.typeNamed? name) :
    Achieves (some <$> Resolution.classNamed name) table (Ascends scope d base table) := by
  apply (under.classNamed name).map
  rintro id table' ⟨under', _, found, asClass⟩
  refine ⟨created.symm ▸ under', ?_, ?_, fun _ => ⟨id, rfl⟩⟩
  · intro later next _
    rw [goesBy]
    exact next.named _ _ found
  · rintro _ ⟨⟩
    exact asClass

private theorem Under.unnamed (under : Under d base none [] table)
    (created : createdInterface? scope table d = none)
    (rootless : ∀ later : SymbolTable, superclassIn scope later d = none) (top : ¬extending d) :
    Achieves (pure none : Resolve (Option SymbolId)) table (Ascends scope d base table) := by
  refine .pure ⟨created.symm ▸ under, fun later _ _ => rootless later, ?_, ?_⟩
  · rintro _ ⟨⟩
  · exact fun extends' => absurd extends' top

theorem Under.superclass? (under : Under d base none [] table) (held : Held scope table) :
    Achieves (Resolution.superclass? scope d) table (Ascends scope d base table) := by
  unfold Resolution.superclass?
  cases kind : d.kind with
  | «class» =>
      dsimp only
      cases anonymous : isAnonymous d.node with
      | true =>
          apply (under.anonymousSuperclass held kind anonymous).map
          rintro id table' ⟨under', lasting, asClass⟩
          refine ⟨under', ?_, ?_, fun _ => ⟨id, rfl⟩⟩
          · intro later next kept
            rw [superclassIn, kind]
            dsimp only
            rw [if_pos anonymous]
            exact lasting later next kept
          · rintro _ ⟨⟩
            exact asClass
      | false =>
          have created : createdInterface? scope table d = none := by
            apply createdInterface?_of_not
            rintro ⟨_, impossible⟩
            rw [anonymous] at impossible
            cases impossible
          have outright (later : SymbolTable) := superclassIn_of_named scope later kind anonymous
          have extending_iff := extending_iff_of_named kind anonymous
          rw [if_neg Bool.false_ne_true]
          cases extended : d.node.childInField? "superclass" with
          | some clause =>
              dsimp only
              cases listed : supertypes clause with
              | nil =>
                  apply under.unnamed created
                  · intro later
                    rw [outright, extended]
                    dsimp only
                    rw [listed]
                    rfl
                  · rw [extending_iff, extended]
                    exact not_not_intro listed
              | cons type rest =>
                  apply under.named created
                  intro later
                  rw [outright, extended]
                  dsimp only
                  rw [listed]
                  rfl
          | none =>
              dsimp only
              split
              next isObject =>
                apply under.unnamed created
                · intro later
                  rw [outright, extended]
                  exact if_pos isObject
                · rw [extending_iff, extended]
                  exact not_not_intro isObject
              next notObject =>
                apply under.named created
                intro later
                rw [outright, extended]
                exact if_neg notObject
  | interface | annotationType =>
      have created : createdInterface? scope table d = none := by
        apply createdInterface?_of_not
        rintro ⟨impossible, _⟩
        rw [kind] at impossible
        cases impossible
      apply under.unnamed created
      · intro later
        rw [superclassIn, kind]
      · rw [extending, kind]
        exact not_false
  | enum | record =>
      have created : createdInterface? scope table d = none := by
        apply createdInterface?_of_not
        rintro ⟨impossible, _⟩
        rw [kind] at impossible
        cases impossible
      exact under.named created fun later => by rw [superclassIn, kind]

theorem Under.addInterfaces (under : Under d base linked? names table) (types : List t.Node) :
    Achieves (addInterfaces scope d types) table fun _ table' =>
      Under d base linked?
          (names ++ types.map fun type => scope.qualify (typeName type) d) table' ∧
        Leaves (· = d.id) table table' := by
  induction types generalizing names table with
  | nil =>
      rw [Resolution.addInterfaces, List.map_nil, List.append_nil]
      exact .pure ⟨under, .refl _ _⟩
  | cons type rest ih =>
      rw [Resolution.addInterfaces, List.map_cons, List.append_cons]
      change Achieves (mention _ .interface >>= fun made =>
        change (·.addInterface d.id made) >>= fun _ => Resolution.addInterfaces scope d rest) _ _
      rw [← bind_assoc]
      refine (under.addInterface _).bind ?_
      rintro _ table₁ ⟨under₁, leaves₁⟩
      apply (ih under₁).imp
      rintro _ table₂ ⟨under₂, leaves₂⟩
      exact ⟨under₂, leaves₁.trans leaves₂⟩

def clauseTypes (d : Declared t) : List t.Node :=
  ((d.node.childOfKind? .superInterfaces).map supertypes).getD []

theorem clauseNames_eq (scope : NameScope t) (d : Declared t) :
    clauseNames scope d = (clauseTypes d).map fun type => scope.qualify (typeName type) d := by
  rw [clauseNames, clauseTypes]
  cases d.node.childOfKind? .superInterfaces <;> rfl

theorem linkSupertypes_eq (scope : NameScope t) (d : Declared t) :
    linkSupertypes scope d =
      superclass? scope d >>= fun parent? =>
        (match parent? with
          | some parent => change (·.setSuperclass d.id parent)
          | none => pure ()) >>= fun _ =>
        addInterfaces scope d (clauseTypes d) >>= fun _ =>
        match annotationName? d with
        | some name => addInterface d name
        | none => pure () := by
  unfold linkSupertypes clauseTypes annotationName? addInterface
  apply bind_congr
  intro parent?
  by_cases annotation : d.kind = .annotationType
  · simp only [if_pos annotation]
    cases parent? <;> cases d.node.childOfKind? .superInterfaces <;> rfl
  · simp only [if_neg annotation]
    cases parent? <;> cases d.node.childOfKind? .superInterfaces <;> rfl

/-- The symbol has the links of the type's declaration, and keeps them. -/
structure Linked (scope : NameScope t) (d : Declared t) (table : SymbolTable) (s : TypeSymbol) :
    Prop where
  known : table.type? d.id = some s
  declared : s.isExternal = false
  superclass : Lasting (fun later => superclassIn scope later d = s.superclass?) table
  interfaces : s.interfaces.map some = (interfaceNames scope table d).map table.typeNamed?
  asClass : ∀ parent, s.superclass? = some parent → AsClass table parent
  found : extending d → ∃ parent, s.superclass? = some parent

def Tied (scope : NameScope t) (d : Declared t) (table : SymbolTable) : Prop :=
  ∃ s, Linked scope d table s

theorem Linked.leaves {own : SymbolId → Prop} {table' : SymbolTable} {s s' : TypeSymbol}
    (linked : Linked scope d table s) (kept : table.Kept) (kept' : table'.Kept)
    (leaves : Leaves own table table') (known : table'.type? d.id = some s')
    (declared : s'.isExternal = false) (superclass : s'.superclass? = s.superclass?)
    (interfaces : s'.interfaces = s.interfaces) : Linked scope d table' s' where
  known := known
  declared := declared
  superclass := superclass ▸ linked.superclass.leaves leaves
  interfaces := by
    rw [interfaces, interfaceNames_of_leaves kept kept' leaves]
    exact map_typeNamed?_of_leaves leaves linked.interfaces
  asClass := by
    intro parent stored
    exact (linked.asClass parent (superclass ▸ stored)).leaves leaves
  found := superclass ▸ linked.found

theorem Tied.leaves {own : SymbolId → Prop} {table' : SymbolTable} (tied : Tied scope d table)
    (kept : table.Kept) (kept' : table'.Kept) (leaves : Leaves own table table')
    (other : ¬own d.id) : Tied scope d table' := by
  obtain ⟨s, linked⟩ := tied
  have known := leaves.same d.id s linked.known linked.declared other
  exact ⟨s, linked.leaves kept kept' leaves known linked.declared rfl rfl⟩

theorem linkSupertypes_achieves (under : Under d table none [] table) (held : Held scope table) :
    Achieves (linkSupertypes scope d) table fun _ table' =>
      Leaves (· = d.id) table table' ∧ Settled nothing nothing table' ∧ Tied scope d table' := by
  rw [linkSupertypes_eq]
  refine (under.superclass? held).bind ?_
  intro parent? table₁ ascends
  have linked : Achieves (match parent? with
      | some parent => change (·.setSuperclass d.id parent)
      | none => pure ()) table₁ fun _ table' =>
          Under d table parent? (createdInterface? scope table d).toList table' ∧
            Leaves (· = d.id) table₁ table' := by
    cases parent? with
    | none => exact .pure ⟨ascends.under, .refl _ _⟩
    | some parent =>
        obtain ⟨r, target, _⟩ := ascends.asClass parent rfl
        exact ascends.under.setSuperclass ⟨r, target⟩
  refine linked.bind ?_
  rintro _ table₂ ⟨under₂, leaves₂⟩
  refine (under₂.addInterfaces (clauseTypes d)).bind ?_
  rintro _ table₃ ⟨under₃, leaves₃⟩
  have annotated : Achieves (match annotationName? d with
      | some name => addInterface d name
      | none => pure ()) table₃ fun _ table' =>
          Under d table parent? (interfaceNames scope table d) table' ∧
            Leaves (· = d.id) table₃ table' := by
    rw [interfaceNames, clauseNames_eq]
    cases annotationName? d with
    | none =>
        rw [Option.toList_none, List.append_nil]
        exact .pure ⟨under₃, .refl _ _⟩
    | some name => exact under₃.addInterface name
  apply annotated.imp
  rintro _ table₄ ⟨under₄, leaves₄⟩
  have leaves := (leaves₂.trans leaves₃).trans leaves₄
  refine ⟨under₄.leaves, under₄.settled, ?_⟩
  obtain ⟨s, known, declared, superclass, lists⟩ := under₄.record
  refine ⟨s, known, declared, ?_, ?_, ?_, superclass ▸ ascends.found⟩
  · rw [superclass]
    exact ascends.lasting.leaves leaves
  · rw [interfaceNames_of_leaves under.settled.kept under₄.settled.kept under₄.leaves]
    exact lists
  · intro parent stored
    rw [superclass] at stored
    exact (ascends.asClass parent stored).leaves leaves

theorem forM_linkSupertypes_achieves (types : List (Declared t)) {table : SymbolTable}
    (differ : types.Pairwise fun a b => a.id ≠ b.id)
    (settled : Settled nothing nothing table) (held : Held scope table)
    (bare : ∀ d ∈ types, table.type? d.id = some d.bare) :
    Achieves (types.forM (linkSupertypes scope)) table fun _ table' =>
      Leaves (fun id => ∃ d ∈ types, id = d.id) table table' ∧ Settled nothing nothing table' ∧
        ∀ d ∈ types, Tied scope d table' := by
  induction types generalizing table with
  | nil => exact .pure ⟨.refl _ _, settled, nofun⟩
  | cons d rest ih =>
      obtain ⟨others, differ⟩ := List.pairwise_cons.1 differ
      have under : Under d table none [] table :=
        ⟨.refl _ _, settled, _, bare d (List.mem_cons_self ..), rfl, rfl, rfl⟩
      refine (linkSupertypes_achieves under held).bind ?_
      rintro _ table₁ ⟨leaves₁, settled₁, tied⟩
      have bare₁ : ∀ other ∈ rest, table₁.type? other.id = some other.bare := by
        intro other member
        exact leaves₁.same _ _ (bare other (List.mem_cons_of_mem _ member)) rfl
          (others other member).symm
      apply (ih differ settled₁ (held.leaves leaves₁) bare₁).imp
      rintro _ table₂ ⟨leaves₂, settled₂, tiedAll⟩
      refine ⟨?_, settled₂, ?_⟩
      · apply (leaves₁.mono _).trans (leaves₂.mono _)
        · rintro _ rfl
          exact ⟨d, List.mem_cons_self .., rfl⟩
        · rintro _ ⟨other, member, same⟩
          exact ⟨other, List.mem_cons_of_mem _ member, same⟩
      · intro other member
        rcases List.mem_cons.1 member with rfl | later
        · apply tied.leaves settled₁.kept settled₂.kept leaves₂
          rintro ⟨second, later, same⟩
          exact others second later same
        · exact tiedAll other later

end Link

end TreeLint.Java.Resolution

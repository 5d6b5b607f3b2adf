import TreeLint.Proofs.Coherence
import TreeLint.Proofs.Platform

/-! What linking leaves alone in a table, and what it keeps true of the types of other files. -/

namespace TreeLint

/-- A type of another file may turn out to be a class; else only links change. -/
structure TypeSymbol.Becomes (s s' : TypeSymbol) : Prop where
  name : s'.name = s.name
  qualifiedName : s'.qualifiedName = s.qualifiedName
  declaration? : s'.declaration? = s.declaration?
  kind : s'.kind = s.kind ∨ s.isExternal = true ∧ s'.kind = .class
  interfaces : s.interfaces <+: s'.interfaces

namespace TypeSymbol.Becomes

variable {s s' s'' : TypeSymbol}

theorem refl (s : TypeSymbol) : s.Becomes s := ⟨rfl, rfl, rfl, .inl rfl, List.prefix_rfl⟩

theorem isExternal (becomes : s.Becomes s') : s'.isExternal = s.isExternal := by
  rw [TypeSymbol.isExternal, becomes.declaration?, TypeSymbol.isExternal]

theorem trans (first : s.Becomes s') (second : s'.Becomes s'') : s.Becomes s'' where
  name := second.name.trans first.name
  qualifiedName := second.qualifiedName.trans first.qualifiedName
  declaration? := second.declaration?.trans first.declaration?
  kind := by
    rcases second.kind with same | ⟨external, isClass⟩
    · rw [same]
      exact first.kind
    · exact .inr ⟨first.isExternal ▸ external, isClass⟩
  interfaces := first.interfaces.trans second.interfaces

theorem isClass (becomes : s.Becomes s') (isClass : s.kind = .class) : s'.kind = .class := by
  rcases becomes.kind with same | ⟨_, now⟩
  · exact same.trans isClass
  · exact now

end TypeSymbol.Becomes

namespace SymbolTable

variable {table table' table'' : SymbolTable}

/-- From the first table to the second, types of this file stay as they are, but for the given
ones, and types of other files may be added. -/
structure Leaves (own : SymbolId → Prop) (table table' : SymbolTable) : Prop where
  becomes : ∀ id s, table.type? id = some s → ∃ s', table'.type? id = some s' ∧ s.Becomes s'
  same : ∀ id s, table.type? id = some s → s.isExternal = false → ¬own id →
    table'.type? id = some s
  older : ∀ id s', table'.type? id = some s' → s'.isExternal = false →
    ∃ s, table.type? id = some s
  named : ∀ name id, table.typeNamed? name = some id → table'.typeNamed? name = some id

namespace Leaves

variable {own own' : SymbolId → Prop}

theorem refl (own : SymbolId → Prop) (table : SymbolTable) : Leaves own table table where
  becomes := fun _ s known => ⟨s, known, .refl s⟩
  same := fun _ _ known _ _ => known
  older := fun _ s known _ => ⟨s, known⟩
  named := fun _ _ known => known

theorem trans (first : Leaves own table table') (second : Leaves own table' table'') :
    Leaves own table table'' where
  becomes := by
    intro id s known
    obtain ⟨s', next, becomes⟩ := first.becomes id s known
    obtain ⟨s'', last, further⟩ := second.becomes id s' next
    exact ⟨s'', last, becomes.trans further⟩
  same := by
    intro id s known declared other
    exact second.same id s (first.same id s known declared other) declared other
  older := by
    intro id s'' known declared
    obtain ⟨s', between⟩ := second.older id s'' known declared
    obtain ⟨other, last, becomes⟩ := second.becomes id s' between
    cases known.symm.trans last
    exact first.older id s' between (becomes.isExternal ▸ declared)
  named := fun name id known => second.named name id (first.named name id known)

theorem mono (leaves : Leaves own table table') (wider : ∀ id, own id → own' id) :
    Leaves own' table table' where
  becomes := leaves.becomes
  same := fun id s known declared other => leaves.same id s known declared (mt (wider id) other)
  older := leaves.older
  named := leaves.named

end Leaves

/-- One more type, without links and members, of a name that no type had. -/
structure Enters (table : SymbolTable) (s : TypeSymbol) (table' : SymbolTable) : Prop where
  appends : table.Appends (.type s) table'
  external : s.isExternal = true
  supertypes : s.supertypes = []
  members : s.members = []
  absent : table.typeNamed? s.qualifiedName = none
  named : ∀ name, table'.typeNamed? name =
    if name = s.qualifiedName then some ⟨table.size⟩ else table.typeNamed? name

namespace Enters

variable {s : TypeSymbol}

theorem change (enters : table.Enters s table') : Change table table' := by
  refine .declares s enters.supertypes enters.members enters.appends ?_
  intro name
  rw [enters.named]
  split
  next same => rw [same, enters.absent, Option.none_or]
  next => rfl

theorem leaves (enters : table.Enters s table') (own : SymbolId → Prop) :
    Leaves own table table' where
  becomes := fun _ r known => ⟨r, enters.appends.type?_of_found known, .refl r⟩
  same := fun _ _ known _ _ => enters.appends.type?_of_found known
  older := by
    intro id r known declared
    rcases enters.appends.new_or_found known with ⟨_, rfl⟩ | old
    · rw [enters.external] at declared
      cases declared
    · exact ⟨r, old⟩
  named := by
    intro name id known
    rw [enters.named, if_neg, known]
    rintro rfl
    rw [enters.absent] at known
    cases known

theorem type?_new (enters : table.Enters s table') : table'.type? ⟨table.size⟩ = some s := by
  rw [enters.appends.type?, if_pos rfl]
  rfl

end Enters

theorem Amends.typeNamed? {id : SymbolId} {s s' : TypeSymbol} (amends : table.Amends id s s' table')
    (name : String) : table'.typeNamed? name = table.typeNamed? name := by
  rw [SymbolTable.typeNamed?, amends.byQualifiedName, SymbolTable.typeNamed?]

theorem Amends.type?_self {id : SymbolId} {s s' : TypeSymbol}
    (amends : table.Amends id s s' table') : table'.type? id = some s' := by
  rw [amends.type?, if_pos rfl]

theorem Amends.type?_other {id other : SymbolId} {s s' : TypeSymbol}
    (amends : table.Amends id s s' table') (differs : other ≠ id) :
    table'.type? other = table.type? other := by
  rw [amends.type?, if_neg differs]

theorem Amends.leaves {id : SymbolId} {s s' : TypeSymbol} {own : SymbolId → Prop}
    (amends : table.Amends id s s' table') (becomes : s.Becomes s')
    (allowed : s.isExternal = true ∨ own id) : Leaves own table table' where
  becomes := by
    intro other r known
    by_cases here : other = id
    · subst here
      cases amends.known.symm.trans known
      exact ⟨s', amends.type?_self, becomes⟩
    · exact ⟨r, (amends.type?_other here).trans known, .refl r⟩
  same := by
    intro other r known declared foreign
    by_cases here : other = id
    · subst here
      cases amends.known.symm.trans known
      rcases allowed with external | mine
      · rw [external] at declared
        cases declared
      · exact absurd mine foreign
    · exact (amends.type?_other here).trans known
  older := by
    intro other r known _
    by_cases here : other = id
    · subst here
      exact ⟨s, amends.known⟩
    · exact ⟨r, (amends.type?_other here).symm.trans known⟩
  named := fun name other known => (amends.typeNamed? name).trans known

/-- Every type of another file is found by its name.  If it is a class it has the superclass that
is known of it, unless that is pending, and else it is listed as an interface, unless that is
awaited. -/
structure Settled (pending : String → Prop) (awaited : SymbolId → Prop) (table : SymbolTable) :
    Prop where
  kept : table.Kept
  named : ∀ id s, table.type? id = some s → s.isExternal = true →
    table.typeNamed? s.qualifiedName = some id
  linked : ∀ id s parent, table.type? id = some s → s.isExternal = true →
    s.superclass? = some parent → s.kind = .class ∧ s.qualifiedName ≠ Java.Platform.object ∧
      ∃ above, Java.Platform.superclass? s.qualifiedName = some above ∧
        table.typeNamed? above = some parent
  settled : ∀ id s above, table.type? id = some s → s.isExternal = true →
    ¬pending s.qualifiedName → s.kind = .class → s.qualifiedName ≠ Java.Platform.object →
    Java.Platform.superclass? s.qualifiedName = some above → ∃ parent, s.superclass? = some parent
  listed : ∀ id s, table.type? id = some s → s.isExternal = true → ¬awaited id →
    s.kind = .class ∨ ∃ other o, table.type? other = some o ∧ id ∈ o.interfaces

def nothing : α → Prop := fun _ => False

namespace Settled

variable {pending pending' : String → Prop} {awaited awaited' : SymbolId → Prop} {s s' : TypeSymbol}

theorem enters (settled : Settled pending awaited table) (enters : table.Enters s table')
    (pends : ∀ name, ¬pending' name →
      ¬pending name ∧ (name = s.qualifiedName → s.kind ≠ .class))
    (awaits : ∀ id, ¬awaited' id → ¬awaited id ∧ (id = ⟨table.size⟩ → s.kind = .class)) :
    Settled pending' awaited' table' := by
  have leaves := enters.leaves nothing
  have unlinked : s.superclass? = none := by
    have none : s.superclass?.toList = [] := (List.append_eq_nil_iff.1 enters.supertypes).1
    simpa using none
  refine ⟨settled.kept.change enters.change, ?_, ?_, ?_, ?_⟩
  · intro id r known external
    rcases enters.appends.new_or_found known with ⟨rfl, rfl⟩ | old
    · rw [enters.named, if_pos rfl]
    · exact leaves.named _ _ (settled.named id r old external)
  · intro id r parent known external stored
    rcases enters.appends.new_or_found known with ⟨_, rfl⟩ | old
    · rw [unlinked] at stored
      cases stored
    · obtain ⟨isClass, notObject, above, onto, found⟩ :=
        settled.linked id r parent old external stored
      exact ⟨isClass, notObject, above, onto, leaves.named _ _ found⟩
  · intro id r above known external ready isClass
    obtain ⟨before, other⟩ := pends _ ready
    rcases enters.appends.new_or_found known with ⟨_, rfl⟩ | old
    · exact absurd isClass (other rfl)
    · exact settled.settled id r above old external before isClass
  · intro id r known external ready
    obtain ⟨before, other⟩ := awaits _ ready
    rcases enters.appends.new_or_found known with ⟨rfl, rfl⟩ | old
    · exact .inl (other rfl)
    · rcases settled.listed id r old external before with isClass | ⟨lister, o, there, lists⟩
      · exact .inl isClass
      · exact .inr ⟨lister, o, enters.appends.type?_of_found there, lists⟩

theorem amends {id : SymbolId} (settled : Settled pending awaited table)
    (amends : table.Amends id s s' table') (kept : table'.Kept) (becomes : s.Becomes s')
    (linked : s.isExternal = true → ∀ parent, s'.superclass? = some parent →
      s'.kind = .class ∧ s.qualifiedName ≠ Java.Platform.object ∧
        ∃ above, Java.Platform.superclass? s.qualifiedName = some above ∧
          table.typeNamed? above = some parent)
    (ready : s.isExternal = true → ∀ above, ¬pending' s.qualifiedName → s'.kind = .class →
      s.qualifiedName ≠ Java.Platform.object →
      Java.Platform.superclass? s.qualifiedName = some above →
      ∃ parent, s'.superclass? = some parent)
    (pends : ∀ name, ¬pending' name → pending name →
      s.isExternal = true ∧ name = s.qualifiedName)
    (awaits : ∀ other, ¬awaited' other → awaited other → other ∈ s'.interfaces) :
    Settled pending' awaited' table' := by
  refine ⟨kept, ?_, ?_, ?_, ?_⟩
  · intro other r known external
    rw [amends.typeNamed?]
    rw [amends.type?] at known
    split at known
    next here =>
      cases known
      rw [here, becomes.qualifiedName]
      exact settled.named id s amends.known (becomes.isExternal ▸ external)
    next => exact settled.named other r known external
  · intro other r parent known external stored
    rw [amends.type?] at known
    split at known
    next here =>
      cases known
      obtain ⟨isClass, notObject, above, onto, found⟩ :=
        linked (becomes.isExternal ▸ external) parent stored
      rw [becomes.qualifiedName]
      exact ⟨isClass, notObject, above, onto, (amends.typeNamed? above).trans found⟩
    next =>
      obtain ⟨isClass, notObject, above, onto, found⟩ :=
        settled.linked other r parent known external stored
      exact ⟨isClass, notObject, above, onto, (amends.typeNamed? above).trans found⟩
  · intro other r above known external free isClass notObject onto
    rw [amends.type?] at known
    split at known
    next here =>
      cases known
      rw [becomes.qualifiedName] at free notObject onto
      exact ready (becomes.isExternal ▸ external) above free isClass notObject onto
    next elsewhere =>
      by_cases before : pending r.qualifiedName
      · obtain ⟨isExternal, same⟩ := pends _ free before
        -- Only one type of another file has the name.
        have one := settled.named other r known external
        rw [same, settled.named id s amends.known isExternal] at one
        exact absurd (Option.some.inj one).symm elsewhere
      · exact settled.settled other r above known external before isClass notObject onto
  · intro other r known external free
    have still (lister : SymbolId) (o : TypeSymbol) (there : table.type? lister = some o)
        (lists : other ∈ o.interfaces) :
        ∃ lister o, table'.type? lister = some o ∧ other ∈ o.interfaces := by
      by_cases here : lister = id
      · subst here
        cases amends.known.symm.trans there
        exact ⟨lister, s', amends.type?_self, becomes.interfaces.subset lists⟩
      · exact ⟨lister, o, (amends.type?_other here).trans there, lists⟩
    by_cases before : awaited other
    · exact .inr ⟨id, s', amends.type?_self, awaits other free before⟩
    · rw [amends.type?] at known
      split at known
      next here =>
        cases known
        subst here
        rcases settled.listed other s amends.known (becomes.isExternal ▸ external) before with
          isClass | ⟨lister, o, there, lists⟩
        · exact .inl (becomes.isClass isClass)
        · exact .inr (still lister o there lists)
      next =>
        rcases settled.listed other r known external before with
          isClass | ⟨lister, o, there, lists⟩
        · exact .inl isClass
        · exact .inr (still lister o there lists)

theorem weaken (settled : Settled pending awaited table)
    (ready : ∀ id s above, table.type? id = some s → s.isExternal = true →
      pending s.qualifiedName → ¬pending' s.qualifiedName → s.kind = .class →
      s.qualifiedName ≠ Java.Platform.object →
      Java.Platform.superclass? s.qualifiedName = some above →
      ∃ parent, s.superclass? = some parent) :
    Settled pending' awaited table where
  kept := settled.kept
  named := settled.named
  linked := settled.linked
  settled := by
    intro id s above known external free isClass notObject onto
    by_cases before : pending s.qualifiedName
    · exact ready id s above known external before free isClass notObject onto
    · exact settled.settled id s above known external before isClass notObject onto
  listed := settled.listed

theorem of_declared (kept : table.Kept)
    (declared : ∀ id s, table.type? id = some s → s.isExternal = false) :
    Settled pending awaited table := by
  have absurd {id : SymbolId} {s : TypeSymbol} {P : Prop} (known : table.type? id = some s)
      (external : s.isExternal = true) : P := by
    rw [declared id s known] at external
    cases external
  exact ⟨kept, fun _ _ known external => absurd known external,
    fun _ _ _ known external => absurd known external,
    fun _ _ _ known external => absurd known external,
    fun _ _ known external => absurd known external⟩

end Settled

end SymbolTable

end TreeLint

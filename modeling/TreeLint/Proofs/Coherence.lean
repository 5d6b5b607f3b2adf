import Mathlib.Data.List.Nodup
import TreeLint.Proofs.TableCalls

/-! Whatever is called, the links, members and indices of a symbol table agree with its symbols. -/

namespace TreeLint.SymbolTable

variable {table table' : SymbolTable}

theorem Appends.type? {symbol : Symbol} (appends : table.Appends symbol table') (id : SymbolId) :
    table'.type? id = if id = ⟨table.size⟩ then symbol.type? else table.type? id := by
  rw [SymbolTable.type?, appends.symbol?]
  split <;> rfl

theorem Amends.type? {id : SymbolId} {s s' : TypeSymbol} (amends : table.Amends id s s' table')
    (other : SymbolId) :
    table'.type? other = if other = id then some s' else table.type? other := by
  rw [SymbolTable.type?, amends.symbol?]
  split <;> rfl

@[simp] theorem type?_size (table : SymbolTable) : table.type? ⟨table.size⟩ = none := by
  rw [SymbolTable.type?, symbol?_size]
  rfl

theorem lt_size_of_type? {id : SymbolId} {s : TypeSymbol} (known : table.type? id = some s) :
    id.number < table.size :=
  lt_size_of_symbol? (type?_eq_some_iff.1 known)

theorem type?_of_owned {symbol : Symbol} {owner : SymbolId} (owned : symbol.owner? = some owner) :
    symbol.type? = none := by
  cases symbol with
  | type s => cases owned
  | method s => rfl
  | value s => rfl

theorem Appends.type?_of_owned {symbol : Symbol} {owner : SymbolId}
    (appends : table.Appends symbol table') (owned : symbol.owner? = some owner) (id : SymbolId) :
    table'.type? id = table.type? id := by
  rw [appends.type?]
  split
  next here => rw [here, type?_size, SymbolTable.type?_of_owned owned]
  next => rfl

theorem Appends.symbol?_of_found {symbol old : Symbol} (appends : table.Appends symbol table')
    {id : SymbolId} (found : table.symbol? id = some old) : table'.symbol? id = some old := by
  have := lt_size_of_symbol? found
  rw [appends.symbol?, if_neg, found]
  rintro rfl
  exact Nat.lt_irrefl _ this

theorem Appends.type?_of_found {symbol : Symbol} (appends : table.Appends symbol table')
    {id : SymbolId} {s : TypeSymbol} (found : table.type? id = some s) :
    table'.type? id = some s :=
  type?_eq_some_iff.2 (appends.symbol?_of_found (type?_eq_some_iff.1 found))

theorem Appends.known {symbol : Symbol} (appends : table.Appends symbol table') {id : SymbolId}
    (known : ∃ s, table.type? id = some s) : ∃ s, table'.type? id = some s := by
  obtain ⟨s, found⟩ := known
  exact ⟨s, appends.type?_of_found found⟩

theorem Appends.new_or_found {s r : TypeSymbol} (appends : table.Appends (.type s) table')
    {id : SymbolId} (found : table'.type? id = some r) :
    (id = ⟨table.size⟩ ∧ r = s) ∨ table.type? id = some r := by
  rw [appends.type?] at found
  split at found
  next here =>
    cases found
    exact .inl ⟨here, rfl⟩
  next => exact .inr found

theorem Amends.known_of_known {id other : SymbolId} {s s' : TypeSymbol}
    (amends : table.Amends id s s' table') (known : ∃ r, table.type? other = some r) :
    ∃ r, table'.type? other = some r := by
  rw [amends.type?]
  split
  · exact ⟨s', rfl⟩
  · exact known

def Linked (table : SymbolTable) : Prop :=
  ∀ id s, table.type? id = some s → ∀ parent ∈ s.supertypes, ∃ r, table.type? parent = some r

theorem Linked.appends {symbol : Symbol} (linked : table.Linked)
    (appends : table.Appends symbol table')
    (bare : ∀ s, symbol.type? = some s → s.supertypes = []) : table'.Linked := by
  intro id s found parent member
  rw [appends.type?] at found
  split at found
  · rw [bare s found] at member
    cases member
  · exact appends.known (linked id s found parent member)

theorem Linked.amends {id : SymbolId} {s s' : TypeSymbol} (linked : table.Linked)
    (amends : table.Amends id s s' table')
    (known : ∀ parent ∈ s'.supertypes, parent ∈ s.supertypes ∨ ∃ r, table.type? parent = some r) :
    table'.Linked := by
  intro other r found parent member
  apply amends.known_of_known
  rw [amends.type?] at found
  split at found
  · cases found
    rcases known parent member with old | new
    · exact linked id s amends.known parent old
    · exact new
  · exact linked other r found parent member

theorem Linked.enrols {owner : SymbolId} {symbol : Symbol} (linked : table.Linked)
    (owned : symbol.owner? = some owner) (enrols : table.Enrols owner symbol table') :
    table'.Linked := by
  obtain ⟨_, between, s, appends, _, amends⟩ := enrols
  have between_linked : between.Linked := by
    apply linked.appends appends
    intro r isType
    rw [type?_of_owned owned] at isType
    cases isType
  apply between_linked.amends amends
  intro parent member
  exact .inl member

structure NamesIndexed (table : SymbolTable) : Prop where
  named : ∀ name id, table.typeNamed? name = some id →
    ∃ s, table.type? id = some s ∧ s.qualifiedName = name
  earliest : ∀ name id, table.typeNamed? name = some id → ∀ other s, table.type? other = some s →
    s.qualifiedName = name → id.number ≤ other.number
  complete : ∀ id s, table.type? id = some s →
    ∃ first, table.typeNamed? s.qualifiedName = some first

theorem NamesIndexed.of_same_names (indexed : table.NamesIndexed)
    (index : ∀ name, table'.typeNamed? name = table.typeNamed? name)
    (same : ∀ id, (table'.type? id).map (·.qualifiedName) =
      (table.type? id).map (·.qualifiedName)) : table'.NamesIndexed := by
  have before {id : SymbolId} {s : TypeSymbol} (found : table'.type? id = some s) :
      ∃ r, table.type? id = some r ∧ r.qualifiedName = s.qualifiedName := by
    have names := same id
    rw [found] at names
    exact Option.map_eq_some_iff.1 names.symm
  constructor
  · intro name id found
    rw [index] at found
    obtain ⟨s, known, rfl⟩ := indexed.named name id found
    have names := same id
    rw [known] at names
    exact Option.map_eq_some_iff.1 names
  · intro name id found other s known sameName
    rw [index] at found
    obtain ⟨r, old, rname⟩ := before known
    exact indexed.earliest name id found other r old (rname.trans sameName)
  · intro id s known
    obtain ⟨r, old, rname⟩ := before known
    rw [index, ← rname]
    exact indexed.complete id r old

theorem NamesIndexed.declares {s : TypeSymbol} (indexed : table.NamesIndexed)
    (appends : table.Appends (.type s) table')
    (index : ∀ name, table'.typeNamed? name =
      if name = s.qualifiedName then (table.typeNamed? name).or (some ⟨table.size⟩)
      else table.typeNamed? name) : table'.NamesIndexed := by
  -- A name has an entry already, or else the new type is the first of that name.
  have entry {name : String} {id : SymbolId} (found : table'.typeNamed? name = some id) :
      table.typeNamed? name = some id ∨
        table.typeNamed? name = none ∧ name = s.qualifiedName ∧ id = ⟨table.size⟩ := by
    rw [index] at found
    split at found
    · cases old : table.typeNamed? name with
      | none =>
          rw [old] at found
          cases found
          exact .inr ⟨rfl, ‹_›, rfl⟩
      | some first =>
          rw [old] at found
          exact .inl found
    · exact .inl found
  constructor
  · intro name id found
    rcases entry found with old | ⟨_, rfl, rfl⟩
    · obtain ⟨r, earlier, rname⟩ := indexed.named name id old
      exact ⟨r, appends.type?_of_found earlier, rname⟩
    · refine ⟨s, ?_, rfl⟩
      rw [appends.type?, if_pos rfl]
      rfl
  · intro name id found other r present sameName
    rcases entry found with old | ⟨fresh, _, rfl⟩
    · rcases appends.new_or_found present with ⟨rfl, _⟩ | earlier
      · obtain ⟨_, first, _⟩ := indexed.named name id old
        exact Nat.le_of_lt (lt_size_of_type? first)
      · exact indexed.earliest name id old other r earlier sameName
    · rcases appends.new_or_found present with ⟨rfl, _⟩ | earlier
      · exact Nat.le_refl _
      · obtain ⟨first, had⟩ := indexed.complete other r earlier
        rw [sameName, fresh] at had
        cases had
  · intro id r present
    rw [index]
    rcases appends.new_or_found present with ⟨rfl, rfl⟩ | earlier
    · rw [if_pos rfl]
      cases table.typeNamed? r.qualifiedName with
      | none => exact ⟨_, rfl⟩
      | some first => exact ⟨first, rfl⟩
    · obtain ⟨first, had⟩ := indexed.complete id r earlier
      rw [had]
      exact ⟨first, by simp⟩

theorem NamesIndexed.enrols {owner : SymbolId} {symbol : Symbol} (indexed : table.NamesIndexed)
    (owned : symbol.owner? = some owner) (enrols : table.Enrols owner symbol table') :
    table'.NamesIndexed := by
  obtain ⟨_, between, s, appends, index, amends⟩ := enrols
  apply indexed.of_same_names
  · intro name
    rw [typeNamed?, amends.byQualifiedName, index]
    rfl
  · intro id
    rw [amends.type?, ← appends.type?_of_owned owned]
    split
    next here =>
      rw [here, amends.known]
      rfl
    next => rfl

theorem NamesIndexed.amends {id : SymbolId} {s s' : TypeSymbol} (indexed : table.NamesIndexed)
    (amends : table.Amends id s s' table') (same : s'.qualifiedName = s.qualifiedName) :
    table'.NamesIndexed := by
  apply indexed.of_same_names
  · intro name
    rw [typeNamed?, amends.byQualifiedName]
    rfl
  · intro other
    rw [amends.type?]
    split
    next here =>
      rw [here, amends.known]
      exact congrArg some same
    next => rfl

structure DeclarationsIndexed (table : SymbolTable) : Prop where
  declared : ∀ (node : Nat) id, table.byDeclaration[node]? = some id →
    ∃ symbol, table.symbol? id = some symbol ∧ symbol.declaration? = some node
  latest : ∀ (node : Nat) id, table.byDeclaration[node]? = some id →
    ∀ other symbol, table.symbol? other = some symbol → symbol.declaration? = some node →
      other.number ≤ id.number
  complete : ∀ id symbol (node : Nat), table.symbol? id = some symbol →
    symbol.declaration? = some node → ∃ last, table.byDeclaration[node]? = some last

theorem DeclarationsIndexed.appends {symbol : Symbol} (indexed : table.DeclarationsIndexed)
    (appends : table.Appends symbol table') : table'.DeclarationsIndexed := by
  constructor
  · intro node id found
    rw [appends.byDeclaration] at found
    split at found
    next declares =>
      cases found
      exact ⟨symbol, by rw [appends.symbol?, if_pos rfl], declares⟩
    next =>
      obtain ⟨old, known, declares⟩ := indexed.declared node id found
      exact ⟨old, appends.symbol?_of_found known, declares⟩
  · intro node id found other old known declares
    rw [appends.byDeclaration] at found
    rw [appends.symbol?] at known
    split at known
    next newest =>
      cases known
      rw [if_pos declares] at found
      cases found
      exact Nat.le_of_eq (congrArg SymbolId.number newest)
    next =>
      split at found
      · cases found
        exact Nat.le_of_lt (lt_size_of_symbol? known)
      · exact indexed.latest node id found other old known declares
  · intro id old node known declares
    rw [appends.byDeclaration]
    split
    · exact ⟨_, rfl⟩
    next other =>
      rw [appends.symbol?] at known
      split at known
      · cases known
        exact (other declares).elim
      · exact indexed.complete id old node known declares

theorem DeclarationsIndexed.amends {id : SymbolId} {s s' : TypeSymbol}
    (indexed : table.DeclarationsIndexed) (amends : table.Amends id s s' table')
    (same : s'.declaration? = s.declaration?) : table'.DeclarationsIndexed := by
  have before {other : SymbolId} {symbol : Symbol} (found : table'.symbol? other = some symbol) :
      ∃ old, table.symbol? other = some old ∧ old.declaration? = symbol.declaration? := by
    rw [amends.symbol?] at found
    split at found
    next here =>
      cases found
      exact ⟨.type s, here ▸ type?_eq_some_iff.1 amends.known, same.symm⟩
    next => exact ⟨symbol, found, rfl⟩
  have after {other : SymbolId} {old : Symbol} (found : table.symbol? other = some old) :
      ∃ symbol, table'.symbol? other = some symbol ∧ symbol.declaration? = old.declaration? := by
    rw [amends.symbol?]
    split
    next here =>
      rw [here, type?_eq_some_iff.1 amends.known] at found
      cases found
      exact ⟨_, rfl, same⟩
    next => exact ⟨old, found, rfl⟩
  constructor
  · intro node other found
    rw [amends.byDeclaration] at found
    obtain ⟨old, known, declares⟩ := indexed.declared node other found
    obtain ⟨symbol, present, still⟩ := after known
    exact ⟨symbol, present, still.trans declares⟩
  · intro node last found other symbol known declares
    rw [amends.byDeclaration] at found
    obtain ⟨old, present, was⟩ := before known
    exact indexed.latest node last found other old present (was.trans declares)
  · intro other symbol node known declares
    rw [amends.byDeclaration]
    obtain ⟨old, present, was⟩ := before known
    exact indexed.complete other old node present (was.trans declares)

def Belongs (table : SymbolTable) (m owner : SymbolId) (name : String) : Prop :=
  ∃ symbol, table.symbol? m = some symbol ∧ symbol.owner? = some owner ∧ symbol.name = name

theorem Appends.belongs_iff {symbol : Symbol} (appends : table.Appends symbol table')
    (m owner : SymbolId) (name : String) :
    table'.Belongs m owner name ↔
      m = ⟨table.size⟩ ∧ symbol.owner? = some owner ∧ symbol.name = name ∨
        table.Belongs m owner name := by
  simp only [Belongs, appends.symbol?]
  split
  next here =>
    rw [here, symbol?_size]
    simp
  next other => simp [other]

theorem Amends.belongs_iff {id : SymbolId} {s s' : TypeSymbol}
    (amends : table.Amends id s s' table') (m owner : SymbolId) (name : String) :
    table'.Belongs m owner name ↔ table.Belongs m owner name := by
  simp only [Belongs, amends.symbol?]
  split
  next here =>
    rw [here, type?_eq_some_iff.1 amends.known]
    simp [Symbol.owner?]
  next => rfl

/-- Methods and variables are listed by their owners, under their names and in order. -/
structure Listed (table : SymbolTable) : Prop where
  ascending : ∀ id s, table.type? id = some s → s.members.Ascending
  ids_ascending : ∀ id s, table.type? id = some s → ∀ name,
    (s.members.named name).Pairwise fun a b => a.number < b.number
  mem_named_iff : ∀ id s, table.type? id = some s → ∀ name m,
    m ∈ s.members.named name ↔ table.Belongs m id name
  owned : ∀ m owner name, table.Belongs m owner name → ∃ s, table.type? owner = some s

namespace Listed

theorem declares {s : TypeSymbol} (listed : table.Listed)
    (appends : table.Appends (.type s) table') (bare : s.members = []) : table'.Listed := by
  have belongs (m owner : SymbolId) (name : String) :
      table'.Belongs m owner name ↔ table.Belongs m owner name := by
    rw [appends.belongs_iff]
    simp [Symbol.owner?]
  constructor
  · intro id r found
    rcases appends.new_or_found found with ⟨_, rfl⟩ | old
    · rw [bare]
      exact .nil
    · exact listed.ascending id r old
  · intro id r found name
    rcases appends.new_or_found found with ⟨_, rfl⟩ | old
    · rw [bare]
      exact .nil
    · exact listed.ids_ascending id r old name
  · intro id r found name m
    rw [belongs]
    rcases appends.new_or_found found with ⟨rfl, rfl⟩ | old
    · rw [bare]
      refine iff_of_false List.not_mem_nil ?_
      intro owns
      obtain ⟨o, owner⟩ := listed.owned m _ name owns
      rw [type?_size] at owner
      cases owner
    · exact listed.mem_named_iff id r old name m
  · intro m owner name owns
    rw [belongs] at owns
    exact appends.known (listed.owned m owner name owns)

theorem amends {id : SymbolId} {s s' : TypeSymbol} (listed : table.Listed)
    (amends : table.Amends id s s' table') (same : s'.members = s.members) : table'.Listed := by
  have before {o : SymbolId} {r : TypeSymbol} (known : table'.type? o = some r) :
      ∃ old, table.type? o = some old ∧ r.members = old.members := by
    rw [amends.type?] at known
    split at known
    next here =>
      cases known
      exact ⟨s, here ▸ amends.known, same⟩
    next => exact ⟨r, known, rfl⟩
  constructor
  · intro o r known
    obtain ⟨old, was, kept⟩ := before known
    rw [kept]
    exact listed.ascending o old was
  · intro o r known name
    obtain ⟨old, was, kept⟩ := before known
    rw [kept]
    exact listed.ids_ascending o old was name
  · intro o r known name m
    obtain ⟨old, was, kept⟩ := before known
    rw [kept, amends.belongs_iff]
    exact listed.mem_named_iff o old was name m
  · intro m owner name owns
    rw [amends.belongs_iff] at owns
    exact amends.known_of_known (listed.owned m owner name owns)

theorem lt_size (listed : table.Listed) {id m : SymbolId} {s : TypeSymbol} {name : String}
    (known : table.type? id = some s) (member : m ∈ s.members.named name) :
    m.number < table.size := by
  obtain ⟨symbol, found, _⟩ := (listed.mem_named_iff id s known name m).1 member
  exact lt_size_of_symbol? found

theorem enrols {owner : SymbolId} {symbol : Symbol} (listed : table.Listed)
    (owned : symbol.owner? = some owner) (enrols : table.Enrols owner symbol table') :
    table'.Listed := by
  obtain ⟨known, between, s, appends, _, amends⟩ := enrols
  have types := appends.type?_of_owned owned
  have owner_known : table.type? owner = some s := types owner ▸ amends.known
  have lists (name : String) := Members.named_add (listed.ascending owner s owner_known) symbol.name
    name ⟨table.size⟩
  constructor
  · intro id r found
    rw [amends.type?, types] at found
    split at found
    · cases found
      exact (listed.ascending owner s owner_known).add _ _
    · exact listed.ascending id r found
  · intro id r found name
    rw [amends.type?, types] at found
    split at found
    · cases found
      rw [lists]
      split
      · refine List.pairwise_append.2 ⟨listed.ids_ascending owner s owner_known symbol.name,
          List.pairwise_singleton .., ?_⟩
        intro old member new last
        cases List.mem_singleton.1 last
        exact listed.lt_size owner_known member
      · exact listed.ids_ascending owner s owner_known name
    · exact listed.ids_ascending id r found name
  · intro id r found name m
    rw [amends.belongs_iff, appends.belongs_iff, owned]
    rw [amends.type?, types] at found
    split at found
    next here =>
      subst here
      cases found
      rw [lists]
      have old := listed.mem_named_iff id s owner_known
      split
      next same =>
        rw [List.mem_append, old, List.mem_singleton, same]
        simp [or_comm]
      next differs =>
        rw [old]
        simp [Ne.symm differs]
    next elsewhere =>
      rw [listed.mem_named_iff id r found name m]
      simp [Ne.symm elsewhere]
  · intro m o name owns
    apply amends.known_of_known
    rw [types]
    rw [amends.belongs_iff, appends.belongs_iff, owned] at owns
    rcases owns with ⟨_, same, _⟩ | old
    · cases same
      exact known
    · exact listed.owned m o name old

end Listed

structure Kept (table : SymbolTable) : Prop where
  linked : table.Linked
  listed : table.Listed
  names : table.NamesIndexed
  declarations : table.DeclarationsIndexed

@[simp] theorem symbol?_new (tree : TreeId) (id : SymbolId) : (new tree).symbol? id = none :=
  Array.getElem?_eq_none (Nat.zero_le _)

@[simp] theorem type?_new (tree : TreeId) (id : SymbolId) : (new tree).type? id = none := by
  rw [type?, symbol?_new]
  rfl

@[simp] theorem typeNamed?_new (tree : TreeId) (name : String) :
    (new tree).typeNamed? name = none := by
  simp [typeNamed?, new]

@[simp] theorem byDeclaration_new (tree : TreeId) (node : Nat) :
    (new tree).byDeclaration[node]? = none := by
  simp [new]

theorem kept_new (tree : TreeId) : (new tree).Kept where
  linked := by
    intro id s known
    rw [type?_new] at known
    cases known
  listed := by
    constructor <;> intros <;> simp_all [Belongs]
  names := by
    constructor <;> intros <;> simp_all only [type?_new, typeNamed?_new, reduceCtorEq]
  declarations := by
    constructor <;> intros <;> simp_all only [symbol?_new, byDeclaration_new, reduceCtorEq]

theorem Kept.change (kept : table.Kept) (change : Change table table') : table'.Kept := by
  cases change with
  | nothing same =>
      rw [same]
      exact kept
  | declares s supertypes members appends named =>
      refine ⟨kept.linked.appends appends ?_, kept.listed.declares appends members,
        kept.names.declares appends named, kept.declarations.appends appends⟩
      intro r isType
      cases isType
      exact supertypes
  | amends id s s' amends members qualifiedName declaration? linked =>
      exact ⟨kept.linked.amends amends linked, kept.listed.amends amends members,
        kept.names.amends amends qualifiedName, kept.declarations.amends amends declaration?⟩
  | enrols owner symbol owned enrols =>
      refine ⟨kept.linked.enrols owned enrols, kept.listed.enrols owned enrols,
        kept.names.enrols owned enrols, ?_⟩
      obtain ⟨_, between, s, appends, _, amends⟩ := enrols
      exact (kept.declarations.appends appends).amends amends rfl

theorem kept_attemptAll (tree : TreeId) (calls : List Call) : ((new tree).attemptAll calls).Kept :=
  attemptAll_induction (fun change kept => kept.change change) calls (kept_new tree)

namespace Kept

variable {id : SymbolId} {s : TypeSymbol}

theorem superclass?_eq (kept : table.Kept) (known : table.type? id = some s) :
    table.superclass? id = s.superclass? := by
  cases stored : s.superclass? with
  | none =>
      apply Option.eq_none_iff_forall_ne_some.2
      intro parent found
      obtain ⟨r, same, linked, _⟩ := superclass?_eq_some_iff.1 found
      rw [known] at same
      cases same
      rw [stored] at linked
      cases linked
  | some parent =>
      have member : parent ∈ s.supertypes := by simp [TypeSymbol.supertypes, stored]
      exact superclass?_eq_some_iff.2 ⟨s, known, stored, kept.linked id s known parent member⟩

private theorem map_filterMap_of_forall {ids : List SymbolId} {f : SymbolId → Option α}
    (all : ∀ id ∈ ids, ∃ a, f id = some a) :
    (ids.filterMap fun id => (f id).map (id, ·)).map (·.1) = ids := by
  induction ids with
  | nil => rfl
  | cons id rest ih =>
      obtain ⟨a, found⟩ := all id (by simp)
      have later := ih fun other member => all other (by simp [member])
      simp [found, later]

theorem interfacesOf_eq (kept : table.Kept) (known : table.type? id = some s) :
    (table.interfacesOf s).map (·.1) = s.interfaces := by
  apply map_filterMap_of_forall
  intro parent member
  exact kept.linked id s known parent (List.mem_append_right _ member)

theorem membersNamed_eq (kept : table.Kept) (known : table.type? id = some s) (name : String) :
    (table.membersNamed s name).map (·.1) = s.members.named name := by
  apply map_filterMap_of_forall
  intro m member
  obtain ⟨symbol, found, _⟩ := (kept.listed.mem_named_iff id s known name m).1 member
  exact ⟨symbol, found⟩

theorem mem_members_iff (kept : table.Kept) (known : table.type? id = some s) (m : SymbolId) :
    m ∈ s.members.flatMap (·.2) ↔ ∃ name, table.Belongs m id name := by
  have ascending := kept.listed.ascending id s known
  have listed := kept.listed.mem_named_iff id s known
  rw [List.mem_flatMap]
  constructor
  · rintro ⟨entry, present, member⟩
    rw [← ascending.named_of_mem present] at member
    exact ⟨entry.1, (listed entry.1 m).1 member⟩
  · rintro ⟨name, belongs⟩
    have member := (listed name m).2 belongs
    exact Members.exists_of_mem_named member

theorem nodup_members (kept : table.Kept) (known : table.type? id = some s) :
    (s.members.flatMap (·.2)).Nodup := by
  have ascending := kept.listed.ascending id s known
  have listed := kept.listed.mem_named_iff id s known
  refine List.nodup_flatMap.2 ⟨?_, ?_⟩
  · intro entry present
    rw [← ascending.named_of_mem present]
    exact (kept.listed.ids_ascending id s known entry.1).imp fun less same =>
      Nat.ne_of_lt less (congrArg SymbolId.number same)
  · refine List.Pairwise.imp_of_mem ?_ (List.pairwise_map.1 ascending)
    intro a b here there less m (inA : m ∈ a.2) (inB : m ∈ b.2)
    rw [← ascending.named_of_mem here] at inA
    rw [← ascending.named_of_mem there] at inB
    obtain ⟨symbol, found, _, nameA⟩ := (listed a.1 m).1 inA
    obtain ⟨other, same, _, nameB⟩ := (listed b.1 m).1 inB
    rw [found] at same
    cases same
    rw [← nameA, ← nameB] at less
    exact String.lt_irrefl _ less

theorem count_members (kept : table.Kept) (known : table.type? id = some s) {m owner : SymbolId}
    {symbol : Symbol} (found : table.symbol? m = some symbol) (owned : symbol.owner? = some owner) :
    (s.members.flatMap (·.2)).count m = if id = owner then 1 else 0 := by
  have member : m ∈ s.members.flatMap (·.2) ↔ id = owner := by
    rw [kept.mem_members_iff known]
    constructor
    · rintro ⟨name, other, same, owns, _⟩
      rw [found] at same
      cases same
      rw [owned] at owns
      exact Option.some.inj owns.symm
    · rintro rfl
      exact ⟨symbol.name, symbol, found, owned, rfl⟩
  rw [(kept.nodup_members known).count]
  simp only [member]

end Kept

/-- The links, members and indices of a table agree with its symbols, and reading follows every
link. -/
structure Coherent (table : SymbolTable) : Prop where
  superclass_known : ∀ id s parent, table.type? id = some s → s.superclass? = some parent →
    ∃ r, table.type? parent = some r
  interface_known : ∀ id s parent, table.type? id = some s → parent ∈ s.interfaces →
    ∃ r, table.type? parent = some r
  names_ascending : ∀ id s, table.type? id = some s → (s.members.map (·.1)).Pairwise (· < ·)
  ids_ascending : ∀ id s name ids, table.type? id = some s → (name, ids) ∈ s.members →
    ids.Pairwise fun a b => a.number < b.number
  mem_members_iff : ∀ id s name, table.type? id = some s → ∀ m, m ∈ s.members.named name ↔
    ∃ symbol, table.symbol? m = some symbol ∧ symbol.owner? = some id ∧ symbol.name = name
  /-- A name's entry is what is found under the name. -/
  entry_named : ∀ id s name ids, table.type? id = some s → (name, ids) ∈ s.members →
    s.members.named name = ids
  owner_known : ∀ m symbol owner, table.symbol? m = some symbol → symbol.owner? = some owner →
    ∃ s, table.type? owner = some s
  listed_once : ∀ m symbol owner, table.symbol? m = some symbol → symbol.owner? = some owner →
    ∀ id s, table.type? id = some s →
      (s.members.flatMap (·.2)).count m = if id = owner then 1 else 0
  name_earliest : ∀ name id, table.typeNamed? name = some id →
    (∃ s, table.type? id = some s ∧ s.qualifiedName = name) ∧
      ∀ other s, table.type? other = some s → s.qualifiedName = name → id.number ≤ other.number
  name_known : ∀ id s, table.type? id = some s →
    ∃ first, table.typeNamed? s.qualifiedName = some first
  declaration_latest : ∀ (node : Nat) id, table.byDeclaration[node]? = some id →
    (∃ symbol, table.symbol? id = some symbol ∧ symbol.declaration? = some node) ∧
      ∀ other symbol, table.symbol? other = some symbol → symbol.declaration? = some node →
        other.number ≤ id.number
  declaration_known : ∀ id symbol (node : Nat), table.symbol? id = some symbol →
    symbol.declaration? = some node → ∃ last, table.byDeclaration[node]? = some last
  superclass_read : ∀ id s, table.type? id = some s → table.superclass? id = s.superclass?
  interfaces_read : ∀ id s, table.type? id = some s →
    (table.interfacesOf s).map (·.1) = s.interfaces
  members_read : ∀ id s name, table.type? id = some s →
    (table.membersNamed s name).map (·.1) = s.members.named name

/-- Every table that calls of any kind build from an empty one is coherent. -/
theorem coherent_attemptAll (tree : TreeId) (calls : List Call) :
    ((new tree).attemptAll calls).Coherent := by
  have kept := kept_attemptAll tree calls
  have listed := kept.listed
  constructor
  · intro id s parent known stored
    exact kept.linked id s known parent (by simp [TypeSymbol.supertypes, stored])
  · intro id s parent known member
    exact kept.linked id s known parent (List.mem_append_right _ member)
  · exact listed.ascending
  · intro id s name ids known member
    have found : s.members.named name = ids := (listed.ascending id s known).named_of_mem member
    rw [← found]
    exact listed.ids_ascending id s known name
  · intro id s name known
    exact listed.mem_named_iff id s known name
  · intro id s name ids known member
    exact (listed.ascending id s known).named_of_mem member
  · intro m symbol owner found owned
    exact listed.owned m owner symbol.name ⟨symbol, found, owned, rfl⟩
  · intro m symbol owner found owned id s known
    exact kept.count_members known found owned
  · intro name id found
    exact ⟨kept.names.named name id found, kept.names.earliest name id found⟩
  · exact kept.names.complete
  · intro node id found
    exact ⟨kept.declarations.declared node id found, kept.declarations.latest node id found⟩
  · exact kept.declarations.complete
  · intro id s known
    exact kept.superclass?_eq known
  · intro id s known
    exact kept.interfacesOf_eq known
  · intro id s name known
    exact kept.membersNamed_eq known name

end TreeLint.SymbolTable

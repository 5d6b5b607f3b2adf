import TreeLint.Proofs.Resolved

namespace TreeLint

theorem Symbol.exists_type_of_owner? {symbol : Symbol} (free : symbol.owner? = none) :
    ∃ s, symbol = .type s := by
  cases symbol with
  | type s => exact ⟨s, rfl⟩
  | method s => cases free
  | value s => cases free

namespace SymbolTable

variable {table table' : SymbolTable}

theorem symbol?_eq_none_iff {id : SymbolId} : table.symbol? id = none ↔ table.size ≤ id.number :=
  Array.getElem?_eq_none_iff

theorem Appends.size {symbol : Symbol} (appends : table.Appends symbol table') :
    table'.size = table.size + 1 := by
  have last : table'.symbol? ⟨table.size⟩ = some symbol := by rw [appends.symbol?, if_pos rfl]
  have beyond : table'.symbol? ⟨table.size + 1⟩ = none := by
    rw [appends.symbol?, if_neg (by simp), symbol?_eq_none_iff]
    exact Nat.le_succ _
  exact Nat.le_antisymm (symbol?_eq_none_iff.1 beyond) (lt_size_of_symbol? last)

theorem Amends.size {id : SymbolId} {s s' : TypeSymbol} (amends : table.Amends id s s' table') :
    table'.size = table.size := by
  have same (n : Nat) : table'.size ≤ n ↔ table.size ≤ n := by
    have absent : table'.symbol? ⟨n⟩ = none ↔ table.symbol? ⟨n⟩ = none := by
      rw [amends.symbol?]
      split
      next here => simp [here, type?_eq_some_iff.1 amends.known]
      next => rfl
    exact symbol?_eq_none_iff.symm.trans (absent.trans symbol?_eq_none_iff)
  exact Nat.le_antisymm ((same _).2 (Nat.le_refl _)) ((same _).1 (Nat.le_refl _))

namespace Enrols

variable {owner : SymbolId} {symbol : Symbol}

theorem size (enrols : table.Enrols owner symbol table') : table'.size = table.size + 1 := by
  obtain ⟨_, between, s, appends, _, amends⟩ := enrols
  rw [amends.size, appends.size]

theorem symbol?_new (enrols : table.Enrols owner symbol table') :
    table'.symbol? ⟨table.size⟩ = some symbol := by
  obtain ⟨⟨o, known⟩, between, s, appends, _, amends⟩ := enrols
  have inside := lt_size_of_type? known
  rw [amends.symbol?, if_neg, appends.symbol?, if_pos rfl]
  rintro rfl
  exact Nat.lt_irrefl _ inside

theorem symbol?_of_owned (enrols : table.Enrols owner symbol table') {id o : SymbolId}
    {old : Symbol} (found : table.symbol? id = some old) (owned : old.owner? = some o) :
    table'.symbol? id = some old := by
  obtain ⟨⟨r, known⟩, between, s, appends, _, amends⟩ := enrols
  rw [amends.symbol?, if_neg, appends.symbol?_of_found found]
  rintro rfl
  rw [type?_eq_some_iff, found] at known
  cases known
  cases owned

theorem members (enrols : table.Enrols owner symbol table') (owned : symbol.owner? = some owner)
    {id : SymbolId} {s' : TypeSymbol} (known : table'.type? id = some s') :
    ∃ s, table.type? id = some s ∧ s'.members =
      if id = owner then s.members.add symbol.name ⟨table.size⟩ else s.members := by
  obtain ⟨_, between, s, appends, _, amends⟩ := enrols
  have types := appends.type?_of_owned owned
  rw [amends.type?, types] at known
  split at known
  next here =>
    cases known
    exact ⟨s, here ▸ (types owner ▸ amends.known), (if_pos here).symm⟩
  next elsewhere => exact ⟨s', known, (if_neg elsewhere).symm⟩

end Enrols

theorem map_snd_membersNamed (table : SymbolTable) (s : TypeSymbol) (name : String) :
    (table.membersNamed s name).map (·.2) = (s.members.named name).filterMap table.symbol? := by
  rw [membersNamed, List.map_filterMap]
  refine List.filterMap_congr fun id _ => ?_
  cases table.symbol? id <;> rfl

structure Enrolled (base : SymbolTable) (entries : List Symbol) (table : SymbolTable) : Prop where
  kept : table.Kept
  tree : table.tree = base.tree
  enlists : Enlists base table
  owned : ∀ symbol ∈ entries, ∃ owner, symbol.owner? = some owner
  size : table.size = base.size + entries.length
  symbol? : ∀ i symbol, entries[i]? = some symbol → table.symbol? ⟨base.size + i⟩ = some symbol
  listed : ∀ id s, table.type? id = some s → ∀ name,
    (table.membersNamed s name).map (·.2) =
      entries.filter fun symbol => symbol.owner? == some id && symbol.name == name

namespace Enrolled

variable {base : SymbolTable} {entries : List Symbol} {symbol : Symbol} {owner : SymbolId}

theorem start (kept : base.Kept)
    (types : ∀ id symbol, base.symbol? id = some symbol → ∃ s, symbol = .type s) :
    Enrolled base [] base where
  kept := kept
  tree := rfl
  enlists := .refl base
  owned := nofun
  size := rfl
  symbol? := nofun
  listed := by
    intro id s known name
    have none : s.members.named name = [] := by
      refine List.eq_nil_iff_forall_not_mem.2 fun m member => ?_
      obtain ⟨symbol, found, owned, _⟩ := (kept.listed.mem_named_iff id s known name m).1 member
      obtain ⟨r, rfl⟩ := types m symbol found
      cases owned
    rw [map_snd_membersNamed, none]
    rfl

theorem listed_enrols (enrolled : Enrolled base entries table)
    (enrols : table.Enrols owner symbol table') (owned : symbol.owner? = some owner)
    {id : SymbolId} {s : TypeSymbol} (known : table'.type? id = some s) (name : String) :
    (table'.membersNamed s name).map (·.2) =
      (entries ++ [symbol]).filter fun symbol =>
        symbol.owner? == some id && symbol.name == name := by
  obtain ⟨r, earlier, members⟩ := enrols.members owned known
  have ascending := enrolled.kept.listed.ascending id r earlier
  have old : (r.members.named name).filterMap table'.symbol? =
      (r.members.named name).filterMap table.symbol? := by
    refine List.filterMap_congr fun m member => ?_
    obtain ⟨other, found, owns, _⟩ :=
      (enrolled.kept.listed.mem_named_iff id r earlier name m).1 member
    rw [enrols.symbol?_of_owned found owns, found]
  have before := enrolled.listed id r earlier name
  rw [map_snd_membersNamed] at before ⊢
  rw [List.filter_append, ← before, ← old, members]
  split
  next here =>
    rw [Members.named_add ascending]
    split
    next same => simp [enrols.symbol?_new, owned, here, same]
    next differs => simp [Ne.symm differs]
  next elsewhere => simp [owned, Ne.symm elsewhere]

theorem enrols (enrolled : Enrolled base entries table)
    (enrols : table.Enrols owner symbol table') (owned : symbol.owner? = some owner)
    (tree : table'.tree = table.tree) : Enrolled base (entries ++ [symbol]) table' where
  kept := enrolled.kept.change (.enrols owner symbol owned enrols)
  tree := tree.trans enrolled.tree
  enlists := enrolled.enlists.trans (enrols.enlists owned)
  owned := by
    intro other member
    rcases List.mem_append.1 member with old | new
    · exact enrolled.owned other old
    · exact ⟨owner, List.mem_singleton.1 new ▸ owned⟩
  size := by
    rw [enrols.size, enrolled.size, List.length_append, List.length_singleton, Nat.add_assoc]
  symbol? := by
    intro i other found
    rw [List.getElem?_append] at found
    split at found
    next =>
      obtain ⟨o, owns⟩ := enrolled.owned other (List.mem_of_getElem? found)
      exact enrols.symbol?_of_owned (enrolled.symbol? i other found) owns
    next late =>
      have last : i = entries.length ∧ symbol = other := by
        rw [List.getElem?_singleton] at found
        split at found
        · exact ⟨by omega, Option.some.inj found⟩
        · cases found
      rw [last.1, ← last.2, ← enrolled.size]
      exact enrols.symbol?_new
  listed := fun _ _ known name => enrolled.listed_enrols enrols owned known name

theorem exists_of_owned (enrolled : Enrolled base entries table)
    (types : ∀ id symbol, base.symbol? id = some symbol → ∃ s, symbol = .type s) {id : SymbolId}
    (found : table.symbol? id = some symbol) (owned : symbol.owner? = some owner) :
    ∃ i, id = ⟨base.size + i⟩ ∧ entries[i]? = some symbol := by
  have inside := lt_size_of_symbol? found
  rw [enrolled.size] at inside
  have late : base.size ≤ id.number := by
    by_contra early
    obtain ⟨old, earlier⟩ := Option.ne_none_iff_exists'.1 (mt symbol?_eq_none_iff.1 early)
    obtain ⟨s, rfl⟩ := types id old earlier
    obtain ⟨members, known⟩ := enrolled.enlists.type? id s (type?_eq_some_iff.2 earlier)
    rw [type?_eq_some_iff, found] at known
    cases known
    cases owned
  have place : id = ⟨base.size + (id.number - base.size)⟩ := by
    rw [Nat.add_sub_cancel' late]
  obtain ⟨other, listed⟩ : ∃ other, entries[id.number - base.size]? = some other :=
    ⟨_, List.getElem?_eq_getElem (by omega)⟩
  have here := enrolled.symbol? _ other listed
  rw [← place, found] at here
  cases here
  exact ⟨_, place, listed⟩

end Enrolled

end SymbolTable

end TreeLint

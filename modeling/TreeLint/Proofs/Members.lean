import TreeLint.Proofs.Apart
import TreeLint.Proofs.Bodies
import TreeLint.Proofs.Entries
import TreeLint.Proofs.Reader

/-! Which nodes declare the members of a type, and that a resolved tree has no others. -/

namespace TreeLint

namespace Java

open TreeLint.Tree SymbolTable

namespace Resolution

variable {t : Tree} {d d' : Declared t} {n : t.Node} {symbol : Symbol}

inductive DeclaresMember (d : Declared t) (n : t.Node) : Symbol → Prop
  | method {body name : t.Node} (own : d.node.childInField? "body" = some body)
      (inside : n ∈ body.children) (kind : n.kind = .method)
      (named : n.childInField? "name" = some name) :
      DeclaresMember d n (.method {
        name := name.text, owner := d.id, parameterTypes := (parameters n).map writtenType
        returnType? := some (typeBefore n "void"), inherited := false
        declaration? := some n.index })
  | constructor {body name : t.Node} (own : d.node.childInField? "body" = some body)
      (inside : n ∈ body.children) (kind : n.kind = .constructor)
      (named : n.childInField? "name" = some name) :
      DeclaresMember d n (.method {
        name := name.text, owner := d.id, parameterTypes := (parameters n).map writtenType
        returnType? := none, inherited := false, declaration? := some n.index })
  | declarator {body field name : t.Node} (own : d.node.childInField? "body" = some body)
      (inside : field ∈ body.children) (kind : field.kind = .field) (below : n ∈ field.children)
      (role : n.field? = some "declarator") (named : n.childInField? "name" = some name) :
      DeclaresMember d n (.value {
        name := name.text, owner := d.id, typeName := typeBefore field ""
        declaration? := some n.index })
  | constant {body name : t.Node} (own : d.node.childInField? "body" = some body)
      (inside : n ∈ body.children) (raw : n.rawKind = "enum_constant")
      (named : n.childInField? "name" = some name) :
      DeclaresMember d n (.value {
        name := name.text, owner := d.id, typeName := d.name, declaration? := some n.index })

theorem mem_bodyEntries_iff
    (constants : ∀ n : t.Node, n.rawKind = "enum_constant" → n.kind = .other) :
    (n, symbol) ∈ bodyEntries d ↔ DeclaresMember d n symbol := by
  rw [mem_bodyEntries]
  constructor
  · rintro ⟨body, own, member, inside, found⟩
    rw [memberEntries] at found
    split at found
    next kind =>
      obtain ⟨rfl, name, named, rfl⟩ := mem_methodEntries.1 found
      rw [if_pos kind]
      exact .method own inside kind named
    next kind =>
      obtain ⟨rfl, name, named, rfl⟩ := mem_methodEntries.1 found
      rw [if_neg (by simp [kind])]
      exact .constructor own inside kind named
    next kind =>
      obtain ⟨declarator, below, found⟩ := List.mem_flatMap.1 found
      obtain ⟨rfl, name, named, rfl⟩ := mem_variableEntries.1 found
      obtain ⟨below, role⟩ := List.mem_filter.1 below
      exact .declarator own inside kind below (by simpa using role) named
    next =>
      split at found
      next raw =>
        obtain ⟨rfl, name, named, rfl⟩ := mem_variableEntries.1 found
        exact .constant own inside (by simpa using raw) named
      next => cases found
  · intro declares
    cases declares with
    | @method body name own inside kind named =>
        refine ⟨body, own, n, inside, ?_⟩
        rw [memberEntries, kind]
        exact mem_methodEntries.2 ⟨rfl, name, named, by rw [if_pos kind]⟩
    | @constructor body name own inside kind named =>
        refine ⟨body, own, n, inside, ?_⟩
        rw [memberEntries, kind]
        exact mem_methodEntries.2 ⟨rfl, name, named, by rw [if_neg (by simp [kind])]⟩
    | @declarator body field name own inside kind below role named =>
        refine ⟨body, own, field, inside, ?_⟩
        rw [memberEntries, kind]
        exact List.mem_flatMap.2 ⟨n, List.mem_filter.2 ⟨below, by simp [role]⟩,
          mem_variableEntries.2 ⟨rfl, name, named, rfl⟩⟩
    | @constant body name own inside raw named =>
        refine ⟨body, own, n, inside, ?_⟩
        rw [memberEntries, constants n raw]
        dsimp only
        rw [if_pos (by simp [raw])]
        exact mem_variableEntries.2 ⟨rfl, name, named, rfl⟩

theorem DeclaresMember.declaration? (declares : DeclaresMember d n symbol) :
    symbol.declaration? = some n.index := by
  cases declares <;> rfl

theorem DeclaresMember.owner? (declares : DeclaresMember d n symbol) :
    symbol.owner? = some d.id := by
  cases declares <;> rfl

theorem nodes_namedEntries (n : t.Node) (symbol : t.Node → Symbol) :
    ((namedEntries n symbol).map (·.1)).Sublist [n] := by
  rw [namedEntries]
  cases n.childInField? "name" with
  | none => exact List.nil_sublist _
  | some name => exact List.Sublist.refl _

theorem nodes_memberEntries (d : Declared t) (member : t.Node) :
    ((memberEntries d member).map (·.1)).Sublist member.descendants := by
  have itself : [member].Sublist member.descendants := by
    rw [member.descendants_eq]
    exact (List.nil_sublist _).cons_cons member
  rw [memberEntries]
  split
  · exact (nodes_namedEntries member _).trans itself
  · exact (nodes_namedEntries member _).trans itself
  · rw [List.map_flatMap]
    refine (flatMap_sublist_flatMap _ fun n _ => nodes_namedEntries n _).trans ?_
    rw [List.flatMap_singleton']
    exact List.filter_sublist.trans (Node.children_sublist member)
  · split
    · exact (nodes_namedEntries member _).trans itself
    · exact List.nil_sublist _

theorem nodes_bodyEntries (d : Declared t) :
    ((bodyEntries d).map (·.1)).Sublist d.node.descendants := by
  rw [bodyEntries]
  split
  · exact List.nil_sublist _
  next body own =>
    have child : body ∈ d.node.children := List.mem_of_find?_eq_some own
    have below := (Node.children_sublist d.node).subset child
    rw [List.map_flatMap]
    refine (flatMap_sublist_flatMap _ fun member _ => nodes_memberEntries d member).trans ?_
    refine List.Sublist.trans ?_ (Node.descendants_sublist below)
    rw [body.descendants_eq]
    exact List.sublist_cons_self _ _

section Numbered

variable (numbered : WellNumbered t)

include numbered

theorem bodyEntries_ascending (d : Declared t) :
    (bodyEntries d).Pairwise fun e e' => e.1.index < e'.1.index := by
  have sorted := numbered.descendants_ascending
  have below := Node.descendants_sublist (numbered.mem_descendants d.node)
  have ascending := sorted.sublist ((nodes_bodyEntries d).trans below)
  rwa [List.pairwise_map] at ascending

/-- The node whose body the node stands in, directly or as a part of a field. -/
def site? (n : t.Node) : Option t.Node :=
  n.parent?.bind fun p =>
    if p.kind = .field then p.parent?.bind (·.parent?) else p.parent?

variable (bodied : Bodied t)

include bodied

theorem DeclaresMember.site? (declares : DeclaresMember d n symbol)
    (member : d ∈ (fileScope t).types.toList) : site? n = some d.node := by
  have isType : d.node.kind.isTypeDeclaration := by
    rw [← isSome_typeKind?, typeKind?_node member]
    rfl
  have parent_body {body : t.Node} (own : d.node.childInField? "body" = some body) :
      body.parent? = some d.node :=
    numbered.listed_by_parent _ _ (List.mem_of_find?_eq_some own)
  have direct {body : t.Node} (own : d.node.childInField? "body" = some body)
      (inside : n ∈ body.children) : Resolution.site? n = some d.node := by
    have kind := bodied.bodies _ _ isType own
    rw [Resolution.site?, numbered.listed_by_parent _ _ inside, Option.bind_some,
      if_neg (by simp [kind]), parent_body own]
  cases declares with
  | method own inside => exact direct own inside
  | constructor own inside => exact direct own inside
  | declarator own inside kind below =>
      rw [Resolution.site?, numbered.listed_by_parent _ _ below, Option.bind_some, if_pos kind,
        numbered.listed_by_parent _ _ inside, Option.bind_some, parent_body own]
  | constant own inside => exact direct own inside

omit numbered in
theorem DeclaresMember.isTypeDeclaration (declares : DeclaresMember d n symbol) :
    n.kind.isTypeDeclaration = false := by
  cases declares with
  | method own inside kind =>
      rw [kind]
      rfl
  | constructor own inside kind =>
      rw [kind]
      rfl
  | declarator own inside kind below role => exact bodied.declarators _ kind _ below role
  | constant own inside raw =>
      rw [bodied.constants n raw]
      rfl

theorem DeclaresMember.eq {symbol' : Symbol} (declares : DeclaresMember d n symbol)
    (declares' : DeclaresMember d' n symbol') (member : d ∈ (fileScope t).types.toList)
    (member' : d' ∈ (fileScope t).types.toList) : d = d' := by
  refine eq_of_node numbered member member' (Option.some.inj ?_)
  rw [← declares.site? numbered bodied member, declares'.site? numbered bodied member']

theorem nodup_entries :
    (((fileScope t).types.toList.flatMap bodyEntries).map (·.1)).Nodup := by
  rw [List.map_flatMap, List.nodup_flatMap]
  constructor
  · intro d _
    have ascending := bodyEntries_ascending numbered d
    rw [List.Nodup, List.pairwise_map]
    exact ascending.imp fun before same => Nat.ne_of_lt before (congrArg Node.index same)
  · have distinct : (fileScope t).types.toList.Nodup := (nodup_node numbered).of_map
    refine distinct.imp_of_mem fun {d d'} member member' differs n here there => differs ?_
    obtain ⟨⟨_, symbol⟩, listed, rfl⟩ := List.mem_map.1 here
    obtain ⟨⟨_, symbol'⟩, listed', same⟩ := List.mem_map.1 there
    cases same
    exact ((mem_bodyEntries_iff bodied.constants).1 listed).eq numbered bodied
      ((mem_bodyEntries_iff bodied.constants).1 listed') member member'

end Numbered

variable {table : SymbolTable}

section Read

variable {id id' : SymbolId} {symbol' : Symbol} {owner : SymbolId} {k : Nat}
variable (ran : resolve t = .ok table) (numbered : WellNumbered t) (bodied : Bodied t)

include ran bodied

theorem exists_symbol (declares : DeclaresMember d n symbol)
    (member : d ∈ (fileScope t).types.toList) : ∃ id, table.symbol? id = some symbol := by
  obtain ⟨linked, _, enrolled⟩ := exists_enrolled (covers_all t) ran
  have own := (mem_bodyEntries_iff bodied.constants).2 declares
  have listed : symbol ∈ memberSymbols t :=
    List.mem_map_of_mem (List.mem_flatMap.2 ⟨d, member, own⟩)
  obtain ⟨i, found⟩ := List.mem_iff_getElem?.1 listed
  exact ⟨_, enrolled.symbol? i symbol found⟩

theorem exists_declares (found : table.symbol? id = some symbol)
    (owned : symbol.owner? = some owner) :
    ∃ d ∈ (fileScope t).types.toList, d.id = owner ∧ ∃ n, DeclaresMember d n symbol := by
  obtain ⟨linked, traced, enrolled⟩ := exists_enrolled (covers_all t) ran
  obtain ⟨i, _, listed⟩ := enrolled.exists_of_owned traced.types found owned
  obtain ⟨⟨n, _⟩, entry, rfl⟩ := List.mem_map.1 (List.mem_of_getElem? listed)
  obtain ⟨d, member, inside⟩ := List.mem_flatMap.1 entry
  have declares := (mem_bodyEntries_iff bodied.constants).1 inside
  exact ⟨d, member, Option.some.inj (declares.owner?.symm.trans owned), n, declares⟩

include numbered

private theorem id_eq_of_owned {owner' : SymbolId} (found : table.symbol? id = some symbol)
    (found' : table.symbol? id' = some symbol') (owned : symbol.owner? = some owner)
    (owned' : symbol'.owner? = some owner') (here : symbol.declaration? = some k)
    (here' : symbol'.declaration? = some k) : id = id' := by
  obtain ⟨linked, traced, enrolled⟩ := exists_enrolled (covers_all t) ran
  obtain ⟨i, rfl, listed⟩ := enrolled.exists_of_owned traced.types found owned
  obtain ⟨j, rfl, listed'⟩ := enrolled.exists_of_owned traced.types found' owned'
  have places : (memberSymbols t).map (·.declaration?) =
      (((fileScope t).types.toList.flatMap bodyEntries).map (·.1)).map fun n => some n.index := by
    rw [memberSymbols, List.map_map, List.map_map]
    refine List.map_congr_left fun e listed => ?_
    obtain ⟨d, _, inside⟩ := List.mem_flatMap.1 listed
    exact (marks_of_mem_bodyEntries inside).2
  have distinct : ((memberSymbols t).map (·.declaration?)).Nodup := by
    rw [places]
    refine (nodup_entries numbered bodied).map fun n m same => ?_
    exact Node.index_injective (Option.some.inj same)
  have same : i = j := by
    refine (List.getElem?_inj ?_ distinct).1 ?_
    · rw [List.length_map]
      exact (List.getElem?_eq_some_iff.1 listed).1
    · rw [List.getElem?_map, List.getElem?_map, listed, listed', Option.map_some, Option.map_some,
        here, here']
  rw [same]

theorem id_eq_of_declaration (found : table.symbol? id = some symbol)
    (found' : table.symbol? id' = some symbol') (here : symbol.declaration? = some k)
    (here' : symbol'.declaration? = some k) : id = id' := by
  have resolved := resolved_of_resolve ran
  have type {id : SymbolId} {s : TypeSymbol} (found : table.symbol? id = some (.type s))
      (here : s.declaration? = some k) :
      ∃ d ∈ (fileScope t).types.toList, d.id = id ∧ d.node.index = k := by
    have known := type?_eq_some_iff.2 found
    have declared : s.isExternal = false := by rw [TypeSymbol.isExternal, here]; rfl
    obtain ⟨d, member, rfl, _⟩ := resolved.exists_linked known declared
    have same := (resolved.becomes member known).declaration?
    rw [here] at same
    exact ⟨d, member, rfl, (Option.some.inj same).symm⟩
  have apart {id id' owner : SymbolId} {s : TypeSymbol} {symbol : Symbol}
      (found : table.symbol? id = some (.type s)) (here : s.declaration? = some k)
      (found' : table.symbol? id' = some symbol) (owned : symbol.owner? = some owner)
      (here' : symbol.declaration? = some k) : False := by
    obtain ⟨d, member, _, place⟩ := type found here
    obtain ⟨d', _, _, n, declares⟩ := exists_declares ran bodied found' owned
    rw [declares.declaration?, ← place] at here'
    have same : n = d.node := Node.index_injective (Option.some.inj here')
    have isType : d.node.kind.isTypeDeclaration := by
      rw [← isSome_typeKind?, typeKind?_node member]
      rfl
    rw [← same, declares.isTypeDeclaration bodied] at isType
    cases isType
  cases owned : symbol.owner? with
  | none =>
      obtain ⟨s, rfl⟩ := Symbol.exists_type_of_owner? owned
      cases owned' : symbol'.owner? with
      | none =>
          obtain ⟨s', rfl⟩ := Symbol.exists_type_of_owner? owned'
          obtain ⟨d, member, rfl, place⟩ := type found here
          obtain ⟨d', member', rfl, place'⟩ := type found' here'
          rw [eq_of_node numbered member member' (Node.index_injective (place.trans place'.symm))]
      | some owner' => exact (apart found here found' owned' here').elim
  | some owner =>
      cases owned' : symbol'.owner? with
      | none =>
          obtain ⟨s', rfl⟩ := Symbol.exists_type_of_owner? owned'
          exact (apart found' here' found owned here).elim
      | some owner' => exact id_eq_of_owned ran numbered bodied found found' owned owned' here here'

theorem declaredBy?_eq (found : table.symbol? id = some symbol)
    (declared : symbol.declaration? = some n.index) : table.declaredBy? n = some id := by
  have kept := (resolved_of_resolve ran).settled.kept.declarations
  obtain ⟨linked, traced, enrolled⟩ := exists_enrolled (covers_all t) ran
  obtain ⟨last, indexed⟩ := kept.complete id symbol n.index found declared
  obtain ⟨other, found', declared'⟩ := kept.declared n.index last indexed
  rw [declaredBy?, if_pos (enrolled.tree.trans traced.tree).symm, indexed,
    id_eq_of_declaration ran numbered bodied found found' declared declared']

omit bodied in
theorem declarations_ascending (member : d ∈ (fileScope t).types.toList) {s : TypeSymbol}
    (known : table.type? d.id = some s) (name : String) :
    ((table.membersNamed s name).filterMap (·.2.declaration?)).Pairwise (· < ·) := by
  have places : (table.membersNamed s name).filterMap (·.2.declaration?) =
      (((table.membersNamed s name).map (·.2)).filterMap Symbol.declaration?) := by
    rw [List.filterMap_map]
    rfl
  have all : ((bodyEntries d).map (·.2)).filterMap Symbol.declaration? =
      (bodyEntries d).map (·.1.index) := by
    rw [List.filterMap_map, ← List.filterMap_eq_map]
    exact List.filterMap_congr fun e listed => (marks_of_mem_bodyEntries listed).2
  rw [places, listed_eq ran member known name]
  refine List.Pairwise.sublist (List.filter_sublist.filterMap _) ?_
  rw [all, List.pairwise_map]
  exact bodyEntries_ascending numbered d

theorem mem_membersNamed_iff (member : d ∈ (fileScope t).types.toList) {s : TypeSymbol}
    (known : table.type? d.id = some s) (name : String) :
    (id, symbol) ∈ table.membersNamed s name ↔
      symbol.name = name ∧ ∃ n, DeclaresMember d n symbol ∧ table.declaredBy? n = some id := by
  have listed := (resolved_of_resolve ran).settled.kept.listed
  have inside : (id, symbol) ∈ table.membersNamed s name ↔
      id ∈ s.members.named name ∧ table.symbol? id = some symbol := by
    simp [membersNamed]
  rw [inside, listed.mem_named_iff d.id s known name id]
  constructor
  · rintro ⟨⟨_, found, owned, rfl⟩, same⟩
    cases found.symm.trans same
    obtain ⟨d', member', same, n, declares⟩ := exists_declares ran bodied found owned
    cases eq_of_id member' member same
    exact ⟨rfl, n, declares, declaredBy?_eq ran numbered bodied found declares.declaration?⟩
  · rintro ⟨rfl, n, declares, declared⟩
    obtain ⟨_, found⟩ := exists_symbol ran bodied declares member
    cases declared.symm.trans (declaredBy?_eq ran numbered bodied found declares.declaration?)
    exact ⟨⟨symbol, found, declares.owner?, rfl⟩, found⟩

theorem exists_typeOf? (member : d ∈ (fileScope t).types.toList) :
    ∃ s, table.typeOf? d.node = some (d.id, s) ∧ table.type? d.id = some s := by
  have resolved := resolved_of_resolve ran
  obtain ⟨s, linked⟩ := resolved.tied d member
  have known := linked.known
  have declared := (resolved.becomes member known).declaration?
  have found := declaredBy?_eq ran numbered bodied (type?_eq_some_iff.1 known) declared
  rw [typeOf?, found, Option.bind_some, known]
  exact ⟨s, rfl, rfl⟩

end Read

end Resolution

open Resolution

variable {t : Tree} {table : SymbolTable}

structure MembersDeclared (t : Tree) (table : SymbolTable) : Prop where
  types : ∀ n : t.Node, declaresType n → ∃ d ∈ (fileScope t).types.toList, d.node = n
  typeOf? : ∀ d ∈ (fileScope t).types.toList, ∃ s, table.typeOf? d.node = some (d.id, s)
  own : ∀ d ∈ (fileScope t).types.toList, ∀ n symbol, DeclaresMember d n symbol →
    ∃ m, table.declaredBy? n = some m ∧ table.symbol? m = some symbol
  owned : ∀ m symbol owner, table.symbol? m = some symbol → symbol.owner? = some owner →
    ∃ d ∈ (fileScope t).types.toList, d.id = owner ∧
      ∃ n, DeclaresMember d n symbol ∧ table.declaredBy? n = some m
  once : ∀ d ∈ (fileScope t).types.toList, ∀ s, table.type? d.id = some s →
    ∀ m symbol, table.symbol? m = some symbol → symbol.owner? = some d.id →
      (s.members.flatMap (·.2)).count m = 1
  ascending : ∀ d ∈ (fileScope t).types.toList, ∀ s, table.type? d.id = some s →
    ∀ name, ((table.membersNamed s name).filterMap (·.2.declaration?)).Pairwise (· < ·)
  listed : ∀ d ∈ (fileScope t).types.toList, ∀ s, table.type? d.id = some s →
    ∀ name m symbol, (m, symbol) ∈ table.membersNamed s name ↔
      symbol.name = name ∧ ∃ n, DeclaresMember d n symbol ∧ table.declaredBy? n = some m

/-- Where members are told from types, as in the tree of a source without errors, the symbols that a
type owns are what its body declares, and each node leads to its own. -/
theorem members_are_declared :
    (∀ (p : Parser) id source root, p.Obeys Concrete.BodyShape → p source = .ok root →
      root.hasError = false → ∃ t, p.parse id source = .ok t ∧ Bodied t) ∧
      ∀ calls id (t : Tree) table, ((Builder.new id).attemptAll calls).finish = .ok t →
        resolve t = .ok table → Bodied t → MembersDeclared t table := by
  refine ⟨fun p id source root obeys parsed clean => ?_,
    fun calls id t table built ran bodied => ?_⟩
  · have shape := obeys source root parsed clean
    obtain ⟨t, made, _, numbered, top⟩ := shape.exists_lower id
    exact ⟨t, Parser.parse_of_lower parsed made, bodied_of_shape shape numbered top⟩
  obtain ⟨_, laid⟩ := exists_laidOut built
  have numbered := laid.wellNumbered
  have kept := (resolved_of_resolve ran).settled.kept
  constructor
  case types => exact fun n declares => exists_declared numbered (declares_eq n ▸ declares)
  case typeOf? =>
    intro d member
    obtain ⟨s, found, _⟩ := exists_typeOf? ran numbered bodied member
    exact ⟨s, found⟩
  case own =>
    intro d member n symbol declares
    obtain ⟨m, found⟩ := exists_symbol ran bodied declares member
    exact ⟨m, declaredBy?_eq ran numbered bodied found declares.declaration?, found⟩
  case owned =>
    intro m symbol owner found owned
    obtain ⟨d, member, same, n, declares⟩ := exists_declares ran bodied found owned
    exact ⟨d, member, same, n, declares,
      declaredBy?_eq ran numbered bodied found declares.declaration?⟩
  case once =>
    intro d member s known m symbol found owned
    rw [kept.count_members known found owned, if_pos rfl]
  case ascending =>
    exact fun d member s known => declarations_ascending ran numbered member known
  case listed =>
    exact fun d member s known name m symbol =>
      mem_membersNamed_iff ran numbered bodied member known name

/-- A class with a field, a constructor and a method around another class, and an enum. -/
def crowdedSource : String :=
  "class A \x7b int x, y; A() \x7b\x7d void m(A this, int i) \x7b\x7d " ++
    "class B \x7b void m() \x7b\x7d \x7d \x7d enum E \x7b ONE \x7d"

/-- What the nodes of `crowdedSource` come to, all at the start. -/
def crowdedCalls : List Builder.Call := [
  .start .compilationUnit none,
  .start .class none, .field "name", .token .identifier none "A" .empty,
  .field "body", .start .classBody none,
  .start .field none, .field "type", .token .identifier none "int" .empty,
  .field "declarator", .start .other none,
  .field "name", .token .identifier none "x" .empty, .finishNode,
  .field "declarator", .start .other none,
  .field "name", .token .identifier none "y" .empty, .finishNode, .finishNode,
  .start .constructor none, .field "name", .token .identifier none "A" .empty, .finishNode,
  .start .method none, .field "name", .token .identifier none "m" .empty,
  .field "parameters", .start .parameters none,
  .start .parameter (some ("receiver_parameter", .empty)), .finishNode,
  .start .parameter none, .field "type", .token .identifier none "int" .empty, .finishNode,
  .finishNode,
  .start .class none, .field "name", .token .identifier none "B" .empty,
  .field "body", .start .classBody none,
  .start .method none, .field "name", .token .identifier none "m" .empty, .finishNode,
  .finishNode, .finishNode, .finishNode, .finishNode, .finishNode,
  .start .enum none, .field "name", .token .identifier none "E" .empty,
  .field "body", .start .classBody none,
  .start .other (some ("enum_constant", .empty)),
  .field "name", .token .identifier none "ONE" .empty, .finishNode,
  .finishNode, .finishNode, .finishNode]

def crowded : Tree where
  id := ⟨0⟩
  nodes := ((Builder.new ⟨0⟩).attemptAll crowdedCalls).nodes
  hasErrors := false
  nonempty := by decide +kernel
  links := ((Builder.new ⟨0⟩).attemptAll crowdedCalls).links

theorem crowded_bodied (numbered : WellNumbered crowded) : Bodied crowded where
  bodies := by
    have all : ∀ n ∈ crowded.root.descendants, n.kind.isTypeDeclaration →
        (n.childInField? "body").all (·.kind == .classBody) := by
      decide +kernel
    intro n body isType own
    simpa [own] using all n (numbered.mem_descendants n) isType
  constants := by
    have all : ∀ n ∈ crowded.root.descendants, n.rawKind = "enum_constant" → n.kind = .other := by
      decide +kernel
    exact fun n => all n (numbered.mem_descendants n)
  declarators := by
    have all : ∀ n ∈ crowded.root.descendants, n.kind = .field → ∀ c ∈ n.children,
        c.field? = some "declarator" → c.kind.isTypeDeclaration = false := by
      decide +kernel
    exact fun n => all n (numbered.mem_descendants n)

/-- Of two methods of one name the outer class has its own, not the one of the class inside. -/
theorem crowded_members_are_declared :
    (reader.Obeys Concrete.BodyShape ∧ ∃ root, reader crowdedSource = .ok root ∧
      root.hasError = false ∧ ∃ t, reader.parse ⟨0⟩ crowdedSource = .ok t ∧ Bodied t) ∧
    ∃ table, resolve crowded = .ok table ∧ ∃ d ∈ (fileScope crowded).types.toList, ∃ s,
      d.name = "A" ∧ table.type? d.id = some s ∧
      ∃ n m symbol, DeclaresMember d n symbol ∧ table.declaredBy? n = some m ∧
        (m, symbol) ∈ table.membersNamed s "m" ∧
      ∃ d' ∈ (fileScope crowded).types.toList, ∃ n' m' symbol', d'.name = "B" ∧
        DeclaresMember d' n' symbol' ∧ symbol'.name = "m" ∧ table.declaredBy? n' = some m' ∧
        (m', symbol') ∉ table.membersNamed s "m" := by
  have clean : (concreteTree crowdedSource).hasError = false := by decide +kernel
  refine ⟨⟨reader_obeys_body, _, rfl, clean,
    members_are_declared.1 reader ⟨0⟩ crowdedSource _ reader_obeys_body rfl clean⟩, ?_⟩
  have built : ((Builder.new ⟨0⟩).attemptAll crowdedCalls).finish = .ok crowded := rfl
  obtain ⟨_, laid⟩ := exists_laidOut built
  have bodied := crowded_bodied laid.wellNumbered
  obtain ⟨table, ran, _⟩ := exists_resolved (t := crowded) rfl (by decide +kernel)
  have told := members_are_declared.2 _ _ _ _ built ran bodied
  have methods : ∀ outer ∈ ["A", "B"], ∃ d ∈ (fileScope crowded).types.toList,
      ∃ body ∈ (d.node.childInField? "body").toList, ∃ n ∈ body.children,
        ∃ name ∈ (n.childInField? "name").toList,
          d.name = outer ∧ n.kind = .method ∧ name.text = "m" := by
    decide +kernel
  have declared (outer : String) (listed : outer ∈ ["A", "B"]) :
      ∃ d ∈ (fileScope crowded).types.toList, ∃ n symbol, d.name = outer ∧
        DeclaresMember d n symbol ∧ symbol.name = "m" := by
    obtain ⟨d, member, body, inBody, n, inside, name, named, same, kind, text⟩ :=
      methods outer listed
    exact ⟨d, member, n, _, same, .method (Option.mem_toList.1 inBody) inside kind
      (Option.mem_toList.1 named), text⟩
  obtain ⟨d, member, n, symbol, outer, declares, named⟩ := declared "A" (by decide)
  obtain ⟨d', member', n', symbol', inner, declares', named'⟩ := declared "B" (by decide)
  obtain ⟨m, found, _⟩ := told.own d member n symbol declares
  obtain ⟨m', found', there⟩ := told.own d' member' n' symbol' declares'
  obtain ⟨s, linked⟩ := (resolved_of_resolve ran).tied d member
  have lists := told.listed d member s linked.known "m"
  refine ⟨table, ran, d, member, s, outer, linked.known, n, m, symbol, declares, found,
    (lists m symbol).2 ⟨named, n, declares, found⟩, d', member', n', m', symbol', inner, declares',
    named', found', fun listed => ?_⟩
  obtain ⟨_, _, declaresHere, _⟩ := (lists m' symbol').1 listed
  have same := declaresHere.owner?.symm.trans declares'.owner?
  cases eq_of_id member member' (Option.some.inj same)
  rw [outer] at inner
  exact absurd inner (by decide)

end Java

end TreeLint

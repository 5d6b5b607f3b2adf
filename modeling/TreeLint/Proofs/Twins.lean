import TreeLint.Proofs.Lockstep
import TreeLint.Proofs.Reargued
import TreeLint.Proofs.Reordered

/-! Two trees that differ in the arguments of types have the same symbols. -/

namespace TreeLint

theorem findIdx?_eq_of_forall₂ {α β : Type} {R : α → β → Prop} {xs : List α} {ys : List β}
    {p : α → Bool} {q : β → Bool} (all : List.Forall₂ R xs ys) (same : ∀ a b, R a b → p a = q b) :
    xs.findIdx? p = ys.findIdx? q := by
  induction all with
  | nil => rfl
  | cons related _ ih => rw [List.findIdx?_cons, List.findIdx?_cons, same _ _ related, ih]

namespace Java

open TreeLint.Tree Resolution SymbolTable

variable {t t' : Tree} {n m : t.Node} {n' m' : t'.Node}

/-- The nodes are reached from the roots on the same way, along which the trees agree. -/
inductive Facing : t.Node → t'.Node → Prop
  | root (related : Reargued t.root t'.root) : Facing t.root t'.root
  | inner {n : t.Node} {n' : t'.Node} {i : Nat} {c : t.Node} {c' : t'.Node}
      (facing : Facing n n') (here : n.children[i]? = some c) (there : n'.children[i]? = some c')
      (related : Reargued c c') : Facing c c'

namespace Facing

theorem related (facing : Facing n n') : Reargued n n' := by
  cases facing with
  | root related => exact related
  | inner _ _ _ related => exact related

theorem children (facing : Facing n n') (below : List.Forall₂ Reargued n.children n'.children) :
    List.Forall₂ Facing n.children n'.children := by
  refine List.forall₂_iff_get.2 ⟨below.length_eq, fun i inside inside' => ?_⟩
  exact .inner facing (List.getElem?_eq_getElem inside) (List.getElem?_eq_getElem inside')
    (below.get inside inside')

section Numbered

variable (numbered : WellNumbered t) (numbered' : WellNumbered t')

include numbered numbered'

omit numbered' in
theorem declarations (facing : Facing n n') :
    List.Forall₂ Facing (n.descendants.filter declares) (n'.descendants.filter declares) := by
  induction n using Node.induction_below generalizing n' with
  | step n ih =>
      rcases facing.related.arguments_or_children with ⟨old, new⟩ | below
      · rw [List.filter_eq_nil_iff.2 fun m below => Bool.eq_false_iff.1 (old.bare m below),
          List.filter_eq_nil_iff.2 fun m below => Bool.eq_false_iff.1 (new.bare m below)]
        exact .nil
      · have each := (List.forall₂_and_left _ _).2 ⟨ih, facing.children below⟩
        have later := flatMap_forall₂ each fun c c' child => child.1 child.2
        rw [n.descendants_eq, n'.descendants_eq, List.filter_cons, List.filter_cons,
          List.filter_flatMap, List.filter_flatMap, ← facing.related.declares numbered]
        split
        · exact .cons facing later
        · exact later

theorem ancestors (facing : Facing n n') : List.Forall₂ Facing n.ancestors n'.ancestors := by
  induction facing with
  | root =>
      rw [Node.ancestors_of_orphan ((numbered.orphan_iff _).2 rfl),
        Node.ancestors_of_orphan ((numbered'.orphan_iff _).2 rfl)]
      exact .nil
  | inner facing here there _ ih =>
      rw [Node.ancestors_of_parent? (numbered.listed_by_parent _ _ (List.mem_of_getElem? here)),
        Node.ancestors_of_parent? (numbered'.listed_by_parent _ _ (List.mem_of_getElem? there))]
      exact .cons facing ih

theorem parent? (facing : Facing n n') : Option.Rel Facing n.parent? n'.parent? := by
  cases facing with
  | root =>
      rw [(numbered.orphan_iff _).2 rfl, (numbered'.orphan_iff _).2 rfl]
      exact .none
  | inner facing here there =>
      rw [numbered.listed_by_parent _ _ (List.mem_of_getElem? here),
        numbered'.listed_by_parent _ _ (List.mem_of_getElem? there)]
      exact .some facing

omit numbered' in
theorem place_eq {p : t.Node} {i j : Nat} (here : p.children[i]? = some n)
    (again : p.children[j]? = some n) : i = j :=
  (List.getElem?_inj (List.getElem?_eq_some_iff.1 here).1 (Mate.nodup_children numbered p)).1
    (here.trans again.symm)

theorem eq_iff (facing : Facing n n') (other : Facing m m') : n = m ↔ n' = m' := by
  have inner {u : Tree} (numbered : WellNumbered u) {p c : u.Node} {i : Nat}
      (here : p.children[i]? = some c) : c ≠ u.root := by
    rintro rfl
    have orphan := (numbered.orphan_iff u.root).2 rfl
    cases orphan.symm.trans (numbered.listed_by_parent _ _ (List.mem_of_getElem? here))
  induction facing generalizing m m' with
  | root =>
      cases other with
      | root => exact iff_of_true rfl rfl
      | inner _ here there =>
          exact iff_of_false (inner numbered here).symm (inner numbered' there).symm
  | @inner p p' i c c' _ here there _ ih =>
      cases other with
      | root => exact iff_of_false (inner numbered here) (inner numbered' there)
      | @inner q q' j _ _ facing' here' there' =>
          have parents := ih facing'
          constructor
          · rintro rfl
            cases (numbered.listed_by_parent _ _ (List.mem_of_getElem? here)).symm.trans
              (numbered.listed_by_parent _ _ (List.mem_of_getElem? here'))
            cases place_eq numbered here here'
            rw [← parents.1 rfl, there] at there'
            exact Option.some.inj there'
          · rintro rfl
            cases (numbered'.listed_by_parent _ _ (List.mem_of_getElem? there)).symm.trans
              (numbered'.listed_by_parent _ _ (List.mem_of_getElem? there'))
            cases place_eq numbered' there there'
            rw [← parents.2 rfl, here] at here'
            exact Option.some.inj here'

end Numbered

end Facing

/-- The types are declared at corresponding places and known by the same numbers and names. -/
structure Twin (d : Declared t) (d' : Declared t') : Prop where
  facing : Facing d.node d'.node
  declares : declares d.node
  id : d.id = d'.id
  name : d.name = d'.name
  qualifiedName : d.qualifiedName = d'.qualifiedName
  kind : d.kind = d'.kind
  enclosing? : d.enclosing? = d'.enclosing?

section Declaring

variable {types : Array (Declared t)} {types' : Array (Declared t')}

theorem getElem?_twins (twins : List.Forall₂ Twin types.toList types'.toList) (i : Nat) :
    Option.Rel Twin types[i]? types'[i]? := by
  rw [← Array.getElem?_toList, ← Array.getElem?_toList]
  cases found : types.toList[i]? with
  | none =>
      rw [List.getElem?_eq_none_iff, twins.length_eq, ← List.getElem?_eq_none_iff] at found
      rw [found]
      exact .none
  | some d =>
      obtain ⟨d', found'⟩ := exists_getElem?_forall₂ twins found
      rw [found']
      exact .some (getElem?_forall₂ twins found found')

variable (numbered : WellNumbered t) (numbered' : WellNumbered t')

include numbered numbered'

theorem Facing.enclosingType? (facing : Facing n n')
    (twins : List.Forall₂ Twin types.toList types'.toList) :
    enclosingType? types n = Resolution.enclosingType? types' n' := by
  have around := find?_forall₂ (facing.ancestors numbered numbered')
    (p := (·.kind.isTypeDeclaration)) (q := (·.kind.isTypeDeclaration))
    fun _ _ above => by rw [above.related.kind]
  rw [Resolution.enclosingType?, Resolution.enclosingType?]
  generalize n.ancestors.find? (·.kind.isTypeDeclaration) = x,
    n'.ancestors.find? (·.kind.isTypeDeclaration) = y at around
  cases around with
  | none => rfl
  | some above =>
      change types.findIdx? _ = types'.findIdx? _
      rw [← types.toArray_toList, ← types'.toArray_toList, List.findIdx?_toArray,
        List.findIdx?_toArray]
      refine findIdx?_eq_of_forall₂ twins fun d d' twin => ?_
      rw [Bool.eq_iff_iff, beq_iff_eq, beq_iff_eq]
      exact twin.facing.eq_iff numbered numbered' above

theorem Facing.qualifiedNameOf (facing : Facing n n')
    (twins : List.Forall₂ Twin types.toList types'.toList) (h : Header) (name : String) :
    qualifiedNameOf h types n name = Resolution.qualifiedNameOf h types' n' name := by
  have owners : Option.Rel Twin ((Resolution.enclosingType? types n).bind (types[·]?))
      ((Resolution.enclosingType? types n).bind (types'[·]?)) := by
    cases Resolution.enclosingType? types n with
    | none => exact .none
    | some i => exact getElem?_twins twins i
  have before := (filter_forall₂ twins
    (p := fun d => d.enclosing? == Resolution.enclosingType? types n && isAnonymous d.node)
    (q := fun d => d.enclosing? == Resolution.enclosingType? types n && isAnonymous d.node)
    fun d d' twin => by rw [twin.enclosing?, twin.facing.related.isAnonymous]).length_eq
  rw [Resolution.qualifiedNameOf, Resolution.qualifiedNameOf,
    ← facing.enclosingType? numbered numbered' twins, ← facing.related.isAnonymous]
  generalize (Resolution.enclosingType? types n).bind (types[·]?) = x,
    (Resolution.enclosingType? types n).bind (types'[·]?) = y at owners
  cases owners with
  | none => simp only [before]
  | some owner => simp only [before, owner.qualifiedName]

omit numbered numbered' in
theorem Twin.push {d : Declared t} {d' : Declared t'} (twin : Twin d d')
    (twins : List.Forall₂ Twin types.toList types'.toList) :
    List.Forall₂ Twin (types.push d).toList (types'.push d').toList := by
  rw [Array.toList_push, Array.toList_push]
  exact List.rel_append twins (.cons twin .nil)

theorem twins_declareTypes {nodes : List t.Node} {nodes' : List t'.Node}
    (facing : List.Forall₂ Facing nodes nodes') (h : Header) {table table' : SymbolTable}
    (twins : List.Forall₂ Twin types.toList types'.toList)
    (same : table.unplaced = table'.unplaced) :
    List.Forall₂ Twin (declareTypes h types table nodes).1.toList
        (declareTypes h types' table' nodes').1.toList ∧
      (declareTypes h types table nodes).2.unplaced =
        (declareTypes h types' table' nodes').2.unplaced := by
  induction facing generalizing types types' table table' with
  | nil => exact ⟨twins, same⟩
  | @cons n n' nodes nodes' here _ ih =>
      rw [declareTypes, declareTypes, ← here.related.kind]
      cases isType : typeKind? n.kind with
      | none => exact ih twins same
      | some kind =>
          have other : ¬IsArguments n := fun old => by
            rw [old.kind] at isType
            cases isType
          rw [← here.related.declarationName? numbered other]
          cases named : declarationName? n with
          | none => exact ih twins same
          | some name =>
              dsimp only
              have qualifiedName := here.qualifiedNameOf numbered numbered' twins h name
              obtain ⟨id, left⟩ := declareType_of_unplaced same name
                (qualifiedNameOf h types n name) kind
                (show (some n.index).isSome = (some n'.index).isSome from rfl)
              rw [← qualifiedName, ← id]
              refine ih (Twin.push ⟨here, ?_, rfl, rfl, rfl, rfl, ?_⟩ twins) left
              · rw [declares, isType, named]
                rfl
              · exact here.enclosingType? numbered numbered' twins

end Declaring

theorem declareTypes_filter (h : Header) (types : Array (Declared t)) (table : SymbolTable)
    (nodes : List t.Node) :
    declareTypes h types table (nodes.filter declares) = declareTypes h types table nodes := by
  induction nodes generalizing types table with
  | nil => rfl
  | cons n nodes ih =>
      rw [List.filter_cons, declares]
      cases isType : typeKind? n.kind <;> cases named : declarationName? n <;>
        simp [declareTypes, isType, named, ih]

structure TwinScopes (scope : NameScope t) (scope' : NameScope t') : Prop where
  header : scope.header = scope'.header
  types : List.Forall₂ Twin scope.types.toList scope'.types.toList

theorem Twin.other {d : Declared t} {d' : Declared t'} (twin : Twin d d') :
    ¬IsArguments d.node := by
  intro old
  cases old.not_declares.symm.trans twin.declares

theorem Twin.container {d : Declared t} {d' : Declared t'} (twin : Twin d d') :
    NameScope.container d = NameScope.container d' := by
  rw [NameScope.container, NameScope.container, twin.qualifiedName, twin.name]

theorem Twin.deeper {d e : Declared t} {d' e' : Declared t'} (twin : Twin d d')
    (other : Twin e e') : Twin (NameScope.deeper d e) (NameScope.deeper d' e') := by
  rw [NameScope.deeper, NameScope.deeper, twin.container, other.container]
  split
  · exact other
  · exact twin

theorem Twin.deepest {rest : List (Declared t)} {rest' : List (Declared t')}
    (all : List.Forall₂ Twin rest rest') {d : Declared t} {d' : Declared t'} (twin : Twin d d') :
    Twin (rest.foldl NameScope.deeper d) (rest'.foldl NameScope.deeper d') := by
  induction all generalizing d d' with
  | nil => exact twin
  | cons here _ ih => exact ih (twin.deeper here)

namespace TwinScopes

variable {scope : NameScope t} {scope' : NameScope t'} (scopes : TwinScopes scope scope')
  {d : Declared t} {d' : Declared t'} (twin : Twin d d')

include scopes twin

theorem visible? (name : String) : scope.visible? name d = scope'.visible? name d' := by
  have candidates := filter_forall₂ scopes.types
    (p := fun e => e.name == name && (NameScope.container e == scope.header.package ||
      d.qualifiedName == NameScope.container e ||
      d.qualifiedName.startsWith (NameScope.container e ++ ".")))
    (q := fun e => e.name == name && (NameScope.container e == scope'.header.package ||
      d'.qualifiedName == NameScope.container e ||
      d'.qualifiedName.startsWith (NameScope.container e ++ ".")))
    fun e e' other => by
      rw [other.name, other.container, twin.qualifiedName, scopes.header]
  rw [NameScope.visible?, NameScope.visible?]
  generalize scope.types.toList.filter _ = found, scope'.types.toList.filter _ = found'
    at candidates
  cases candidates with
  | nil => rfl
  | cons first rest => exact congrArg some (Twin.deepest rest first).qualifiedName

theorem qualify (name : String) : scope.qualify name d = scope'.qualify name d' := by
  rw [NameScope.qualify, NameScope.qualify, scopes.visible? twin, scopes.header]

omit twin in
theorem owner? (twin : Twin d d') : Option.Rel Twin (owner? scope d) (owner? scope' d') := by
  rw [Resolution.owner?, Resolution.owner?, ← twin.enclosing?]
  cases d.enclosing? with
  | none => exact .none
  | some i => exact getElem?_twins scopes.types i

end TwinScopes

end Java

end TreeLint

import TreeLint.Proofs.Containers
import TreeLint.Proofs.Mentions
import TreeLint.Proofs.Reordered

/-! Types that two files declare in different orders mention the same names. -/

namespace TreeLint.Java

open TreeLint.Tree SymbolTable Resolution

variable {t t' : Tree} {tops : List t.Node} {tops' : List t'.Node} {d e : Declared t}
  {d' e' : Declared t'}

/-- Two files that declare the same types, whose names tell them apart, in different orders. -/
structure Redeclared (tops : List t.Node) (tops' : List t'.Node) : Prop where
  reordered : Reordered tops tops'
  numbered : WellNumbered t
  numbered' : WellNumbered t'
  root : t.root.kind = .compilationUnit
  root' : t'.root.kind = .compilationUnit
  regular : Regular t
  regular' : Regular t'

namespace Redeclared

variable (redeclared : Redeclared tops tops')

include redeclared

theorem symm : Redeclared tops' tops :=
  ⟨redeclared.reordered.symm, redeclared.numbered', redeclared.numbered, redeclared.root',
    redeclared.root, redeclared.regular', redeclared.regular⟩

theorem exists_pair (member : d ∈ (fileScope t).types.toList) : ∃ d', Pair tops tops' d d' :=
  Java.exists_pair redeclared.reordered redeclared.numbered redeclared.numbered' redeclared.root
    member

theorem header : (fileScope t).header = (fileScope t').header :=
  redeclared.reordered.header

section Pair

variable (pair : Pair tops tops' d d')

include pair

theorem name : d.name = d'.name := pair.name redeclared.reordered

theorem kind : d.kind = d'.kind := pair.kind redeclared.reordered

theorem alike : Alike d.node d'.node := pair.alike redeclared.reordered

theorem isAnonymous : Resolution.isAnonymous d.node = Resolution.isAnonymous d'.node :=
  pair.isAnonymous redeclared.reordered

theorem qualifiedName : d.qualifiedName = d'.qualifiedName :=
  pair.qualifiedName redeclared.reordered redeclared.numbered redeclared.numbered'
    redeclared.root redeclared.root' redeclared.regular.rooted

theorem container : NameScope.container d = NameScope.container d' := by
  rw [NameScope.container, NameScope.container, redeclared.qualifiedName pair,
    redeclared.name pair]

theorem mem_candidates (name : String) (other : Pair tops tops' e e') :
    e ∈ candidates name d ↔ e' ∈ candidates name d' := by
  rw [candidates, candidates, List.mem_filter, List.mem_filter, redeclared.container other,
    redeclared.name other, redeclared.qualifiedName pair, redeclared.header]
  exact and_congr_left fun _ => iff_of_true other.member other.member'

theorem deepest (name : String) (other : Pair tops tops' e e') (deepest : Deepest name d e) :
    Deepest name d' e' := by
  refine ⟨(redeclared.mem_candidates pair name other).1 deepest.1, fun o' candidate differs => ?_⟩
  obtain ⟨o, back⟩ := redeclared.symm.exists_pair (List.mem_filter.1 candidate).1
  have forth := back.symm
  have apart : o ≠ e := by
    rintro rfl
    exact differs (forth.eq redeclared.reordered redeclared.numbered redeclared.numbered' other)
  rw [← redeclared.container forth, ← redeclared.container other]
  exact deepest.2 o ((redeclared.mem_candidates pair name forth).2 candidate) apart

theorem visible? (name : String) :
    (fileScope t).visible? name d = (fileScope t').visible? name d' := by
  by_cases nil : candidates name d = []
  · have nil' : candidates name d' = [] := by
      refine List.eq_nil_iff_forall_not_mem.2 fun o' candidate => ?_
      obtain ⟨o, back⟩ := redeclared.symm.exists_pair (List.mem_filter.1 candidate).1
      have there := (redeclared.mem_candidates pair name back.symm).2 candidate
      rw [nil] at there
      cases there
    rw [visible?_of_nil nil, visible?_of_nil nil']
  · obtain ⟨o, deepest⟩ := redeclared.regular.exists_deepest redeclared.numbered pair.member nil
    obtain ⟨o', other⟩ := redeclared.exists_pair (List.mem_filter.1 deepest.1).1
    rw [visible?_of_deepest deepest,
      visible?_of_deepest (redeclared.deepest pair name other deepest),
      redeclared.qualifiedName other]

theorem qualify (name : String) :
    (fileScope t).qualify name d = (fileScope t').qualify name d' := by
  rw [NameScope.qualify, NameScope.qualify, redeclared.visible? pair, redeclared.header]

theorem map_qualify {types : List t.Node} {types' : List t'.Node}
    (alike : List.Forall₂ Alike types types') :
    (types.map fun type => (fileScope t).qualify (typeName type) d) =
      types'.map fun type => (fileScope t').qualify (typeName type) d' :=
  map_eq_of_forall₂ alike fun _ _ type => by
    rw [typeName_alike type, redeclared.qualify pair]

theorem owner? : Option.Rel (Pair tops tops') (owner? (fileScope t) d)
    (Resolution.owner? (fileScope t') d') :=
  pair.owner? redeclared.reordered redeclared.numbered redeclared.numbered' redeclared.root
    redeclared.root'

theorem exists_site (anonymous : Resolution.isAnonymous d.node) :
    ∃ p p', d.node.parent? = some p ∧ d'.node.parent? = some p' ∧ Alike p p' := by
  rcases pair.mate.parent? redeclared.reordered redeclared.numbered redeclared.numbered' with
    ⟨top, _⟩ | ⟨p, p', parent, parent', mates⟩
  · obtain ⟨m, around⟩ := redeclared.regular.rooted d pair.member anonymous
    rw [around?, Node.ancestors_of_parent? top,
      Node.ancestors_of_orphan ((redeclared.numbered.orphan_iff _).2 rfl),
      List.find?_cons_of_neg (by simp [redeclared.root, Kind.isTypeDeclaration])] at around
    cases around
  · exact ⟨p, p', parent, parent', mates.alike redeclared.reordered⟩

theorem constantOwner? (anonymous : Resolution.isAnonymous d.node) :
    (constantOwner? (fileScope t) d).map (·.qualifiedName) =
      (Resolution.constantOwner? (fileScope t') d').map (·.qualifiedName) := by
  obtain ⟨p, p', parent, parent', alike⟩ := redeclared.exists_site pair anonymous
  have owners := redeclared.owner? pair
  rw [Resolution.constantOwner?, Resolution.constantOwner?, parent, parent', Option.any_some,
    Option.any_some, alike.rawKind]
  generalize Resolution.owner? (fileScope t) d = x, Resolution.owner? (fileScope t') d' = y
    at owners
  cases owners with
  | none => rfl
  | some one =>
      rw [Option.filter_some, Option.filter_some]
      split
      · exact congrArg some (redeclared.qualifiedName one)
      · rfl

theorem createdName? (anonymous : Resolution.isAnonymous d.node) :
    createdName? (fileScope t) d = Resolution.createdName? (fileScope t') d' := by
  obtain ⟨p, p', parent, parent', alike⟩ := redeclared.exists_site pair anonymous
  have owners := redeclared.owner? pair
  rw [Resolution.createdName?, Resolution.createdName?, parent, parent', Option.bind_some,
    Option.bind_some]
  refine map_eq_of_rel (alike.childInField? "type") fun c c' child => ?_
  rw [typeName_alike child]
  generalize Resolution.owner? (fileScope t) d = x, Resolution.owner? (fileScope t') d' = y
    at owners
  cases owners with
  | none => exact redeclared.qualify pair _
  | some one => exact redeclared.qualify one _

end Pair

end Redeclared

theorem declaredKind?_eq_some_iff (regular : Regular t) {name : String} {kind : TypeKind} :
    declaredKind? (declarations t).2 name = some kind ↔
      ∃ d ∈ (fileScope t).types.toList, d.qualifiedName = name ∧ d.kind = kind := by
  have registered := registered_declarations t
  rw [declaredKind?]
  constructor
  · intro found
    simp only [Option.bind_eq_bind, Option.bind_eq_some_iff] at found
    obtain ⟨id, named, s, known, same⟩ := found
    obtain ⟨_, there, rfl⟩ := registered.kept.names.named _ _ named
    cases known.symm.trans there
    obtain ⟨d, member, rfl, rfl⟩ := registered.exists_of_type? known
    exact ⟨d, member, rfl, Option.some.inj same⟩
  · rintro ⟨d, member, rfl, rfl⟩
    simp only [typeNamed?_declarations regular.distinct member, registered.bare_of_mem member,
      Option.bind_eq_bind, Option.bind_some]
    rfl

namespace Redeclared

variable (redeclared : Redeclared tops tops')

include redeclared

theorem declaredKind? (name : String) :
    declaredKind? (declarations t).2 name =
      Resolution.declaredKind? (declarations t').2 name := by
  refine Option.ext fun kind => ?_
  rw [declaredKind?_eq_some_iff redeclared.regular, declaredKind?_eq_some_iff redeclared.regular']
  constructor
  · rintro ⟨d, member, rfl, rfl⟩
    obtain ⟨d', pair⟩ := redeclared.exists_pair member
    exact ⟨d', pair.member', (redeclared.qualifiedName pair).symm, (redeclared.kind pair).symm⟩
  · rintro ⟨d', member', rfl, rfl⟩
    obtain ⟨d, back⟩ := redeclared.symm.exists_pair member'
    exact ⟨d, back.member', redeclared.qualifiedName back.symm, redeclared.kind back.symm⟩

theorem isInterface (name : String) :
    isInterface (declarations t).2 name = Resolution.isInterface (declarations t').2 name := by
  rw [Resolution.isInterface, Resolution.isInterface, redeclared.declaredKind?]

theorem superclassName? (pair : Pair tops tops' d d') :
    superclassName? (fileScope t) (declarations t).2 d =
      Resolution.superclassName? (fileScope t') (declarations t').2 d' := by
  have clause := (redeclared.alike pair).childInField? "superclass"
  rw [Resolution.superclassName?, Resolution.superclassName?, redeclared.kind pair]
  cases d'.kind with
  | «class» =>
      dsimp only
      rw [← redeclared.isAnonymous pair]
      split
      next anonymous =>
        have owners := redeclared.constantOwner? pair anonymous
        rw [redeclared.createdName? pair anonymous, funext redeclared.isInterface]
        generalize Resolution.constantOwner? (fileScope t) d = x,
          Resolution.constantOwner? (fileScope t') d' = y at owners
        cases x with
        | none =>
            cases y with
            | none => cases Resolution.createdName? (fileScope t') d' <;> rfl
            | some o' => cases owners
        | some o =>
            cases y with
            | none => cases owners
            | some o' => exact owners
      next =>
        rw [redeclared.qualifiedName pair]
        generalize d.node.childInField? "superclass" = x, d'.node.childInField? "superclass" = y
          at clause
        cases clause with
        | none => rfl
        | some one =>
            dsimp only
            rw [← List.head?_map, ← List.head?_map,
              redeclared.map_qualify pair (supertypes_alike one)]
  | _ => rfl

theorem interfaceNames (pair : Pair tops tops' d d') :
    interfaceNames (fileScope t) (declarations t).2 d =
      Resolution.interfaceNames (fileScope t') (declarations t').2 d' := by
  have created : createdInterface? (fileScope t) (declarations t).2 d =
      createdInterface? (fileScope t') (declarations t').2 d' := by
    by_cases anonymous : Resolution.isAnonymous d.node
    · have none_iff := congrArg (· = none) (redeclared.constantOwner? pair anonymous)
      simp only [Option.map_eq_none_iff, eq_iff_iff] at none_iff
      rw [createdInterface?, createdInterface?, redeclared.kind pair, redeclared.isAnonymous pair,
        redeclared.createdName? pair anonymous, funext redeclared.isInterface]
      simp only [none_iff]
    · have anonymous' := redeclared.isAnonymous pair ▸ anonymous
      rw [createdInterface?_of_not fun both => anonymous both.2,
        createdInterface?_of_not fun both => anonymous' both.2]
  have listed : clauseNames (fileScope t) d = clauseNames (fileScope t') d' := by
    have clause := (redeclared.alike pair).childOfKind? .superInterfaces
    rw [clauseNames, clauseNames]
    generalize d.node.childOfKind? .superInterfaces = x,
      d'.node.childOfKind? .superInterfaces = y at clause
    cases clause with
    | none => rfl
    | some one => exact redeclared.map_qualify pair (supertypes_alike one)
  rw [Resolution.interfaceNames, Resolution.interfaceNames, created, listed, annotationName?,
    annotationName?, redeclared.kind pair]

end Redeclared

end TreeLint.Java

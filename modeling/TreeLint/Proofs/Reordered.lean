import Mathlib.Data.List.Perm.Subperm
import TreeLint.Proofs.Alike
import TreeLint.Proofs.Apart

/-! Two files that declare the same types in different orders: which of their nodes stand for each
other, and that the types among these have the same names. -/

namespace TreeLint

universe u v

theorem getElem?_forall₂ {α : Type u} {β : Type v} {R : α → β → Prop} {xs : List α} {ys : List β}
    (all : List.Forall₂ R xs ys) {i : Nat} {a : α} {b : β} (here : xs[i]? = some a)
    (there : ys[i]? = some b) : R a b := by
  obtain ⟨inside, rfl⟩ := List.getElem?_eq_some_iff.1 here
  obtain ⟨inside', rfl⟩ := List.getElem?_eq_some_iff.1 there
  exact all.get inside inside'

theorem foldl_eq_of_forall₂ {α : Type u} {β : Type v} {γ : Type} {R : α → β → Prop} {xs : List α}
    {ys : List β} {f : γ → α → γ} {g : γ → β → γ} (all : List.Forall₂ R xs ys)
    (same : ∀ a b, R a b → ∀ c, f c a = g c b) (c : γ) : xs.foldl f c = ys.foldl g c := by
  induction all generalizing c with
  | nil => rfl
  | cons related _ ih => rw [List.foldl_cons, List.foldl_cons, same _ _ related, ih]

theorem exists_getElem?_forall₂ {α : Type u} {β : Type v} {R : α → β → Prop} {xs : List α}
    {ys : List β} (all : List.Forall₂ R xs ys) {i : Nat} {a : α} (here : xs[i]? = some a) :
    ∃ b, ys[i]? = some b := by
  obtain ⟨inside, _⟩ := List.getElem?_eq_some_iff.1 here
  exact ⟨_, List.getElem?_eq_getElem (all.length_eq ▸ inside)⟩

namespace Tree

variable {t t' : Tree}

theorem Alike.symm {n : t.Node} {n' : t'.Node} (alike : Alike n n') : Alike n' n := by
  induction alike with
  | intro kind rawKind field? text? length _ ih =>
      exact .intro kind.symm rawKind.symm field?.symm text?.symm length.symm
        fun i c c' here there => ih i c' c there here

end Tree

namespace Java

open TreeLint.Tree Resolution

variable {t t' : Tree} {tops : List t.Node} {tops' : List t'.Node}

/-- The two trees have the same declarations at the top, as listed, with types in any order. -/
structure Reordered (tops : List t.Node) (tops' : List t'.Node) : Prop where
  alike : List.Forall₂ Alike tops tops'
  perm : tops.Perm t.root.children
  perm' : tops'.Perm t'.root.children
  others : tops.filter (!·.kind.isTypeDeclaration) =
    t.root.children.filter (!·.kind.isTypeDeclaration)
  others' : tops'.filter (!·.kind.isTypeDeclaration) =
    t'.root.children.filter (!·.kind.isTypeDeclaration)

/-- The nodes stand at corresponding places below corresponding declarations at the top. -/
inductive Mate (tops : List t.Node) (tops' : List t'.Node) : t.Node → t'.Node → Prop
  | top {i : Nat} {c : t.Node} {c' : t'.Node} (here : tops[i]? = some c)
      (there : tops'[i]? = some c') : Mate tops tops' c c'
  | inner {n : t.Node} {n' : t'.Node} {i : Nat} {c : t.Node} {c' : t'.Node}
      (mate : Mate tops tops' n n') (here : n.children[i]? = some c)
      (there : n'.children[i]? = some c') : Mate tops tops' c c'

theorem Reordered.symm (reordered : Reordered tops tops') : Reordered tops' tops where
  alike := (reordered.alike.flip).imp fun _ _ => Alike.symm
  perm := reordered.perm'
  perm' := reordered.perm
  others := reordered.others'
  others' := reordered.others

namespace Mate

variable {n p : t.Node} {n' p' : t'.Node}

theorem symm (mate : Mate tops tops' n n') : Mate tops' tops n' n := by
  induction mate with
  | top here there => exact .top there here
  | inner _ here there ih => exact .inner ih there here

theorem alike (reordered : Reordered tops tops') (mate : Mate tops tops' n n') : Alike n n' := by
  induction mate with
  | top here there => exact getElem?_forall₂ reordered.alike here there
  | inner _ here there ih => exact getElem?_forall₂ ih.children here there

theorem children (reordered : Reordered tops tops') (mate : Mate tops tops' n n') :
    List.Forall₂ (Mate tops tops') n.children n'.children := by
  have below := (mate.alike reordered).children
  refine List.forall₂_iff_get.2 ⟨below.length_eq, fun i inside inside' => ?_⟩
  exact .inner mate (List.getElem?_eq_getElem inside) (List.getElem?_eq_getElem inside')

theorem descendants (reordered : Reordered tops tops') (mate : Mate tops tops' n n') :
    List.Forall₂ (Mate tops tops') n.descendants n'.descendants := by
  induction n using Node.induction_below generalizing n' with
  | step n ih =>
      rw [n.descendants_eq, n'.descendants_eq]
      refine .cons mate ?_
      have each := (List.forall₂_and_left _ _).2 ⟨ih, mate.children reordered⟩
      exact flatMap_forall₂ each fun c c' child => child.1 child.2

theorem parent? (reordered : Reordered tops tops') (numbered : WellNumbered t)
    (numbered' : WellNumbered t') (mate : Mate tops tops' n n') :
    n.parent? = some t.root ∧ n'.parent? = some t'.root ∨
      ∃ p p', n.parent? = some p ∧ n'.parent? = some p' ∧ Mate tops tops' p p' := by
  cases mate with
  | top here there =>
      exact .inl ⟨numbered.listed_by_parent _ _ (reordered.perm.subset (List.mem_of_getElem? here)),
        numbered'.listed_by_parent _ _ (reordered.perm'.subset (List.mem_of_getElem? there))⟩
  | inner mate here there =>
      exact .inr ⟨_, _, numbered.listed_by_parent _ _ (List.mem_of_getElem? here),
        numbered'.listed_by_parent _ _ (List.mem_of_getElem? there), mate⟩

theorem ne_root (reordered : Reordered tops tops') (numbered : WellNumbered t)
    (numbered' : WellNumbered t') (mate : Mate tops tops' n n') : n ≠ t.root := by
  rintro rfl
  have orphan := (numbered.orphan_iff t.root).2 rfl
  rcases mate.parent? reordered numbered numbered' with ⟨parent, _⟩ | ⟨_, _, parent, _⟩ <;>
    · rw [orphan] at parent
      cases parent

theorem nodup_children (numbered : WellNumbered t) (n : t.Node) : n.children.Nodup :=
  (numbered.ascending n).imp fun before same => Nat.ne_of_lt before (congrArg Node.index same)

theorem eq (reordered : Reordered tops tops') (numbered : WellNumbered t)
    (numbered' : WellNumbered t') (mate : Mate tops tops' n n') {m' : t'.Node}
    (other : Mate tops tops' n m') : n' = m' := by
  induction mate generalizing m' with
  | @top i c c' here there =>
      cases other with
      | @top j _ _ here' there' =>
          have distinct := reordered.perm.symm.nodup (nodup_children numbered t.root)
          have inside := (List.getElem?_eq_some_iff.1 here).1
          cases (List.getElem?_inj inside distinct).1 (here.trans here'.symm)
          exact Option.some.inj (there.symm.trans there')
      | @inner p p' _ _ _ mate here' _ =>
          have parent := numbered.listed_by_parent _ _ (List.mem_of_getElem? here')
          have parent' := numbered.listed_by_parent _ _
            (reordered.perm.subset (List.mem_of_getElem? here))
          cases parent.symm.trans parent'
          exact absurd rfl (mate.ne_root reordered numbered numbered')
  | @inner p p' i c c' mate here there ih =>
      have parent := numbered.listed_by_parent _ _ (List.mem_of_getElem? here)
      cases other with
      | top here' _ =>
          have parent' := numbered.listed_by_parent _ _
            (reordered.perm.subset (List.mem_of_getElem? here'))
          cases parent.symm.trans parent'
          exact absurd rfl (mate.ne_root reordered numbered numbered')
      | @inner q q' j _ _ mate' here' there' =>
          cases parent.symm.trans (numbered.listed_by_parent _ _ (List.mem_of_getElem? here'))
          cases ih mate'
          have inside := (List.getElem?_eq_some_iff.1 here).1
          cases (List.getElem?_inj inside (nodup_children numbered p)).1 (here.trans here'.symm)
          exact Option.some.inj (there.symm.trans there')

end Mate

theorem exists_mate (reordered : Reordered tops tops') (numbered : WellNumbered t) {n : t.Node}
    (inside : n ≠ t.root) : ∃ n', Mate tops tops' n n' := by
  induction place : n.index using Nat.strongRecOn generalizing n with
  | ind place ih =>
      cases parent : n.parent? with
      | none => exact absurd (Node.index_injective ((numbered.orphan_iff n).1 parent)) inside
      | some p =>
          have child := numbered.mem_children parent
          by_cases top : p = t.root
          · obtain ⟨i, here⟩ := List.mem_iff_getElem?.1 (reordered.perm.symm.subset (top ▸ child))
            obtain ⟨n', there⟩ := exists_getElem?_forall₂ reordered.alike here
            exact ⟨n', .top here there⟩
          · obtain ⟨p', mate⟩ := ih _ (place ▸ numbered.parent_before n p parent) top rfl
            obtain ⟨i, here⟩ := List.mem_iff_getElem?.1 child
            obtain ⟨n', there⟩ := exists_getElem?_forall₂ (mate.alike reordered).children here
            exact ⟨n', .inner mate here there⟩

theorem read_eq_foldl (t : Tree) :
    Header.read t.root =
      (t.root.children.filter (!·.kind.isTypeDeclaration)).foldl Header.add ⟨none, []⟩ := by
  rw [Header.read, List.foldl_filter]
  refine congrArg (fun f => t.root.children.foldl f _) (funext fun h => funext fun n => ?_)
  rw [Header.add]
  cases n.kind <;> rfl

theorem Reordered.header (reordered : Reordered tops tops') :
    Header.read t.root = Header.read t'.root := by
  have others := filter_forall₂ reordered.alike (p := (!·.kind.isTypeDeclaration))
    (q := (!·.kind.isTypeDeclaration)) fun _ _ alike => by rw [alike.kind]
  rw [read_eq_foldl, read_eq_foldl, ← reordered.others, ← reordered.others']
  exact foldl_eq_of_forall₂ others (fun _ _ alike h => add_alike alike h) _

theorem anonymousIn_some (numbered : WellNumbered t) (m : t.Node) :
    anonymousIn (some m) = (m.descendants.filter declaresType).filter fun n =>
      isAnonymous n && around? n == some m := by
  have shorter := ((Node.descendants_sublist (numbered.mem_descendants m)).filter
    declaresType).filter fun n => isAnonymous n && around? n == some m
  have distinct : t.root.descendants.Nodup := by
    have ordered := numbered.document_order
    exact (ordered ▸ List.nodup_range : (t.root.descendants.map (·.index)).Nodup).of_map
  refine (shorter.eq_of_length_le ?_).symm
  refine (((distinct.filter _).filter _).subperm ?_).length_le
  intro n listed
  obtain ⟨declared, told⟩ := List.mem_filter.1 listed
  have around : around? n = some m := by
    rw [Bool.and_eq_true, beq_iff_eq] at told
    exact told.2
  obtain ⟨found, _⟩ := Option.filter_eq_some_iff.1 around
  refine List.mem_filter.2 ⟨List.mem_filter.2 ⟨?_, (List.mem_filter.1 declared).2⟩, told⟩
  exact Node.mem_descendants_of_mem_ancestors numbered (List.mem_of_find?_eq_some found)

structure Pair (tops : List t.Node) (tops' : List t'.Node) (d : Declared t) (d' : Declared t') :
    Prop where
  member : d ∈ (fileScope t).types.toList
  member' : d' ∈ (fileScope t').types.toList
  mate : Mate tops tops' d.node d'.node

theorem declarationName?_node {d : Declared t} (member : d ∈ (fileScope t).types.toList) :
    declarationName? d.node = some d.name := by
  obtain ⟨i, found⟩ := List.mem_iff_getElem?.1 member
  rw [Array.getElem?_toList] at found
  obtain ⟨kind, name, _, isNamed, same⟩ := (registered_declarations t).recorded i d found
  have name_eq : d.name = name := by rw [same]; rfl
  rw [name_eq, isNamed]

namespace Pair

variable {d : Declared t} {d' : Declared t'} (reordered : Reordered tops tops')
  (pair : Pair tops tops' d d')

include pair

theorem symm : Pair tops' tops d' d := ⟨pair.member', pair.member, pair.mate.symm⟩

include reordered

theorem alike : Alike d.node d'.node := pair.mate.alike reordered

theorem name : d.name = d'.name := by
  have names := declarationName?_alike (pair.alike reordered)
  rw [declarationName?_node pair.member, declarationName?_node pair.member'] at names
  exact Option.some.inj names

theorem kind : d.kind = d'.kind := by
  have kinds := typeKind?_node pair.member
  rw [(pair.alike reordered).kind, typeKind?_node pair.member'] at kinds
  exact (Option.some.inj kinds).symm

theorem isAnonymous : Resolution.isAnonymous d.node = Resolution.isAnonymous d'.node :=
  isAnonymous_alike (pair.alike reordered)

end Pair

section Mates

variable (reordered : Reordered tops tops') (numbered : WellNumbered t)
  (numbered' : WellNumbered t')

include reordered numbered numbered'

variable (root : t.root.kind = .compilationUnit) (root' : t'.root.kind = .compilationUnit)

include root root'

theorem Mate.around? {n : t.Node} {n' : t'.Node} (mate : Mate tops tops' n n') :
    Option.Rel (Mate tops tops') (around? n) (around? n') := by
  have innermost : Option.Rel (Mate tops tops')
      (n.ancestors.find? (·.kind.isTypeDeclaration))
      (n'.ancestors.find? (·.kind.isTypeDeclaration)) := by
    induction mate with
    | top here there =>
        have parent := numbered.listed_by_parent _ _
          (reordered.perm.subset (List.mem_of_getElem? here))
        have parent' := numbered'.listed_by_parent _ _
          (reordered.perm'.subset (List.mem_of_getElem? there))
        rw [Node.ancestors_of_parent? parent, Node.ancestors_of_parent? parent',
          Node.ancestors_of_orphan ((numbered.orphan_iff _).2 rfl),
          Node.ancestors_of_orphan ((numbered'.orphan_iff _).2 rfl),
          List.find?_cons_of_neg (by simp [root, Kind.isTypeDeclaration]),
          List.find?_cons_of_neg (by simp [root', Kind.isTypeDeclaration])]
        exact .none
    | inner mate here there ih =>
        rw [Node.ancestors_of_parent? (numbered.listed_by_parent _ _ (List.mem_of_getElem? here)),
          Node.ancestors_of_parent? (numbered'.listed_by_parent _ _ (List.mem_of_getElem? there)),
          List.find?_cons, List.find?_cons, (mate.alike reordered).kind]
        split
        · exact .some mate
        · exact ih
  rw [Java.around?, Java.around?]
  generalize n.ancestors.find? (·.kind.isTypeDeclaration) = x,
    n'.ancestors.find? (·.kind.isTypeDeclaration) = y at innermost
  cases innermost with
  | none => exact .none
  | some one =>
      rw [Option.filter_some, Option.filter_some, declares_alike (one.alike reordered)]
      split
      · exact .some one
      · exact .none

theorem Mate.around?_eq_some_iff {n m : t.Node} {n' m' : t'.Node} (mate : Mate tops tops' n n')
    (outer : Mate tops tops' m m') : Java.around? n = some m ↔ Java.around? n' = some m' := by
  have around := mate.around? reordered numbered numbered' root root'
  generalize Java.around? n = x, Java.around? n' = y at around
  cases around with
  | none => simp
  | some one =>
      rw [Option.some.injEq, Option.some.injEq]
      constructor
      · rintro rfl
        exact one.eq reordered numbered numbered' outer
      · rintro rfl
        exact one.symm.eq reordered.symm numbered' numbered outer.symm

theorem Mate.anonymousIn {m : t.Node} {m' : t'.Node} (mate : Mate tops tops' m m') :
    List.Forall₂ (Mate tops tops') (anonymousIn (some m)) (anonymousIn (some m')) := by
  rw [anonymousIn_some numbered, anonymousIn_some numbered']
  refine filter_forall₂ (filter_forall₂ (mate.descendants reordered) ?_) ?_
  · intro n n' inner
    rw [← declares_eq, ← declares_eq, declares_alike (inner.alike reordered)]
  · intro n n' inner
    rw [isAnonymous_alike (inner.alike reordered), Bool.eq_iff_iff]
    simp [inner.around?_eq_some_iff reordered numbered numbered' root root' mate]

omit root' in
theorem exists_pair {d : Declared t} (member : d ∈ (fileScope t).types.toList) :
    ∃ d', Pair tops tops' d d' := by
  have inside : d.node ≠ t.root := by
    intro same
    have isType := typeKind?_node member
    rw [same, root] at isType
    cases isType
  obtain ⟨n', mate⟩ := exists_mate reordered numbered inside
  have declares := declares_node member
  rw [declares_alike (mate.alike reordered)] at declares
  obtain ⟨d', member', rfl⟩ := exists_declared numbered' declares
  exact ⟨d', member, member', mate⟩

namespace Pair

variable {d : Declared t} {d' : Declared t'} (pair : Pair tops tops' d d')

include pair

omit root root' in
theorem eq {e' : Declared t'} (other : Pair tops tops' d e') : d' = e' :=
  eq_of_node numbered' pair.member' other.member'
    (pair.mate.eq reordered numbered numbered' other.mate)

theorem owner? : Option.Rel (Pair tops tops') (owner? (fileScope t) d)
    (owner? (fileScope t') d') := by
  have around := pair.mate.around? reordered numbered numbered' root root'
  rw [← map_node_owner? numbered pair.member, ← map_node_owner? numbered' pair.member'] at around
  cases owned : Resolution.owner? (fileScope t) d <;>
    cases owned' : Resolution.owner? (fileScope t') d' <;> rw [owned, owned'] at around <;>
      cases around
  · exact .none
  next mates =>
    exact .some ⟨mem_types_of_owner? owned, mem_types_of_owner? owned', mates⟩

theorem ordinal (anonymous : Resolution.isAnonymous d.node) {m : t.Node}
    (around : Java.around? d.node = some m) :
    Java.ordinal (fileScope t) d = Java.ordinal (fileScope t') d' := by
  have mates := pair.mate.around? reordered numbered numbered' root root'
  obtain ⟨m', outer, around'⟩ : ∃ m', Mate tops tops' m m' ∧ Java.around? d'.node = some m' := by
    rw [around] at mates
    generalize Java.around? d'.node = y at mates
    cases mates with
    | some one => exact ⟨_, one, rfl⟩
  have listed : d.node ∈ Java.anonymousIn (some m) := by
    rw [Java.anonymousIn, ← funext declares_eq, ← map_node_types]
    exact List.mem_filter.2 ⟨List.mem_map_of_mem pair.member, by simp [anonymous, around]⟩
  obtain ⟨i, found⟩ := List.mem_iff_getElem?.1 listed
  have all := outer.anonymousIn reordered numbered numbered' root root'
  obtain ⟨n', there⟩ := exists_getElem?_forall₂ all found
  cases (getElem?_forall₂ all found there).eq reordered numbered numbered' pair.mate
  obtain ⟨e, member, same, _, _, number⟩ := exists_of_anonymousIn numbered found
  obtain ⟨e', member', same', _, _, number'⟩ := exists_of_anonymousIn numbered' there
  cases eq_of_node numbered member pair.member same
  cases eq_of_node numbered' member' pair.member' same'
  rw [number, number']

theorem qualifiedName
    (rooted : ∀ d ∈ (fileScope t).types.toList, Resolution.isAnonymous d.node →
      ∃ m, Java.around? d.node = some m) : d.qualifiedName = d'.qualifiedName := by
  induction place : d.node.index using Nat.strongRecOn generalizing d d' with
  | ind place ih =>
      have outer : outerName? (fileScope t) d = outerName? (fileScope t') d' := by
        have owners := pair.owner? reordered numbered numbered' root root'
        rw [outerName?, outerName?]
        have before (o : Declared t) (owned : Resolution.owner? (fileScope t) d = some o) :=
          index_lt_of_owner? numbered pair.member owned
        generalize Resolution.owner? (fileScope t) d = x,
          Resolution.owner? (fileScope t') d' = y at owners before
        cases owners with
        | none => exact congrArg Header.package? reordered.header
        | some one =>
            rw [Option.map_some, Option.map_some, ih _ (place ▸ before _ rfl) one rfl]
            rfl
      rw [qualifiedName_eq pair.member, qualifiedName_eq pair.member', outer,
        ← pair.isAnonymous reordered, pair.name reordered]
      cases anonymous : Resolution.isAnonymous d.node with
      | false => rfl
      | true =>
          obtain ⟨m, around⟩ := rooted d pair.member anonymous
          rw [pair.ordinal reordered numbered numbered' root root' anonymous around]

end Pair

end Mates

end Java

end TreeLint

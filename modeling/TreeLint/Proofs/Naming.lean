import TreeLint.Proofs.Ancestors
import TreeLint.Proofs.Resolved

/-! Qualified names tell the types of a file apart, and what each is declared in. -/

namespace TreeLint.Java

open TreeLint.Tree Resolution

variable {t : Tree} {d d' o : Declared t} {n m : t.Node}

/-- The type that is declared right around a node.  There is none within a declaration that goes
without a name. -/
def around? (n : t.Node) : Option t.Node :=
  (n.ancestors.find? (·.kind.isTypeDeclaration)).filter declares

theorem index_lt_of_around? (around : around? n = some m) : m.index < n.index := by
  obtain ⟨found, _⟩ := Option.filter_eq_some_iff.1 around
  exact Node.index_lt_of_mem_ancestors (List.mem_of_find?_eq_some found)

private theorem getElem?_extract_zero {α : Type} (xs : Array α) {i j : Nat} (early : j < i) :
    (xs.extract 0 i)[j]? = xs[j]? := by
  rw [Array.getElem?_extract, Nat.zero_add, Nat.sub_zero]
  split
  · rfl
  next late => exact (Array.getElem?_eq_none (by omega)).symm

theorem declares_node (member : d ∈ (fileScope t).types.toList) : declares d.node := by
  have listed : d.node ∈ (fileScope t).types.toList.map (·.node) := List.mem_map_of_mem member
  rw [map_node_types] at listed
  exact (List.mem_filter.1 listed).2

theorem typeKind?_node (member : d ∈ (fileScope t).types.toList) :
    typeKind? d.node.kind = some d.kind := by
  obtain ⟨i, found⟩ := List.mem_iff_getElem?.1 member
  rw [Array.getElem?_toList] at found
  obtain ⟨kind, name, isType, _, same⟩ := (registered_declarations t).recorded i d found
  have kind_eq : d.kind = kind := by rw [same]; rfl
  rw [kind_eq, isType]

theorem exists_place (member : d ∈ (fileScope t).types.toList) :
    ∃ i, (fileScope t).types[i]? = some d ∧ d.id = ⟨i⟩ ∧
      d = recordOf (fileScope t).header ((fileScope t).types.extract 0 i) d.node d.kind d.name := by
  obtain ⟨i, found⟩ := List.mem_iff_getElem?.1 member
  rw [Array.getElem?_toList] at found
  have registered := registered_declarations t
  refine ⟨i, found, registered.id_eq found, ?_⟩
  obtain ⟨kind, name, _, _, same⟩ := registered.recorded i d found
  have kind_eq : d.kind = kind := by rw [same]; rfl
  have name_eq : d.name = name := by rw [same]; rfl
  rw [kind_eq, name_eq]
  exact same

section Nodes

variable (numbered : WellNumbered t)

include numbered

theorem types_ascending :
    (fileScope t).types.toList.Pairwise fun d d' => d.node.index < d'.node.index := by
  have nodes := numbered.descendants_ascending.sublist (List.filter_sublist (p := declares))
  rwa [← map_node_types, List.pairwise_map] at nodes

theorem index_lt_of_place_lt {i j : Nat} (found : (fileScope t).types[i]? = some d)
    (there : (fileScope t).types[j]? = some o) (before : i < j) : d.node.index < o.node.index := by
  obtain ⟨inside, rfl⟩ := Array.getElem?_eq_some_iff.1 found
  obtain ⟨within, rfl⟩ := Array.getElem?_eq_some_iff.1 there
  exact List.pairwise_iff_getElem.1 (types_ascending numbered) i j inside within before

theorem exists_declared (declares : declares n) : ∃ d ∈ (fileScope t).types.toList, d.node = n := by
  have member : n ∈ (fileScope t).types.toList.map (·.node) := by
    rw [map_node_types]
    exact List.mem_filter.2 ⟨numbered.mem_descendants n, declares⟩
  exact List.mem_map.1 member

theorem nodup_node : ((fileScope t).types.toList.map (·.node)).Nodup :=
  List.pairwise_map.2 ((types_ascending numbered).imp fun before same =>
    Nat.ne_of_lt before (congrArg Node.index same))

theorem eq_of_node (member : d ∈ (fileScope t).types.toList)
    (member' : d' ∈ (fileScope t).types.toList) (same : d.node = d'.node) : d = d' :=
  List.inj_on_of_nodup_map (nodup_node numbered) member member' same

theorem map_node_owner? (member : d ∈ (fileScope t).types.toList) :
    (owner? (fileScope t) d).map (·.node) = around? d.node := by
  obtain ⟨i, found, _, same⟩ := exists_place member
  have enclosing : d.enclosing? =
      enclosingType? ((fileScope t).types.extract 0 i) d.node := by
    conv => lhs; rw [same]
    rfl
  rw [owner?, enclosing, enclosingType?, around?]
  cases inner : d.node.ancestors.find? (·.kind.isTypeDeclaration) with
  | none => rfl
  | some a =>
      have before := Node.index_lt_of_mem_ancestors (List.mem_of_find?_eq_some inner)
      rw [Option.bind_eq_bind, Option.bind_some]
      cases place : ((fileScope t).types.extract 0 i).findIdx? (·.node == a) with
      | some j =>
          obtain ⟨inside, here, _⟩ := Array.findIdx?_eq_some_iff_getElem.1 place
          rw [Array.getElem_extract, beq_iff_eq] at here
          simp only [Nat.zero_add] at here
          have within : j < (fileScope t).types.size := by
            rw [Array.size_extract] at inside
            omega
          have there : (fileScope t).types[j] ∈ (fileScope t).types.toList :=
            Array.mem_toList_iff.2 (Array.getElem_mem within)
          rw [Option.bind_some, Array.getElem?_eq_getElem within, Option.map_some, here,
            Option.filter_some, if_pos (here ▸ declares_node there)]
      | none =>
          rw [Option.bind_none, Option.map_none, Option.filter_some, if_neg]
          intro declares
          obtain ⟨o, listed, rfl⟩ := exists_declared numbered declares
          obtain ⟨j, there⟩ := List.mem_iff_getElem?.1 listed
          rw [Array.getElem?_toList] at there
          have early : j < i := by
            apply Decidable.byContradiction
            intro late
            rcases Nat.eq_or_lt_of_le (Nat.le_of_not_lt late) with rfl | late
            · cases found.symm.trans there
              exact Nat.lt_irrefl _ before
            · exact Nat.lt_asymm before (index_lt_of_place_lt numbered found there late)
          have earlier : o ∈ (fileScope t).types.extract 0 i := by
            rw [Array.mem_iff_getElem?]
            exact ⟨j, (getElem?_extract_zero _ early).trans there⟩
          have missed := Array.findIdx?_eq_none_iff.1 place o earlier
          rw [beq_self_eq_true] at missed
          cases missed

end Nodes

theorem mem_types_of_owner? (owned : owner? (fileScope t) d = some o) :
    o ∈ (fileScope t).types.toList := by
  obtain ⟨j, _, there⟩ := Option.bind_eq_some_iff.1 owned
  exact Array.mem_toList_iff.2 (Array.mem_of_getElem? there)

def outerName? (scope : NameScope t) (d : Declared t) : Option String :=
  ((owner? scope d).map (·.qualifiedName)).or scope.header.package?

def ordinal (scope : NameScope t) (d : Declared t) : Nat :=
  1 + ((scope.types.extract 0 d.id.number).toList.filter fun other =>
    other.enclosing? == d.enclosing? && isAnonymous other.node).length

theorem qualifiedName_eq (member : d ∈ (fileScope t).types.toList) :
    d.qualifiedName =
      if isAnonymous d.node then
        (outerName? (fileScope t) d).getD "" ++ "$" ++ toString (ordinal (fileScope t) d)
      else
        match outerName? (fileScope t) d with
        | some outer => outer ++ "." ++ d.name
        | none => d.name := by
  obtain ⟨i, found, place, same⟩ := exists_place member
  have enclosing : d.enclosing? =
      enclosingType? ((fileScope t).types.extract 0 i) d.node := by
    conv => lhs; rw [same]
    rfl
  have spelled : d.qualifiedName =
      qualifiedNameOf (fileScope t).header ((fileScope t).types.extract 0 i) d.node d.name := by
    conv => lhs; rw [same]
    rfl
  have owner : d.enclosing?.bind (((fileScope t).types.extract 0 i)[·]?) =
      owner? (fileScope t) d := by
    rw [owner?]
    cases around : d.enclosing? with
    | none => rfl
    | some j =>
        exact getElem?_extract_zero _ ((registered_declarations t).enclosing_lt found around)
  rw [spelled, qualifiedNameOf, ← enclosing, outerName?, ordinal, place]
  dsimp only
  rw [owner]
  cases owner? (fileScope t) d <;> rfl

theorem enclosing?_eq (member : d ∈ (fileScope t).types.toList) :
    d.enclosing? = (owner? (fileScope t) d).map (·.id.number) := by
  obtain ⟨i, found, _⟩ := exists_place member
  rw [owner?]
  cases around : d.enclosing? with
  | none => rfl
  | some j =>
      have before := (registered_declarations t).enclosing_lt found around
      obtain ⟨within, _⟩ := Array.getElem?_eq_some_iff.1 found
      have there := Array.getElem?_eq_getElem (Nat.lt_trans before within)
      rw [Option.bind_some, there, Option.map_some, (registered_declarations t).id_eq there]

theorem ordinal_eq_countP {i : Nat} (found : (fileScope t).types[i]? = some d) :
    ordinal (fileScope t) d = 1 + ((fileScope t).types.toList.take i).countP fun other =>
      other.enclosing? == d.enclosing? && isAnonymous other.node := by
  rw [ordinal, (registered_declarations t).id_eq found, Array.toList_extract,
    List.countP_eq_length_filter]
  rfl

private theorem ordinal_lt {i j : Nat} (found : (fileScope t).types[i]? = some d)
    (there : (fileScope t).types[j]? = some d') (anonymous : isAnonymous d.node)
    (together : d.enclosing? = d'.enclosing?) (before : i < j) :
    ordinal (fileScope t) d < ordinal (fileScope t) d' := by
  let counts (other : Declared t) : Bool :=
    other.enclosing? == d.enclosing? && isAnonymous other.node
  have counted : counts d := by simp [counts, anonymous]
  have more : ((fileScope t).types.toList.take (i + 1)).countP counts =
      ((fileScope t).types.toList.take i).countP counts + 1 := by
    rw [List.take_add_one, Array.getElem?_toList, found, Option.toList_some, List.countP_append,
      List.countP_singleton, if_pos counted]
  have own : ordinal (fileScope t) d = 1 + ((fileScope t).types.toList.take i).countP counts :=
    ordinal_eq_countP found
  have other :
      ordinal (fileScope t) d' = 1 + ((fileScope t).types.toList.take j).countP counts := by
    rw [ordinal_eq_countP there, ← together]
  have later : i + 1 ≤ j := before
  have within := (List.take_sublist_take_left (l := (fileScope t).types.toList) later).countP_le
    (p := counts)
  omega

theorem eq_of_ordinal (member : d ∈ (fileScope t).types.toList)
    (member' : d' ∈ (fileScope t).types.toList) (anonymous : isAnonymous d.node)
    (anonymous' : isAnonymous d'.node) (together : d.enclosing? = d'.enclosing?)
    (same : ordinal (fileScope t) d = ordinal (fileScope t) d') : d = d' := by
  obtain ⟨i, found, _⟩ := exists_place member
  obtain ⟨j, there, _⟩ := exists_place member'
  rcases Nat.lt_trichotomy i j with before | rfl | after
  · exact absurd same (Nat.ne_of_lt (ordinal_lt found there anonymous together before))
  · exact Option.some.inj (found.symm.trans there)
  · exact absurd same (Nat.ne_of_gt (ordinal_lt there found anonymous' together.symm after))

def isSeparator (c : Char) : Bool := c == '.' || c == '$'

/-- Exactly the classes without a name go without one, names hold no separators, types that are
declared in the same place have different names, and the package's name does not end in a dot. -/
structure WellNamed (t : Tree) : Prop where
  anonymous_iff : ∀ d ∈ (fileScope t).types.toList, isAnonymous d.node ↔ d.name = ""
  plain : ∀ d ∈ (fileScope t).types.toList, ∀ c ∈ d.name.toList, isSeparator c = false
  apart : ∀ d ∈ (fileScope t).types.toList, ∀ d' ∈ (fileScope t).types.toList, d.name ≠ "" →
    d.name = d'.name → around? d.node = around? d'.node → d = d'
  package : (fileScope t).header.package.toList.getLast? ≠ some '.'

/-- Names hold no separators, types with a name that are declared in the same place have different
names, and without a package no class without a name stands outside all types next to a type at the
top that has the empty name and holds such a class. -/
structure NamesApart (t : Tree) : Prop where
  plain : ∀ d ∈ (fileScope t).types.toList, isAnonymous d.node = false →
    ∀ c ∈ d.name.toList, isSeparator c = false
  apart : ∀ d ∈ (fileScope t).types.toList, ∀ d' ∈ (fileScope t).types.toList,
    isAnonymous d.node = false → isAnonymous d'.node = false → d.name = d'.name →
      around? d.node = around? d'.node → d = d'
  rooted : (fileScope t).header.package? = none → ∀ d ∈ (fileScope t).types.toList,
    ∀ d' ∈ (fileScope t).types.toList, ∀ o ∈ (fileScope t).types.toList,
      isAnonymous d.node → around? d.node = none → isAnonymous d'.node →
        around? d'.node = some o.node → around? o.node = none → isAnonymous o.node = false →
          o.name ≠ ""

theorem WellNamed.namesApart (names : WellNamed t) : NamesApart t where
  plain := fun d member _ => names.plain d member
  apart := fun d member d' member' named _ same together =>
    names.apart d member d' member'
      (mt (names.anonymous_iff d member).2 (Bool.eq_false_iff.1 named)) same together
  rooted := fun _ _ _ _ _ o member _ _ _ _ _ named =>
    mt (names.anonymous_iff o member).2 (Bool.eq_false_iff.1 named)

def stem (outer? : Option String) (anonymous : Bool) : List Char :=
  match outer? with
  | some outer => outer.toList ++ [if anonymous then '$' else '.']
  | none => if anonymous then ['$'] else []

def label (scope : NameScope t) (d : Declared t) : List Char :=
  if isAnonymous d.node then (toString (ordinal scope d)).toList else d.name.toList

theorem toList_qualifiedName (member : d ∈ (fileScope t).types.toList) :
    d.qualifiedName.toList =
      stem (outerName? (fileScope t) d) (isAnonymous d.node) ++ label (fileScope t) d := by
  rw [qualifiedName_eq member, label]
  cases isAnonymous d.node <;> cases outerName? (fileScope t) d <;> simp [stem]

theorem getLast?_stem (outer? : Option String) (anonymous : Bool) :
    ∀ c ∈ (stem outer? anonymous).getLast?, isSeparator c := by
  cases anonymous <;> cases outer? <;> simp [stem, isSeparator]

theorem stem_injective (outer? : Option String) : Function.Injective (stem outer?) := by
  intro anonymous anonymous' same
  cases anonymous <;> cases anonymous' <;> cases outer? <;> simp [stem] at same ⊢

theorem isSeparator_of_isDigit {c : Char} (digit : c.isDigit) : isSeparator c = false := by
  cases same : isSeparator c with
  | false => rfl
  | true =>
      simp only [isSeparator, Bool.or_eq_true, beq_iff_eq] at same
      rcases same with rfl | rfl <;> revert digit <;> decide

theorem toString_injective : Function.Injective (toString : Nat → String) := by
  intro a b same
  rw [Nat.toString_eq_repr, Nat.toString_eq_repr, ← String.toList_inj, Nat.toList_repr,
    Nat.toList_repr] at same
  rw [← Nat.ofDigitChars_ten_toDigits (n := a), same, Nat.ofDigitChars_ten_toDigits]

theorem label_of_anonymous (anonymous : isAnonymous d.node = true) :
    label (fileScope t) d ≠ [] := by
  rw [label, if_pos anonymous, Nat.toString_eq_repr, Nat.toList_repr]
  exact Nat.toDigits_ne_nil

theorem NamesApart.label_plain (apart : NamesApart t)
    (member : d ∈ (fileScope t).types.toList) :
    ∀ c ∈ label (fileScope t) d, isSeparator c = false := by
  rw [label]
  split
  · rw [Nat.toString_eq_repr, Nat.toList_repr]
    exact fun c digit => isSeparator_of_isDigit
      (Nat.isDigit_of_mem_toDigits (by decide) (by decide) digit)
  next named => exact apart.plain d member (Bool.eq_false_iff.2 named)

section Names

variable (names : WellNamed t)

include names

theorem label_plain (member : d ∈ (fileScope t).types.toList) :
    ∀ c ∈ label (fileScope t) d, isSeparator c = false :=
  names.namesApart.label_plain member

theorem label_ne_nil (member : d ∈ (fileScope t).types.toList) : label (fileScope t) d ≠ [] := by
  cases anonymous : isAnonymous d.node with
  | true => exact label_of_anonymous anonymous
  | false =>
      have named := mt (names.anonymous_iff d member).2 (Bool.eq_false_iff.1 anonymous)
      rw [label, if_neg (Bool.eq_false_iff.1 anonymous)]
      simpa using named

theorem getLast?_qualifiedName (member : d ∈ (fileScope t).types.toList) :
    ∀ c ∈ d.qualifiedName.toList.getLast?, isSeparator c = false := by
  rw [toList_qualifiedName member, List.getLast?_append_of_ne_nil _ (label_ne_nil names member)]
  exact fun c last => label_plain names member c (List.mem_of_getLast? last)

end Names

/-- Before its last part a name is split at its last separator. -/
theorem split_unique {a b x y : List Char} (same : a ++ x = b ++ y)
    (plain : ∀ c ∈ x, isSeparator c = false) (plain' : ∀ c ∈ y, isSeparator c = false)
    (ends : ∀ c ∈ a.getLast?, isSeparator c) (ends' : ∀ c ∈ b.getLast?, isSeparator c) :
    a = b ∧ x = y := by
  have shorter {a b x y more : List Char} (same : b = a ++ more ∧ x = more ++ y)
      (plain : ∀ c ∈ x, isSeparator c = false) (ends' : ∀ c ∈ b.getLast?, isSeparator c) :
      a = b ∧ x = y := by
    obtain ⟨rfl, rfl⟩ := same
    cases last : more.getLast? with
    | none =>
        rw [List.getLast?_eq_none_iff] at last
        subst last
        exact ⟨(List.append_nil a).symm, rfl⟩
    | some c =>
        have separates : isSeparator c := ends' c (by rw [List.getLast?_append, last]; rfl)
        rw [plain c (List.mem_append_left _ (List.mem_of_getLast? last))] at separates
        cases separates
  rcases List.append_eq_append_iff.1 same with ⟨more, longer⟩ | ⟨more, longer⟩
  · exact shorter longer plain ends'
  · have := shorter longer plain' ends
    exact ⟨this.1.symm, this.2.symm⟩

section Apart

variable (numbered : WellNumbered t)

theorem outerName?_of_owner? (owned : owner? (fileScope t) d = some o) :
    outerName? (fileScope t) d = some o.qualifiedName := by
  rw [outerName?, owned]
  rfl

theorem outerName?_of_top (top : owner? (fileScope t) d = none) :
    outerName? (fileScope t) d = (fileScope t).header.package? := by
  rw [outerName?, top]
  rfl

theorem stem_of_owner? (owned : owner? (fileScope t) d = some o) (anonymous : Bool) :
    stem (outerName? (fileScope t) d) anonymous =
      o.qualifiedName.toList ++ [if anonymous then '$' else '.'] := by
  rw [outerName?_of_owner? owned, stem]

theorem length_stem_of_top (top : owner? (fileScope t) d = none) (anonymous : Bool) :
    (stem (outerName? (fileScope t) d) anonymous).length ≤
      (fileScope t).header.package.toList.length + 1 := by
  rw [outerName?_of_top top, Header.package]
  cases (fileScope t).header.package? with
  | some package => simp [stem]
  | none => cases anonymous <;> simp [stem]

include numbered

theorem index_lt_of_owner? (member : d ∈ (fileScope t).types.toList)
    (owned : owner? (fileScope t) d = some o) : o.node.index < d.node.index := by
  have around := map_node_owner? numbered member
  rw [owned, Option.map_some] at around
  exact index_lt_of_around? around.symm

theorem exists_after_package_of_some {package : String}
    (packaged : (fileScope t).header.package? = some package)
    (member : d ∈ (fileScope t).types.toList) :
    ∃ more, more ≠ [] ∧ d.qualifiedName.toList = package.toList ++ more := by
  induction place : d.node.index using Nat.strongRecOn generalizing d with
  | ind place ih =>
      rw [toList_qualifiedName member]
      cases owned : owner? (fileScope t) d with
      | some o =>
          have before := index_lt_of_owner? numbered member owned
          obtain ⟨more, _, outer⟩ := ih _ (place ▸ before) (mem_types_of_owner? owned) rfl
          rw [stem_of_owner? owned, outer, List.append_assoc, List.append_assoc]
          exact ⟨_, by simp, rfl⟩
      | none =>
          rw [outerName?_of_top owned, packaged]
          exact ⟨_, by simp, List.append_assoc ..⟩

theorem exists_after_package (names : WellNamed t) (member : d ∈ (fileScope t).types.toList) :
    ∃ more, more ≠ [] ∧
      d.qualifiedName.toList = (fileScope t).header.package.toList ++ more := by
  rw [Header.package]
  cases packaged : (fileScope t).header.package? with
  | some package => exact exists_after_package_of_some numbered packaged member
  | none =>
      refine ⟨d.qualifiedName.toList, ?_, (List.nil_append _).symm⟩
      rw [toList_qualifiedName member]
      exact List.append_ne_nil_of_right_ne_nil _ (label_ne_nil names member)

theorem package_lt (names : WellNamed t) (member : d ∈ (fileScope t).types.toList) :
    (fileScope t).header.package.toList.length < d.qualifiedName.toList.length := by
  obtain ⟨more, nonempty, spelled⟩ := exists_after_package numbered names member
  have := List.length_pos_of_ne_nil nonempty
  rw [spelled, List.length_append]
  omega

theorem top_of_nameless (member : d ∈ (fileScope t).types.toList)
    (nameless : d.qualifiedName.toList = []) :
    around? d.node = none ∧ isAnonymous d.node = false ∧ d.name = "" := by
  rw [toList_qualifiedName member, List.append_eq_nil_iff] at nameless
  obtain ⟨stem_eq, label_eq⟩ := nameless
  have named : isAnonymous d.node = false :=
    Bool.eq_false_iff.2 fun anonymous => label_of_anonymous anonymous label_eq
  rw [label, if_neg (Bool.eq_false_iff.1 named)] at label_eq
  refine ⟨?_, named, String.toList_eq_nil_iff.1 label_eq⟩
  rw [← map_node_owner? numbered member, Option.map_eq_none_iff]
  cases owned : owner? (fileScope t) d with
  | none => rfl
  | some o =>
      rw [stem_of_owner? owned] at stem_eq
      exact absurd stem_eq (by simp)

variable (names : NamesApart t)

include names

private theorem stem_ne_of_top {o : Declared t} (member : d ∈ (fileScope t).types.toList)
    (member' : d' ∈ (fileScope t).types.toList) (top : owner? (fileScope t) d = none)
    (owned : owner? (fileScope t) d' = some o) :
    stem (outerName? (fileScope t) d) (isAnonymous d.node) ≠
      stem (outerName? (fileScope t) d') (isAnonymous d'.node) := by
  have listed := mem_types_of_owner? owned
  rw [stem_of_owner? owned, outerName?_of_top top]
  cases packaged : (fileScope t).header.package? with
  | some package =>
      intro same
      obtain ⟨more, nonempty, spelled⟩ := exists_after_package_of_some numbered packaged listed
      have goesOn := (List.append_inj' same rfl).1
      rw [spelled] at goesOn
      exact nonempty (List.self_eq_append_right.1 goesOn)
  | none =>
      cases anonymous : isAnonymous d.node with
      | false => exact fun same => absurd same.symm (by simp [stem])
      | true =>
          intro same
          have same : [] ++ ['$'] = _ ++ _ := same
          obtain ⟨nameless, mark⟩ := List.append_inj' same rfl
          have anonymous' : isAnonymous d'.node = true := by
            cases anonymous' : isAnonymous d'.node with
            | true => rfl
            | false =>
                rw [anonymous'] at mark
                cases mark
          obtain ⟨outside, named, empty⟩ := top_of_nameless numbered listed nameless.symm
          have around := map_node_owner? numbered member
          have around' := map_node_owner? numbered member'
          rw [top, Option.map_none] at around
          rw [owned, Option.map_some] at around'
          exact names.rooted packaged d member d' member' o listed anonymous around.symm anonymous'
            around'.symm outside named empty

/-- No two types have the same name. -/
theorem NamesApart.eq_of_qualifiedName (member : d ∈ (fileScope t).types.toList)
    (member' : d' ∈ (fileScope t).types.toList) (same : d.qualifiedName = d'.qualifiedName) :
    d = d' := by
  induction place : d.node.index using Nat.strongRecOn generalizing d d' with
  | ind place ih =>
      have spelled := congrArg String.toList same
      rw [toList_qualifiedName member, toList_qualifiedName member'] at spelled
      obtain ⟨stems, labels⟩ := split_unique spelled (names.label_plain member)
        (names.label_plain member') (getLast?_stem _ _) (getLast?_stem _ _)
      have owners : owner? (fileScope t) d = owner? (fileScope t) d' := by
        cases owned : owner? (fileScope t) d with
        | none =>
            cases owned' : owner? (fileScope t) d' with
            | none => rfl
            | some o' =>
                exact absurd stems (stem_ne_of_top numbered names member member' owned owned')
        | some o =>
            cases owned' : owner? (fileScope t) d' with
            | none =>
                exact absurd stems.symm (stem_ne_of_top numbered names member' member owned' owned)
            | some o' =>
                rw [stem_of_owner? owned, stem_of_owner? owned'] at stems
                have outer := String.toList_inj.1 (List.append_inj' stems rfl).1
                have before := index_lt_of_owner? numbered member owned
                rw [ih _ (place ▸ before) (mem_types_of_owner? owned) (mem_types_of_owner? owned')
                  outer rfl]
      have outer : outerName? (fileScope t) d = outerName? (fileScope t) d' := by
        rw [outerName?, owners, outerName?]
      have anonymity : isAnonymous d.node = isAnonymous d'.node := by
        rw [← outer] at stems
        exact stem_injective _ stems
      rw [label, label, ← anonymity] at labels
      cases anonymous : isAnonymous d.node with
      | true =>
          rw [anonymous, if_pos rfl, if_pos rfl, String.toList_inj] at labels
          have together : d.enclosing? = d'.enclosing? := by
            rw [enclosing?_eq member, enclosing?_eq member', owners]
          exact eq_of_ordinal member member' anonymous (anonymity ▸ anonymous) together
            (toString_injective labels)
      | false =>
          rw [anonymous, if_neg Bool.false_ne_true, if_neg Bool.false_ne_true,
            String.toList_inj] at labels
          apply names.apart d member d' member' anonymous (anonymity ▸ anonymous) labels
          rw [← map_node_owner? numbered member, ← map_node_owner? numbered member', owners]

end Apart

theorem eq_of_qualifiedName (numbered : WellNumbered t) (names : WellNamed t)
    (member : d ∈ (fileScope t).types.toList) (member' : d' ∈ (fileScope t).types.toList)
    (same : d.qualifiedName = d'.qualifiedName) : d = d' :=
  names.namesApart.eq_of_qualifiedName numbered member member' same

end TreeLint.Java

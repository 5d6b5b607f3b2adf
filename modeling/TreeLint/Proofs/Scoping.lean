import Mathlib.Data.List.TakeWhile
import TreeLint.Proofs.Naming

/-! Which of a file's types a simple name means.  A type sees what is declared in the types around
it, but not past a class without a name: what such a class stands in hides its own declarations from
the types within. -/

namespace TreeLint.Java

open TreeLint.Tree Resolution

variable {t : Tree}

inductive Within (z : t.Node) : t.Node → Prop
  | self : Within z z
  | inner {n m : t.Node} (around : around? n = some m) (within : Within z m) : Within z n

/-- The type is the first one, or is within a type that has a name and is declared right in the
first one. -/
def Open (z n : t.Node) : Prop :=
  n = z ∨ ∃ y, around? y = some z ∧ isAnonymous y = false ∧ Within y n

variable {d d' o : Declared t} {n m y z : t.Node}

namespace Within

theorem index_le (within : Within z n) : z.index ≤ n.index := by
  induction within with
  | self => exact Nat.le_refl _
  | inner around _ ih => exact Nat.le_trans ih (Nat.le_of_lt (index_lt_of_around? around))

theorem trans (outer : Within z y) (within : Within y n) : Within z n := by
  induction within with
  | self => exact outer
  | inner around _ ih => exact .inner around ih

theorem total (within : Within y n) (within' : Within z n) : Within y z ∨ Within z y := by
  induction within with
  | self => exact .inr within'
  | inner around within ih =>
      cases within' with
      | self => exact .inl (.inner around within)
      | inner around' within' =>
          cases around.symm.trans around'
          exact ih within'

theorem antisymm (within : Within y z) (within' : Within z y) : y = z :=
  Node.index_injective (Nat.le_antisymm within.index_le within'.index_le)

theorem declares (within : Within z n) (declares : declares n) : Resolution.declares z := by
  induction within with
  | self => exact declares
  | inner around _ ih => exact ih (Option.filter_eq_some_iff.1 around).2

end Within

theorem Open.within (sees : Open z n) : Within z n := by
  rcases sees with rfl | ⟨y, around, _, within⟩
  · exact .self
  · exact (Within.inner around .self).trans within

private theorem prefix_of_plain {a b x : List Char} (onward : a ++ ['.'] <+: b ++ x)
    (plain : ∀ c ∈ x, isSeparator c = false) : a ++ ['.'] <+: b := by
  rcases List.prefix_or_prefix_of_prefix onward (List.prefix_append b x) with shorter | longer
  · exact shorter
  · obtain ⟨more, same⟩ := longer
    rw [← same, List.prefix_append_right_inj] at onward
    rcases List.eq_nil_or_concat more with rfl | ⟨rest, c, rfl⟩
    · rw [List.append_nil] at same
      exact same ▸ List.prefix_rfl
    · -- The dot would be part of what has no separators.
      rw [List.concat_eq_append, ← List.append_assoc] at same
      have dot : c = '.' := List.singleton_inj.1 (List.append_inj' same rfl).2
      have := plain c (onward.subset (by simp))
      rw [dot] at this
      cases this

section Prefixes

variable (numbered : WellNumbered t) (names : WellNamed t)

include numbered

theorem owner?_iff (member : d ∈ (fileScope t).types.toList)
    (member' : o ∈ (fileScope t).types.toList) :
    owner? (fileScope t) d = some o ↔ around? d.node = some o.node := by
  rw [← map_node_owner? numbered member]
  refine ⟨fun owned => by rw [owned]; rfl, fun around => ?_⟩
  obtain ⟨other, owned, same⟩ := Option.map_eq_some_iff.1 around
  rw [owned, eq_of_node numbered (mem_types_of_owner? owned) member' same]

theorem exists_owner? (member : d ∈ (fileScope t).types.toList) (around : around? d.node = some m) :
    ∃ o ∈ (fileScope t).types.toList, o.node = m ∧ owner? (fileScope t) d = some o := by
  rw [← map_node_owner? numbered member] at around
  obtain ⟨o, owned, same⟩ := Option.map_eq_some_iff.1 around
  exact ⟨o, mem_types_of_owner? owned, same, owned⟩

theorem prefix_of_within (within : Within z n) (member : d ∈ (fileScope t).types.toList)
    (member' : o ∈ (fileScope t).types.toList) (inner : d.node = n) (outer : o.node = z) :
    o.qualifiedName.toList <+: d.qualifiedName.toList := by
  induction within generalizing d with
  | self =>
      have same := eq_of_node numbered member member' (inner.trans outer.symm)
      exact same ▸ List.prefix_rfl
  | inner around _ ih =>
      obtain ⟨between, listed, same, owned⟩ := exists_owner? numbered member (inner ▸ around)
      apply (ih listed same).trans
      rw [toList_qualifiedName member, stem_of_owner? owned, List.append_assoc]
      exact List.prefix_append _ _

theorem prefix_of_open (sees : Open o.node d.node) (member : d ∈ (fileScope t).types.toList)
    (member' : o ∈ (fileScope t).types.toList) (inside : d ≠ o) :
    o.qualifiedName.toList ++ ['.'] <+: d.qualifiedName.toList := by
  rcases sees with same | ⟨y, around, named, within⟩
  · exact absurd (eq_of_node numbered member member' same) inside
  · obtain ⟨e, listed, rfl⟩ :=
      exists_declared numbered (within.declares (declares_node member))
    apply List.IsPrefix.trans _ (prefix_of_within numbered within member listed rfl rfl)
    rw [toList_qualifiedName listed, stem_of_owner? ((owner?_iff numbered listed member').2 around),
      named]
    exact List.prefix_append _ _

include names

/-- A name that goes on from another one by a dot is that of a type to which the other is open. -/
theorem open_of_prefix (member : d ∈ (fileScope t).types.toList)
    (member' : o ∈ (fileScope t).types.toList)
    (onward : o.qualifiedName.toList ++ ['.'] <+: d.qualifiedName.toList) :
    Open o.node d.node := by
  induction place : d.node.index using Nat.strongRecOn generalizing d with
  | ind place ih =>
      have within : o.qualifiedName.toList ++ ['.'] <+:
          stem (outerName? (fileScope t) d) (isAnonymous d.node) := by
        rw [toList_qualifiedName member] at onward
        exact prefix_of_plain onward (label_plain names member)
      cases owned : owner? (fileScope t) d with
      | none =>
          have := package_lt numbered names member'
          have := length_stem_of_top owned (isAnonymous d.node)
          have := within.length_le
          rw [List.length_append, List.length_singleton] at this
          omega
      | some e =>
          have listed := mem_types_of_owner? owned
          have around := (owner?_iff numbered member listed).1 owned
          rw [stem_of_owner? owned, List.prefix_concat_iff] at within
          rcases within with same | deeper
          · obtain ⟨spelled, dot⟩ := List.append_inj' same rfl
            have named : isAnonymous d.node = false := by
              cases anonymous : isAnonymous d.node with
              | false => rfl
              | true =>
                  rw [anonymous] at dot
                  cases dot
            rw [eq_of_qualifiedName numbered names member' listed (String.toList_inj.1 spelled)]
            exact .inr ⟨d.node, around, named, .self⟩
          · rcases ih _ (place ▸ index_lt_of_owner? numbered member owned) listed deeper rfl with
              same | ⟨y, inner, named, within⟩
            · rw [eq_of_node numbered listed member' same] at deeper
              have := deeper.length_le
              rw [List.length_append, List.length_singleton] at this
              omega
            · exact .inr ⟨y, inner, named, .inner around within⟩

omit numbered in
theorem getLast?_outerName? {outer : String} (goesOn : outerName? (fileScope t) d = some outer) :
    outer.toList.getLast? ≠ some '.' := by
  cases owned : owner? (fileScope t) d with
  | some o =>
      cases (outerName?_of_owner? owned).symm.trans goesOn
      intro dot
      cases getLast?_qualifiedName names (mem_types_of_owner? owned) '.' dot
  | none =>
      have package := names.package
      rw [Header.package, (outerName?_of_top owned).symm.trans goesOn] at package
      exact package

omit numbered in
theorem container_eq (member : d ∈ (fileScope t).types.toList) (named : d.name ≠ "") :
    NameScope.container d = (outerName? (fileScope t) d).getD "" := by
  have notAnonymous : isAnonymous d.node = false := by
    rw [Bool.eq_false_iff, Ne, names.anonymous_iff d member]
    exact named
  have spelled := qualifiedName_eq member
  rw [notAnonymous, if_neg Bool.false_ne_true] at spelled
  have ends : d.qualifiedName.endsWith d.name = true := by
    rw [← String.endsWith_toSlice, String.Slice.endsWith_string_iff, String.copy_toSlice, spelled]
    cases outerName? (fileScope t) d with
    | some outer => exact ⟨_, (String.toList_append ..).symm⟩
    | none => exact List.suffix_rfl
  rw [NameScope.container, if_pos ends, spelled]
  cases goesOn : outerName? (fileScope t) d with
  | none =>
      dsimp only
      rw [List.drop_of_length_le (Nat.le_of_eq (by rw [List.length_reverse, String.length_toList]))]
      rfl
  | some outer =>
      have dots :
          ((outer ++ "." ++ d.name).toList.reverse.drop d.name.length).dropWhile (· == '.') =
            outer.toList.reverse := by
        rw [String.toList_append, String.toList_append, List.reverse_append, ← String.length_toList,
          ← List.length_reverse, List.drop_left, List.reverse_append]
        change outer.toList.reverse.dropWhile (· == '.') = _
        have last := getLast?_outerName? names goesOn
        rcases List.eq_nil_or_concat outer.toList with empty | ⟨rest, c, spelled⟩
        · rw [empty]
          rfl
        · rw [spelled, List.concat_eq_append, List.getLast?_concat, Ne, Option.some.injEq] at last
          rw [spelled, List.concat_eq_append, List.reverse_append, List.reverse_singleton,
            List.singleton_append, List.dropWhile_cons_of_neg (by simpa using last)]
      dsimp only
      rw [dots, List.reverse_reverse, String.ofList_toList]
      rfl

/-- What the test by names lets through: what is declared at the top, and what is declared in a type
that is open. -/
theorem inScope_iff (member : d ∈ (fileScope t).types.toList)
    (member' : o ∈ (fileScope t).types.toList) (named : o.name ≠ "") :
    (NameScope.container o == (fileScope t).header.package ||
        d.qualifiedName == NameScope.container o ||
        d.qualifiedName.startsWith (NameScope.container o ++ ".")) = true ↔
      around? o.node = none ∨ ∃ z, around? o.node = some z ∧ Open z d.node := by
  rw [container_eq names member' named]
  cases owned : owner? (fileScope t) o with
  | none =>
      have top := map_node_owner? numbered member'
      rw [owned, Option.map_none] at top
      rw [outerName?_of_top owned, Header.package]
      simp [← top]
  | some e =>
      have listed := mem_types_of_owner? owned
      have around := (owner?_iff numbered member' listed).1 owned
      have differs : e.qualifiedName ≠ (fileScope t).header.package := by
        intro same
        have := package_lt numbered names listed
        rw [same] at this
        exact Nat.lt_irrefl _ this
      have starts : d.qualifiedName.startsWith (e.qualifiedName ++ ".") = true ↔
          e.qualifiedName.toList ++ ['.'] <+: d.qualifiedName.toList := by
        rw [String.startsWith_string_iff, String.toList_append]
        rfl
      rw [outerName?_of_owner? owned, Option.getD_some, Bool.or_eq_true, Bool.or_eq_true,
        beq_iff_eq, or_iff_right differs, beq_iff_eq, starts, around]
      constructor
      · rintro (same | onward)
        · rw [eq_of_qualifiedName numbered names member listed same]
          exact .inr ⟨_, rfl, .inl rfl⟩
        · exact .inr ⟨_, rfl, open_of_prefix numbered names member listed onward⟩
      · rintro (impossible | ⟨z, same, sees⟩)
        · cases impossible
        · cases same
          by_cases inside : d = e
          · exact .inl (inside ▸ rfl)
          · exact .inr (prefix_of_open numbered sees member listed inside)

end Prefixes

/-- The type is the one that its name means to the node: the one declared in the innermost open type
that declares one of the name, or else the one at the top. -/
inductive Meant (n : t.Node) (d : Declared t) : Prop
  | nested {z : t.Node} (around : around? d.node = some z) (sees : Open z n)
      (innermost : ∀ y, Open y n → Within z y → y ≠ z →
        ∀ o ∈ (fileScope t).types.toList, o.name = d.name → around? o.node ≠ some y)
  | top (around : around? d.node = none)
      (hidden : ∀ y, Open y n →
        ∀ o ∈ (fileScope t).types.toList, o.name = d.name → around? o.node ≠ some y)

theorem meant_of_beside (around : around? n = some z)
    (named : isAnonymous n = false) (beside : around? o.node = some z)
    (own : ∀ e ∈ (fileScope t).types.toList, e.name = o.name → around? e.node ≠ some n) :
    Meant n o := by
  refine .nested beside (.inr ⟨n, around, named, .self⟩) ?_
  intro y sees deeper differs
  cases sees.within with
  | self => exact own
  | inner around' within =>
      cases around.symm.trans around'
      exact absurd (within.antisymm deeper) differs

theorem deeper_mem (a b : Declared t) : NameScope.deeper a b = a ∨ NameScope.deeper a b = b := by
  rw [NameScope.deeper]
  split
  · exact .inr rfl
  · exact .inl rfl

theorem deeper_eq {a b : Declared t} (isOne : a = d ∨ b = d)
    (deepest : ∀ o, o = a ∨ o = b → o ≠ d →
      (NameScope.container o).utf8ByteSize < (NameScope.container d).utf8ByteSize) :
    NameScope.deeper a b = d := by
  rw [NameScope.deeper]
  split
  next notLess =>
    rcases isOne with rfl | same
    · apply Classical.byContradiction
      intro differs
      exact Nat.not_lt_of_le notLess (deepest b (.inr rfl) differs)
    · exact same
  next less =>
    rcases isOne with same | rfl
    · exact same
    · apply Classical.byContradiction
      intro differs
      exact less (Nat.le_of_lt (deepest a (.inl rfl) differs))

/-- The deepest of the candidates is found, wherever it stands. -/
theorem foldl_deeper {first : Declared t} {rest : List (Declared t)} (listed : d ∈ first :: rest)
    (deepest : ∀ o ∈ first :: rest, o ≠ d →
      (NameScope.container o).utf8ByteSize < (NameScope.container d).utf8ByteSize) :
    rest.foldl NameScope.deeper first = d := by
  induction rest generalizing first with
  | nil => exact (List.mem_singleton.1 listed).symm
  | cons next rest ih =>
      rw [List.foldl_cons]
      apply ih
      · by_cases later : d ∈ rest
        · exact List.mem_cons_of_mem _ later
        · have isOne : first = d ∨ next = d := by
            simpa [later, eq_comm] using listed
          rw [deeper_eq isOne fun o either => deepest o (by simp; tauto)]
          exact List.mem_cons_self ..
      · intro o member
        apply deepest o
        rcases List.mem_cons.1 member with rfl | member
        · rcases deeper_mem first next with one | one <;> rw [one] <;> simp
        · simp [member]

theorem bytes_lt {a b : String} {more : List Char} (nonempty : more ≠ [])
    (spelled : b.toList = a.toList ++ more) : a.utf8ByteSize < b.utf8ByteSize := by
  have whole : b = a ++ String.ofList more := by
    rw [← String.toList_inj, spelled, String.toList_append, String.toList_ofList]
  have some : String.ofList more ≠ "" := by
    rw [Ne, ← String.toList_inj, String.toList_ofList]
    exact nonempty
  have := mt String.utf8ByteSize_eq_zero_iff.1 some
  rw [whole, String.utf8ByteSize_append]
  omega

section Visible

variable (numbered : WellNumbered t) (names : WellNamed t)

include numbered names

theorem container_of_top (member : d ∈ (fileScope t).types.toList) (named : d.name ≠ "")
    (top : around? d.node = none) : NameScope.container d = (fileScope t).header.package := by
  rw [← map_node_owner? numbered member, Option.map_eq_none_iff] at top
  rw [container_eq names member named, outerName?_of_top top, Header.package]

theorem container_of_nested (member : d ∈ (fileScope t).types.toList) (named : d.name ≠ "")
    (member' : o ∈ (fileScope t).types.toList) (around : around? d.node = some o.node) :
    NameScope.container d = o.qualifiedName := by
  rw [container_eq names member named,
    outerName?_of_owner? ((owner?_iff numbered member member').2 around), Option.getD_some]

theorem container_lt_of_meant (member : d ∈ (fileScope t).types.toList) (named : d.name ≠ "")
    (meant : Meant n d) (member' : o ∈ (fileScope t).types.toList) (same : o.name = d.name)
    (seen : around? o.node = none ∨ ∃ z, around? o.node = some z ∧ Open z n) (differs : o ≠ d) :
    (NameScope.container o).utf8ByteSize < (NameScope.container d).utf8ByteSize := by
  have named' : o.name ≠ "" := same ▸ named
  have apart : around? o.node ≠ around? d.node := fun together =>
    differs (names.apart o member' d member named' same together)
  cases meant with
  | top around hidden =>
      rcases seen with top | ⟨z, inner, sees⟩
      · exact absurd (top.trans around.symm) apart
      · exact absurd inner (hidden z sees o member' same)
  | @nested z around sees innermost =>
      obtain ⟨e, listed, rfl, _⟩ := exists_owner? numbered member around
      rw [container_of_nested numbered names member named listed around]
      rcases seen with top | ⟨y, inner, sees'⟩
      · obtain ⟨more, nonempty, spelled⟩ := exists_after_package numbered names listed
        rw [container_of_top numbered names member' named' top]
        exact bytes_lt nonempty spelled
      · obtain ⟨f, listed', rfl, _⟩ := exists_owner? numbered member' inner
        have differ : f.node ≠ e.node := by
          intro one
          rw [one] at inner
          exact apart (inner.trans around.symm)
        rw [container_of_nested numbered names member' named' listed' inner]
        rcases sees'.within.total sees.within with outer | deeper
        · obtain ⟨more, spelled⟩ := prefix_of_within numbered outer listed listed' rfl rfl
          refine bytes_lt ?_ spelled.symm
          rintro rfl
          rw [List.append_nil, String.toList_inj] at spelled
          exact differ
            (congrArg (·.node) (eq_of_qualifiedName numbered names listed' listed spelled))
        · exact absurd inner (innermost f.node sees' deeper differ o member' same)

/-- What a simple name is found to be is what it means. -/
theorem visible?_of_meant (member : d ∈ (fileScope t).types.toList)
    (member' : o ∈ (fileScope t).types.toList) (named : o.name ≠ "") (meant : Meant d.node o) :
    (fileScope t).visible? o.name d = some o.qualifiedName := by
  have seen : around? o.node = none ∨ ∃ z, around? o.node = some z ∧ Open z d.node := by
    cases meant with
    | nested around sees => exact .inr ⟨_, around, sees⟩
    | top around => exact .inl around
  rw [NameScope.visible?]
  split
  next none =>
    have passed := List.filter_eq_nil_iff.1 none o member'
    rw [beq_self_eq_true, Bool.true_and] at passed
    exact absurd ((inScope_iff numbered names member member' named).2 seen) passed
  next first rest candidates =>
    have candidate_iff (e : Declared t) : e ∈ first :: rest ↔
        e ∈ (fileScope t).types.toList ∧ e.name = o.name ∧
          (around? e.node = none ∨ ∃ z, around? e.node = some z ∧ Open z d.node) := by
      rw [← candidates, List.mem_filter, Bool.and_eq_true, beq_iff_eq]
      refine and_congr_right fun listed => and_congr_right fun same => ?_
      exact inScope_iff numbered names member listed (same ▸ named)
    rw [foldl_deeper ((candidate_iff o).2 ⟨member', rfl, seen⟩)]
    intro e listed differs
    obtain ⟨listed, same, sees⟩ := (candidate_iff e).1 listed
    exact container_lt_of_meant numbered names member' named meant listed same sees differs

end Visible

section Links

variable {table : SymbolTable}

theorem typeNamed?_declared (numbered : WellNumbered t) (names : WellNamed t)
    (resolved : Resolved t table) (member : d ∈ (fileScope t).types.toList) :
    table.typeNamed? d.qualifiedName = some d.id :=
  resolved.typeNamed?_of_distinct
    (fun _ member _ member' => eq_of_qualifiedName numbered names member member') member

theorem qualify_of_meant (numbered : WellNumbered t) (names : WellNamed t)
    (member : d ∈ (fileScope t).types.toList) (member' : o ∈ (fileScope t).types.toList)
    (named : o.name ≠ "") (meant : Meant d.node o) :
    (fileScope t).qualify o.name d = o.qualifiedName := by
  have undotted : ∀ c ∈ o.name.toList, (c != '.') = true := by
    intro c letter
    have plain := names.plain o member' c letter
    rw [bne_iff_ne]
    rintro rfl
    cases plain
  rw [NameScope.qualify, List.takeWhile_eq_self_iff.2 undotted,
    List.dropWhile_eq_nil_iff.2 undotted,
    String.ofList_toList, visible?_of_meant numbered names member member' named meant]
  exact String.append_empty

end Links

/-- The undotted names in the clauses of a type link to what they mean: to the type that the
innermost open type declares, or else to the one at the top. -/
theorem undotted_names_link_to_meant {calls : List Builder.Call} {id : TreeId}
    {table : SymbolTable} (built : ((Builder.new id).attemptAll calls).finish = .ok t)
    (ran : resolve t = .ok table) (names : WellNamed t)
    (member : d ∈ (fileScope t).types.toList) (member' : o ∈ (fileScope t).types.toList)
    (named : o.name ≠ "") (meant : Meant d.node o) :
    ∃ s, table.type? d.id = some s ∧
      (∀ clause type rest, d.kind = .class → isAnonymous d.node = false →
        d.node.childInField? "superclass" = some clause → supertypes clause = type :: rest →
        typeName type = o.name → s.superclass? = some o.id) ∧
      ∃ before, (isAnonymous d.node = false → before = 0) ∧
        ∀ clause type i, d.node.childOfKind? .superInterfaces = some clause →
          (supertypes clause)[i]? = some type → typeName type = o.name →
          s.interfaces[before + i]? = some o.id := by
  obtain ⟨_, laid⟩ := exists_laidOut built
  have numbered := laid.wellNumbered
  have resolved := resolved_of_resolve ran
  have found := typeNamed?_declared numbered names resolved member'
  have qualified := qualify_of_meant numbered names member member' named meant
  obtain ⟨s, linked⟩ := resolved.tied d member
  refine ⟨s, linked.known, ?_, ?_⟩
  · intro clause type rest isClass notAnonymous extended listed spelled
    have superclass := linked.superclass.now resolved.settled.kept
    rw [superclassIn_of_named _ _ isClass notAnonymous, extended] at superclass
    dsimp only at superclass
    rw [listed, List.head?_cons, Option.bind_some, spelled, qualified, found] at superclass
    exact superclass.symm
  · refine ⟨(createdInterface? (fileScope t) table d).toList.length, ?_, ?_⟩
    · intro notAnonymous
      rw [createdInterface?_of_not, Option.toList_none, List.length_nil]
      rintro ⟨_, anonymous⟩
      rw [notAnonymous] at anonymous
      cases anonymous
    · intro clause type i extended listed spelled
      have mentioned : (interfaceNames (fileScope t) table d)[
          (createdInterface? (fileScope t) table d).toList.length + i]? =
            some o.qualifiedName := by
        rw [interfaceNames, List.append_assoc, List.getElem?_append_right (Nat.le_add_right ..),
          Nat.add_sub_cancel_left, clauseNames, extended]
        dsimp only
        rw [List.getElem?_append_left, List.getElem?_map, listed, Option.map_some, spelled,
          qualified]
        rw [List.length_map]
        exact (List.getElem?_eq_some_iff.1 listed).1
      have here := congrArg (·[(createdInterface? (fileScope t) table d).toList.length + i]?)
        linked.interfaces
      simp only [List.getElem?_map, mentioned, Option.map_some, found] at here
      simpa using here

def shelteredCalls : List Builder.Call := [
  .start .compilationUnit none,
  .start .class none, .field "name", .token .identifier none "Outer" .empty,
  .start .class none, .field "name", .token .identifier none "Thread" .empty, .finishNode,
  .start .class none, .field "name", .token .identifier none "Inner" .empty,
  .field "superclass", .start .superclass none, .token .identifier none "Thread" .empty,
  .finishNode, .finishNode, .finishNode, .finishNode]

def sheltered : Tree where
  id := ⟨0⟩
  nodes := ((Builder.new ⟨0⟩).attemptAll shelteredCalls).nodes
  hasErrors := false
  nonempty := by decide +kernel
  links := ((Builder.new ⟨0⟩).attemptAll shelteredCalls).links

theorem sheltered_built :
    ((Builder.new ⟨0⟩).attemptAll shelteredCalls).finish = .ok sheltered :=
  rfl

theorem sheltered_wellNamed : WellNamed sheltered where
  anonymous_iff := by decide +kernel
  plain := by
    have told : ∀ d ∈ (fileScope sheltered).types.toList,
        d.name.toList.all fun c => isSeparator c == false := by
      decide +kernel
    intro d member c letter
    exact beq_iff_eq.1 (List.all_eq_true.1 (told d member) c letter)
  apart := by
    obtain ⟨_, laid⟩ := exists_laidOut sheltered_built
    have numbered := laid.wellNumbered
    have nodes : ∀ d ∈ (fileScope sheltered).types.toList,
        ∀ d' ∈ (fileScope sheltered).types.toList, d.name ≠ "" → d.name = d'.name →
          around? d.node = around? d'.node → d.node = d'.node := by
      decide +kernel
    intro d member d' member' named same together
    exact eq_of_node numbered member member' (nodes d member d' member' named same together)
  package := by decide +kernel

theorem sheltered_links_to_neighbour :
    ∃ table, resolve sheltered = .ok table ∧ WellNamed sheltered ∧
      ∃ d ∈ (fileScope sheltered).types.toList, ∃ o ∈ (fileScope sheltered).types.toList,
        d.qualifiedName = "Outer.Inner" ∧ o.qualifiedName = "Outer.Thread" ∧ Meant d.node o ∧
          ∃ s, table.type? d.id = some s ∧ s.superclass? = some o.id := by
  obtain ⟨table, ran, _⟩ := exists_resolved (t := sheltered) rfl (by decide +kernel)
  have told : ∃ d ∈ (fileScope sheltered).types.toList, ∃ o ∈ (fileScope sheltered).types.toList,
      d.qualifiedName = "Outer.Inner" ∧ o.qualifiedName = "Outer.Thread" ∧ o.name = "Thread" ∧
        d.kind = .class ∧ isAnonymous d.node = false ∧
        (d.node.childInField? "superclass").map (fun c => (supertypes c).map typeName) =
          some ["Thread"] ∧
        around? o.node = around? d.node ∧ (around? d.node).isSome ∧
        ∀ e ∈ (fileScope sheltered).types.toList, e.name = o.name →
          around? e.node ≠ some d.node := by
    decide +kernel
  obtain ⟨d, member, o, member', inner, neighbour, name, isClass, named, extended, beside, around,
    own⟩ := told
  obtain ⟨z, around⟩ := Option.isSome_iff_exists.1 around
  have meant : Meant d.node o := meant_of_beside around named (beside.trans around) own
  obtain ⟨s, known, links, _⟩ := undotted_names_link_to_meant sheltered_built ran
    sheltered_wellNamed member member' (by rw [name]; decide) meant
  refine ⟨table, ran, sheltered_wellNamed, d, member, o, member', inner, neighbour, meant, s, known,
    ?_⟩
  obtain ⟨clause, found, spelled⟩ := Option.map_eq_some_iff.1 extended
  obtain ⟨type, listed, same⟩ := List.map_eq_singleton_iff.1 spelled
  exact links clause type [] isClass named found listed (same.trans name.symm)

end TreeLint.Java

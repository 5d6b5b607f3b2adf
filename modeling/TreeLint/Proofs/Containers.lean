import Mathlib.Data.List.DropRight
import Mathlib.Data.List.MinMax
import TreeLint.Proofs.Scoping

/-! The places that declare types tell types of one simple name apart, so that what such a name is
found to be does not depend on the order of the types. -/

namespace TreeLint.Java

open TreeLint.Tree Resolution

variable {t : Tree} {d d' o o' : Declared t}

/-- Exactly the classes without a name go without one and they stand within types, no name ends in
a dot, and no two types have the same qualified name. -/
structure Regular (t : Tree) : Prop where
  anonymous_iff : ∀ d ∈ (fileScope t).types.toList, isAnonymous d.node ↔ d.name = ""
  undotted : ∀ d ∈ (fileScope t).types.toList, d.name.toList.getLast? ≠ some '.'
  rooted : ∀ d ∈ (fileScope t).types.toList, isAnonymous d.node → ∃ m, around? d.node = some m
  distinct : ∀ d ∈ (fileScope t).types.toList, ∀ d' ∈ (fileScope t).types.toList,
    d.qualifiedName = d'.qualifiedName → d = d'

def trim (name : List Char) : List Char := name.rdropWhile (· == '.')

theorem trim_of_undotted {name : List Char} (undotted : name.getLast? ≠ some '.') :
    trim name = name := by
  rw [trim, List.rdropWhile_eq_self_iff]
  intro nonempty dot
  rw [beq_iff_eq] at dot
  rw [List.getLast?_eq_some_getLast nonempty, dot] at undotted
  exact undotted rfl

theorem toList_container {outer : List Char}
    (spelled : d.qualifiedName.toList = outer ++ d.name.toList) :
    (NameScope.container d).toList = trim outer := by
  have ends : d.qualifiedName.endsWith d.name = true := by
    rw [← String.endsWith_toSlice, String.Slice.endsWith_string_iff, String.copy_toSlice, spelled]
    exact List.suffix_append _ _
  rw [NameScope.container, if_pos ends, spelled, List.reverse_append, ← String.length_toList,
    ← List.length_reverse, List.drop_left, String.toList_ofList]
  rfl

namespace Regular

variable (regular : Regular t)

include regular

theorem label_ne_nil (member : d ∈ (fileScope t).types.toList) : label (fileScope t) d ≠ [] := by
  cases anonymous : isAnonymous d.node with
  | true => exact label_of_anonymous anonymous
  | false =>
      have named := mt (regular.anonymous_iff d member).2 (Bool.eq_false_iff.1 anonymous)
      rw [label, if_neg (Bool.eq_false_iff.1 anonymous)]
      simpa using named

theorem getLast?_qualifiedName (member : d ∈ (fileScope t).types.toList) :
    d.qualifiedName.toList.getLast? ≠ some '.' := by
  rw [toList_qualifiedName member,
    List.getLast?_append_of_ne_nil _ (regular.label_ne_nil member), label]
  split
  next anonymous =>
    intro dot
    have digit := List.mem_of_getLast? dot
    rw [Nat.toString_eq_repr, Nat.toList_repr] at digit
    have := Nat.isDigit_of_mem_toDigits (by decide) (by decide) digit
    exact absurd this (by decide)
  next => exact regular.undotted d member

theorem trim_qualifiedName (member : d ∈ (fileScope t).types.toList) :
    trim d.qualifiedName.toList = d.qualifiedName.toList :=
  trim_of_undotted (regular.getLast?_qualifiedName member)

theorem toList_container_of_anonymous (member : d ∈ (fileScope t).types.toList)
    (anonymous : isAnonymous d.node) :
    (NameScope.container d).toList = d.qualifiedName.toList := by
  have unnamed := (regular.anonymous_iff d member).1 anonymous
  have spelled : d.qualifiedName.toList = d.qualifiedName.toList ++ d.name.toList := by
    simp [unnamed]
  rw [toList_container spelled, regular.trim_qualifiedName member]

omit regular in
theorem toList_container_of_named (member : d ∈ (fileScope t).types.toList)
    (named : isAnonymous d.node = false) :
    (NameScope.container d).toList = trim (stem (outerName? (fileScope t) d) false) := by
  have spelled := toList_qualifiedName member
  rw [named, label, if_neg (Bool.eq_false_iff.1 named)] at spelled
  exact toList_container spelled

theorem toList_container_of_owner? (member : d ∈ (fileScope t).types.toList)
    (named : isAnonymous d.node = false) (owned : owner? (fileScope t) d = some o) :
    (NameScope.container d).toList = o.qualifiedName.toList := by
  have dotted : trim (o.qualifiedName.toList ++ ['.']) = trim o.qualifiedName.toList :=
    List.rdropWhile_concat_pos _ _ _ rfl
  rw [toList_container_of_named member named, stem_of_owner? owned, if_neg Bool.false_ne_true,
    dotted, regular.trim_qualifiedName (mem_types_of_owner? owned)]

theorem container_ne (numbered : WellNumbered t) (member : d ∈ (fileScope t).types.toList)
    (named : isAnonymous d.node = false) (top : owner? (fileScope t) d = none)
    (listed : o ∈ (fileScope t).types.toList) :
    (NameScope.container d).toList ≠ o.qualifiedName.toList := by
  intro same
  rw [toList_container_of_named member named, outerName?_of_top top] at same
  cases packaged : (fileScope t).header.package? with
  | none =>
      rw [packaged] at same
      have nonempty := regular.label_ne_nil listed
      rw [toList_qualifiedName listed] at same
      exact nonempty (List.append_eq_nil_iff.1 same.symm).2
  | some package =>
      obtain ⟨more, nonempty, spelled⟩ := exists_after_package_of_some numbered packaged listed
      rw [packaged] at same
      have dotted : trim (package.toList ++ ['.']) = trim package.toList :=
        List.rdropWhile_concat_pos _ _ _ rfl
      change trim (package.toList ++ ['.']) = _ at same
      rw [dotted] at same
      have shorter := (List.rdropWhile_prefix (fun c => c == '.') (l := package.toList)).length_le
      change (trim package.toList).length ≤ _ at shorter
      rw [same, spelled, List.length_append] at shorter
      have := List.length_pos_of_ne_nil nonempty
      omega

theorem eq_of_container (numbered : WellNumbered t) (member : d ∈ (fileScope t).types.toList)
    (member' : d' ∈ (fileScope t).types.toList) (name : d.name = d'.name)
    (place : NameScope.container d = NameScope.container d') : d = d' := by
  have anonymity : isAnonymous d.node = isAnonymous d'.node := by
    rw [Bool.eq_iff_iff, regular.anonymous_iff d member, regular.anonymous_iff d' member', name]
  apply regular.distinct d member d' member'
  have place := congrArg String.toList place
  cases anonymous : isAnonymous d.node with
  | true =>
      rw [regular.toList_container_of_anonymous member anonymous,
        regular.toList_container_of_anonymous member' (anonymity ▸ anonymous)] at place
      exact String.toList_inj.1 place
  | false =>
      have named' : isAnonymous d'.node = false := anonymity ▸ anonymous
      have outer : outerName? (fileScope t) d = outerName? (fileScope t) d' := by
        cases owned : owner? (fileScope t) d with
        | none =>
            cases owned' : owner? (fileScope t) d' with
            | none => rw [outerName?_of_top owned, outerName?_of_top owned']
            | some o' =>
                rw [regular.toList_container_of_owner? member' named' owned'] at place
                exact absurd place (regular.container_ne numbered member anonymous owned
                  (mem_types_of_owner? owned'))
        | some o =>
            cases owned' : owner? (fileScope t) d' with
            | none =>
                rw [regular.toList_container_of_owner? member anonymous owned] at place
                exact absurd place.symm (regular.container_ne numbered member' named' owned'
                  (mem_types_of_owner? owned))
            | some o' =>
                rw [regular.toList_container_of_owner? member anonymous owned,
                  regular.toList_container_of_owner? member' named' owned',
                  String.toList_inj] at place
                rw [outerName?_of_owner? owned, outerName?_of_owner? owned', place]
      rw [qualifiedName_eq member, qualifiedName_eq member', anonymous, named', outer, name,
        if_neg Bool.false_ne_true, if_neg Bool.false_ne_true]

end Regular

theorem eq_of_prefixes {a b c : String} (before : a.toList <+: c.toList)
    (before' : b.toList <+: c.toList) (size : a.utf8ByteSize = b.utf8ByteSize) : a = b := by
  have grows {a b : String} (longer : a.toList <+: b.toList)
      (size : a.utf8ByteSize = b.utf8ByteSize) : a = b := by
    obtain ⟨more, spelled⟩ := longer
    by_cases nothing : more = []
    · rw [nothing, List.append_nil] at spelled
      exact String.toList_inj.1 spelled
    · exact absurd size (Nat.ne_of_lt (bytes_lt nothing spelled.symm))
  rcases List.prefix_or_prefix_of_prefix before before' with longer | longer
  · exact grows longer size
  · exact (grows longer size.symm).symm

/-- The types that go by the name and can be seen from the given one. -/
def candidates (name : String) (within : Declared t) : List (Declared t) :=
  (fileScope t).types.toList.filter fun o =>
    o.name == name &&
      (NameScope.container o == (fileScope t).header.package ||
        within.qualifiedName == NameScope.container o ||
          within.qualifiedName.startsWith (NameScope.container o ++ "."))

def Deepest (name : String) (within o : Declared t) : Prop :=
  o ∈ candidates name within ∧ ∀ e ∈ candidates name within, e ≠ o →
    (NameScope.container e).utf8ByteSize < (NameScope.container o).utf8ByteSize

theorem visible?_of_deepest {name : String} (deepest : Deepest name d o) :
    (fileScope t).visible? name d = some o.qualifiedName := by
  obtain ⟨candidate, deeper⟩ := deepest
  rw [candidates] at candidate deeper
  rw [NameScope.visible?]
  split
  next none =>
    rw [none] at candidate
    cases candidate
  next first rest found =>
    rw [found] at candidate deeper
    rw [foldl_deeper candidate deeper]

theorem visible?_of_nil {name : String} (nil : candidates name d = []) :
    (fileScope t).visible? name d = none := by
  rw [candidates] at nil
  rw [NameScope.visible?]
  split
  next => rfl
  next first rest found =>
    rw [nil] at found
    cases found

theorem container_begins (numbered : WellNumbered t) {name : String}
    (member : d ∈ (fileScope t).types.toList) (candidate : o ∈ candidates name d) :
    (NameScope.container o).toList <+: d.qualifiedName.toList := by
  have seen := (List.mem_filter.1 candidate).2
  simp only [Bool.and_eq_true, Bool.or_eq_true, beq_iff_eq] at seen
  rcases seen.2 with (package | here) | onward
  · rw [package, Header.package]
    cases packaged : (fileScope t).header.package? with
    | none => exact List.nil_prefix
    | some package =>
        obtain ⟨more, _, spelled⟩ := exists_after_package_of_some numbered packaged member
        exact ⟨more, spelled.symm⟩
  · exact here ▸ List.prefix_rfl
  · rw [String.startsWith_string_iff, String.toList_append] at onward
    exact (List.prefix_append _ _).trans onward

theorem Regular.exists_deepest (regular : Regular t) (numbered : WellNumbered t) {name : String}
    (member : d ∈ (fileScope t).types.toList) (some : candidates name d ≠ []) :
    ∃ o, Deepest name d o := by
  let size (o : Declared t) : Nat := (NameScope.container o).utf8ByteSize
  have highest : (candidates name d).argmax size ≠ none := mt List.argmax_eq_none.1 some
  obtain ⟨o, found⟩ := Option.ne_none_iff_exists'.1 highest
  have candidate := List.argmax_mem found
  refine ⟨o, candidate, fun e other differs => ?_⟩
  refine Nat.lt_of_le_of_ne (List.le_of_mem_argmax (f := size) other found) fun same => differs ?_
  have place := eq_of_prefixes (container_begins numbered member other)
    (container_begins numbered member candidate) same
  obtain ⟨listed, named⟩ := List.mem_filter.1 other
  obtain ⟨listed', named'⟩ := List.mem_filter.1 candidate
  have name_eq : e.name = o.name :=
    (beq_iff_eq.1 (Bool.and_eq_true_iff.1 named).1).trans
      (beq_iff_eq.1 (Bool.and_eq_true_iff.1 named').1).symm
  exact regular.eq_of_container numbered listed listed' name_eq place

end TreeLint.Java

import TreeLint.Java.Platform

/-! The superclasses that are known of a type, one step at a time. -/

namespace TreeLint.Java.Platform

/-- The superclass of a class declared elsewhere: the one in the table, `Object` for a class that
is not there, and none for `Object` itself and known interfaces. -/
def superclass? (qualifiedName : String) : Option String :=
  match (simple? qualifiedName).bind fun simple => known.lookup simple with
  | some above? => above?.map (qualifiedPrefix ++ ·)
  | none => some object

@[simp] theorem simple?_prefixed (simple : String) :
    simple? (qualifiedPrefix ++ simple) = some simple := by
  have starts : (qualifiedPrefix ++ simple).startsWith qualifiedPrefix = true := by
    rw [String.startsWith_string_iff, String.toList_append]
    exact List.prefix_append _ _
  rw [simple?, if_pos starts]
  refine congrArg some (String.ext ?_)
  rw [String.Slice.toString_eq, String.toList_copy_drop, String.toList_append,
    ← String.length_toList, List.drop_left]

theorem superclass?_eq_none_iff {qualifiedName : String} :
    superclass? qualifiedName = none ↔ qualifiedName = object ∨ isInterface qualifiedName := by
  have entry : superclass? qualifiedName = none ↔
      ((simple? qualifiedName).bind fun simple => known.lookup simple) = some none := by
    rw [superclass?]
    cases (simple? qualifiedName).bind fun simple => known.lookup simple with
    | none => simp
    | some above? => cases above? <;> simp
  by_cases isObject : qualifiedName = object
  · refine ⟨fun _ => .inl isObject, fun _ => entry.2 ?_⟩
    rw [isObject, show object = qualifiedPrefix ++ "Object" from rfl, simple?_prefixed]
    decide
  · rw [entry, or_iff_right isObject]
    cases found : (simple? qualifiedName).bind fun simple => known.lookup simple with
    | none => simp [isInterface, found]
    | some above? => cases above? <;> simp [isInterface, found, isObject]

private theorem climbFrom_entry : ∀ entry ∈ known, known.lookup entry.1 = some entry.2 ∧
    climbFrom entry.1 known.reverse = match entry.2 with
      | some above => (qualifiedPrefix ++ above) :: climbFrom above known.reverse
      | none => [] := by
  decide +kernel

private theorem isKnown_above : ∀ entry ∈ known, ∀ above ∈ entry.2, isKnown above = true := by
  decide +kernel

private theorem mem_of_isKnown {simple : String} (isKnown : isKnown simple = true) :
    ∃ entry ∈ known, entry.1 = simple := by
  obtain ⟨entry, member, same⟩ := List.any_eq_true.1 isKnown
  exact ⟨entry, member, beq_iff_eq.1 same⟩

private theorem lookup_of_unknown {simple : String} (unknown : isKnown simple = false) :
    known.lookup simple = none := by
  rw [List.lookup_eq_none_iff]
  intro entry member
  rw [bne_iff_ne]
  intro same
  exact List.any_eq_false.1 unknown entry member (beq_iff_eq.2 same.symm)

@[simp] private theorem superclasses_object : superclasses object = [] := by
  rw [superclasses, show object = qualifiedPrefix ++ "Object" from rfl, simple?_prefixed]
  decide

private theorem superclasses_of_unknown {qualifiedName : String}
    (unknown : (simple? qualifiedName).filter isKnown = none) :
    superclasses qualifiedName = [object] ∧ superclass? qualifiedName = some object := by
  refine ⟨by rw [superclasses, unknown], ?_⟩
  rw [superclass?]
  cases found : simple? qualifiedName with
  | none => rfl
  | some simple =>
      have unknown : isKnown simple = false := by simpa [found, Option.filter_some] using unknown
      rw [Option.bind_some, lookup_of_unknown unknown]

private theorem superclasses_of_entry {qualifiedName : String} {entry : String × Option String}
    (member : entry ∈ known) (found : simple? qualifiedName = some entry.1) :
    superclasses qualifiedName = climbFrom entry.1 known.reverse ∧
      superclass? qualifiedName = entry.2.map (qualifiedPrefix ++ ·) := by
  have isKnown : isKnown entry.1 = true := List.any_eq_true.2 ⟨entry, member, beq_self_eq_true _⟩
  constructor
  · rw [superclasses, found, Option.filter_some, isKnown]
    rfl
  · rw [superclass?, found, Option.bind_some, (climbFrom_entry entry member).1]

theorem superclasses_eq (qualifiedName : String) :
    superclasses qualifiedName =
      match superclass? qualifiedName with
      | some above => above :: superclasses above
      | none => [] := by
  cases found : (simple? qualifiedName).filter isKnown with
  | none =>
      obtain ⟨single, onto⟩ := superclasses_of_unknown found
      rw [onto, single]
      exact congrArg (object :: ·) superclasses_object.symm
  | some simple =>
      obtain ⟨here, known?⟩ := Option.filter_eq_some_iff.1 found
      obtain ⟨entry, member, rfl⟩ := mem_of_isKnown known?
      obtain ⟨chain, onto⟩ := superclasses_of_entry member here
      rw [chain, onto, (climbFrom_entry entry member).2]
      cases next : entry.2 with
      | none => rfl
      | some above =>
          obtain ⟨upper, listed, rfl⟩ := mem_of_isKnown (isKnown_above entry member above next)
          dsimp only [Option.map_some]
          rw [(superclasses_of_entry listed (simple?_prefixed upper.1)).1]

end TreeLint.Java.Platform

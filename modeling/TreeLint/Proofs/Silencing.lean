import TreeLint.Suppression.Directive

namespace TreeLint

def Issue.isSilenced (i : Issue) (suppressions : List Suppression) : Bool :=
  suppressions.any (·.silences i)

namespace Suppression

variable {issue : Issue} {issues : List Issue} {s : Suppression} {suppressions : List Suppression}

theorem find?_silences_eq_none_iff :
    suppressions.find? (·.silences issue) = none ↔ issue.isSilenced suppressions = false := by
  simp [Issue.isSilenced]

theorem isSilenced_of_find? {s : Suppression}
    (found : suppressions.find? (·.silences issue) = some s) :
    issue.isSilenced suppressions = true := by
  have fits := List.find?_some found
  exact List.any_eq_true.2 ⟨s, List.mem_of_find?_eq_some found, fits⟩

theorem separate_cons_of_some (found : suppressions.find? (·.silences issue) = some s)
    (rest : List Issue) :
    separate suppressions (issue :: rest) =
      ((separate suppressions rest).1, ⟨issue, s⟩ :: (separate suppressions rest).2) := by
  simp [separate, found]

theorem separate_cons_of_none (missed : suppressions.find? (·.silences issue) = none)
    (rest : List Issue) :
    separate suppressions (issue :: rest) =
      (issue :: (separate suppressions rest).1, (separate suppressions rest).2) := by
  simp [separate, missed]

@[simp] theorem separate_nil (issues : List Issue) : separate [] issues = (issues, []) := by
  induction issues with
  | nil => rfl
  | cons issue rest ih => rw [separate_cons_of_none rfl, ih]

theorem filter_eq_separate (issues : List Issue) (suppressions : List Suppression) :
    filter issues suppressions = separate suppressions issues := by
  cases suppressions with
  | nil => exact (separate_nil issues).symm
  | cons s rest => rfl

@[simp] theorem filter_fst (issues : List Issue) (suppressions : List Suppression) :
    (filter issues suppressions).1 = issues.filter fun i => !i.isSilenced suppressions := by
  rw [filter_eq_separate]
  induction issues with
  | nil => rfl
  | cons issue rest ih =>
      cases found : suppressions.find? (·.silences issue) with
      | none =>
          simp [separate_cons_of_none found, ih, find?_silences_eq_none_iff.1 found]
      | some s => simp [separate_cons_of_some found, ih, isSilenced_of_find? found]

theorem map_filter_snd (issues : List Issue) (suppressions : List Suppression) :
    (filter issues suppressions).2.map (·.issue) =
      issues.filter fun i => i.isSilenced suppressions := by
  rw [filter_eq_separate]
  induction issues with
  | nil => rfl
  | cons issue rest ih =>
      cases found : suppressions.find? (·.silences issue) with
      | none =>
          simp [separate_cons_of_none found, ih, find?_silences_eq_none_iff.1 found]
      | some s => simp [separate_cons_of_some found, ih, isSilenced_of_find? found]

theorem perm_filter (issues : List Issue) (suppressions : List Suppression) :
    ((filter issues suppressions).1 ++ (filter issues suppressions).2.map (·.issue)).Perm
      issues := by
  rw [filter_fst, map_filter_snd]
  exact List.perm_append_comm.trans (List.filter_append_perm ..)

def Names (s : Suppression) (rule : String) : Prop := s.rule = "*" ∨ s.rule = rule

/-- What a directive is for: the whole file, its own line or the one below. -/
inductive Reaches (s : Suppression) (line : Nat) : Prop
  | file (scope : s.scope = .file)
  | here (scope : s.scope = .line) (same : line = s.line)
  | below (scope : s.scope = .nextLine) (next : line = s.line + 1)

def Fits (s : Suppression) (issue : Issue) : Prop := s.Names issue.rule ∧ s.Reaches issue.line

theorem silences_iff : s.silences issue = true ↔ s.Fits issue := by
  rw [silences, Bool.and_eq_true, Bool.or_eq_true, beq_iff_eq, beq_iff_eq]
  apply and_congr_right
  intro _
  cases scope : s.scope with
  | file => exact iff_of_true rfl (.file scope)
  | line =>
      rw [beq_iff_eq]
      constructor
      · exact .here scope
      · rintro (wide | ⟨_, same⟩ | next)
        · cases scope.symm.trans wide
        · exact same
        · cases scope.symm.trans next
  | nextLine =>
      rw [beq_iff_eq]
      constructor
      · exact .below scope
      · rintro (wide | here | ⟨_, next⟩)
        · cases scope.symm.trans wide
        · cases scope.symm.trans here
        · exact next

instance (s : Suppression) (issue : Issue) : Decidable (s.Fits issue) :=
  decidable_of_iff _ silences_iff

def IsFirst (suppressions : List Suppression) (issue : Issue) (s : Suppression) : Prop :=
  ∃ before after, suppressions = before ++ s :: after ∧ s.Fits issue ∧
    ∀ earlier ∈ before, ¬earlier.Fits issue

theorem find?_silences_eq_some_iff :
    suppressions.find? (·.silences issue) = some s ↔ IsFirst suppressions issue s := by
  rw [List.find?_eq_some_iff_append, silences_iff]
  constructor
  · rintro ⟨fits, before, after, split, earlier⟩
    refine ⟨before, after, split, fits, fun other member => ?_⟩
    rw [← silences_iff]
    simpa using earlier other member
  · rintro ⟨before, after, split, fits, earlier⟩
    refine ⟨fits, before, after, split, fun other member => ?_⟩
    have unfit := earlier other member
    rw [← silences_iff] at unfit
    simpa using unfit

namespace IsFirst

theorem unique {other : Suppression} (first : IsFirst suppressions issue s)
    (first' : IsFirst suppressions issue other) : other = s := by
  rw [← find?_silences_eq_some_iff] at first first'
  exact Option.some.inj (first'.symm.trans first)

theorem append (first : IsFirst suppressions issue s) (more : List Suppression) :
    IsFirst (suppressions ++ more) issue s := by
  obtain ⟨before, after, rfl, fits, earlier⟩ := first
  exact ⟨before, after ++ more, by simp, fits, earlier⟩

end IsFirst

theorem isSilenced_iff :
    issue.isSilenced suppressions = true ↔ ∃ s ∈ suppressions, s.Fits issue := by
  simp [Issue.isSilenced, silences_iff]

theorem isFirst_of_mem {p : SuppressedIssue} (member : p ∈ (separate suppressions issues).2) :
    IsFirst suppressions p.issue p.suppression := by
  induction issues with
  | nil => cases member
  | cons issue rest ih =>
      cases found : suppressions.find? (·.silences issue) with
      | none =>
          rw [separate_cons_of_none found] at member
          exact ih member
      | some s =>
          rw [separate_cons_of_some found] at member
          rcases List.mem_cons.1 member with rfl | later
          · exact find?_silences_eq_some_iff.1 found
          · exact ih later

/-- The two parts of the issues, in their order: those that no directive fits, and the others, each
with the first directive that fits it. -/
structure Parts (suppressions : List Suppression) (issues : List Issue)
    (parts : List Issue × List SuppressedIssue) : Prop where
  active : parts.1 = issues.filter fun issue => ∀ s ∈ suppressions, ¬s.Fits issue
  suppressed : parts.2.map (·.issue) =
    issues.filter fun issue => ∃ s ∈ suppressions, s.Fits issue
  first : ∀ p ∈ parts.2, IsFirst suppressions p.issue p.suppression
  whole : (parts.1 ++ parts.2.map (·.issue)).Perm issues

theorem parts_filter (issues : List Issue) (suppressions : List Suppression) :
    Parts suppressions issues (filter issues suppressions) where
  active := by
    rw [filter_fst]
    refine List.filter_congr fun issue _ => ?_
    rw [Bool.eq_iff_iff, Bool.not_eq_true', ← Bool.not_eq_true, isSilenced_iff]
    simp
  suppressed := by
    rw [map_filter_snd]
    refine List.filter_congr fun issue _ => ?_
    rw [Bool.eq_iff_iff, isSilenced_iff, decide_eq_true_iff]
  first p member := by
    rw [filter_eq_separate] at member
    exact isFirst_of_mem member
  whole := perm_filter issues suppressions

/-- What is silenced stays silenced by the same directive.  New directives see the active issues
alone. -/
structure Keeps (more : List Suppression) (parts parts' : List Issue × List SuppressedIssue) :
    Prop where
  suppressed : parts.2.Sublist parts'.2
  active : parts'.1.Sublist parts.1
  stillActive : parts'.1 = (filter parts.1 more).1
  sameDirective : ∀ p ∈ parts.2, ∀ q ∈ parts'.2, q.issue = p.issue → q.suppression = p.suppression

theorem separate_append_snd (issues : List Issue) (suppressions more : List Suppression) :
    (separate suppressions issues).2.Sublist (separate (suppressions ++ more) issues).2 := by
  induction issues with
  | nil => exact List.Sublist.refl _
  | cons issue rest ih =>
      have both : (suppressions ++ more).find? (·.silences issue) =
          (suppressions.find? (·.silences issue)).or (more.find? (·.silences issue)) :=
        List.find?_append
      cases found : suppressions.find? (·.silences issue) with
      | some s =>
          rw [found] at both
          rw [separate_cons_of_some found, separate_cons_of_some both]
          exact ih.cons_cons _
      | none =>
          rw [found, Option.none_or] at both
          rw [separate_cons_of_none found]
          cases new : more.find? (·.silences issue) with
          | none =>
              rw [separate_cons_of_none (both.trans new)]
              exact ih
          | some s =>
              rw [separate_cons_of_some (both.trans new)]
              exact ih.cons _

theorem keeps_filter (issues : List Issue) (suppressions more : List Suppression) :
    Keeps more (filter issues suppressions) (filter issues (suppressions ++ more)) := by
  have stillActive : (filter issues (suppressions ++ more)).1 =
      (filter (filter issues suppressions).1 more).1 := by
    rw [filter_fst, filter_fst, filter_fst, List.filter_filter]
    refine List.filter_congr fun issue _ => ?_
    simp [Issue.isSilenced, Bool.and_comm]
  refine ⟨?_, ?_, stillActive, ?_⟩
  · rw [filter_eq_separate, filter_eq_separate]
    exact separate_append_snd issues suppressions more
  · rw [stillActive, filter_fst _ more]
    exact List.filter_sublist
  · intro p member q member' same
    have first := ((parts_filter issues suppressions).first p member).append more
    have first' := (parts_filter issues (suppressions ++ more)).first q member'
    rw [same] at first'
    exact first.unique first'

/-- Directives split the issues into those that none of them fits and those that one does, with the
first that does.  It makes no difference that issues are not looked at for want of directives, and
further directives leave what is silenced as it is. -/
theorem first_fitting_directives_silence (issues : List Issue) (suppressions : List Suppression) :
    Parts suppressions issues (filter issues suppressions) ∧
      filter issues suppressions = separate suppressions issues ∧
      ∀ more, Keeps more (filter issues suppressions) (filter issues (suppressions ++ more)) :=
  ⟨parts_filter issues suppressions, filter_eq_separate issues suppressions,
    keeps_filter issues suppressions⟩

end Suppression

end TreeLint

import TreeLint.Proofs.Outcome
import TreeLint.Proofs.Transcripts
import TreeLint.Rule.InPlace

namespace TreeLint

open InPlace

/-- Why rules are not run on a file.  Symbols of another tree come before keys that two rules have;
of these, the first to come up again in the order of the rules. -/
inductive Objection (input : FileInput) (rules : List (Rule σ)) : RunError → Prop
  | symbols (given : input.symbols? = some symbols) (other : symbols.tree ≠ input.tree.id) :
    Objection input rules (.symbolsOfOtherTree input.path)
  | key (bound : ∀ symbols ∈ input.symbols?, symbols.tree = input.tree.id)
    (split : rules = front ++ rule :: back) (distinct : (front.map Rule.key).Nodup)
    (known : rule.key ∈ front.map Rule.key) :
    Objection input rules (.duplicateRule rule.key)

section Objections

variable {input : FileInput} {rules : List (Rule σ)}

theorem duplicateKey?_eq_some_iff {seen : List String} {key : String} :
    duplicateKey? seen rules = some key ↔
      ∃ front rule back, rules = front ++ rule :: back ∧ duplicateKey? seen front = none ∧
        rule.key = key ∧ (key ∈ front.map Rule.key ∨ key ∈ seen) := by
  induction rules generalizing seen with
  | nil =>
      refine iff_of_false nofun ?_
      rintro ⟨front, rule, back, split, _⟩
      cases front <;> cases split
  | cons first rest ih =>
      by_cases known : first.key ∈ seen
      · rw [duplicateKey?_of_mem known]
        constructor
        · rintro ⟨⟩
          exact ⟨[], first, rest, rfl, rfl, rfl, .inr known⟩
        · rintro ⟨_ | ⟨_, front⟩, rule, back, ⟨⟩, fresh, rfl, _⟩
          · rfl
          · rw [duplicateKey?_of_mem known] at fresh
            cases fresh
      · rw [duplicateKey?_of_not_mem known, ih]
        -- The first key counts as one from before for the rules behind it.
        have shift (front : List (Rule σ)) :
            (key ∈ front.map Rule.key ∨ key ∈ first.key :: seen) ↔
              (key ∈ (first :: front).map Rule.key ∨ key ∈ seen) := by
          rw [List.map_cons, List.mem_cons, List.mem_cons]
          tauto
        constructor
        · rintro ⟨front, rule, back, rfl, fresh, same, earlier⟩
          exact ⟨first :: front, rule, back, rfl,
            (duplicateKey?_of_not_mem known front).trans fresh, same, (shift front).1 earlier⟩
        · rintro ⟨_ | ⟨_, front⟩, rule, back, ⟨⟩, fresh, rfl, earlier⟩
          · rcases earlier with none | before
            · cases none
            · exact absurd before known
          · rw [duplicateKey?_of_not_mem known] at fresh
            exact ⟨front, rule, back, rfl, fresh, rfl, (shift front).2 earlier⟩

theorem duplicateKey?_nil_eq_none_iff :
    duplicateKey? [] rules = none ↔ (rules.map Rule.key).Nodup := by
  rw [duplicateKey?_eq_none_iff]
  exact and_iff_left fun _ _ => List.not_mem_nil

theorem check_of_symbols_of_other {symbols : SymbolTable} (given : input.symbols? = some symbols)
    (other : symbols.tree ≠ input.tree.id) :
    input.check rules = .error (.symbolsOfOtherTree input.path) := by
  rw [FileInput.check, given]
  exact if_pos (decide_eq_true other)

theorem check_of_bound (bound : ∀ symbols ∈ input.symbols?, symbols.tree = input.tree.id) :
    input.check rules =
      match duplicateKey? [] rules with
      | some key => .error (.duplicateRule key)
      | none => .ok () := by
  rw [FileInput.check, FileInput.bound_iff.2 bound]
  rfl

theorem check_eq_error_iff {e : RunError} :
    input.check rules = .error e ↔ Objection input rules e := by
  constructor
  · intro refused
    by_cases bound : ∀ symbols ∈ input.symbols?, symbols.tree = input.tree.id
    · rw [check_of_bound bound] at refused
      cases found : duplicateKey? [] rules with
      | none =>
          rw [found] at refused
          cases refused
      | some key =>
          rw [found] at refused
          cases refused
          obtain ⟨front, rule, back, split, fresh, rfl, known | none⟩ :=
            duplicateKey?_eq_some_iff.1 found
          · exact .key bound split (duplicateKey?_nil_eq_none_iff.1 fresh) known
          · cases none
    · simp only [not_forall] at bound
      obtain ⟨symbols, given, other⟩ := bound
      rw [check_of_symbols_of_other given other] at refused
      cases refused
      exact .symbols given other
  · rintro (⟨given, other⟩ | ⟨bound, split, distinct, known⟩)
    · exact check_of_symbols_of_other given other
    · rw [check_of_bound bound, duplicateKey?_eq_some_iff.2
        ⟨_, _, _, split, duplicateKey?_nil_eq_none_iff.2 distinct, rfl, .inl known⟩]

theorem runFile_eq_error_iff_check {e : RunError} :
    runFile input rules = .error e ↔ input.check rules = .error e := by
  cases checked : input.check rules with
  | ok _ =>
      rw [runFile_of_check checked]
      constructor <;> rintro ⟨⟩
  | error e' =>
      rw [runFile, checked]
      constructor <;> (rintro ⟨⟩; rfl)

theorem runFile_eq_error_iff {e : RunError} :
    runFile input rules = .error e ↔ Objection input rules e :=
  runFile_eq_error_iff_check.trans check_eq_error_iff

theorem exists_runFile_eq_error_iff :
    (∃ e, runFile input rules = .error e) ↔
      (∃ symbols ∈ input.symbols?, symbols.tree ≠ input.tree.id) ∨
        ¬ (rules.map Rule.key).Nodup := by
  have opposed : (∃ e, input.check rules = .error e) ↔ ¬ input.check rules = .ok () := by
    cases input.check rules with
    | ok _ => simp
    | error e => simp
  simp only [runFile_eq_error_iff_check, opposed, check_eq_ok_iff, not_and_or, not_forall,
    exists_prop]
  exact or_comm

end Objections

namespace RunInPlace

theorem check_eq (input : FileInput) (rules : List (Rule σ)) :
    check input rules = result rules ((input.check rules).map fun _ => ((), rules)) := by
  rw [check, FileInput.check, checkSymbols]
  cases input.symbols?.any (·.tree ≠ input.tree.id) with
  | true => rfl
  | false =>
      change checkKeys rules = _
      rw [checkKeys, bind_of_ok (get_eq _)]
      cases duplicateKey? [] rules with
      | some key => rfl
      | none => rfl

theorem runFile_eq (input : FileInput) (rules : List (Rule σ)) :
    runFile input rules = result rules (TreeLint.runFile input rules) := by
  have checks := check_eq input rules
  rw [runFile, TreeLint.runFile]
  cases checked : input.check rules with
  | error e =>
      rw [checked] at checks
      exact bind_of_error checks _
  | ok _ =>
      rw [checked] at checks
      exact bind_of_ok checks _

theorem runFile_eq_error_iff {input : FileInput} {rules left : List (Rule σ)} {e : RunError} :
    runFile input rules = .error e left ↔ left = rules ∧ Objection input rules e := by
  rw [runFile_eq, result_eq_error_iff, TreeLint.runFile_eq_error_iff]

end RunInPlace

@[simp] theorem objection_noted_iff {input : FileInput} {rules : List (Rule σ)} {e : RunError} :
    Objection input (rules.map Rule.noted) e ↔ Objection input rules e := by
  rw [← check_eq_error_iff, check_map_noted, check_eq_error_iff]

/-- A run is stopped exactly if the symbols are those of another tree or two rules have one key,
with the error that comes first.  The rules are then as they were, and journals that they keep of
the hooks that are called stay empty. -/
theorem stopped_runs_call_no_hook (input : FileInput) (rules : List (Rule σ)) :
    ((∃ e, runFile input rules = .error e) ↔
      (∃ symbols ∈ input.symbols?, symbols.tree ≠ input.tree.id) ∨
        ¬ (rules.map Rule.key).Nodup) ∧
    (∀ e, runFile input rules = .error e ↔ Objection input rules e) ∧
    (∀ e left, RunInPlace.runFile input rules = .error e left ↔
      left = rules ∧ Objection input rules e) ∧
    ∀ e left, RunInPlace.runFile input (rules.map Rule.noted) = .error e left ↔
      left = rules.map (·.noting []) ∧ Objection input rules e := by
  refine ⟨exists_runFile_eq_error_iff, fun e => runFile_eq_error_iff,
    fun e left => RunInPlace.runFile_eq_error_iff, fun e left => ?_⟩
  rw [RunInPlace.runFile_eq_error_iff, objection_noted_iff]
  rfl

end TreeLint

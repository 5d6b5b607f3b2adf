import TreeLint.Proofs.TextLines
import TreeLint.Suppression.Directive

namespace TreeLint.Suppression

open Text Directive

/-- What the line at a place of the text gives.  The first line is at place 0. -/
def fromLine? (source : String) (place : Nat) : Option Suppression :=
  (lines source)[place]?.bind
    (ofLine? (((lines source).take (place + 1)).all isCommentOrEmpty) (place + 1))

theorem ofLines_eq (inHeader : Bool) (number : Nat) (lines : List (List Char)) :
    ofLines inHeader number lines =
      (List.range lines.length).filterMap fun place =>
        lines[place]?.bind
          (ofLine? (inHeader && (lines.take (place + 1)).all isCommentOrEmpty)
            (number + place)) := by
  induction lines generalizing inHeader number with
  | nil => rfl
  | cons line rest ih =>
      rw [ofLines, ih, List.length_cons, List.range_succ_eq_map, List.filterMap_cons,
        List.filterMap_map]
      have later : ∀ place, number + 1 + place = number + (place + 1) := by omega
      cases given : ofLine? (inHeader && isCommentOrEmpty line) number line <;>
        simp [Function.comp_def, given, later, Bool.and_assoc]

theorem ofSource_eq (source : String) :
    ofSource source = (List.range (lines source).length).filterMap (fromLine? source) := by
  rw [ofSource, ofLines_eq]
  simp only [Bool.true_and, Nat.add_comm 1]
  rfl

theorem fromLine?_eq {source : String} {place : Nat} {line : List Char}
    (listed : (lines source)[place]? = some line) :
    fromLine? source place =
      ofLine? (((lines source).take (place + 1)).all isCommentOrEmpty) (place + 1) line := by
  rw [fromLine?, listed]
  rfl

theorem exists_line_of_fromLine? {source : String} {place : Nat} {s : Suppression}
    (given : fromLine? source place = some s) :
    ∃ line, (lines source)[place]? = some line ∧
      ofLine? (((lines source).take (place + 1)).all isCommentOrEmpty) (place + 1) line = some s :=
  Option.bind_eq_some_iff.1 given

theorem line_of_ofLine? {inHeader : Bool} {number : Nat} {line : List Char} {s : Suppression}
    (given : ofLine? inHeader number line = some s) :
    s.line = if s.scope = .file then 0 else number := by
  unfold ofLine? at given
  split at given
  next found _ =>
    dsimp only at given
    split at given <;> cases given
    rfl
  next =>
    split at given <;> cases given
    rfl

theorem ofLine?_of_not_file {inHeader : Bool} {number : Nat} {line : List Char} {s : Suppression}
    (narrow : s.scope ≠ .file) (given : ofLine? inHeader number line = some s) (other : Bool) :
    ofLine? other number line = some s := by
  unfold ofLine? at given ⊢
  split at given
  next found held =>
    dsimp only at given ⊢
    split at given <;> cases given
    simp [narrow]
  next => exact given

theorem fromLine?_of_same_line {source other : String} {place : Nat} {s : Suppression}
    (same : (lines other)[place]? = (lines source)[place]?) (narrow : s.scope ≠ .file)
    (given : fromLine? source place = some s) : fromLine? other place = some s := by
  obtain ⟨line, listed, given⟩ := exists_line_of_fromLine? given
  rw [fromLine?_eq (same.trans listed)]
  exact ofLine?_of_not_file narrow given _

theorem fromLine?_of_same_lines {source other : String} {place : Nat}
    (same : (lines other).take (place + 1) = (lines source).take (place + 1)) :
    fromLine? other place = fromLine? source place := by
  have line : (lines other)[place]? = (lines source)[place]? := by
    rw [← List.getElem?_take_of_lt place.lt_succ_self, same,
      List.getElem?_take_of_lt place.lt_succ_self]
  rw [fromLine?, fromLine?, same, line]

theorem take_lines_of_stands {source other : String} {above line below below' : List Char}
    (stands : Stands source above line below) (stands' : Stands other above line below')
    {place : Nat} (before : place ≤ above.count '\n') :
    (lines other).take (place + 1) = (lines source).take (place + 1) := by
  have reach : place + 1 ≤ (linesFrom [] above ++ [line]).length := by
    rw [List.length_append, stands.whole.length_linesFrom]
    exact Nat.succ_le_succ before
  have upTo {text : String} {below : List Char} (stands : Stands text above line below) :
      (lines text).take (place + 1) = (linesFrom [] above ++ [line]).take (place + 1) := by
    rw [stands.lines_eq, List.append_cons, List.take_append_of_le_length reach]
  rw [upTo stands, upTo stands']

/-- The suppressions of a text are what its lines give, one at most each.  Those for single lines
depend on nothing but their line and its number, and all of them on nothing below. -/
theorem suppressions_stem_from_lines (source : String) :
    ofSource source = (List.range (lines source).length).filterMap (fromLine? source) ∧
      (∀ place s, fromLine? source place = some s →
        (∃ above line below, Stands source above line below ∧ above.count '\n' = place) ∧
          s.line = if s.scope = .file then 0 else place + 1) ∧
      ∀ above line below, Stands source above line below →
        (∀ other above' below', Stands other above' line below' →
          above'.count '\n' = above.count '\n' → ∀ s, s.scope ≠ .file →
            (fromLine? other (above.count '\n') = some s ↔
              fromLine? source (above.count '\n') = some s)) ∧
        ∀ other below', Stands other above line below' →
          ∀ place ≤ above.count '\n', fromLine? other place = fromLine? source place := by
  refine ⟨ofSource_eq source, ?_, ?_⟩
  · intro place s given
    obtain ⟨line, listed, given⟩ := exists_line_of_fromLine? given
    obtain ⟨above, below, stands, count⟩ := exists_stands listed
    exact ⟨⟨above, line, below, stands, count⟩, line_of_ofLine? given⟩
  · intro above line below stands
    constructor
    · intro other above' below' stands' count s narrow
      have listed := stands.getElem?_lines
      have listed' := stands'.getElem?_lines
      rw [count] at listed'
      have same := listed'.trans listed.symm
      exact ⟨fromLine?_of_same_line same.symm narrow, fromLine?_of_same_line same narrow⟩
    · intro other below' stands' place before
      exact fromLine?_of_same_lines (take_lines_of_stands stands stands' before)

end TreeLint.Suppression

import Mathlib.Data.List.Basic
import TreeLint.Text.Lines

namespace TreeLint.Text

theorem linesFrom_append_feed (behind above rest : List Char) :
    linesFrom behind (above ++ '\n' :: rest) =
      linesFrom behind (above ++ ['\n']) ++ linesFrom [] rest := by
  induction above generalizing behind with
  | nil => simp [linesFrom]
  | cons c above ih =>
      by_cases feed : c = '\n'
      · subst feed
        simp [linesFrom, ih]
      · simp [linesFrom, ih]

theorem length_linesFrom_feed (behind above : List Char) :
    (linesFrom behind (above ++ ['\n'])).length = above.count '\n' + 1 := by
  induction above generalizing behind with
  | nil => simp [linesFrom]
  | cons c above ih =>
      by_cases feed : c = '\n'
      · subst feed
        simp [linesFrom, ih]
      · simp [linesFrom, ih, feed]

theorem linesFrom_append_of_single {line : List Char} (single : '\n' ∉ line)
    (behind rest : List Char) :
    linesFrom behind (line ++ rest) = linesFrom (line.reverse ++ behind) rest := by
  induction line generalizing behind with
  | nil => rfl
  | cons c line ih =>
      have other : c ≠ '\n' := fun same => single (same ▸ List.mem_cons_self)
      simp [linesFrom, ih fun member => single (List.mem_cons_of_mem c member)]

/-- What can stand behind a line: nothing, or the end of the line and the lines below. -/
inductive Ends (line : List Char) : List Char → Prop where
  | text (filled : line ≠ []) : Ends line []
  | feed (bare : line.getLast? ≠ some '\r') (rest : List Char) : Ends line ('\n' :: rest)
  | returnFeed (rest : List Char) : Ends line ('\r' :: '\n' :: rest)

def linesBelow : List Char → List (List Char)
  | '\n' :: rest | '\r' :: '\n' :: rest => linesFrom [] rest
  | _ => []

theorem Ends.linesFrom_eq {line below : List Char} (ends : Ends line below) :
    linesFrom line.reverse below = line :: linesBelow below := by
  cases ends with
  | text filled => simp [linesFrom, linesBelow, filled]
  | feed bare rest =>
      rw [linesFrom_feed (by rwa [List.head?_reverse]), List.reverse_reverse]
      rfl
  | returnFeed rest =>
      have passed : linesFrom line.reverse ('\r' :: '\n' :: rest) =
          linesFrom ('\r' :: line.reverse) ('\n' :: rest) := rfl
      rw [passed, linesFrom_returnFeed, List.reverse_reverse]
      rfl

def Whole (above : List Char) : Prop := above = [] ∨ ∃ front, above = front ++ ['\n']

namespace Whole

variable {above : List Char}

theorem linesFrom_append (whole : Whole above) (rest : List Char) :
    linesFrom [] (above ++ rest) = linesFrom [] above ++ linesFrom [] rest := by
  obtain rfl | ⟨front, rfl⟩ := whole
  · rfl
  · rw [List.append_assoc, List.singleton_append, linesFrom_append_feed]

theorem length_linesFrom (whole : Whole above) :
    (linesFrom [] above).length = above.count '\n' := by
  obtain rfl | ⟨front, rfl⟩ := whole
  · rfl
  · simp [length_linesFrom_feed]

theorem behind (whole : Whole above) (line : List Char) : Whole (line ++ '\n' :: above) := by
  right
  obtain rfl | ⟨front, rfl⟩ := whole
  · exact ⟨line, rfl⟩
  · exact ⟨line ++ '\n' :: front, by simp⟩

end Whole

/-- The line stands in the text between whole lines above and what ends it.  Its number is one more
than the number of line feeds above. -/
structure Stands (text : String) (above line below : List Char) : Prop where
  toList_eq : text.toList = above ++ (line ++ below)
  whole : Whole above
  single : '\n' ∉ line
  ends : Ends line below

namespace Stands

variable {text : String} {above line below : List Char}

theorem lines_eq (stands : Stands text above line below) :
    lines text = linesFrom [] above ++ line :: linesBelow below := by
  rw [lines, stands.toList_eq, stands.whole.linesFrom_append,
    linesFrom_append_of_single stands.single, List.append_nil, stands.ends.linesFrom_eq]

theorem getElem?_lines (stands : Stands text above line below) :
    (lines text)[above.count '\n']? = some line := by
  simp [stands.lines_eq, ← stands.whole.length_linesFrom]

theorem under {front rest : List Char} (stands : Stands (String.ofList rest) above line below)
    (toList_eq : text.toList = front ++ '\n' :: rest) :
    Stands text (front ++ '\n' :: above) line below where
  toList_eq := by
    rw [toList_eq, ← String.toList_ofList (l := rest), stands.toList_eq]
    simp
  whole := stands.whole.behind front
  single := stands.single
  ends := stands.ends

end Stands

theorem exists_first_line {text : String} (filled : text.toList ≠ []) :
    ∃ line below, Stands text [] line below := by
  by_cases feed : '\n' ∈ text.toList
  · obtain ⟨front, rest, split, single⟩ := List.eq_append_cons_of_mem feed
    by_cases bare : front.getLast? = some '\r'
    · obtain ⟨line, rfl⟩ := List.getLast?_eq_some_iff.1 bare
      have single : '\n' ∉ line := fun member => single (List.mem_append_left _ member)
      exact ⟨line, '\r' :: '\n' :: rest, by simp [split], .inl rfl, single, .returnFeed rest⟩
    · exact ⟨front, '\n' :: rest, split, .inl rfl, single, .feed bare rest⟩
  · exact ⟨text.toList, [], by simp, .inl rfl, feed, .text filled⟩

theorem Stands.exists_rest {text : String} {first below : List Char}
    (stands : Stands text [] first below) (more : linesBelow below ≠ []) :
    ∃ front rest, text.toList = front ++ '\n' :: rest ∧ '\n' ∉ front ∧
      linesBelow below = lines (String.ofList rest) := by
  have toList_eq := stands.toList_eq
  have single := stands.single
  cases stands.ends with
  | text => exact absurd rfl more
  | feed _ rest =>
      refine ⟨first, rest, toList_eq, single, ?_⟩
      rw [lines, String.toList_ofList]
      rfl
  | returnFeed rest =>
      refine ⟨first ++ ['\r'], rest, by simpa using toList_eq, by simp [single], ?_⟩
      rw [lines, String.toList_ofList]
      rfl

theorem exists_stands {text : String} {line : List Char} {place : Nat}
    (listed : (lines text)[place]? = some line) :
    ∃ above below, Stands text above line below ∧ above.count '\n' = place := by
  have filled : text.toList ≠ [] := by
    intro empty
    simp [lines, empty, linesFrom] at listed
  obtain ⟨first, below, stands⟩ := exists_first_line filled
  induction place generalizing text first below with
  | zero =>
      cases stands.getElem?_lines.symm.trans listed
      exact ⟨[], below, stands, rfl⟩
  | succ place ih =>
      have later : (linesBelow below)[place]? = some line := by
        simpa [stands.lines_eq, linesFrom] using listed
      have more : linesBelow below ≠ [] := by
        intro none
        simp [none] at later
      obtain ⟨front, rest, split, single, lines_eq⟩ := stands.exists_rest more
      rw [lines_eq] at later more
      have filled : (String.ofList rest).toList ≠ [] := by
        intro empty
        simp [lines, empty, linesFrom] at more
      obtain ⟨second, below, stands⟩ := exists_first_line filled
      obtain ⟨above, below, stands, count⟩ := ih later filled second below stands
      refine ⟨front ++ '\n' :: above, below, stands.under split, ?_⟩
      simp [List.count_eq_zero_of_not_mem single, count]

theorem exists_line_from {text : String} {front more : List Char} (whole : Whole front)
    (filled : more ≠ []) (toList_eq : text.toList = front ++ more) :
    ∃ line below, more = line ++ below ∧ Stands text front line below := by
  have first : ∃ line below, Stands (String.ofList more) [] line below :=
    exists_first_line (by simpa using filled)
  obtain ⟨line, below, stands⟩ := first
  have split : more = line ++ below := by simpa using stands.toList_eq
  exact ⟨line, below, split, ⟨by rw [toList_eq, split], whole, stands.single, stands.ends⟩⟩

theorem Whole.feed_mem {above more : List Char} (whole : Whole (above ++ more))
    (filled : more ≠ []) : '\n' ∈ more := by
  obtain empty | ⟨front, split⟩ := whole
  · exact absurd (List.append_eq_nil_iff.1 empty).2 filled
  · have last := congrArg List.getLast? split
    rw [List.getLast?_append_of_ne_nil _ filled, List.getLast?_concat] at last
    exact List.mem_of_getLast? last

theorem Stands.exists_part {text : String} {above before rest below front line below' : List Char}
    (stands : Stands text above (before ++ rest) below) (stands' : Stands text front line below')
    (fewer : front.count '\n' ≤ above.count '\n') :
    ∃ part back more, line = part ++ more ∧ above ++ before = front ++ (part ++ back) ∧
      more ++ below' = back ++ (rest ++ below) ∧ (more = [] ∨ more = rest) := by
  have here (same : front = above) : line = before ++ rest ∧ below' = below := by
    subst same
    obtain rfl := Option.some.inj (stands'.getElem?_lines.symm.trans stands.getElem?_lines)
    have split := stands'.toList_eq.symm.trans stands.toList_eq
    exact ⟨rfl, List.append_cancel_left (List.append_cancel_left split)⟩
  have whole : front = above → ∃ part back more, line = part ++ more ∧
      above ++ before = front ++ (part ++ back) ∧ more ++ below' = back ++ (rest ++ below) ∧
      (more = [] ∨ more = rest) := by
    intro same
    obtain ⟨rfl, rfl⟩ := here same
    subst same
    exact ⟨before, [], rest, rfl, by simp, rfl, .inr rfl⟩
  -- A line that starts higher ends above the first one, since there is a line feed between them.
  rcases List.append_eq_append_iff.1 (stands'.toList_eq.symm.trans stands.toList_eq) with
    ⟨between, rfl, split⟩ | ⟨between, rfl, split⟩
  · by_cases filled : between = []
    · subst filled
      exact whole (List.append_nil front).symm
    · have feed := stands.whole.feed_mem filled
      rcases List.append_eq_append_iff.1 split with ⟨more, rfl, back⟩ | ⟨more, rfl, _⟩
      · refine ⟨line, more ++ before, [], by simp, by simp, ?_, .inl rfl⟩
        simpa using back
      · exact absurd (List.mem_append_left _ feed) stands'.single
  · have empty : between = [] := by
      by_contra filled
      have feed := List.count_pos_iff.2 (stands'.whole.feed_mem filled)
      rw [List.count_append] at fewer
      omega
    subst empty
    exact whole (List.append_nil above)

def lineEnd : List Char → List Char
  | '\n' :: _ => ['\n']
  | '\r' :: '\n' :: _ => ['\r', '\n']
  | _ => []

/-- The character behind the front stands in the line, or in the end of the line. -/
structure Holds (text : String) (front : List Char) (c : Char) (above line below : List Char) :
    Prop where
  stands : Stands text above line below
  inside : ∃ before after, front = above ++ before ∧ line ++ lineEnd below = before ++ c :: after

section Character

variable {text : String} {front above line below before after rest : List Char} {c : Char}

theorem exists_last_line (front : List Char) :
    ∃ above before, front = above ++ before ∧ Whole above ∧ '\n' ∉ before := by
  by_cases feed : '\n' ∈ front
  · obtain ⟨behind, up, split, single⟩ := List.eq_append_cons_of_mem (List.mem_reverse.2 feed)
    refine ⟨up.reverse ++ ['\n'], behind.reverse, ?_, .inr ⟨_, rfl⟩, by simpa using single⟩
    rw [← List.reverse_reverse front, split]
    simp
  · exact ⟨[], front, rfl, .inl rfl, feed⟩

theorem Ends.reaches (ends : Ends line below) (single : '\n' ∉ before)
    (same : before ++ c :: rest = line ++ below) :
    ∃ after, line ++ lineEnd below = before ++ c :: after := by
  -- What is in front of the character ends within the line, or in its end.
  rcases List.append_eq_append_iff.1 same with ⟨more, rfl, behind⟩ | ⟨more, rfl, behind⟩
  · cases more with
    | nil =>
        cases ends with
        | text => cases behind
        | feed =>
            cases behind
            exact ⟨[], by simp [lineEnd]⟩
        | returnFeed =>
            cases behind
            exact ⟨['\n'], by simp [lineEnd]⟩
    | cons d more =>
        cases behind
        exact ⟨more ++ lineEnd below, by simp⟩
  · have single : '\n' ∉ more := fun member => single (List.mem_append_right _ member)
    cases ends with
    | text => cases more <;> cases behind
    | feed _ _ =>
        cases more with
        | nil =>
            cases behind
            exact ⟨[], by simp [lineEnd]⟩
        | cons d more =>
            cases behind
            exact absurd (List.mem_cons_self ..) single
    | returnFeed _ =>
        match more with
        | [] =>
            cases behind
            exact ⟨['\n'], by simp [lineEnd]⟩
        | [d] =>
            cases behind
            exact ⟨[], by simp [lineEnd]⟩
        | d :: e :: more =>
            cases behind
            exact absurd (List.mem_cons_of_mem _ (List.mem_cons_self ..)) single

theorem exists_holds (here : text.toList = front ++ c :: rest) :
    ∃ above line below, Holds text front c above line below := by
  obtain ⟨above, before, rfl, whole, single⟩ := exists_last_line front
  have split : text.toList = above ++ (before ++ c :: rest) := by rw [here, List.append_assoc]
  obtain ⟨line, below, same, stands⟩ := exists_line_from whole (by simp) split
  obtain ⟨after, inside⟩ := stands.ends.reaches single same
  exact ⟨above, line, below, stands, before, after, rfl, inside⟩

theorem lineEnd_cases (below : List Char) :
    lineEnd below = [] ∨ ∃ other, '\n' ∉ other ∧ lineEnd below = other ++ ['\n'] := by
  unfold lineEnd
  split
  · exact .inr ⟨[], List.not_mem_nil, rfl⟩
  · exact .inr ⟨['\r'], by decide, rfl⟩
  · exact .inl rfl

theorem feed_not_mem (single : '\n' ∉ line)
    (inside : line ++ lineEnd below = before ++ c :: after) : '\n' ∉ before := by
  intro feed
  rcases lineEnd_cases below with none | ⟨other, plain, same⟩
  · rw [none, List.append_nil] at inside
    exact single (inside ▸ List.mem_append_left _ feed)
  · have front : line ++ other = before ++ (c :: after).dropLast := by
      rw [same, ← List.append_assoc] at inside
      have cut := congrArg List.dropLast inside
      rwa [List.dropLast_concat, List.dropLast_append_of_ne_nil (List.cons_ne_nil c after)] at cut
    rcases List.mem_append.1 (front ▸ List.mem_append_left _ feed) with inLine | inEnd
    · exact single inLine
    · exact plain inEnd

theorem Holds.count_eq (holds : Holds text front c above line below) :
    front.count '\n' = above.count '\n' := by
  obtain ⟨before, after, rfl, inside⟩ := holds.inside
  have single := feed_not_mem holds.stands.single inside
  rw [List.count_append, List.count_eq_zero_of_not_mem single, Nat.add_zero]

end Character

end TreeLint.Text

import TreeLint.Proofs.Written

/-! Directives in block comments, against the same directives in line comments.  The two readings
part where a rule has a hyphen: a block comment ends its rule there. -/

namespace TreeLint

open Text

namespace Directive

section Marks

variable {p q : Char} {left right : List Char}

theorem clear_cons {c : Char} (other : c ≠ p ∧ c ≠ q) (clear : ¬ [p, q] <:+: right) :
    ¬ [p, q] <:+: c :: right := by
  simp [List.infix_cons_iff, other.1.symm, clear]

/-- A mark of two characters does not stretch over a third one. -/
theorem clear_around {c : Char} (other : c ≠ p ∧ c ≠ q) (left_clear : ¬ [p, q] <:+: left)
    (right_clear : ¬ [p, q] <:+: right) : ¬ [p, q] <:+: left ++ c :: right := by
  induction left with
  | nil => exact clear_cons other right_clear
  | cons d left ih =>
      have later := ih fun inside => left_clear (List.infix_cons inside)
      rw [List.cons_append, List.infix_cons_iff, not_or, List.cons_prefix_cons]
      refine ⟨?_, later⟩
      rintro ⟨rfl, joined⟩
      cases left with
      | nil => exact other.2 (List.cons_prefix_cons.1 joined).1.symm
      | cons e left =>
          obtain ⟨rfl, _⟩ := List.cons_prefix_cons.1 joined
          exact left_clear ⟨[], left, rfl⟩

theorem findFrom_of_clear {x : Char} {line : List Char}
    {body : List Char → Option (Command × List Char × List Char × List Char)}
    (clear : ¬ ['/', x] <:+: line) (behind : List Char) :
    findFrom ['/', x] body behind line = none := by
  have cut : ∀ more, [] = x :: more → body more = none := nofun
  have passed := findFrom_append clear cut behind
  rwa [List.append_nil] at passed

theorem untilClose_append (clear : ¬ ['*', '/'] <:+: left) (after : List Char) :
    untilClose (left ++ '*' :: '/' :: after) = some (left, after) := by
  induction left with
  | nil => rfl
  | cons c left ih =>
      have later := ih fun inside => clear (List.infix_cons inside)
      rw [List.cons_append, untilClose, later]
      · rfl
      · rintro rest rfl joined
        cases left with
        | nil => cases joined
        | cons d left =>
            obtain ⟨rfl, _⟩ := List.cons.inj joined
            exact clear ⟨[], left, rfl⟩

theorem exists_untilClose (left after : List Char) :
    ∃ inside rest, untilClose (left ++ '*' :: '/' :: after) = some (inside, rest) := by
  induction left with
  | nil => exact ⟨[], after, rfl⟩
  | cons c left ih =>
      obtain ⟨inside, rest, closed⟩ := ih
      rw [List.cons_append]
      unfold untilClose
      split
      next => contradiction
      next => exact ⟨_, _, rfl⟩
      next same =>
        obtain ⟨rfl, rfl⟩ := List.cons.inj same
        rw [closed]
        exact ⟨_, _, rfl⟩

end Marks

section Rules

variable {rule rest reason after : List Char}

theorem blockEnd_of_solid {c : Char} (solid : isBlank c = false) (other : c ≠ '-')
    (inside : ¬ ['*', '/'] <+: c :: rest) : blockEnd (c :: rest) = none := by
  have first : trimStart (c :: rest) = c :: rest := by
    apply trimStart_of_head
    rintro _ ⟨⟩
    exact solid
  have dash : dashed? (c :: rest) = none := by
    simp [dashed?, other]
  have close : dropPrefix? ['*', '/'] (c :: rest) = none := by
    by_cases star : '*' = c
    · subst star
      cases rest with
      | nil => rfl
      | cons d rest =>
          have slash : '/' ≠ d := by
            rintro rfl
            exact inside ⟨rest, rfl⟩
          simp [dropPrefix?, slash]
    · simp [dropPrefix?, star]
  simp [blockEnd, first, dash, close]

theorem blockRule_append (behind : List Char) (filled : rule ≠ [])
    (solid : ∀ c ∈ rule, isBlank c = false) (plain : '-' ∉ rule.tail)
    (inside : ¬ ['*', '/'] <:+: rule) (apart : rest.head? ≠ some '/')
    (ends : blockEnd rest = some (reason, after)) :
    blockRule behind (rule ++ rest) = some (behind.reverse ++ rule, reason, after) := by
  induction rule generalizing behind with
  | nil => exact absurd rfl filled
  | cons c rule ih =>
      have first : isBlank c = false := solid c List.mem_cons_self
      rw [List.cons_append, blockRule, first]
      cases rule with
      | nil => simp [ends]
      | cons d rule =>
          have second : isBlank d = false := solid d (by simp)
          have other : d ≠ '-' := by
            rintro rfl
            exact plain List.mem_cons_self
          have later : ¬ ['*', '/'] <:+: d :: rule := fun more => inside (List.infix_cons more)
          have going : blockEnd (d :: (rule ++ rest)) = none := by
            refine blockEnd_of_solid second other fun closes => ?_
            obtain ⟨rfl, slash⟩ := List.cons_prefix_cons.1 closes
            cases rule with
            | nil =>
                obtain ⟨more, same⟩ := slash
                exact apart (congrArg List.head? same.symm)
            | cons e rule =>
                obtain ⟨rfl, _⟩ := List.cons_prefix_cons.1 slash
                exact later ⟨[], rule, rfl⟩
          have read := ih (c :: behind) (List.cons_ne_nil d rule)
            (fun e member => solid e (List.mem_cons_of_mem c member))
            (fun member => plain (List.mem_cons_of_mem d member)) later
          simp only [List.cons_append] at read ⊢
          rw [going, read]
          simp

end Rules

namespace Written

variable (w : Written)

def blockComment : List Char := '/' :: '*' :: ' ' :: (w.text ++ [' ', '*', '/'])

/-- Neither the rule nor the reason ends a block comment or opens a line comment. -/
structure Enclosable : Prop where
  rule_inside : ¬ ['*', '/'] <:+: w.rule
  rule_clear : ¬ ['/', '/'] <:+: w.rule
  reason_inside : ¬ ['*', '/'] <:+: w.reason
  reason_clear : ¬ ['/', '/'] <:+: w.reason

variable {w}

theorem Enclosable.clear (fits : w.Enclosable) : ¬ ['/', '/'] <:+: w.blockComment := by
  have word : ¬ ['/', '/'] <:+: w.command.word := by
    intro inside
    have slash : '/' ∈ w.command.word := inside.subset List.mem_cons_self
    revert slash
    cases w.command <;> decide
  have rule : ¬ ['/', '/'] <:+: w.rule ++ (w.reasonText ++ [' ', '*', '/']) := by
    cases given : w.reason? with
    | none =>
        rw [reasonText, given, List.nil_append]
        exact clear_around (by decide) fits.rule_clear (by decide)
    | some reason =>
        have reason_clear := fits.reason_clear
        rw [Written.reason, given] at reason_clear
        rw [reasonText, given, List.cons_append, List.cons_append, List.cons_append]
        have behind := clear_around (c := ' ') (by decide) reason_clear
          (by decide : ¬ ['/', '/'] <:+: ['*', '/'])
        apply clear_around (by decide) fits.rule_clear
        exact clear_cons (by decide) (clear_cons (by decide) behind)
  have split : w.blockComment =
      ['/', '*'] ++
        ' ' :: (w.command.word ++ ' ' :: (w.rule ++ (w.reasonText ++ [' ', '*', '/']))) := by
    simp only [blockComment, text, List.append_assoc, List.cons_append, List.nil_append]
  rw [split]
  exact clear_around (by decide) (by decide) (clear_around (by decide) word rule)

theorem Enclosable.blockEnd_reasonText (fits : w.Enclosable) :
    blockEnd (w.reasonText ++ [' ', '*', '/']) = some (w.reason, []) := by
  cases given : w.reason? with
  | none =>
      rw [reasonText, reason, given]
      rfl
  | some reason =>
      have trimmed := w.trimmed reason given
      have inside := fits.reason_inside
      rw [Written.reason, given] at inside ⊢
      rw [reasonText, given]
      cases reason with
      | nil => rfl
      | cons c others =>
          have dashed :
              dashed? (trimStart (' ' :: '-' :: ' ' :: (c :: others) ++ [' ', '*', '/'])) =
                some (c :: others ++ [' '] ++ ['*', '/']) := by
            have first : trimStart (c :: (others ++ [' ', '*', '/'])) =
                c :: (others ++ [' ', '*', '/']) :=
              trimStart_of_head trimmed.1
            rw [List.append_assoc]
            exact congrArg some first
          have spaced : ¬ ['*', '/'] <:+: c :: others ++ [' '] :=
            clear_around (by decide) inside (by decide)
          have closed := untilClose_append spaced []
          have last : trimEnd (c :: others ++ [' ']) = c :: others := by
            have passed : trimEnd (c :: others ++ [' ']) = trimEnd (c :: others) := by
              simp [trimEnd, trimStart, isBlank]
            rw [passed, trimmed.trimEnd_eq]
          rw [blockEnd, dashed, Option.bind_some, closed]
          exact congrArg (fun text => some (text, [])) last

theorem exists_blockEnd (left : List Char) :
    ∃ reason after, blockEnd ('-' :: (left ++ [' ', '*', '/'])) = some (reason, after) := by
  have opened : ∃ front, trimStart (left ++ [' ', '*', '/']) = front ++ ['*', '/'] := by
    rw [trimStart, List.dropWhile_append]
    split
    next => exact ⟨[], rfl⟩
    next => exact ⟨left.dropWhile isBlank ++ [' '], by simp⟩
  obtain ⟨front, opened⟩ := opened
  obtain ⟨inside, after, closed⟩ := exists_untilClose front []
  have dashed : dashed? (trimStart ('-' :: (left ++ [' ', '*', '/']))) =
      some (front ++ ['*', '/']) :=
    congrArg some opened
  rw [blockEnd, dashed, Option.bind_some, closed]
  exact ⟨_, _, rfl⟩

/-- The rule that a block comment gives is the whole rule unless there is a hyphen in it. -/
theorem Enclosable.blockBody_text (fits : w.Enclosable) :
    ∃ rule reason after,
      blockBody (' ' :: (w.text ++ [' ', '*', '/'])) = some (w.command, rule, reason, after) ∧
        (rule = w.rule ↔ '-' ∉ w.rule.tail) ∧
        ('-' ∉ w.rule.tail → reason = w.reason ∧ after = []) := by
  rw [blockBody, w.opening_text]
  by_cases hyphen : '-' ∈ w.rule.tail
  · obtain ⟨c, tail, rule⟩ := List.exists_cons_of_ne_nil w.filled
    have solid := w.solid
    have inside := fits.rule_inside
    rw [rule] at hyphen solid inside ⊢
    obtain ⟨front, back, same, plain⟩ := List.eq_append_cons_of_mem hyphen
    rw [List.tail_cons] at same
    subst same
    obtain ⟨reason, after, ends⟩ := exists_blockEnd (back ++ w.reasonText)
    have read := blockRule_append [] (List.cons_ne_nil c front)
      (fun d member => solid d (List.mem_append_left _ member)) plain
      (fun more => inside (more.trans (List.infix_append' [] _ _))) (by simp) ends
    refine ⟨c :: front, reason, after, ?_, by simp, fun other => absurd hyphen other⟩
    simp only [List.append_assoc, List.cons_append, List.reverse_nil, List.nil_append] at read ⊢
    rw [read]
    rfl
  · have apart : (w.reasonText ++ [' ', '*', '/']).head? ≠ some '/' := by
      unfold reasonText
      split <;> simp
    have read := blockRule_append [] w.filled w.solid hyphen fits.rule_inside apart
      fits.blockEnd_reasonText
    refine ⟨w.rule, w.reason, [], ?_, by simp [hyphen], fun _ => ⟨rfl, rfl⟩⟩
    dsimp only
    rw [read]
    rfl

theorem Enclosable.find_blockComment (fits : w.Enclosable) {before : List Char}
    (clear : ¬ ['/', '/'] <:+: before) (clear' : ¬ ['/', '*'] <:+: before) :
    ∃ rule reason after,
      find (before ++ w.blockComment) = some ⟨before, w.command, rule, reason, after⟩ ∧
        (rule = w.rule ↔ '-' ∉ w.rule.tail) ∧
        ('-' ∉ w.rule.tail → reason = w.reason ∧ after = []) := by
  obtain ⟨rule, reason, after, read, whole⟩ := fits.blockBody_text
  refine ⟨rule, reason, after, ?_, whole⟩
  have cut : ∀ more, w.blockComment = '/' :: more → lineBody more = none := by
    rintro _ ⟨⟩
    exact lineBody_of_mark (.inr rfl) _
  have cut' : ∀ more, w.blockComment = '*' :: more → blockBody more = none := nofun
  rw [find, findFrom_append clear cut, findFrom_of_clear fits.clear,
    findFrom_append clear' cut', List.append_nil, blockComment, findFrom_mark _ read,
    List.reverse_reverse]
  rfl

end Written

end Directive

namespace Suppression

open Directive

theorem isCommentOrEmpty_append {x y : Char} (mark : x = '/' ∨ x = '*') (mark' : y = '/' ∨ y = '*')
    (before left right : List Char) :
    isCommentOrEmpty (before ++ '/' :: x :: left) =
      isCommentOrEmpty (before ++ '/' :: y :: right) := by
  have trimmed (z : Char) (rest : List Char) :
      trimStart (before ++ '/' :: z :: rest) = trimStart before ++ '/' :: z :: rest := by
    rw [trimStart, trimStart, List.dropWhile_append]
    split
    next empty =>
      rw [List.isEmpty_iff.1 empty]
      rfl
    next => rfl
  rw [Bool.eq_iff_iff, isCommentOrEmpty_iff, isCommentOrEmpty_iff, trimmed, trimmed]
  cases trimStart before with
  | nil =>
      have opens {z : Char} (mark : z = '/' ∨ z = '*') (rest : List Char) :
          ['/', '/'] <+: '/' :: z :: rest ∨ ['/', '*'] <+: '/' :: z :: rest := by
        simpa [eq_comm] using mark
      exact ⟨fun _ => .inr (.inr (opens mark' right)), fun _ => .inr (.inr (opens mark left))⟩
  | cons c front =>
      cases front with
      | nil => simp
      | cons d front => simp

theorem all_take_lines (source : String) (place : Nat) :
    ((lines source).take (place + 1)).all isCommentOrEmpty =
      (((lines source).map isCommentOrEmpty).take (place + 1)).all id := by
  rw [← List.map_take, List.all_map]
  rfl

section Swaps

variable {source other : String}
  (looks : (lines other).map isCommentOrEmpty = (lines source).map isCommentOrEmpty) {place : Nat}

include looks

theorem honours_congr : honours other place = honours source place := by
  rw [honours, honours, all_take_lines, all_take_lines, looks]

theorem fromLine?_congr (same : (lines other)[place]? = (lines source)[place]?) :
    fromLine? other place = fromLine? source place := by
  rw [fromLine?, fromLine?, same, all_take_lines, all_take_lines, looks]

end Swaps

theorem ofSource_congr {source other : String}
    (length : (lines other).length = (lines source).length)
    (same : ∀ place, fromLine? other place = fromLine? source place) :
    ofSource other = ofSource source := by
  rw [ofSource_eq, ofSource_eq, length, funext same]

theorem map_rule_of_find {source : String} {place : Nat} {line : List Char} {found : Found}
    (listed : (lines source)[place]? = some line) (held : find line = some found) :
    (fromLine? source place).map (·.rule) =
      if found.command = .ignoreFile ∧ honours source place = false then none
      else some (String.ofList found.rule) := by
  rw [fromLine?_of_find listed held]
  cases found.command with
  | ignore => rfl
  | ignoreNextLine => rfl
  | ignoreFile => cases honours source place <;> rfl

theorem getElem?_lines_of_ne {source other : String} {above line line' below : List Char}
    (stands : Stands source above line below) (stands' : Stands other above line' below)
    {place : Nat} (apart : place ≠ above.count '\n') :
    (lines source)[place]? = (lines other)[place]? := by
  rw [stands.lines_eq, stands'.lines_eq, List.getElem?_append, List.getElem?_append]
  split
  next => rfl
  next behind =>
    rw [stands.whole.length_linesFrom] at behind ⊢
    obtain ⟨later, reached⟩ := Nat.exists_eq_succ_of_ne_zero
      (Nat.sub_ne_zero_of_lt (Nat.lt_of_le_of_ne (Nat.not_lt.1 behind) apart.symm))
    rw [reached]
    rfl

/-- A directive in a block comment gives what the same directive in a line comment gives, unless its
rule has a hyphen behind the first character. -/
theorem block_comments_read_alike {w : Written} (fits : w.Enclosable) {source other : String}
    {above before below : List Char} (clear : ¬ ['/', '/'] <:+: before)
    (clear' : ¬ ['/', '*'] <:+: before)
    (stands : Stands source above (before ++ w.blockComment) below)
    (stands' : Stands other above (before ++ w.lineComment) below) :
    let place := above.count '\n'
    ('-' ∉ w.rule.tail → ofSource source = ofSource other) ∧
      (fromLine? source place = fromLine? other place ↔
        '-' ∉ w.rule.tail ∨ fromLine? other place = none) := by
  intro place
  have looks : (lines source).map isCommentOrEmpty = (lines other).map isCommentOrEmpty := by
    rw [stands.lines_eq, stands'.lines_eq, List.map_append, List.map_append, List.map_cons,
      List.map_cons]
    rw [Written.blockComment, Written.lineComment,
      isCommentOrEmpty_append (.inr rfl) (.inl rfl) before]
  obtain ⟨rule, reason, after, held, whole, plainly⟩ := fits.find_blockComment clear clear'
  have held' := w.find_lineComment clear
  have given := fromLine?_of_find stands.getElem?_lines held
  have given' := fromLine?_of_find stands'.getElem?_lines held'
  rw [honours_congr looks] at given
  have alike (plain : '-' ∉ w.rule.tail) : fromLine? source place = fromLine? other place := by
    obtain ⟨rfl, rfl⟩ := plainly plain
    obtain rfl := whole.2 plain
    exact given.trans given'.symm
  constructor
  · intro plain
    apply ofSource_congr
    · simpa using congrArg List.length looks
    · intro i
      by_cases here : i = place
      · subst here
        exact alike plain
      · exact fromLine?_congr looks (getElem?_lines_of_ne stands stands' here)
  · have rules := map_rule_of_find stands.getElem?_lines held
    have rules' := map_rule_of_find stands'.getElem?_lines held'
    dsimp only at rules rules'
    rw [honours_congr looks] at rules
    constructor
    · intro same
      rw [same, rules'] at rules
      split at rules
      next dropped =>
        rw [if_pos dropped, Option.map_eq_none_iff] at rules'
        exact .inr rules'
      next => exact .inl (whole.1 (String.ofList_injective (Option.some.inj rules)).symm)
    · rintro (plain | none)
      · exact alike plain
      · rw [none, Option.map_none] at rules'
        split at rules'
        next dropped =>
          rw [if_pos dropped, Option.map_eq_none_iff] at rules
          rw [rules, none]
        next => cases rules'

def Written.cut : Written where
  command := .ignoreNextLine
  rule := "a-b".toList
  reason? := none
  filled := by decide
  solid := by
    have clear : "a-b".toList.any isBlank = false := rfl
    simpa using clear
  trimmed := nofun

def Written.kept : Written where
  command := .ignore
  rule := "-a/b*".toList
  reason? := some "c - d/".toList
  filled := by decide
  solid := by
    have clear : "-a/b*".toList.any isBlank = false := rfl
    simpa using clear
  trimmed := by
    rintro _ ⟨⟩
    constructor
    · rintro _ ⟨⟩
      rfl
    · rintro _ ⟨⟩
      rfl

/-- A hyphen in front does no harm, and neither do those in the reason. -/
theorem hyphened_rule_is_cut :
    ofSource ";/* checkwalk:ignore -a/b* - c - d/ */" =
        ofSource ";// checkwalk:ignore -a/b* - c - d/" ∧
      fromLine? "/* checkwalk:ignore-next-line a-b */\n" 0 ≠
        fromLine? "// checkwalk:ignore-next-line a-b\n" 0 := by
  constructor
  · have stands : Stands ";/* checkwalk:ignore -a/b* - c - d/ */" []
        (";".toList ++ Written.kept.blockComment) [] :=
      ⟨by decide +kernel, .inl rfl, by decide, .text (by decide)⟩
    have stands' : Stands ";// checkwalk:ignore -a/b* - c - d/" []
        (";".toList ++ Written.kept.lineComment) [] :=
      ⟨by decide +kernel, .inl rfl, by decide, .text (by decide)⟩
    have fits : Written.kept.Enclosable :=
      ⟨by decide, by decide, by decide +kernel, by decide +kernel⟩
    exact (block_comments_read_alike fits (by decide) (by decide) stands stands').1 (by decide)
  · have stands : Stands "/* checkwalk:ignore-next-line a-b */\n" []
        ([] ++ Written.cut.blockComment) ['\n'] :=
      ⟨by decide +kernel, .inl rfl, by decide, .feed (by decide) []⟩
    have stands' : Stands "// checkwalk:ignore-next-line a-b\n" []
        ([] ++ Written.cut.lineComment) ['\n'] :=
      ⟨by decide +kernel, .inl rfl, by decide, .feed (by decide) []⟩
    have fits : Written.cut.Enclosable := ⟨by decide, by decide, by decide, by decide⟩
    have alike := (block_comments_read_alike fits (by decide) (by decide) stands stands').2
    have given : fromLine? "// checkwalk:ignore-next-line a-b\n" 0 =
        some ⟨"a-b", "", 1, .nextLine⟩ := by
      rfl
    intro same
    rcases alike.1 same with plain | none
    · exact absurd plain (by decide)
    · cases given.symm.trans none

end Suppression

end TreeLint

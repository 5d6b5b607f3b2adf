import TreeLint.Proofs.Blanks
import TreeLint.Proofs.Stemming

/-! Directives as one writes them, and what is read of them behind `//`. -/

namespace TreeLint

open Text

namespace Directive

section Marks

variable {x : Char} {before rest : List Char}
  {body : List Char → Option (Command × List Char × List Char × List Char)}

theorem findFrom_cons_of_none {mark : List Char} (behind : List Char) (c : Char)
    (none : (dropPrefix? mark (c :: rest)).bind body = none) :
    findFrom mark body behind (c :: rest) = findFrom mark body (c :: behind) rest := by
  rw [findFrom, none]

theorem findFrom_append (clear : ¬ ['/', x] <:+: before)
    (cut : ∀ more, rest = x :: more → body more = none) (behind : List Char) :
    findFrom ['/', x] body behind (before ++ rest) =
      findFrom ['/', x] body (before.reverse ++ behind) rest := by
  induction before generalizing behind with
  | nil => rfl
  | cons c before ih =>
      have later : ¬ ['/', x] <:+: before := fun inside => clear (List.infix_cons inside)
      have none : (dropPrefix? ['/', x] (c :: (before ++ rest))).bind body = none := by
        by_cases slash : '/' = c
        · subst slash
          cases before with
          | nil =>
              cases rest with
              | nil => rfl
              | cons d more =>
                  by_cases second : x = d
                  · subst second
                    simpa [dropPrefix?] using cut more rfl
                  · simp [dropPrefix?, second]
          | cons d before =>
              have second : x ≠ d := by
                rintro rfl
                exact clear ⟨[], before, rfl⟩
              simp [dropPrefix?, second]
        · simp [dropPrefix?, slash]
      rw [List.cons_append, findFrom_cons_of_none behind c none, ih later, List.reverse_cons,
        List.append_assoc, List.singleton_append]

theorem findFrom_mark (behind : List Char) {more : List Char}
    {command : Command} {rule reason after : List Char}
    (read : body more = some (command, rule, reason, after)) :
    findFrom ['/', x] body behind ('/' :: x :: more) =
      some ⟨behind.reverse, command, rule, reason, after⟩ := by
  have marked : dropPrefix? ['/', x] ('/' :: x :: more) = some more := by
    simp [dropPrefix?]
  rw [findFrom, marked, Option.bind_some, read]

end Marks

theorem opening_of_mark {c : Char} (mark : c = '/' ∨ c = '*') (rest : List Char) :
    opening (c :: rest) = none := by
  obtain rfl | rfl := mark <;> rfl

theorem lineBody_of_mark {c : Char} (mark : c = '/' ∨ c = '*') (rest : List Char) :
    lineBody (c :: rest) = none := by
  rw [lineBody, opening_of_mark mark]

def Command.word : Command → List Char
  | .ignore => "checkwalk:ignore".toList
  | .ignoreFile => "checkwalk:ignore-file".toList
  | .ignoreNextLine => "checkwalk:ignore-next-line".toList

/-- A directive as it is written, with one space between its parts. -/
structure Written where
  command : Command
  rule : List Char
  reason? : Option (List Char)
  filled : rule ≠ []
  solid : ∀ c ∈ rule, isBlank c = false
  trimmed : ∀ reason ∈ reason?, Trimmed reason

namespace Written

def reason (w : Written) : List Char := w.reason?.getD []

def reasonText (w : Written) : List Char :=
  match w.reason? with
  | some reason => ' ' :: '-' :: ' ' :: reason
  | none => []

def text (w : Written) : List Char :=
  w.command.word ++ ' ' :: (w.rule ++ w.reasonText)

def lineComment (w : Written) : List Char := '/' :: '/' :: ' ' :: w.text

theorem trimmed_reason (w : Written) : Trimmed w.reason := by
  cases given : w.reason? with
  | none => simp [reason, given, Trimmed]
  | some reason => simpa [Written.reason, given] using w.trimmed reason given

@[simp] theorem opening_word (command : Command) (rest : List Char) :
    opening (' ' :: (command.word ++ ' ' :: rest)) = some (command, trimStart rest) := by
  cases command <;> rfl

@[simp] theorem opening_text (w : Written) (rest : List Char) :
    opening (' ' :: (w.text ++ rest)) = some (w.command, w.rule ++ (w.reasonText ++ rest)) := by
  have first : trimStart (w.rule ++ (w.reasonText ++ rest)) = w.rule ++ (w.reasonText ++ rest) := by
    apply trimStart_of_head
    rw [List.head?_append_of_ne_nil _ w.filled]
    intro c first
    exact w.solid c (List.mem_of_head? first)
  have split : w.text ++ rest =
      w.command.word ++ ' ' :: (w.rule ++ (w.reasonText ++ rest)) := by
    simp only [text, List.append_assoc, List.cons_append]
  rw [split, opening_word, first]

theorem takeWhile_rule (w : Written) {rest : List Char} (ends : ∀ c ∈ rest.head?, isBlank c) :
    (w.rule ++ rest).takeWhile (!isBlank ·) = w.rule := by
  have solid : ∀ c ∈ w.rule, (!isBlank c) = true := by simpa using w.solid
  rw [List.takeWhile_append_of_pos solid]
  cases rest with
  | nil => simp
  | cons c rest => simp [ends c rfl]

@[simp] theorem lineBody_text (w : Written) :
    lineBody (' ' :: w.text) = some (w.command, w.rule, w.reason, []) := by
  have opened := w.opening_text []
  rw [List.append_nil, List.append_nil] at opened
  have spaced : ∀ c ∈ w.reasonText.head?, isBlank c := by
    unfold reasonText
    split
    · rintro _ ⟨⟩
      rfl
    · exact nofun
  have rule := w.takeWhile_rule spaced
  have left : (w.rule ++ w.reasonText).dropWhile (!isBlank ·) = w.reasonText := by
    have joined := List.takeWhile_append_dropWhile (p := (!isBlank ·)) (l := w.rule ++ w.reasonText)
    rwa [rule, List.append_cancel_left_eq] at joined
  have filled : w.rule.isEmpty = false := by
    simpa using w.filled
  rw [lineBody, opened]
  simp only [rule, left, filled]
  cases given : w.reason? with
  | none => simp [reasonText, reason, given, trimStart, dashed?]
  | some reason =>
      have trimmed := w.trimmed reason given
      have dashed : dashed? (trimStart w.reasonText) = some reason := by
        rw [reasonText, given]
        exact congrArg some trimmed.trimStart_eq
      simp [dashed, trimmed.trimEnd_eq, Written.reason, given]

theorem find_lineComment (w : Written) {before : List Char} (clear : ¬ ['/', '/'] <:+: before) :
    find (before ++ w.lineComment) = some ⟨before, w.command, w.rule, w.reason, []⟩ := by
  have cut : ∀ more, w.lineComment = '/' :: more → lineBody more = none := by
    rintro _ ⟨⟩
    exact lineBody_of_mark (.inl rfl) _
  rw [find, findFrom_append clear cut, List.append_nil, lineComment,
    findFrom_mark _ w.lineBody_text, List.reverse_reverse]
  rfl

end Written

end Directive

namespace Suppression

open Directive

theorem ofLine?_of_find {line : List Char} {found : Found} (held : find line = some found)
    (inHeader : Bool) (number : Nat) :
    ofLine? inHeader number line =
      match found.command with
      | .ignoreFile =>
          if !inHeader && headerLines < number then none
          else some ⟨String.ofList found.rule, String.ofList (trim found.reason), 0, .file⟩
      | .ignoreNextLine =>
          some ⟨String.ofList found.rule, String.ofList (trim found.reason), number, .nextLine⟩
      | .ignore =>
          some ⟨String.ofList found.rule, String.ofList (trim found.reason), number,
            if found.before.all isBlank && found.after.all isBlank then .nextLine else .line⟩ := by
  rw [ofLine?, held]
  dsimp only
  rw [scopeOf, isEmpty_trim, isEmpty_trim]
  cases found.command with
  | ignore =>
      cases found.before.all isBlank && found.after.all isBlank <;> rfl
  | ignoreFile =>
      cases inHeader <;> simp
  | ignoreNextLine => rfl

theorem isCommentOrEmpty_iff {line : List Char} :
    isCommentOrEmpty line ↔ trimStart line = [] ∨ ['*'] <+: trimStart line ∨
      ['/', '/'] <+: trimStart line ∨ ['/', '*'] <+: trimStart line := by
  have empty : trimStart line = [] ↔ trim line = [] := by
    rw [trimStart_eq_nil_iff, ← List.isEmpty_iff, isEmpty_trim, List.all_eq_true]
  have star : isBlank '*' = false := rfl
  have slash : isBlank '/' = false := rfl
  rw [empty, ← prefix_trim_iff (by simp [star]), ← prefix_trim_iff (by simp [slash]),
    ← prefix_trim_iff (by simp [slash, star])]
  unfold isCommentOrEmpty
  constructor
  · intro looks
    split at looks
    next empty => exact .inl empty
    next rest first => exact .inr (.inl ⟨rest, first.symm⟩)
    next rest first => exact .inr (.inr (.inl ⟨rest, first.symm⟩))
    next rest first => exact .inr (.inr (.inr ⟨rest, first.symm⟩))
    next => cases looks
  · rintro (first | ⟨rest, first⟩ | ⟨rest, first⟩ | ⟨rest, first⟩)
    · rw [first]
    all_goals
      rw [← first]
      rfl

/-- Whether directives for the whole file are taken from the line at the place. -/
def honours (source : String) (place : Nat) : Bool :=
  decide (place < headerLines) || ((lines source).take (place + 1)).all isCommentOrEmpty

theorem fromLine?_of_find {source : String} {place : Nat} {line : List Char} {found : Found}
    (listed : (lines source)[place]? = some line) (held : find line = some found) :
    fromLine? source place =
      match found.command with
      | .ignoreFile =>
          if honours source place then
            some ⟨String.ofList found.rule, String.ofList (trim found.reason), 0, .file⟩
          else none
      | .ignoreNextLine =>
          some ⟨String.ofList found.rule, String.ofList (trim found.reason), place + 1, .nextLine⟩
      | .ignore =>
          some ⟨String.ofList found.rule, String.ofList (trim found.reason), place + 1,
            if found.before.all isBlank && found.after.all isBlank then .nextLine else .line⟩ := by
  rw [fromLine?_eq listed, ofLine?_of_find held]
  cases found.command with
  | ignore => rfl
  | ignoreNextLine => rfl
  | ignoreFile =>
      unfold honours
      cases ((lines source).take (place + 1)).all isCommentOrEmpty with
      | true => simp
      | false =>
          by_cases late : place < headerLines
          · simp [late, Nat.not_lt.2 (Nat.succ_le_of_lt late)]
          · simp [late, Nat.lt_succ_of_le (Nat.not_lt.1 late)]

/-- A directive in a line comment gives its rule and its reason, whatever stands around it. -/
theorem line_comments_are_read (w : Written) {source : String} {above before below : List Char}
    (clear : ¬ ['/', '/'] <:+: before)
    (stands : Stands source above (before ++ w.lineComment) below) :
    let place := above.count '\n'
    let rule := String.ofList w.rule
    let reason := String.ofList w.reason
    ofSource source = (List.range (lines source).length).filterMap (fromLine? source) ∧
      fromLine? source place =
        match w.command with
        | .ignore =>
            some ⟨rule, reason, place + 1, if before.all isBlank then .nextLine else .line⟩
        | .ignoreNextLine => some ⟨rule, reason, place + 1, .nextLine⟩
        | .ignoreFile => if honours source place then some ⟨rule, reason, 0, .file⟩ else none := by
  refine ⟨ofSource_eq source, ?_⟩
  rw [fromLine?_of_find stands.getElem?_lines (w.find_lineComment clear)]
  dsimp only
  rw [w.trimmed_reason.trim_eq]
  cases w.command with
  | ignore => simp
  | ignoreNextLine => rfl
  | ignoreFile => rfl

def Written.hyphened : Written where
  command := .ignore
  rule := "a-b/*".toList
  reason? := some "kept - see */ \"c\"".toList
  filled := by decide
  solid := by
    have clear : "a-b/*".toList.any isBlank = false := rfl
    simpa using clear
  trimmed := by
    rintro _ ⟨⟩
    constructor
    · rintro _ ⟨⟩
      rfl
    · rintro _ ⟨⟩
      rfl

theorem hyphened_is_read :
    let source := "x;\r\n  ; /// checkwalk:ignore a-b/* - kept - see */ \"c\"\r\ny;"
    let given := Suppression.mk "a-b/*" "kept - see */ \"c\"" 2 .line
    ofSource source = (List.range 3).filterMap (fromLine? source) ∧
      fromLine? source 1 = some given := by
  have stands : Stands "x;\r\n  ; /// checkwalk:ignore a-b/* - kept - see */ \"c\"\r\ny;"
      "x;\r\n".toList ("  ; /".toList ++ Written.hyphened.lineComment) "\r\ny;".toList :=
    ⟨by decide +kernel, .inr ⟨"x;\r".toList, by decide⟩, by decide, .returnFeed _⟩
  exact line_comments_are_read Written.hyphened (by decide) stands

end Suppression

end TreeLint

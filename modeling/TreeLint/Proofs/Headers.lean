import TreeLint.Proofs.Written

/-! The header of a file, which lasts until its first code, against what the lines look like by
their first characters. -/

namespace TreeLint

open Text

/-- Where one stands in a Java source who tells comments from all else. -/
inductive Zone where
  | code
  | lineComment
  /-- In front of the star that opens a block comment. -/
  | opening
  | blockComment
  /-- In front of the slash that closes it. -/
  | closing
  deriving DecidableEq, Repr

namespace Zone

def next (zone : Zone) (c : Char) (rest : List Char) : Zone :=
  match zone with
  | .code =>
      if c = '/' ∧ rest.head? = some '/' then .lineComment
      else if c = '/' ∧ rest.head? = some '*' then .opening
      else .code
  | .lineComment => if c = '\n' then .code else .lineComment
  | .opening => .blockComment
  | .blockComment => if c = '*' ∧ rest.head? = some '/' then .closing else .blockComment
  | .closing => .code

def isCode (zone : Zone) (c : Char) (rest : List Char) : Bool :=
  zone = .code && !isBlank c && zone.next c rest = .code

theorem isCode_eq_false_iff {c : Char} {rest : List Char} (solid : isBlank c = false) :
    isCode .code c rest = false ↔
      c = '/' ∧ (rest.head? = some '/' ∨ rest.head? = some '*') := by
  have stays : next .code c rest ≠ .code ↔
      c = '/' ∧ (rest.head? = some '/' ∨ rest.head? = some '*') := by
    rw [next]
    split
    next line => simp [line]
    next noLine =>
      split
      next block => simp [block]
      next noBlock => simp_all
  simp [isCode, solid, stays]

theorem of_isCode {zone : Zone} {c : Char} {rest : List Char} (code : zone.isCode c rest) :
    zone = .code ∧ isBlank c = false := by
  simp only [isCode, Bool.and_eq_true, decide_eq_true_iff, Bool.not_eq_true'] at code
  exact code.1

def after (zone : Zone) : List Char → List Char → Zone
  | [], _ => zone
  | c :: text, rest => (zone.next c (text ++ rest)).after text rest

/-- Nothing but white space and comments, in a text that goes on with the rest. -/
def codeless (zone : Zone) : List Char → List Char → Bool
  | [], _ => true
  | c :: text, rest =>
      !zone.isCode c (text ++ rest) && (zone.next c (text ++ rest)).codeless text rest

@[simp] theorem after_append (zone : Zone) (left right rest : List Char) :
    zone.after (left ++ right) rest = (zone.after left (right ++ rest)).after right rest := by
  induction left generalizing zone with
  | nil => rfl
  | cons c left ih => simp [after, ih]

theorem codeless_append (zone : Zone) (left right rest : List Char) :
    zone.codeless (left ++ right) rest =
      (zone.codeless left (right ++ rest) &&
        (zone.after left (right ++ rest)).codeless right rest) := by
  induction left generalizing zone with
  | nil => rfl
  | cons c left ih => simp [codeless, after, ih, Bool.and_assoc]

@[simp] theorem next_of_blank {c : Char} (blank : isBlank c) (rest : List Char) :
    next .code c rest = .code := by
  have slash : c ≠ '/' := by
    rintro rfl
    cases blank
  simp [next, slash]

theorem after_of_blank {blanks : List Char} (blank : ∀ c ∈ blanks, isBlank c) (rest : List Char) :
    after .code blanks rest = .code := by
  induction blanks with
  | nil => rfl
  | cons c blanks ih =>
      rw [after, next_of_blank (blank c List.mem_cons_self)]
      exact ih fun d member => blank d (List.mem_cons_of_mem c member)

theorem exists_first_code {zone : Zone} {text rest : List Char}
    (code : zone.codeless text rest = false) :
    ∃ front c back, text = front ++ c :: back ∧ zone.codeless front (c :: (back ++ rest)) ∧
      (zone.after front (c :: (back ++ rest))).isCode c (back ++ rest) := by
  induction text generalizing zone with
  | nil => cases code
  | cons c text ih =>
      by_cases here : zone.isCode c (text ++ rest)
      · exact ⟨[], c, text, rfl, rfl, here⟩
      · have later : (zone.next c (text ++ rest)).codeless text rest = false := by
          simpa [codeless, here] using code
        obtain ⟨front, d, back, rfl, clear, found⟩ := ih later
        have here : zone.isCode c (front ++ d :: (back ++ rest)) = false := by simpa using here
        refine ⟨c :: front, d, back, rfl, ?_, ?_⟩
        · simpa [codeless, here] using clear
        · simpa [after] using found

theorem not_isCode_of_codeless {zone : Zone} {front back rest : List Char} {c : Char}
    (clear : zone.codeless (front ++ c :: back) rest) :
    (zone.after front (c :: (back ++ rest))).isCode c (back ++ rest) = false := by
  rw [codeless_append, codeless, Bool.and_eq_true, Bool.and_eq_true, Bool.not_eq_true'] at clear
  exact clear.2.1

theorem after_whole {above : List Char} (whole : Whole above) (rest : List Char) :
    after .code above rest = .code ∨ after .code above rest = .blockComment := by
  obtain rfl | ⟨front, rfl⟩ := whole
  · exact .inl rfl
  · rw [after_append]
    cases after .code front (['\n'] ++ rest) <;> simp [after, next]

theorem isCommentOrEmpty_of_code {line below tail : List Char} {c : Char} (ends : Ends line below)
    (first : trimStart line = c :: tail) :
    Suppression.isCommentOrEmpty line ↔ c = '*' ∨ isCode .code c (tail ++ below) = false := by
  have solid : isBlank c = false := head_trimStart c (by rw [first]; rfl)
  have same : (tail ++ below).head? = some '/' ∨ (tail ++ below).head? = some '*' ↔
      tail.head? = some '/' ∨ tail.head? = some '*' := by
    cases tail with
    | nil => cases ends <;> simp
    | cons d tail => simp
  have marks : ['/', '/'] <+: c :: tail ∨ ['/', '*'] <+: c :: tail ↔
      c = '/' ∧ (tail.head? = some '/' ∨ tail.head? = some '*') := by
    cases tail <;> simp [eq_comm, and_or_left]
  rw [Suppression.isCommentOrEmpty_iff, first, marks, isCode_eq_false_iff solid, same]
  simp [eq_comm]

end Zone

namespace Directive

variable {x : Char} {line : List Char} {found : Found}
  {body : List Char → Option (Command × List Char × List Char × List Char)}

theorem eq_append_of_dropPrefix? {mark text rest : List Char}
    (dropped : dropPrefix? mark text = some rest) : text = mark ++ rest := by
  induction mark generalizing text with
  | nil =>
      cases dropped
      rfl
  | cons p mark ih =>
      cases text with
      | nil => cases dropped
      | cons c text =>
          obtain ⟨rfl, later⟩ := Option.ite_none_right_eq_some.1 dropped
          exact congrArg (p :: ·) (ih later)

theorem split_of_findFrom {behind : List Char}
    (held : findFrom ['/', x] body behind line = some found) :
    ∃ more, behind.reverse ++ line = found.before ++ '/' :: x :: more := by
  induction line generalizing behind with
  | nil => cases held
  | cons c line ih =>
      rw [findFrom] at held
      split at held
      next read =>
        cases held
        obtain ⟨more, dropped, _⟩ := Option.bind_eq_some_iff.1 read
        exact ⟨more, congrArg (behind.reverse ++ ·) (eq_append_of_dropPrefix? dropped)⟩
      next =>
        obtain ⟨more, split⟩ := ih held
        exact ⟨more, by simpa using split⟩

theorem split_of_find (held : find line = some found) :
    ∃ x more, (x = '/' ∨ x = '*') ∧ line = found.before ++ '/' :: x :: more := by
  unfold find at held
  cases first : findFrom ['/', '/'] lineBody [] line with
  | some other =>
      rw [first] at held
      cases held
      obtain ⟨more, split⟩ := split_of_findFrom first
      exact ⟨'/', more, .inl rfl, split⟩
  | none =>
      rw [first] at held
      obtain ⟨more, split⟩ := split_of_findFrom held
      exact ⟨'*', more, .inr rfl, split⟩

end Directive

namespace Suppression

open Directive

theorem honours_iff {source : String} {place : Nat} :
    honours source place ↔ place < headerLines ∨
      ∀ above line below, Stands source above line below → above.count '\n' ≤ place →
        isCommentOrEmpty line := by
  rw [honours, Bool.or_eq_true, decide_eq_true_iff, List.all_eq_true]
  apply or_congr_right
  constructor
  · intro looks above line below stands before
    apply looks
    rw [List.mem_iff_getElem?]
    refine ⟨above.count '\n', ?_⟩
    rw [List.getElem?_take_of_lt (Nat.lt_succ_of_le before), stands.getElem?_lines]
  · intro looks line member
    obtain ⟨number, listed⟩ := List.mem_iff_getElem?.1 member
    obtain ⟨before, listed⟩ : number < place + 1 ∧ (lines source)[number]? = some line := by
      simpa [List.getElem?_take] using listed
    obtain ⟨above, below, stands, rfl⟩ := exists_stands listed
    exact looks above line below stands (Nat.le_of_lt_succ before)

section Comments

variable {source : String} {above before rest below : List Char} {x : Char}

/-- As long as there is no code, only lines that start in a block comment may look like code. -/
theorem looks_of_codeless (stands : Stands source above (before ++ '/' :: x :: rest) below)
    (mark : x = '/' ∨ x = '*')
    (codeless : Zone.codeless .code (above ++ before) ('/' :: x :: (rest ++ below)))
    {front line below' : List Char} (stands' : Stands source front line below')
    (fewer : front.count '\n' ≤ above.count '\n')
    (outside : Zone.after .code front (line ++ below') = .code) : isCommentOrEmpty line := by
  obtain ⟨part, back, more, rfl, split, joined, ends⟩ := stands.exists_part stands' fewer
  rcases blank_or_exists_first part with blank | ⟨blanks, c, tail, rfl, blank, solid⟩
  · rw [isCommentOrEmpty_iff, trimStart_append blank]
    rcases ends with rfl | rfl
    · exact .inl rfl
    · right; right
      rcases mark with rfl | rfl
      · exact .inl ⟨rest, rfl⟩
      · exact .inr ⟨rest, rfl⟩
  · have first : trimStart (blanks ++ c :: tail ++ more) = c :: (tail ++ more) := by
      rw [List.append_assoc, List.cons_append, trimStart_append_cons blank solid]
    have start : Zone.after .code (front ++ blanks) (c :: (tail ++ (more ++ below'))) = .code := by
      rw [Zone.after_append]
      have same : blanks ++ c :: tail ++ more ++ below' =
          blanks ++ c :: (tail ++ (more ++ below')) := by
        simp
      rw [← same, outside, Zone.after_of_blank blank]
    have clear : Zone.codeless .code (front ++ blanks ++ c :: (tail ++ back))
        ('/' :: x :: (rest ++ below)) := by
      have same : above ++ before = front ++ blanks ++ c :: (tail ++ back) := by
        rw [split]
        simp
      rwa [← same]
    have notCode := Zone.not_isCode_of_codeless clear
    have joined : tail ++ back ++ '/' :: x :: (rest ++ below) = tail ++ (more ++ below') := by
      rw [joined, List.append_assoc]
      rfl
    rw [joined, start] at notCode
    rw [Zone.isCommentOrEmpty_of_code stands'.ends first, List.append_assoc]
    exact .inr notCode

/-- The first code in the text stands first in its line, and is no star. -/
def Leading (text rest : List Char) : Prop :=
  ∀ front c back, text = front ++ c :: back → Zone.codeless .code front (c :: (back ++ rest)) →
    (Zone.after .code front (c :: (back ++ rest))).isCode c (back ++ rest) →
    c ≠ '*' ∧ ∃ above blanks, front = above ++ blanks ∧ Whole above ∧ '\n' ∉ blanks ∧
      ∀ b ∈ blanks, isBlank b

theorem exists_line_around {front blanks back : List Char} {c : Char}
    (toList_eq : source.toList = front ++ (blanks ++ [c] ++ back)) (whole : Whole front)
    (single : '\n' ∉ blanks) (solid : isBlank c = false) :
    ∃ more below, back = more ++ below ∧ Stands source front (blanks ++ [c] ++ more) below := by
  obtain ⟨line, below, split, stands⟩ := exists_line_from whole (by simp) toList_eq
  have other : ∀ d, isBlank d → d ≠ c := by
    rintro _ blank rfl
    rw [solid] at blank
    cases blank
  have single' : '\n' ∉ blanks ++ [c] := by
    simp [single, other '\n' rfl]
  rcases List.append_eq_append_iff.1 split with ⟨more, rfl, joined⟩ | ⟨more, within, rfl⟩
  · exact ⟨more, below, joined, stands⟩
  · -- The line would have to end inside, and its last character would be a carriage return.
    have empty : more = [] := by
      rw [within] at single'
      have feedless : '\n' ∉ more := fun member => single' (List.mem_append_right _ member)
      have ends := stands.ends
      match more with
      | [] => rfl
      | [d] =>
          have last := congrArg List.getLast? within
          rw [List.getLast?_concat, List.getLast?_concat] at last
          obtain rfl := Option.some.inj last
          cases ends with
          | feed => exact absurd List.mem_cons_self feedless
          | returnFeed => exact absurd rfl (other '\r' rfl)
      | d :: e :: more =>
          cases ends with
          | feed => exact absurd List.mem_cons_self feedless
          | returnFeed => exact absurd (List.mem_cons_of_mem _ List.mem_cons_self) feedless
    subst empty
    rw [List.append_nil] at within
    exact ⟨[], back, rfl, by rwa [List.append_nil, within]⟩

theorem exists_line_of_leading {text : List Char} (toList_eq : source.toList = text ++ below)
    (code : Zone.codeless .code text below = false) (leading : Leading text below) :
    ∃ front line below', Stands source front line below' ∧
      front.count '\n' ≤ text.count '\n' ∧ isCommentOrEmpty line = false := by
  obtain ⟨front, c, back, rfl, clear, found⟩ := Zone.exists_first_code code
  obtain ⟨star, front, blanks, rfl, whole, single, blank⟩ := leading front c back rfl clear found
  obtain ⟨zone, solid⟩ := Zone.of_isCode found
  rw [zone] at found
  have toList_eq : source.toList = front ++ (blanks ++ [c] ++ (back ++ below)) := by
    rw [toList_eq]
    simp
  obtain ⟨more, below', joined, stands⟩ := exists_line_around toList_eq whole single solid
  refine ⟨front, _, below', stands, ?_, ?_⟩
  · rw [List.append_assoc, List.count_append]
    exact Nat.le_add_right _ _
  · have first : trimStart (blanks ++ [c] ++ more) = c :: more := by
      rw [List.append_assoc, List.singleton_append, trimStart_append_cons blank solid]
    rw [joined] at found
    rw [← Bool.not_eq_true, Zone.isCommentOrEmpty_of_code stands.ends first, found]
    simpa using star

end Comments

/-- Down to the place, every line that starts in a block comment looks like part of one. -/
def Starred (source : String) (place : Nat) : Prop :=
  ∀ above line below, Stands source above line below → above.count '\n' ≤ place →
    Zone.after .code above (line ++ below) = .blockComment → isCommentOrEmpty line

/-- Below the first lines a directive for the whole file is taken if nothing but comments is in
front of it and their lines have stars, and dropped if there is code which starts its line and is
no star. -/
theorem file_directives_need_header {source : String} {above line below rest : List Char}
    {found : Found} (stands : Stands source above line below) (held : find line = some found)
    (command : found.command = .ignoreFile) (split : line = found.before ++ rest) :
    let place := above.count '\n'
    let given :=
      Suppression.mk (String.ofList found.rule) (String.ofList (trim found.reason)) 0 .file
    let codeless := Zone.codeless .code (above ++ found.before) (rest ++ below)
    ofSource source = (List.range (lines source).length).filterMap (fromLine? source) ∧
      fromLine? source place = (if honours source place then some given else none) ∧
      (codeless → (honours source place ↔ place < headerLines ∨ Starred source place)) ∧
      (codeless = false → Leading (above ++ found.before) (rest ++ below) →
        (honours source place ↔ place < headerLines)) := by
  intro place given codeless
  have here := fromLine?_of_find stands.getElem?_lines held
  rw [command] at here
  refine ⟨ofSource_eq source, here, ?_, ?_⟩
  · intro clear
    rw [honours_iff]
    apply or_congr_right
    constructor
    · intro looks front line' below' stands' before _
      exact looks front line' below' stands' before
    · intro starred front line' below' stands' before
      obtain ⟨x, more, mark, opened⟩ := split_of_find held
      obtain rfl : rest = '/' :: x :: more := List.append_cancel_left (split.symm.trans opened)
      subst split
      rcases Zone.after_whole stands'.whole (line' ++ below') with outside | inside
      · exact looks_of_codeless stands mark clear stands' before outside
      · exact starred front line' below' stands' before inside
  · intro code leading
    have toList_eq : source.toList = above ++ found.before ++ (rest ++ below) := by
      rw [stands.toList_eq, split]
      simp
    obtain ⟨front, line', below', stands', before, plain⟩ :=
      exists_line_of_leading toList_eq code leading
    have single : '\n' ∉ found.before := fun member =>
      stands.single (split ▸ List.mem_append_left rest member)
    rw [List.count_append, List.count_eq_zero_of_not_mem single, Nat.add_zero] at before
    rw [honours_iff]
    constructor
    · rintro (early | looks)
      · exact early
      · rw [looks front line' below' stands' before] at plain
        cases plain
    · exact .inl

def unstarred : List Char :=
  "/*\n Copyright\n 1\n 2\n 3\n 4\n 5\n 6\n 7\n 8\n */".toList

def begun : List Char := "x;\n1\n2\n3\n4\n5\n6\n7\n8\n9\n10".toList

def forFile : List Char := "// checkwalk:ignore-file * - made".toList

/-- The lines of a block comment end the header as code does. -/
theorem unstarred_ends_header :
    (Zone.codeless .code (unstarred ++ ['\n']) forFile ∧
      fromLine? (String.ofList (unstarred ++ ['\n'] ++ forFile)) 11 = none) ∧
    fromLine? (String.ofList (begun ++ ['\n'] ++ forFile)) 11 = none := by
  have held : find forFile = some ⟨[], .ignoreFile, ['*'], "made".toList, []⟩ := by
    decide +kernel
  have under (above : List Char) : Stands (String.ofList (above ++ ['\n'] ++ forFile))
      (above ++ ['\n']) forFile [] :=
    ⟨String.toList_ofList, .inr ⟨above, rfl⟩, by decide, .text (by decide)⟩
  constructor
  · have ⟨_, given, header, _⟩ :=
      file_directives_need_header (under unstarred) held rfl (List.nil_append _).symm
    have count : (unstarred ++ ['\n']).count '\n' = 11 := by
      decide +kernel
    rw [count] at given header
    have clear : Zone.codeless .code (unstarred ++ ['\n']) forFile := by
      decide +kernel
    refine ⟨clear, given.trans (if_neg ?_)⟩
    intro honoured
    rcases (header clear).1 honoured with early | starred
    · exact absurd early (by decide)
    · have second : Stands (String.ofList (unstarred ++ ['\n'] ++ forFile)) "/*\n".toList
          " Copyright".toList (unstarred.drop 13 ++ ['\n'] ++ forFile) :=
        ⟨String.toList_ofList, .inr ⟨"/*".toList, rfl⟩, by decide, .feed (by decide) _⟩
      exact absurd (starred _ _ _ second (by decide +kernel) (by decide +kernel))
        (by decide +kernel)
  · have ⟨_, given, _, body⟩ :=
      file_directives_need_header (under begun) held rfl (List.nil_append _).symm
    have count : (begun ++ ['\n']).count '\n' = 11 := by
      decide +kernel
    rw [count] at given body
    have leading : Leading (begun ++ ['\n'] ++ []) (forFile ++ []) := by
      intro front c back split clear _
      cases front with
      | nil =>
          obtain ⟨rfl, _⟩ := List.cons.inj split
          exact ⟨by decide, [], [], rfl, .inl rfl, nofun, nofun⟩
      | cons d front =>
          obtain ⟨rfl, _⟩ := List.cons.inj split
          cases clear
    refine given.trans (if_neg ?_)
    intro honoured
    exact absurd ((body (by decide +kernel) leading).1 honoured) (by decide)

end Suppression

end TreeLint

import Mathlib.Data.List.TakeWhile
import TreeLint.Text.Blank

namespace TreeLint.Text

variable {text : List Char}

def Trimmed (text : List Char) : Prop :=
  (∀ c ∈ text.head?, isBlank c = false) ∧ ∀ c ∈ text.getLast?, isBlank c = false

theorem trimStart_of_head (solid : ∀ c ∈ text.head?, isBlank c = false) :
    trimStart text = text := by
  cases text with
  | nil => rfl
  | cons c rest => exact List.dropWhile_cons_of_neg (by simp [solid c rfl])

theorem head_trimStart : ∀ c ∈ (trimStart text).head?, isBlank c = false := by
  intro c first
  have stopped := List.head?_dropWhile_not isBlank text
  rw [← trimStart, first] at stopped
  exact stopped

theorem Trimmed.trimStart_eq (trimmed : Trimmed text) : trimStart text = text :=
  trimStart_of_head trimmed.1

theorem Trimmed.trimEnd_eq (trimmed : Trimmed text) : trimEnd text = text := by
  rw [trimEnd, trimStart_of_head, List.reverse_reverse]
  rw [List.head?_reverse]
  exact trimmed.2

theorem Trimmed.trim_eq (trimmed : Trimmed text) : trim text = text := by
  rw [trim, trimmed.trimStart_eq, trimmed.trimEnd_eq]

theorem trimStart_eq_nil_iff : trimStart text = [] ↔ ∀ c ∈ text, isBlank c :=
  List.dropWhile_eq_nil_iff

theorem trimStart_append {blanks : List Char} (blank : ∀ c ∈ blanks, isBlank c) (rest : List Char) :
    trimStart (blanks ++ rest) = trimStart rest :=
  List.dropWhile_append_of_pos blank

theorem trimStart_append_cons {blanks : List Char} {c : Char} (blank : ∀ b ∈ blanks, isBlank b)
    (solid : isBlank c = false) (rest : List Char) :
    trimStart (blanks ++ c :: rest) = c :: rest := by
  rw [trimStart_append blank]
  apply trimStart_of_head
  rintro _ ⟨⟩
  exact solid

theorem blank_or_exists_first (text : List Char) :
    (∀ c ∈ text, isBlank c) ∨ ∃ blanks c rest, text = blanks ++ c :: rest ∧
      (∀ b ∈ blanks, isBlank b) ∧ isBlank c = false := by
  cases first : trimStart text with
  | nil => exact .inl (trimStart_eq_nil_iff.1 first)
  | cons c rest =>
      refine .inr ⟨text.takeWhile isBlank, c, rest, ?_, ?_, ?_⟩
      · rw [← first, trimStart, List.takeWhile_append_dropWhile]
      · exact fun b member => List.mem_takeWhile_imp member
      · exact head_trimStart c (by rw [first]; rfl)

theorem exists_blanks_trimEnd (text : List Char) :
    ∃ blanks, text = trimEnd text ++ blanks ∧ ∀ c ∈ blanks, isBlank c := by
  refine ⟨(text.reverse.takeWhile isBlank).reverse, ?_, ?_⟩
  · rw [trimEnd, trimStart, ← List.reverse_append, List.takeWhile_append_dropWhile,
      List.reverse_reverse]
  · intro c member
    exact List.mem_takeWhile_imp (List.mem_reverse.1 member)

@[simp] theorem isEmpty_trim (text : List Char) : (trim text).isEmpty = text.all isBlank := by
  rw [Bool.eq_iff_iff, List.isEmpty_iff, List.all_eq_true, ← trimStart_eq_nil_iff, trim]
  constructor
  · intro empty
    obtain ⟨blanks, split, blank⟩ := exists_blanks_trimEnd (trimStart text)
    rw [empty, List.nil_append] at split
    cases first : trimStart text with
    | nil => rfl
    | cons c rest =>
        have isBlank := blank c (by simp [← split, first])
        rw [head_trimStart c (by rw [first]; rfl)] at isBlank
        cases isBlank
  · intro empty
    rw [empty]
    rfl

/-- White space at the end of a text does not matter to what is no white space at its start. -/
theorem prefix_trim_iff {mark : List Char} (solid : ∀ c ∈ mark, isBlank c = false) :
    mark <+: trim text ↔ mark <+: trimStart text := by
  obtain ⟨blanks, split, blank⟩ := exists_blanks_trimEnd (trimStart text)
  rw [← trim] at split
  rw [split]
  constructor
  · exact fun start => start.trans (List.prefix_append _ _)
  · rintro ⟨rest, joined⟩
    rcases List.append_eq_append_iff.1 joined with ⟨more, whole, _⟩ | ⟨more, rfl, filled⟩
    · exact ⟨more, whole.symm⟩
    · cases more with
      | nil => simp
      | cons c more =>
          have white := blank c (filled ▸ by simp)
          rw [solid c (by simp)] at white
          cases white

end TreeLint.Text

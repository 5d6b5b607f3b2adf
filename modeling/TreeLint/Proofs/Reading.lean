import TreeLint.Java.Grammar
import TreeLint.Proofs.Derivations

/-! The phrases of a source without errors are those of the grammar. -/

namespace TreeLint.Java

open Concrete

namespace Lexer

theorem isKnown_hexExtent {text : List Char} {e : Extent} (found : hexExtent text = some e) :
    e.1.isKnown := by
  unfold hexExtent at found
  dsimp only at found
  repeat' split at found
  all_goals cases found
  all_goals rfl

theorem isKnown_wholeExtent {raw : String} {isDigit : Char → Bool} {text : List Char} {e : Extent}
    (known : literalNames.contains raw) (found : wholeExtent raw isDigit text = some e) :
    e.1.isKnown := by
  unfold wholeExtent at found
  split at found <;> cases found
  exact known

theorem isKnown_markedExtent {text : List Char} {e : Extent} (found : markedExtent text = some e) :
    e.1.isKnown := by
  unfold markedExtent at found
  split at found
  · exact isKnown_hexExtent found
  · exact isKnown_hexExtent found
  · exact isKnown_wholeExtent rfl found
  · exact isKnown_wholeExtent rfl found
  · exact isKnown_wholeExtent rfl found
  · exact isKnown_wholeExtent rfl found
  · cases found

theorem isKnown_numberExtent (text : List Char) : (numberExtent text).1.isKnown := by
  unfold numberExtent
  split
  next found =>
    have known := isKnown_markedExtent found
    exact known
  next =>
    unfold decimalExtent
    dsimp only
    repeat' split
    all_goals rfl

theorem isKnown_codeExtent (c : Char) (rest : List Char) : (codeExtent c rest).1.isKnown := by
  unfold codeExtent
  split
  · rfl
  · split
    · rfl
    · split
      · exact isKnown_numberExtent _
      · repeat' split
        all_goals rfl

theorem isKnown_extent (frames : List Frame) (c : Char) (rest : List Char) :
    (extent frames c rest).1.isKnown := by
  unfold extent
  split
  · unfold stringExtent
    repeat' split
    all_goals rfl
  · unfold textBlockExtent
    repeat' split
    all_goals rfl
  · exact isKnown_codeExtent c rest

theorem allKnown_scan (frames : List Frame) (place : Place) (glued : Bool)
    (text : List Char) : Lexeme.AllKnown (scan frames place glued text).1 := by
  match text with
  | [] =>
      rw [scan]
      intro x member
      cases member
  | c :: rest =>
      have known := isKnown_extent frames c rest
      rw [scan]
      cases found : extent frames c rest with
      | mk sort n =>
          rw [found] at known
          have later := fun frames place glued => allKnown_scan frames place glued (rest.drop n)
          cases sort with
          | blank => exact later _ _ _
          | _ =>
              exact List.forall_mem_cons.2 ⟨known, later _ _ _⟩
termination_by text.length

end Lexer

theorem allKnown_lexemes (source : String) : Lexeme.AllKnown (lexemes source).1 := by
  unfold lexemes
  split
  · split
    · exact Lexer.allKnown_scan _ _ _ _
    · exact Lexer.allKnown_scan _ _ _ _
  · exact nofun

namespace Lexeme

theorem splitRun_subset (input : List Lexeme) : (splitRun input).2 ⊆ input := by
  induction input with
  | nil => exact List.Subset.refl _
  | cons x rest ih =>
      rw [splitRun]
      split
      · exact List.subset_cons_self _ _
      · exact List.Subset.trans ih (List.subset_cons_self _ _)

theorem isCommentLeaf_of_mem_strays {run : List Lexeme} {c : Concrete}
    (clean : ∀ d ∈ wrap "ERROR" (run.filterMap strayLeaf), d.isError = false)
    (member : c ∈ wrap "ERROR" (run.filterMap strayLeaf)) : c.IsCommentLeaf := by
  rcases Form.mem_wrap member with ⟨listed, comment⟩ | ⟨_, span, rfl⟩
  · obtain ⟨x, _, made⟩ := List.mem_filterMap.1 listed
    refine ⟨comment, ?_⟩
    unfold strayLeaf at made
    split at made <;> cases made <;> exact ⟨rfl, rfl⟩
  · have error := clean _ member
    cases error

end Lexeme

/-- What a source starts with: comments, then a phrase of the grammar or an error. -/
theorem readAll_cases {input rest : List Lexeme} {comments : List Concrete}
    (parted : Lexeme.splitComments input = (comments, rest)) :
    readAll input = comments ∨
      ∃ front later, later.length < input.length ∧
        readAll input = comments ++ front ++ readAll later ∧
        (readTopLevel rest = some (front, later) ∨
          ∃ run, Lexeme.splitRun rest = (run, later) ∧
            front = wrap "ERROR" (run.filterMap Lexeme.strayLeaf)) := by
  rw [readAll]
  split
  next ends =>
    cases parted.symm.trans ends
    exact .inl rfl
  next x more goesOn =>
    cases parted.symm.trans goesOn
    dsimp only
    split
    next found later read =>
      split
      next shorter => exact .inr ⟨found, later, shorter, rfl, .inl read⟩
      next => exact .inl rfl
    next =>
      have shorter : (Lexeme.splitRun (x :: more)).2.length < input.length := by
        have run := Lexeme.splitRun_length (x :: more)
        have comments := Lexeme.splitComments_length input
        simp only [parted, List.length_cons] at run comments
        omega
      exact .inr ⟨_, _, shorter, rfl, .inr ⟨_, rfl, rfl⟩⟩

theorem mem_readAll {input : List Lexeme} (known : Lexeme.AllKnown input)
    (clean : ∀ c ∈ readAll input, c.isError = false) {c : Concrete} (member : c ∈ readAll input) :
    c.IsCommentLeaf ∨
      ∃ found, Form.Derives Phrase.form Grammar.topLevel found ∧ c ∈ found := by
  have only := isCommentLeaf_of_mem known
  have behind := known.subset (Lexeme.splitComments_subset input)
  cases parted : Lexeme.splitComments input with
  | mk comments rest =>
      rw [parted] at only behind
      rcases readAll_cases parted with same | ⟨front, later, shorter, same, read⟩
      · rw [same] at member
        exact .inl (only c member)
      · simp only [same, List.forall_mem_append] at clean
        simp only [same, List.mem_append] at member
        have derives (read : readTopLevel rest = some (front, later)) :=
          (Form.derives_of_read _).1 _ _ _ _ behind read
        have fewer : later ⊆ rest := by
          rcases read with read | ⟨run, ran, _⟩
          · exact (derives read).2
          · have fewer := Lexeme.splitRun_subset rest
            rwa [ran] at fewer
        rcases member with (comment | here) | below
        · exact .inl (only c comment)
        · rcases read with read | ⟨run, _, rfl⟩
          · exact .inr ⟨front, (derives read).1, here⟩
          · exact .inl (Lexeme.isCommentLeaf_of_mem_strays clean.1.2 here)
        · exact mem_readAll (behind.subset fewer) clean.2 below
termination_by input.length

end TreeLint.Java

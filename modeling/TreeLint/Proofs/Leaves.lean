import TreeLint.Proofs.Reading

/-! What holds of all lexemes, and of phrases as soon as it holds of their parts, holds of all that
is read. -/

namespace TreeLint.Java

open Concrete

/-- The property goes from lexemes to leaves, and from phrases to those around them. -/
structure Kept (fits : Lexeme → Prop) (Q : Concrete → Prop) : Prop where
  leaf : ∀ (x : Lexeme) (raw : String) (named : Bool), fits x → Q (x.leaf raw named)
  joined : ∀ (text : String) (x last : Lexeme), fits x → fits last →
    Q (.node ⟨text, false, false, none, text, x.span.cover last.span⟩ [])
  node : ∀ (raw : String) (children : List Concrete), ∀ first ∈ children, ∀ last ∈ children,
    (∀ c ∈ children, Q c) →
      Q (.node ⟨raw, true, false, none, "", first.span.cover last.span⟩ children)
  role : ∀ (name : String) (c : Concrete), Q c → Q (c.inField name)

namespace Lexeme

theorem takeJoined_subset {parts : List String} {glued : Bool} {input taken rest : List Lexeme}
    (took : takeJoined parts glued input = some (taken, rest)) : taken ⊆ input := by
  induction parts generalizing glued input taken rest with
  | nil =>
      rw [takeJoined] at took
      split at took <;> cases took
      exact List.nil_subset _
  | cons part parts ih =>
      cases input with
      | nil => cases took
      | cons x input =>
          rw [takeJoined] at took
          split at took
          next =>
            obtain ⟨⟨taken, later⟩, took, same⟩ := Option.map_eq_some_iff.1 took
            cases same
            exact List.cons_subset_cons x (ih took)
          next => cases took

theorem run_subset (input : List Lexeme) : (splitRun input).1 ⊆ input := by
  induction input with
  | nil => exact List.Subset.refl _
  | cons x rest ih =>
      rw [splitRun]
      split
      · exact List.cons_subset_cons x (List.nil_subset _)
      · exact List.cons_subset_cons x ih

theorem exists_strayLeaf {x : Lexeme} {c : Concrete} (made : x.strayLeaf = some c) :
    ∃ raw named, c = x.leaf raw named := by
  unfold strayLeaf at made
  split at made <;> cases made <;> exact ⟨_, _, rfl⟩

end Lexeme

namespace Kept

variable {fits : Lexeme → Prop} {Q : Concrete → Prop} (kept : Kept fits Q)
  {input rest : List Lexeme} {found : List Concrete}

include kept

theorem wrap {raw : String} (holds : ∀ c ∈ found, Q c) : ∀ c ∈ wrap raw found, Q c := by
  intro c member
  rcases Form.mem_wrap_cover member with ⟨listed, _⟩ | ⟨first, here, last, there, rfl⟩
  · exact holds c listed
  · refine kept.node raw _ first here last there ?_
    exact fun d listed => holds d (List.dropWhile_subset _ listed)

theorem labelAll {name : String} (holds : ∀ c ∈ found, Q c) : ∀ c ∈ labelAll name found, Q c := by
  intro c member
  obtain ⟨d, listed, ⟨_, rfl⟩ | ⟨_, rfl⟩, _⟩ := Form.mem_labelAll member
  · exact holds c listed
  · exact kept.role name d (holds d listed)

theorem labelled (first? : Option String) (holds : ∀ c ∈ found, Q c) :
    ∀ c ∈ (match first? with
      | some name => Concrete.labelAll name found
      | none => found), Q c := by
  cases first? with
  | none => exact holds
  | some name => exact kept.labelAll holds

theorem comments (fit : ∀ x ∈ input, fits x) : ∀ c ∈ (Lexeme.splitComments input).1, Q c := by
  induction input with
  | nil => exact List.forall_mem_nil Q
  | cons x rest ih =>
      obtain ⟨here, later⟩ := List.forall_mem_cons.1 fit
      rw [Lexeme.splitComments]
      split
      next raw _ => exact List.forall_mem_cons.2 ⟨kept.leaf x raw true here, ih later⟩
      next => exact List.forall_mem_nil Q

theorem terminal {t : Terminal} (fit : ∀ x ∈ input, fits x)
    (read : t.read input = some (found, rest)) : (∀ c ∈ found, Q c) ∧ rest ⊆ input := by
  have comments := kept.comments fit
  have fewer := Lexeme.splitComments_subset input
  simp only [Terminal.read] at read
  split at read
  next parts _ =>
    split at read
    next x taken later took =>
      cases read
      have among := List.Subset.trans (Lexeme.takeJoined_subset took) fewer
      have last : fits (taken.getLast?.getD x) := by
        refine fit _ (among ?_)
        cases final : taken.getLast? with
        | none => exact List.mem_cons_self ..
        | some y => exact List.mem_cons_of_mem _ (List.mem_of_getLast? final)
      refine ⟨?_, List.Subset.trans (Lexeme.takeJoined_spells took).2 fewer⟩
      rw [List.forall_mem_append, List.forall_mem_singleton]
      exact ⟨comments, kept.joined _ x _ (fit x (among (List.mem_cons_self ..))) last⟩
    next => cases read
  next x later _ split =>
    obtain ⟨leaf?, made, same⟩ := Option.map_eq_some_iff.1 read
    cases same
    rw [split] at fewer
    refine ⟨?_, List.Subset.trans (List.subset_cons_self _ _) fewer⟩
    rw [List.forall_mem_append]
    refine ⟨comments, fun c member => ?_⟩
    rw [Option.mem_toList] at member
    cases member
    obtain ⟨raw, named, rfl⟩ := Form.exists_leaf made
    exact kept.leaf x raw named (fit x (fewer (List.mem_cons_self ..)))
  next => cases read

theorem read {P : Type} (grammar : P → Form P) (fuel : Nat) :
    (∀ (form : Form P) (input rest : List Lexeme) (found : List Concrete),
      (∀ x ∈ input, fits x) → Form.read grammar fuel form input = some (found, rest) →
      (∀ c ∈ found, Q c) ∧ rest ⊆ input) ∧
    ∀ (growths : List (Growth (Form P))) (input rest : List Lexeme) (found last : List Concrete),
      (∀ x ∈ input, fits x) → (∀ c ∈ found, Q c) →
      Form.grow grammar fuel growths found input = some (last, rest) →
      (∀ c ∈ last, Q c) ∧ rest ⊆ input := by
  induction fuel with
  | zero => exact ⟨nofun, nofun⟩
  | succ fuel ih =>
      obtain ⟨ihRead, ihGrow⟩ := ih
      -- One part after the other: what is left for the second is part of the input.
      have andThen {f g : Form P} {input between rest : List Lexeme} {front back : List Concrete}
          (fit : ∀ x ∈ input, fits x)
          (first : Form.read grammar fuel f input = some (front, between))
          (second : Form.read grammar fuel g between = some (back, rest)) :
          (∀ c ∈ front ++ back, Q c) ∧ rest ⊆ input := by
        obtain ⟨holds, fewer⟩ := ihRead _ _ _ _ fit first
        obtain ⟨holds', fewer'⟩ := ihRead _ _ _ _ (fun x member => fit x (fewer member)) second
        exact ⟨List.forall_mem_append.2 ⟨holds, holds'⟩, List.Subset.trans fewer' fewer⟩
      constructor
      · intro form input rest found fit ran
        cases form with
        | terminal t => exact kept.terminal fit ran
        | phrase p => exact ihRead _ _ _ _ fit ran
        | seq items =>
            cases items with
            | nil =>
                cases ran
                exact ⟨List.forall_mem_nil Q, List.Subset.refl _⟩
            | cons first others =>
                rw [Form.read] at ran
                obtain ⟨⟨front, between⟩, ranFirst, ran⟩ := Option.bind_eq_some_iff.1 ran
                obtain ⟨⟨back, last⟩, ranOthers, same⟩ := Option.bind_eq_some_iff.1 ran
                cases same
                exact andThen fit ranFirst ranOthers
        | choice options =>
            cases options with
            | nil => cases ran
            | cons first others =>
                rw [Form.read] at ran
                split at ran
                next result ranFirst =>
                  cases ran
                  exact ihRead _ _ _ _ fit ranFirst
                next => exact ihRead _ _ _ _ fit ran
        | many item =>
            rw [Form.read] at ran
            split at ran
            next =>
              cases ran
              exact ⟨List.forall_mem_nil Q, List.Subset.refl _⟩
            next front between ranFirst =>
              obtain ⟨⟨back, last⟩, ranOthers, same⟩ := Option.bind_eq_some_iff.1 ran
              cases same
              exact andThen fit ranFirst ranOthers
        | node raw body =>
            obtain ⟨⟨inner, last⟩, ranBody, same⟩ := Option.bind_eq_some_iff.1 ran
            cases same
            obtain ⟨holds, fewer⟩ := ihRead _ _ _ _ fit ranBody
            exact ⟨kept.wrap holds, fewer⟩
        | field name body =>
            obtain ⟨⟨inner, last⟩, ranBody, same⟩ := Option.bind_eq_some_iff.1 ran
            cases same
            obtain ⟨holds, fewer⟩ := ihRead _ _ _ _ fit ranBody
            exact ⟨kept.labelAll holds, fewer⟩
        | chain first growths =>
            obtain ⟨⟨front, between⟩, ranFirst, ran⟩ := Option.bind_eq_some_iff.1 ran
            obtain ⟨holds, fewer⟩ := ihRead _ _ _ _ fit ranFirst
            obtain ⟨holds', fewer'⟩ :=
              ihGrow _ _ _ _ _ (fun x member => fit x (fewer member)) holds ran
            exact ⟨holds', List.Subset.trans fewer' fewer⟩
        | only raws body =>
            obtain ⟨⟨inner, last⟩, ranBody, same⟩ := Option.bind_eq_some_iff.1 ran
            dsimp only at same
            split at same <;> cases same
            exact ihRead _ _ _ _ fit ranBody
        | barring texts =>
            rw [Form.read] at ran
            split at ran <;> cases ran
            exact ⟨List.forall_mem_nil Q, List.Subset.refl _⟩
      · intro growths input rest found last fit holds ran
        rw [Form.grow] at ran
        dsimp only at ran
        split at ran
        next =>
          cases ran
          exact ⟨holds, List.Subset.refl _⟩
        next g more later next =>
          obtain ⟨other, _, fits⟩ := List.exists_of_findSome?_eq_some next
          split at fits
          next =>
            obtain ⟨⟨back, later'⟩, ranRest, same⟩ := Option.map_eq_some_iff.1 fits
            cases same
            obtain ⟨holds', fewer⟩ := ihRead _ _ _ _ fit ranRest
            have grown := List.forall_mem_append.2 ⟨kept.labelled g.first? holds, holds'⟩
            obtain ⟨holds'', fewer'⟩ :=
              ihGrow _ _ _ _ _ (fun x member => fit x (fewer member)) (kept.wrap grown) ran
            exact ⟨holds'', List.Subset.trans fewer' fewer⟩
          next => cases fits

theorem readAll {input : List Lexeme} (fit : ∀ x ∈ input, fits x) : ∀ c ∈ readAll input, Q c := by
  have comments := kept.comments fit
  have fewer := Lexeme.splitComments_subset input
  cases parted : Lexeme.splitComments input with
  | mk before rest =>
      rw [parted] at comments fewer
      have behind : ∀ x ∈ rest, fits x := fun x member => fit x (fewer member)
      rcases readAll_cases parted with same | ⟨front, later, shorter, same, read⟩
      · rw [same]
        exact comments
      · have holds : (∀ c ∈ front, Q c) ∧ later ⊆ rest := by
          rcases read with read | ⟨run, ran, rfl⟩
          · exact (kept.read _ _).1 _ _ _ _ behind read
          · have among := Lexeme.run_subset rest
            have left := Lexeme.splitRun_subset rest
            rw [ran] at among left
            refine ⟨kept.wrap fun c member => ?_, left⟩
            obtain ⟨x, listed, made⟩ := List.mem_filterMap.1 member
            obtain ⟨raw, named, rfl⟩ := Lexeme.exists_strayLeaf made
            exact kept.leaf x raw named (behind x (among listed))
        rw [same, List.forall_mem_append, List.forall_mem_append]
        exact ⟨⟨comments, holds.1⟩, readAll fun x member => behind x (holds.2 member)⟩
termination_by input.length

end Kept

namespace Lexer

@[simp] theorem Place.passAll_append (p : Place) (front back : List Char) :
    p.passAll (front ++ back) = (p.passAll front).passAll back :=
  List.foldl_append

theorem exists_start_of_scan (behind : List Char) (frames : List Frame) (glued : Bool)
    (text : List Char) :
    ∀ x ∈ (scan frames (Place.start.passAll behind) glued text).1, ∃ front stop,
      front <+: text ∧ x.span = (Place.start.passAll (behind ++ front)).spanTo stop := by
  cases text with
  | nil =>
      rw [scan]
      exact List.forall_mem_nil _
  | cons c rest =>
      rw [scan]
      cases found : extent frames c rest with
      | mk sort n =>
          have later (frames : List Frame) (glued : Bool) : ∀ x ∈ (scan frames
              ((Place.start.passAll behind).passAll (c :: rest.take n)) glued (rest.drop n)).1,
              ∃ front stop, front <+: c :: rest ∧
                x.span = (Place.start.passAll (behind ++ front)).spanTo stop := by
            intro x member
            rw [← Place.passAll_append] at member
            obtain ⟨front, stop, isFront, same⟩ :=
              exists_start_of_scan (behind ++ c :: rest.take n) frames glued (rest.drop n) x member
            have split : c :: rest = (c :: rest.take n) ++ rest.drop n := by simp
            refine ⟨c :: rest.take n ++ front, stop, ?_, by rw [same, List.append_assoc]⟩
            rw [split]
            exact (List.prefix_append_right_inj _).2 isFront
          have here : ∃ front stop', front <+: c :: rest ∧
              (Place.start.passAll behind).spanTo
                  ((Place.start.passAll behind).passAll (c :: rest.take n)) =
                (Place.start.passAll (behind ++ front)).spanTo stop' :=
            ⟨[], _, List.nil_prefix, by rw [List.append_nil]⟩
          cases sort with
          | blank => exact later _ _
          | _ => exact List.forall_mem_cons.2 ⟨here, later _ _⟩
termination_by text.length

end Lexer

theorem exists_start_of_lexeme (source : String) :
    ∀ x ∈ (lexemes source).1, ∃ front stop,
      front <+: source.toList ∧ x.span = (Lexer.Place.start.passAll front).spanTo stop := by
  unfold lexemes
  split
  next c rest text =>
    split
    · intro x member
      obtain ⟨front, stop, isFront, same⟩ := Lexer.exists_start_of_scan [c] _ _ _ x member
      exact ⟨c :: front, stop, text ▸ (List.prefix_cons_inj c).2 isFront, same⟩
    · rw [text]
      exact Lexer.exists_start_of_scan [] _ _ _
  · exact nofun

theorem line_pos_lexemes (source : String) : ∀ x ∈ (lexemes source).1, 0 < x.span.startLine := by
  intro x member
  obtain ⟨_, _, _, same⟩ := exists_start_of_lexeme source x member
  rw [same]
  exact Nat.succ_pos _

theorem kept_line : Kept (fun x => 0 < x.span.startLine)
    fun c => ∀ d, Below c d → d.children = [] → 0 < d.span.startLine where
  leaf x raw named line := by
    intro d below _
    rcases below.cases with rfl | ⟨e, listed, _⟩
    · exact line
    · cases listed
  joined text x last line line' := by
    intro d below _
    rcases below.cases with rfl | ⟨e, listed, _⟩
    · change 0 < (x.span.cover last.span).startLine
      unfold Span.cover
      dsimp only
      split
      · exact line
      · exact line'
    · cases listed
  node raw children first here last _ holds := by
    intro d below childless
    rcases below.cases with rfl | ⟨e, listed, inner⟩
    · exact absurd childless (List.ne_nil_of_mem here)
    · exact holds e listed d inner childless
  role name c holds := by
    intro d below childless
    obtain ⟨head, children⟩ := c
    rcases below.cases with rfl | ⟨e, listed, inner⟩
    · exact holds (.node head children) .self childless
    · exact holds d (.of_child listed inner) childless

theorem line_pos_of_below {source : String} {c : Concrete}
    (below : Below (concreteTree source) c) (inner : c ≠ concreteTree source)
    (childless : c.children = []) : 0 < c.span.startLine := by
  rcases below.cases with same | ⟨d, listed, below⟩
  · exact absurd same inner
  · exact kept_line.readAll (line_pos_lexemes source) d listed c below childless

end TreeLint.Java

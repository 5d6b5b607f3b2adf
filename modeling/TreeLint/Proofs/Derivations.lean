import TreeLint.Java.Parse
import TreeLint.Proofs.Phrases

/-! What the forms of a grammar spell, whichever of them are tried first and however much fuel there
is. -/

namespace TreeLint.Java

def literalNames : List String :=
  ["decimal_integer_literal", "hex_integer_literal", "octal_integer_literal",
    "binary_integer_literal", "decimal_floating_point_literal", "hex_floating_point_literal",
    "character_literal"]

def LexemeSort.isKnown : LexemeSort → Bool
  | .comment raw => commentNames.contains raw
  | .literal raw => literalNames.contains raw
  | .content raw => contentNames.contains raw
  | _ => true

namespace Lexeme

def AllKnown (input : List Lexeme) : Prop := ∀ x ∈ input, x.sort.isKnown

theorem AllKnown.subset {input rest : List Lexeme} (known : AllKnown input)
    (fewer : rest ⊆ input) : AllKnown rest :=
  fun x member => known x (fewer member)

theorem splitComments_subset (input : List Lexeme) : (splitComments input).2 ⊆ input := by
  induction input with
  | nil => exact List.Subset.refl _
  | cons x rest ih =>
      rw [splitComments]
      split
      · exact List.Subset.trans ih (List.subset_cons_self _ _)
      · exact List.Subset.refl _

theorem takeJoined_spells {parts : List String} {glued : Bool} {input taken rest : List Lexeme}
    (took : takeJoined parts glued input = some (taken, rest)) :
    taken.map (·.text) = parts ∧ rest ⊆ input := by
  induction parts generalizing glued input taken rest with
  | nil =>
      rw [takeJoined] at took
      split at took <;> cases took
      exact ⟨rfl, List.Subset.refl _⟩
  | cons part parts ih =>
      cases input with
      | nil => cases took
      | cons x input =>
          rw [takeJoined] at took
          split at took
          next fits =>
            obtain ⟨⟨taken, later⟩, took, same⟩ := Option.map_eq_some_iff.1 took
            cases same
            obtain ⟨spelled, fewer⟩ := ih took
            simp only [Bool.and_eq_true, beq_iff_eq] at fits
            rw [List.map_cons, fits.1, spelled]
            exact ⟨rfl, List.Subset.trans fewer (List.subset_cons_self _ _)⟩
          next => cases took

end Lexeme

namespace Concrete

def IsCommentLeaf (c : Concrete) : Prop :=
  c.isComment = true ∧ c.head.field? = none ∧ c.children = []

theorem isCommentLeaf_of_mem {input : List Lexeme} (known : Lexeme.AllKnown input) :
    ∀ c ∈ (Lexeme.splitComments input).1, c.IsCommentLeaf := by
  induction input with
  | nil => exact nofun
  | cons x rest ih =>
      rw [Lexeme.splitComments]
      split
      next raw sort =>
        intro c member
        rcases List.mem_cons.1 member with rfl | later
        · have here := known x (List.mem_cons_self ..)
          rw [sort] at here
          exact ⟨isComment_iff.2 (List.contains_iff_mem.1 here), rfl, rfl⟩
        · exact ih (known.subset (List.subset_cons_self _ _)) c later
      next =>
        intro c member
        cases member

end Concrete

/-- The form of the children of a phrase that a chain has grown to. -/
def Growth.body {P : Type} (whole : Form P) (g : Growth (Form P)) : Form P :=
  .seq [match g.first? with
    | some name => .field name whole
    | none => whole, g.rest]

namespace Form

open Concrete

variable {P : Type}

inductive Derives (grammar : P → Form P) : Form P → List Concrete → Prop
  | token {t : Terminal} {x : Lexeme} {leaf? : Option Concrete} {comments : List Concrete}
      (only : ∀ c ∈ comments, c.IsCommentLeaf) (known : x.sort.isKnown)
      (made : t.leafOf x = some leaf?) : Derives grammar (.terminal t) (comments ++ leaf?.toList)
  | joined {parts : List String} {span : Span} {comments : List Concrete}
      (only : ∀ c ∈ comments, c.IsCommentLeaf) :
      Derives grammar (.terminal (.joined parts))
        (comments ++ [.node ⟨.join parts, false, false, none, .join parts, span⟩ []])
  | phrase {p : P} {found : List Concrete} (derives : Derives grammar (grammar p) found) :
      Derives grammar (.phrase p) found
  | nil : Derives grammar (.seq []) []
  | cons {f : Form P} {others : List (Form P)} {found more : List Concrete}
      (first : Derives grammar f found) (rest : Derives grammar (.seq others) more) :
      Derives grammar (.seq (f :: others)) (found ++ more)
  | choice {f : Form P} {options : List (Form P)} {found : List Concrete}
      (member : f ∈ options) (derives : Derives grammar f found) :
      Derives grammar (.choice options) found
  | stop {f : Form P} : Derives grammar (.many f) []
  | again {f : Form P} {found more : List Concrete} (first : Derives grammar f found)
      (rest : Derives grammar (.many f) more) : Derives grammar (.many f) (found ++ more)
  | node {raw : String} {body : Form P} {found : List Concrete}
      (derives : Derives grammar body found) : Derives grammar (.node raw body) (wrap raw found)
  | field {name : String} {body : Form P} {found : List Concrete}
      (derives : Derives grammar body found) :
      Derives grammar (.field name body) (labelAll name found)
  | start {f : Form P} {growths : List (Growth (Form P))} {found : List Concrete}
      (derives : Derives grammar f found) : Derives grammar (.chain f growths) found
  | grown {f : Form P} {growths : List (Growth (Form P))} {g : Growth (Form P)}
      {found : List Concrete} (member : g ∈ growths)
      (derives : Derives grammar (g.body (.chain f growths)) found) :
      Derives grammar (.chain f growths) (wrap g.raw found)
  | only {raws : List String} {body : Form P} {found : List Concrete}
      (derives : Derives grammar body found) : Derives grammar (.only raws body) found
  | barring {texts : List String} : Derives grammar (.barring texts) []

variable {grammar : P → Form P}

theorem derives_of_terminal {t : Terminal} {input rest : List Lexeme} {found : List Concrete}
    (known : Lexeme.AllKnown input) (read : t.read input = some (found, rest)) :
    Derives grammar (.terminal t) found ∧ rest ⊆ input := by
  have only := isCommentLeaf_of_mem known
  have fewer := Lexeme.splitComments_subset input
  simp only [Terminal.read] at read
  split at read
  next parts _ =>
    split at read
    next x taken later took =>
      cases read
      obtain ⟨rfl, later⟩ := Lexeme.takeJoined_spells took
      exact ⟨.joined only, List.Subset.trans later fewer⟩
    next => cases read
  next x later _ split =>
    obtain ⟨leaf?, made, same⟩ := Option.map_eq_some_iff.1 read
    cases same
    rw [split] at fewer
    have here := known x (fewer (List.mem_cons_self ..))
    exact ⟨.token only here made, List.Subset.trans (List.subset_cons_self _ _) fewer⟩
  next => cases read

/-- A form that is read is spelled by what is found. -/
theorem derives_of_read (fuel : Nat) :
    (∀ (form : Form P) (input rest : List Lexeme) (found : List Concrete),
      Lexeme.AllKnown input → read grammar fuel form input = some (found, rest) →
      Derives grammar form found ∧ rest ⊆ input) ∧
    ∀ (first : Form P) (growths : List (Growth (Form P))) (input rest : List Lexeme)
      (found last : List Concrete), Lexeme.AllKnown input →
      Derives grammar (.chain first growths) found →
      grow grammar fuel growths found input = some (last, rest) →
      Derives grammar (.chain first growths) last ∧ rest ⊆ input := by
  induction fuel with
  | zero => exact ⟨nofun, nofun⟩
  | succ fuel ih =>
      obtain ⟨ihRead, ihGrow⟩ := ih
      constructor
      · intro form input rest found known ran
        cases form with
        | terminal t => exact derives_of_terminal known ran
        | phrase p =>
            obtain ⟨derives, fewer⟩ := ihRead _ _ _ _ known ran
            exact ⟨.phrase derives, fewer⟩
        | seq items =>
            cases items with
            | nil =>
                cases ran
                exact ⟨.nil, List.Subset.refl _⟩
            | cons first others =>
                rw [read] at ran
                obtain ⟨⟨front, between⟩, ranFirst, ran⟩ := Option.bind_eq_some_iff.1 ran
                obtain ⟨⟨back, last⟩, ranOthers, same⟩ := Option.bind_eq_some_iff.1 ran
                cases same
                obtain ⟨first, fewer⟩ := ihRead _ _ _ _ known ranFirst
                obtain ⟨others, fewer'⟩ := ihRead _ _ _ _ (known.subset fewer) ranOthers
                exact ⟨.cons first others, List.Subset.trans fewer' fewer⟩
        | choice options =>
            cases options with
            | nil => cases ran
            | cons first others =>
                rw [read] at ran
                split at ran
                next result ranFirst =>
                  cases ran
                  obtain ⟨derives, fewer⟩ := ihRead _ _ _ _ known ranFirst
                  exact ⟨.choice (List.mem_cons_self ..) derives, fewer⟩
                next =>
                  obtain ⟨derives, fewer⟩ := ihRead _ _ _ _ known ran
                  cases derives with
                  | choice member derives =>
                      exact ⟨.choice (List.mem_cons_of_mem _ member) derives, fewer⟩
        | many item =>
            rw [read] at ran
            split at ran
            next =>
              cases ran
              exact ⟨.stop, List.Subset.refl _⟩
            next front between ranFirst =>
              obtain ⟨⟨back, last⟩, ranOthers, same⟩ := Option.bind_eq_some_iff.1 ran
              cases same
              obtain ⟨first, fewer⟩ := ihRead _ _ _ _ known ranFirst
              obtain ⟨others, fewer'⟩ := ihRead _ _ _ _ (known.subset fewer) ranOthers
              exact ⟨.again first others, List.Subset.trans fewer' fewer⟩
        | node raw body =>
            obtain ⟨⟨inner, last⟩, ranBody, same⟩ := Option.bind_eq_some_iff.1 ran
            cases same
            obtain ⟨derives, fewer⟩ := ihRead _ _ _ _ known ranBody
            exact ⟨.node derives, fewer⟩
        | field name body =>
            obtain ⟨⟨inner, last⟩, ranBody, same⟩ := Option.bind_eq_some_iff.1 ran
            cases same
            obtain ⟨derives, fewer⟩ := ihRead _ _ _ _ known ranBody
            exact ⟨.field derives, fewer⟩
        | chain first growths =>
            obtain ⟨⟨front, between⟩, ranFirst, ran⟩ := Option.bind_eq_some_iff.1 ran
            obtain ⟨first, fewer⟩ := ihRead _ _ _ _ known ranFirst
            obtain ⟨derives, fewer'⟩ :=
              ihGrow _ _ _ _ _ _ (known.subset fewer) (.start first) ran
            exact ⟨derives, List.Subset.trans fewer' fewer⟩
        | only raws body =>
            obtain ⟨⟨inner, last⟩, ranBody, same⟩ := Option.bind_eq_some_iff.1 ran
            obtain ⟨derives, fewer⟩ := ihRead _ _ _ _ known ranBody
            dsimp only at same
            split at same <;> cases same
            exact ⟨.only derives, fewer⟩
        | barring texts =>
            rw [read] at ran
            split at ran <;> cases ran
            exact ⟨.barring, List.Subset.refl _⟩
      · intro first growths input rest found last known derives ran
        rw [grow] at ran
        dsimp only at ran
        split at ran
        next =>
          cases ran
          exact ⟨derives, List.Subset.refl _⟩
        next g more later next =>
          obtain ⟨other, member, fits⟩ := List.exists_of_findSome?_eq_some next
          split at fits
          next =>
            obtain ⟨⟨back, later'⟩, ranRest, same⟩ := Option.map_eq_some_iff.1 fits
            cases same
            obtain ⟨rest, fewer⟩ := ihRead _ _ _ _ known ranRest
            have grown : Derives grammar (g.body (.chain first growths))
                ((match g.first? with
                  | some name => labelAll name found
                  | none => found) ++ more) := by
              rw [Growth.body, ← List.append_nil more]
              cases g.first? with
              | none => exact .cons derives (.cons rest .nil)
              | some name => exact .cons (.field derives) (.cons rest .nil)
            obtain ⟨derives, fewer'⟩ :=
              ihGrow _ _ _ _ _ _ (known.subset fewer) (.grown member grown) ran
            exact ⟨derives, List.Subset.trans fewer' fewer⟩
          next => cases fits

mutual
/-- The phrases that a form makes by itself: their names, with the forms of their children. -/
def productions : Form P → List (String × Form P)
  | terminal _ | phrase _ | barring _ => []
  | seq items => productionsAll items
  | choice options => productionsAll options
  | many item => productions item
  | node raw body => (raw, body) :: productions body
  | field _ body => productions body
  | chain first growths =>
      productions first ++ productionsOf (chain first growths) growths
  | only _ body => productions body

def productionsAll : List (Form P) → List (String × Form P)
  | [] => []
  | first :: rest => productions first ++ productionsAll rest

def productionsOf (whole : Form P) : List (Growth (Form P)) → List (String × Form P)
  | [] => []
  | g :: rest => ((g.raw, g.body whole) :: productions g.rest) ++ productionsOf whole rest
end

theorem productions_subset {f : Form P} {forms : List (Form P)} (member : f ∈ forms) :
    f.productions ⊆ productionsAll forms := by
  induction forms with
  | nil => cases member
  | cons first rest ih =>
      rw [productionsAll]
      rcases List.mem_cons.1 member with rfl | later
      · exact List.subset_append_left _ _
      · exact List.Subset.trans (ih later) (List.subset_append_right _ _)

theorem productionsOf_subset {g : Growth (Form P)} {growths : List (Growth (Form P))}
    (member : g ∈ growths) (whole : Form P) :
    (g.raw, g.body whole) :: g.rest.productions ⊆ productionsOf whole growths := by
  induction growths with
  | nil => cases member
  | cons first rest ih =>
      rw [productionsOf]
      rcases List.mem_cons.1 member with rfl | later
      · exact List.subset_append_left _ _
      · exact List.Subset.trans (ih later) (List.subset_append_right _ _)

theorem mem_productions_body {g : Growth (Form P)} {whole : Form P} {x : String × Form P}
    (member : x ∈ (g.body whole).productions) : x ∈ whole.productions ∨ x ∈ g.rest.productions := by
  rw [Growth.body] at member
  split at member <;> simpa [productions, productionsAll] using member

/-- The phrase has no children, or those that a production of its name spells. -/
def Made (grammar : P → Form P) (Produces : String → Form P → Prop) (c : Concrete) : Prop :=
  c.children = [] ∨ ∃ body found, Produces c.raw body ∧ Derives grammar body found ∧
    c.children = found.dropWhile isComment

theorem mem_wrap_cover {raw : String} {found : List Concrete} {c : Concrete}
    (member : c ∈ wrap raw found) :
    c ∈ found ∧ c.isComment = true ∨
      ∃ first ∈ found.dropWhile isComment, ∃ last ∈ found.dropWhile isComment,
        c = .node ⟨raw, true, false, none, "", first.span.cover last.span⟩
          (found.dropWhile isComment) := by
  have front (comment : c ∈ found.takeWhile isComment) : c ∈ found ∧ c.isComment = true :=
    ⟨List.takeWhile_subset _ comment, List.all_eq_true.1 List.all_takeWhile c comment⟩
  rw [wrap] at member
  split at member
  next => exact .inl (front member)
  next first rest split =>
    rcases List.mem_append.1 member with comment | phrase
    · exact .inl (front comment)
    · rw [split]
      refine .inr ⟨first, List.mem_cons_self .., rest.getLast?.getD first, ?_,
        List.mem_singleton.1 phrase⟩
      cases final : rest.getLast? with
      | none => exact List.mem_cons_self ..
      | some last => exact List.mem_cons_of_mem _ (List.mem_of_getLast? final)

theorem mem_wrap {raw : String} {found : List Concrete} {c : Concrete}
    (member : c ∈ wrap raw found) :
    c ∈ found ∧ c.isComment = true ∨ found.dropWhile isComment ≠ [] ∧
      ∃ span, c = .node ⟨raw, true, false, none, "", span⟩ (found.dropWhile isComment) := by
  rcases mem_wrap_cover member with comment | ⟨first, listed, last, _, same⟩
  · exact .inl comment
  · exact .inr ⟨List.ne_nil_of_mem listed, _, same⟩

theorem mem_labelAll {name : String} {found : List Concrete} {c : Concrete}
    (member : c ∈ labelAll name found) :
    ∃ d ∈ found, (d.isComment = true ∧ c = d ∨ d.isComment = false ∧ c = d.inField name) ∧
      c.raw = d.raw ∧ c.children = d.children := by
  obtain ⟨d, listed, rfl⟩ := List.mem_map.1 member
  refine ⟨d, listed, ?_⟩
  cases comment : d.isComment with
  | true => exact ⟨.inl ⟨rfl, rfl⟩, rfl, rfl⟩
  | false =>
      obtain ⟨head, children⟩ := d
      exact ⟨.inr ⟨rfl, rfl⟩, rfl, rfl⟩

theorem exists_leaf {t : Terminal} {x : Lexeme} {c : Concrete}
    (made : t.leafOf x = some (some c)) : ∃ raw named, c = x.leaf raw named := by
  unfold Terminal.leafOf at made
  split at made <;> try split at made
  all_goals cases made
  all_goals exact ⟨_, _, rfl⟩

/-- Every phrase of what a form spells is made by a production. -/
theorem Derives.made {grammar : P → Form P} (Produces : String → Form P → Prop)
    (closed : ∀ p, ∀ x ∈ (grammar p).productions, Produces x.1 x.2) {form : Form P}
    {found : List Concrete} (derives : Derives grammar form found)
    (own : ∀ x ∈ form.productions, Produces x.1 x.2) :
    ∀ c ∈ found, ∀ d, Below c d → Made grammar Produces d := by
  have leaf {c d : Concrete} (childless : c.children = []) (below : Below c d) :
      Made grammar Produces d := by
    rcases below.cases with rfl | ⟨e, listed, _⟩
    · exact .inl childless
    · rw [childless] at listed
      cases listed
  -- A phrase around what is found is made by the production, and all below it is found.
  have around {raw : String} {body : Form P} {found : List Concrete} (made : Produces raw body)
      (derives : Derives grammar body found)
      (inner : ∀ c ∈ found, ∀ d, Below c d → Made grammar Produces d) :
      ∀ c ∈ wrap raw found, ∀ d, Below c d → Made grammar Produces d := by
    intro c member d below
    rcases mem_wrap member with ⟨listed, _⟩ | ⟨_, span, rfl⟩
    · exact inner c listed d below
    · rcases below.cases with rfl | ⟨e, listed, below⟩
      · exact .inr ⟨body, found, made, derives, rfl⟩
      · exact inner e (List.dropWhile_subset _ listed) d below
  induction derives with
  | token only _ made =>
      intro c member d below
      rcases List.mem_append.1 member with comment | here
      · exact leaf (only c comment).2.2 below
      · rw [Option.mem_toList] at here
        cases here
        obtain ⟨_, _, rfl⟩ := exists_leaf made
        exact leaf rfl below
  | joined only =>
      intro c member d below
      rcases List.mem_append.1 member with comment | here
      · exact leaf (only c comment).2.2 below
      · cases List.mem_singleton.1 here
        exact leaf rfl below
  | @phrase p _ _ ih => exact ih (closed p)
  | nil => exact nofun
  | cons _ _ ih ih' =>
      rw [productions, productionsAll, List.forall_mem_append] at own
      rw [List.forall_mem_append]
      exact ⟨ih own.1, ih' own.2⟩
  | choice member _ ih => exact ih fun x listed => own x (productions_subset member listed)
  | stop => exact nofun
  | again _ _ ih ih' =>
      rw [List.forall_mem_append]
      exact ⟨ih own, ih' own⟩
  | node derives ih =>
      rw [productions, List.forall_mem_cons] at own
      exact around own.1 derives (ih own.2)
  | field _ ih =>
      intro c member d below
      obtain ⟨e, listed, _, raw, children⟩ := mem_labelAll member
      have inner := ih own e listed
      rcases below.cases with rfl | ⟨f, first, below⟩
      · have made := inner e .self
        rwa [Made, ← raw, ← children] at made
      · exact inner d (.of_child (children ▸ first) below)
  | start _ ih =>
      rw [productions, List.forall_mem_append] at own
      exact ih own.1
  | grown member derives ih =>
      have all := own
      rw [productions, List.forall_mem_append] at own
      have grows := fun x listed => own.2 x (productionsOf_subset member _ listed)
      refine around (grows _ (List.mem_cons_self ..)) derives (ih ?_)
      intro x listed
      rcases mem_productions_body listed with inner | more
      · exact all x inner
      · exact grows x (List.mem_cons_of_mem _ more)
  | only _ ih => exact ih own
  | barring => exact nofun

end Form

end TreeLint.Java

import TreeLint.Proofs.Ancestors
import TreeLint.Proofs.Dispatch
import TreeLint.Proofs.Reader
import TreeLint.Proofs.TypeNames
import TreeLint.Proofs.Words

namespace TreeLint.Java

open TreeLint.Tree Lowering Concrete

variable {t : Tree} {n m p s : t.Node} {c d root : Concrete}

def isString (n : t.Node) : Bool := n.rawKind == "string_literal"

def isInterpolation (n : t.Node) : Bool := n.rawKind == "string_interpolation"

/-- The nearest node around that is a string or code in one. -/
def stringAround? (n : t.Node) : Option t.Node :=
  n.ancestors.find? fun p => isString p || isInterpolation p

/-- A token in a string that is neither a quote nor in an interpolation. -/
structure IsContent (n : t.Node) : Prop where
  leaf : n.isLeaf = true
  inside : ∃ s, stringAround? n = some s ∧ isString s = true
  unquoted : n.rawKind ∉ quotes

/-- How a token that is part of a string reads. -/
structure ReadsAsContent (n : t.Node) : Prop where
  rawKind : n.rawKind ∈ contentNames
  literal : n.kind = .literal ↔ n.rawKind ≠ "multiline_string_fragment"
  fragment : n.rawKind = "multiline_string_fragment" → n.kind = .ofTokenText n.text

theorem ofTokenText_ne_literal (text : String) : Kind.ofTokenText text ≠ .literal := by
  unfold Kind.ofTokenText
  split
  case h_8 =>
    split
    · exact nofun
    · split <;> exact nofun
  all_goals exact nofun

theorem leafKind_of_content (isContent : d.raw ∈ contentNames) (named : d.head.named = true) :
    leafKind d =
      if d.raw = "multiline_string_fragment" then .ofTokenText d.head.text else .literal := by
  have ends : ∀ raw ∈ contentNames, raw.endsWith "_literal" = false := by decide +kernel
  have plain := ends d.raw isContent
  simp only [contentNames, List.mem_cons, List.not_mem_nil, or_false] at isContent
  rcases isContent with raw | raw | raw
  all_goals
    rw [raw] at plain
    simp [leafKind, named, raw, plain]

theorem reads_of_content {parent : String} (isContent : d.raw ∈ contentNames)
    (named : d.head.named = true) (empty : d.children = []) (shows : Shows parent d m) :
    ReadsAsContent m := by
  have own : ∀ raw ∈ contentNames, ownKind? raw = none ∧ raw ≠ ";" := by decide
  have plain : compositeKind? d = none :=
    compositeKind?_eq_none_iff.2 ⟨(own _ isContent).1, empty⟩
  cases shows with
  | phrase _ renders => cases plain.symm.trans renders.kind
  | anonymous _ _ _ _ _ renders => cases plain.symm.trans renders.kind
  | statement isSemicolon => exact absurd isSemicolon (own _ isContent).2
  | leaf _ rawKind _ kind _ childless spelled =>
      have text : m.text = d.head.text := Node.text_of_token spelled childless
      have kind := (kind (own _ isContent).2).trans (leafKind_of_content isContent named)
      rw [← text, ← rawKind] at kind
      refine ⟨rawKind ▸ isContent, ?_, fun fragment => kind.trans (if_pos fragment)⟩
      by_cases fragment : m.rawKind = "multiline_string_fragment"
      · rw [kind, if_pos fragment]
        simp [fragment, ofTokenText_ne_literal]
      · rw [kind, if_neg fragment]
        simp [fragment]

theorem ReadsAsContent.isToken (reads : ReadsAsContent n) : n.kind.isToken = true := by
  by_cases fragment : n.rawKind = "multiline_string_fragment"
  · rw [reads.fragment fragment]
    exact Kind.isToken_ofTokenText _
  · rw [reads.literal.2 fragment]
    rfl

section Parsed

variable (shape : StringShape root) (numbered : WellNumbered t) (top : Renders t.root root)

include shape numbered top

theorem part_of_string (string : isString s = true) (member : m ∈ s.children) :
    m.isLeaf = false ∧ isInterpolation m = true ∨
      m.isLeaf = true ∧ (m.rawKind ∈ quotes ∨ ReadsAsContent m) := by
  have string : s.rawKind = "string_literal" := beq_iff_eq.1 string
  have inner : s.isLeaf = false := by
    rw [Bool.eq_false_iff]
    intro leaf
    rw [numbered.leaf s leaf] at member
    cases member
  obtain ⟨c, below, renders⟩ := exists_renders numbered top inner (by rw [string]; decide)
  have string : c.raw = "string_literal" := renders.rawKind.symm.trans string
  obtain ⟨d, listed, code, shows⟩ :=
    exists_shown_child shape.toSourceShape below renders (by rw [string]; decide) member
  rcases shape.piece c below string d listed with comment | piece
  · cases code.symm.trans comment
  cases piece with
  | quote isQuote token =>
      have plain : ∀ text ∈ quotes, ownKind? text = none ∧ text ≠ ";" := by decide
      obtain ⟨rawKind, kind⟩ := kind_of_token shows token (plain _ isQuote).1 (plain _ isQuote).2
      refine .inr ⟨(numbered.token_iff m).2 ?_, .inl (rawKind ▸ isQuote)⟩
      rw [kind]
      exact Kind.isToken_ofTokenText _
  | content isContent named empty =>
      have reads := reads_of_content isContent named empty shows
      exact .inr ⟨(numbered.token_iff m).2 reads.isToken, .inr reads⟩
  | interpolation raw filled =>
      have composite : compositeKind? d = some .other :=
        compositeKind_of_others (by rw [raw]; rfl) filled (by rw [raw]; decide +kernel)
      obtain ⟨_, renders⟩ := shows.renders composite (by rw [raw]; decide)
      refine .inl ⟨?_, beq_iff_eq.2 (renders.rawKind.trans raw)⟩
      rw [Bool.eq_false_iff]
      intro leaf
      have token := (numbered.token_iff m).1 leaf
      rw [renders.kind_eq composite] at token
      cases token

/-- What is right in a string, code apart, is a child of it: strings nest in code only. -/
theorem mem_children_of_around (around : stringAround? n = some s) (string : isString s = true) :
    n ∈ s.children := by
  induction n using Node.ancestors.induct with
  | case1 n p parent ih =>
      have member := numbered.mem_children parent
      rw [stringAround?, Node.ancestors_of_parent? parent, List.find?_cons] at around
      split at around
      next =>
        cases around
        exact member
      next outside =>
        rw [Bool.or_eq_false_iff] at outside
        -- Then the parent is in the string as well, and has a child.
        rcases part_of_string shape numbered top string (ih around) with ⟨_, code⟩ | ⟨leaf, _⟩
        · cases outside.2.symm.trans code
        · rw [numbered.leaf p leaf] at member
          cases member
  | case2 n orphan =>
      rw [stringAround?, Node.ancestors_of_orphan orphan] at around
      cases around

theorem reads_of_isContent (content : IsContent n) : ReadsAsContent n := by
  obtain ⟨s, around, string⟩ := content.inside
  have member := mem_children_of_around shape numbered top around string
  rcases part_of_string shape numbered top string member with ⟨inner, _⟩ | ⟨_, quote | reads⟩
  · cases content.leaf.symm.trans inner
  · exact absurd quote content.unquoted
  · exact reads

end Parsed

open Traversal

/-- Whatever parser there is for the grammar, in a source without errors the tokens that make up a
string are literals, and nobody else is called with them, except for the fragments of text blocks:
these go by what they spell. -/
theorem string_content_is_literal {p : Parser} (obeys : p.Obeys StringShape) (id : TreeId)
    {source : String} {root : Concrete} (parsed : p source = .ok root)
    (clean : root.hasError = false) :
    ∃ t, p.parse id source = .ok t ∧
      (∀ n : t.Node, IsContent n → ReadsAsContent n) ∧
      ∀ (S : Type) (subscriptions : List (List Kind)) (start : t.Node)
        (call : Event → Nat → t.Node → StateM S Verdict) (state : S),
        ∃ left made,
          ((Roster.ofSubscriptions subscriptions).dispatch start (transcribed call)).run
            (state, []) = ((), left, made) ∧
          ∀ entry ∈ made, IsContent entry.1.node →
            .literal ∈ subscriptions.getD entry.1.subscriber [] ∨
              entry.1.node.rawKind = "multiline_string_fragment" ∧
                .ofTokenText entry.1.node.text ∈ subscriptions.getD entry.1.subscriber [] := by
  have shape := obeys source root parsed clean
  obtain ⟨t, made, _, numbered, top⟩ := shape.exists_lower id
  refine ⟨t, Parser.parse_of_lower parsed made, fun n => reads_of_isContent shape numbered top, ?_⟩
  intro S subscriptions start call state
  refine ⟨_, _, rfl, ?_⟩
  intro entry member content
  have reads := reads_of_isContent shape numbered top content
  have subscribed := subscribed_of_transcribed rfl entry member
  by_cases fragment : entry.1.node.rawKind = "multiline_string_fragment"
  · exact .inr ⟨fragment, reads.fragment fragment ▸ subscribed⟩
  · exact .inl (reads.literal.2 fragment ▸ subscribed)

/-- A text block with a semicolon between two escapes. -/
def spacedSemicolon : String := "class A \x7b String s = \"\"\"\n\\t;\\t\"\"\"; \x7d"

theorem spacedSemicolon_is_no_literal :
    reader.Obeys StringShape ∧ ∃ root, reader spacedSemicolon = .ok root ∧ root.hasError = false ∧
      ∃ t made, reader.parse ⟨0⟩ spacedSemicolon = .ok t ∧
        ((Roster.ofSubscriptions [[.semicolon]]).dispatch t.root
          (transcribed fun _ _ _ => pure .continue)).run ((), []) = ((), (), made) ∧
        ∃ entry ∈ made, IsContent entry.1.node ∧ entry.1.node.kind = .semicolon := by
  have clean : (concreteTree spacedSemicolon).hasError = false := by decide +kernel
  obtain ⟨t, parsed, contents, calls⟩ := string_content_is_literal reader_obeys_string ⟨0⟩ rfl clean
  obtain ⟨left, made, ran, -⟩ := calls Unit [[.semicolon]] t.root (fun _ _ _ => pure .continue) ()
  have told : (reader.parse ⟨0⟩ spacedSemicolon).toOption.map (fun t =>
      (((Roster.ofSubscriptions [[.semicolon]]).dispatch t.root
        (transcribed fun _ _ _ => pure .continue)).run ((), [])).2.2.map fun entry =>
          (entry.1.node.rawKind, entry.1.node.text, entry.1.node.isLeaf,
            (stringAround? entry.1.node).any isString)) =
      some [("multiline_string_fragment", ";", true, true),
        ("multiline_string_fragment", ";", true, true), (";", ";", true, false),
        (";", ";", true, false)] := by
    decide +kernel
  rw [parsed] at told
  have told := Option.some.inj told
  dsimp only at told
  rw [ran] at told
  obtain ⟨entry, others, rfl, first, -⟩ := List.map_eq_cons_iff.1 told
  simp only [Prod.mk.injEq] at first
  obtain ⟨fragment, text, leaf, inside⟩ := first
  have content : IsContent entry.1.node := by
    refine ⟨leaf, ?_, by rw [fragment]; decide⟩
    obtain ⟨s, around, string⟩ := (Option.any_eq_true _ _).1 inside
    exact ⟨s, around, string⟩
  refine ⟨reader_obeys_string, _, rfl, clean, t, _, parsed, ran, entry, .head _, content, ?_⟩
  rw [(contents _ content).fragment fragment, text]
  rfl

end TreeLint.Java

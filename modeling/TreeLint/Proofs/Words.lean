import TreeLint.Proofs.Lowered
import TreeLint.Text.Blank

/-! The tokens of a lowered tree are the words of the concrete tree, and spell its source. -/

namespace TreeLint.Tree

variable {t : Tree}

namespace Nested

mutual
def tokens : Nested → List Token
  | leaf _ _ _ text span => [⟨text, span⟩]
  | node _ _ _ children => tokensAll children

def tokensAll : List Nested → List Token
  | [] => []
  | first :: rest => tokens first ++ tokensAll rest
end

@[simp] theorem tokensAll_append (front back : List Nested) :
    tokensAll (front ++ back) = tokensAll front ++ tokensAll back := by
  induction front with
  | nil => rfl
  | cons first rest ih => rw [List.cons_append, tokensAll, tokensAll, ih, List.append_assoc]

@[simp] theorem tokensAll_singleton (tree : Nested) : tokensAll [tree] = tree.tokens := by
  rw [tokensAll, tokensAll, List.append_nil]

end Nested

namespace Node

theorem tokens_eq (n : t.Node) : n.tokens = n.token?.toList ++ n.children.flatMap tokens := by
  rw [tokens, descendants_eq, List.filterMap_cons, List.filterMap_flatMap]
  cases n.token? <;> rfl

theorem token?_of_token {n : t.Node} {token : Token} (found : n.token = .ok token) :
    n.token? = some token := by
  unfold Node.token at found
  cases present : n.token? with
  | none =>
      rw [present] at found
      cases found
  | some other =>
      rw [present] at found
      cases found
      rfl

theorem text_of_token {n : t.Node} {token : Token} (spelled : n.token = .ok token)
    (childless : n.children = []) : n.text = token.text := by
  rw [text, tokens_eq, token?_of_token spelled, childless]
  simp

theorem token?_of_notALeaf {n : t.Node} {e : TreeError} (failed : n.token = .error e) :
    n.token? = none := by
  unfold Node.token at failed
  cases present : n.token? with
  | none => rfl
  | some other =>
      rw [present] at failed
      cases failed

end Node

mutual
theorem Node.Reads.tokens {n : t.Node} : {tree : Nested} → n.Reads tree → n.tokens = tree.tokens
  | .leaf .., ⟨_, _, _, token, _, childless⟩ => by
      rw [n.tokens_eq, Node.token?_of_token token, childless]
      rfl
  | .node .., ⟨_, _, _, token, _, below⟩ => by
      rw [n.tokens_eq, Node.token?_of_notALeaf token, ReadsAll.tokens below]
      rfl

theorem ReadsAll.tokens {ns : List t.Node} : {trees : List Nested} → ReadsAll ns trees →
    ns.flatMap Node.tokens = Nested.tokensAll trees
  | [], childless => by
      cases childless
      rfl
  | first :: rest, ⟨n, others, same, reads, below⟩ => by
      cases same
      rw [List.flatMap_cons, Nested.tokensAll, reads.tokens, ReadsAll.tokens below]
end

end TreeLint.Tree

namespace TreeLint.Java

open TreeLint.Tree Lowering

namespace Concrete

mutual
/-- The childless phrases that are not in a comment, and no comments. -/
def leaves : Concrete → List Head
  | .node head children =>
      if isComment (.node head children) then []
      else if children.isEmpty then [head]
      else leavesAll children

def leavesAll : List Concrete → List Head
  | [] => []
  | first :: rest => leaves first ++ leavesAll rest
end

/-- Composite also without children: the phrases that have a kind of their own, and the one whose
children go into its parent. -/
def isPhrase (head : Head) : Bool := (ownKind? head.raw).isSome || head.raw == splicedRaw

def words (c : Concrete) : List Head := c.leaves.filter fun head => !isPhrase head

def wordsAll (phrases : List Concrete) : List Head :=
  (leavesAll phrases).filter fun head => !isPhrase head

theorem isPhrase_of_spliced {head : Head} (spliced : head.raw = splicedRaw) :
    isPhrase head = true := by
  rw [isPhrase, beq_iff_eq.2 spliced, Bool.or_true]

theorem isPhrase_of_composite {head : Head} {kind : Kind}
    (composite : compositeKind? (node head []) = some kind) : isPhrase head = true := by
  cases own : ownKind? head.raw with
  | none =>
      have leaf : compositeKind? (node head []) = none := compositeKind?_eq_none_iff.2 ⟨own, rfl⟩
      cases leaf.symm.trans composite
  | some _ => rw [isPhrase, own, Option.isSome_some, Bool.true_or]

theorem isPhrase_of_leaf {head : Head} {children : List Concrete} (whole : head.raw ≠ splicedRaw)
    (leaf : compositeKind? (node head children) = none) : isPhrase head = false := by
  have own : ownKind? head.raw = none := (compositeKind?_eq_none_iff.1 leaf).1
  rw [isPhrase, own, beq_eq_false_iff_ne.2 whole]
  rfl

@[simp] theorem wordsAll_cons (c : Concrete) (rest : List Concrete) :
    wordsAll (c :: rest) = c.words ++ wordsAll rest := by
  rw [wordsAll, leavesAll, List.filter_append]
  rfl

theorem words_comment {c : Concrete} (comment : c.isComment = true) : c.words = [] := by
  obtain ⟨head, children⟩ := c
  rw [words, leaves, if_pos comment]
  rfl

theorem words_leaf {head : Head} (code : (node head []).isComment = false)
    (token : isPhrase head = false) : words (node head []) = [head] := by
  rw [words, leaves, code, if_neg Bool.false_ne_true, if_pos List.isEmpty_nil]
  simp [token]

theorem words_phrase {head : Head} {children : List Concrete}
    (code : (node head children).isComment = false)
    (phrase : children = [] → isPhrase head = true) :
    words (node head children) = wordsAll children := by
  rw [words, leaves, code, if_neg Bool.false_ne_true]
  cases children with
  | nil =>
      rw [if_pos List.isEmpty_nil]
      simp [phrase rfl, wordsAll, leavesAll]
  | cons first rest =>
      rw [List.isEmpty_cons, if_neg Bool.false_ne_true]
      rfl

end Concrete

def Head.token (head : Head) : Token := ⟨head.text, head.span⟩

@[simp] theorem tokens_phraseTree (parent : String) (c : Concrete) (kind : Kind)
    (children : List Nested) :
    (phraseTree parent c kind children).tokens = Nested.tokensAll children := by
  unfold phraseTree
  split
  · exact Nested.tokensAll_singleton _
  · rfl

@[simp] theorem tokens_leafTree (parent : String) (first : Bool) (c : Concrete) :
    (leafTree parent first c).tokens = [c.head.token] := by
  unfold leafTree
  split <;> rfl

mutual
theorem tokens_lowered (parent : String) (first : Bool) : (c : Concrete) →
    Nested.tokensAll (lowered parent first c) = c.words.map Head.token
  | .node head children => by
      rw [lowered]
      cases code : (Concrete.node head children).isComment with
      | true =>
          rw [Concrete.words_comment code]
          rfl
      | false =>
          rw [if_neg Bool.false_ne_true]
          by_cases spliced : head.raw = splicedRaw
          · have phrase := Concrete.isPhrase_of_spliced spliced
            rw [if_pos (beq_iff_eq.2 spliced), Concrete.words_phrase code fun _ => phrase]
            exact tokens_loweredAll head.raw true children
          · rw [if_neg (mt beq_iff_eq.1 spliced)]
            cases composite : compositeKind? (.node head children) with
            | none =>
                have token := Concrete.isPhrase_of_leaf spliced composite
                have childless : children = [] := (compositeKind?_eq_none_iff.1 composite).2
                cases childless
                rw [Concrete.words_leaf code token, Nested.tokensAll_singleton, tokens_leafTree]
                rfl
            | some kind =>
                have phrase (childless : children = []) : Concrete.isPhrase head = true := by
                  cases childless
                  exact Concrete.isPhrase_of_composite composite
                rw [Concrete.words_phrase code phrase, Nested.tokensAll_singleton,
                  tokens_phraseTree]
                exact tokens_loweredAll head.raw true children

theorem tokens_loweredAll (parent : String) (first : Bool) : (phrases : List Concrete) →
    Nested.tokensAll (loweredAll parent first phrases) =
      (Concrete.wordsAll phrases).map Head.token
  | [] => rfl
  | c :: rest => by
      rw [loweredAll, Nested.tokensAll_append, tokens_lowered parent first c,
        tokens_loweredAll parent false rest, Concrete.wordsAll_cons, List.map_append]
end

namespace Concrete

mutual
def comments : Concrete → List Head
  | .node head children => if isComment (.node head children) then [head] else commentsAll children

def commentsAll : List Concrete → List Head
  | [] => []
  | first :: rest => comments first ++ commentsAll rest
end

end Concrete

/-- Characters with the bytes where they start. -/
def placed (byte : Nat) : List Char → List (Nat × Char)
  | [] => []
  | c :: rest => (byte, c) :: placed (byte + c.utf8Size) rest

/-- The characters of a source that are picked, each with the byte where it starts. -/
def pick (source : String) (picked : Nat × Char → Bool) : String :=
  String.ofList (((placed 0 source.toList).filter picked).map (·.2))

def Head.spans (head : Head) (byte : Nat) : Bool :=
  head.span.startByte ≤ byte && byte < head.span.endByte

def anySpans (heads : List Head) (byte : Nat) : Bool := heads.any (·.spans byte)

/-- What is expected of a parser: the words are cut from the source in order, and cover all of it
but for comments and white space. -/
structure Concrete.Covers (c : Concrete) (source : String) : Prop where
  text : ∀ word ∈ c.words, word.text = pick source fun (byte, _) => word.spans byte
  ordered : c.words.Pairwise fun a b => a.span.endByte ≤ b.span.startByte
  apart : ∀ place ∈ placed 0 source.toList,
    anySpans c.words place.1 = true → anySpans c.comments place.1 = false
  complete : ∀ place ∈ placed 0 source.toList,
    anySpans c.words place.1 || anySpans c.comments place.1 || Text.isBlank place.2

theorem le_of_mem_placed {byte : Nat} {chars : List Char} {place : Nat × Char}
    (member : place ∈ placed byte chars) : byte ≤ place.1 := by
  induction chars generalizing byte with
  | nil => cases member
  | cons c rest ih =>
      rcases List.mem_cons.1 member with rfl | later
      · exact Nat.le_refl _
      · have := ih later
        omega

theorem placed_ascending (byte : Nat) (chars : List Char) :
    (placed byte chars).Pairwise fun a b => a.1 < b.1 := by
  induction chars generalizing byte with
  | nil => exact .nil
  | cons c rest ih =>
      refine .cons (fun place member => ?_) (ih _)
      have := le_of_mem_placed member
      have := c.utf8Size_pos
      omega

theorem filter_append_filter {places : List (Nat × Char)}
    (ascending : places.Pairwise fun a b => a.1 < b.1) {p q : Nat × Char → Bool}
    (before : ∀ a b, p a = true → q b = true → a.1 < b.1) :
    places.filter p ++ places.filter q = places.filter fun place => p place || q place := by
  induction ascending with
  | nil => rfl
  | @cons place rest first ascending ih =>
      cases inFront : p place with
      | true =>
          have notBehind : q place = false := by
            apply Bool.eq_false_iff.2
            intro behind
            exact Nat.lt_irrefl _ (before place place inFront behind)
          simp [inFront, notBehind, ih]
      | false =>
          cases behind : q place with
          | false => simp [inFront, behind, ih]
          | true =>
              -- All that is left lies after a place that `q` picks, where `p` picks nothing.
              have nothing : rest.filter p = [] := by
                rw [List.filter_eq_nil_iff]
                intro other member inFront
                have := first other member
                have := before other place inFront behind
                omega
              rw [nothing, List.nil_append] at ih
              simp [inFront, behind, nothing, ih]

theorem flatMap_filter_spans {places : List (Nat × Char)}
    (ascending : places.Pairwise fun a b => a.1 < b.1) {heads : List Head}
    (ordered : heads.Pairwise fun a b => a.span.endByte ≤ b.span.startByte) :
    heads.flatMap (fun head => places.filter fun place => head.spans place.1) =
      places.filter fun place => anySpans heads place.1 := by
  induction ordered with
  | nil => simp [anySpans]
  | @cons head rest first ordered ih =>
      -- By induction the rest are one cut already, so there are two to join.
      rw [List.flatMap_cons, ih, filter_append_filter ascending]
      · rfl
      · intro a b here later
        obtain ⟨other, member, spans⟩ := List.any_eq_true.1 later
        have := first other member
        simp only [Head.spans, Bool.and_eq_true, decide_eq_true_eq] at here spans
        omega

/-- The source without comments and without the white space outside of words. -/
def Concrete.spelled (c : Concrete) (source : String) : String :=
  pick source fun (byte, char) =>
    !anySpans c.comments byte && (anySpans c.words byte || !Text.isBlank char)

/-- The source without comments and without white space. -/
def Concrete.stripped (c : Concrete) (source : String) : String :=
  pick source fun (byte, char) => !anySpans c.comments byte && !Text.isBlank char

theorem pick_congr {source : String} {p q : Nat × Char → Bool}
    (same : ∀ place ∈ placed 0 source.toList, p place = q place) :
    pick source p = pick source q := by
  rw [pick, List.filter_congr same]
  rfl

namespace Concrete.Covers

variable {c : Concrete} {source : String}

theorem join_eq (covers : c.Covers source) :
    String.join (c.words.map (·.text)) = pick source fun place => anySpans c.words place.1 := by
  apply String.toList_inj.1
  rw [String.toList_join, List.flatMap_map, pick, String.toList_ofList,
    ← flatMap_filter_spans (placed_ascending 0 source.toList) covers.ordered, List.map_flatMap,
    List.flatMap_def, List.flatMap_def]
  refine congrArg List.flatten (List.map_congr_left fun word member => ?_)
  rw [covers.text word member, pick, String.toList_ofList]

theorem spelled_eq (covers : c.Covers source) :
    c.spelled source = pick source fun place => anySpans c.words place.1 := by
  refine pick_congr fun place member => ?_
  have apart := covers.apart place member
  have complete := covers.complete place member
  dsimp only
  cases inWord : anySpans c.words place.1 with
  | true => simp [apart inWord]
  | false =>
      cases inComment : anySpans c.comments place.1 with
      | true => rfl
      | false => simpa [inWord, inComment] using complete

theorem mem_text (covers : c.Covers source) {word : Head} (member : word ∈ c.words)
    {place : Nat × Char} (inside : place ∈ placed 0 source.toList)
    (spans : word.spans place.1 = true) : place.2 ∈ word.text.toList := by
  rw [covers.text word member, pick, String.toList_ofList]
  exact List.mem_map_of_mem (List.mem_filter.2 ⟨inside, spans⟩)

theorem stripped_eq (covers : c.Covers source)
    (solid : ∀ word ∈ c.words, word.text.toList.any Text.isBlank = false) :
    c.stripped source = c.spelled source := by
  refine pick_congr fun place inside => ?_
  dsimp only
  cases inWord : anySpans c.words place.1 with
  | false => rw [Bool.false_or]
  | true =>
      obtain ⟨word, member, spans⟩ := List.any_eq_true.1 inWord
      have notBlank : Text.isBlank place.2 = false := by
        apply Bool.eq_false_iff.2
        exact List.any_eq_false.1 (solid word member) place.2 (covers.mem_text member inside spans)
      rw [notBlank, Bool.not_false, Bool.or_true]

end Concrete.Covers

/-- The tokens of a lowered tree are the words.  If these cover a source, they spell it. -/
theorem lower_spells_words (id : TreeId) {root : Concrete} (code : root.isComment = false)
    (whole : root.raw ≠ splicedRaw) :
    ∃ t, root.lower id = .ok t ∧ t.root.tokens = root.words.map Head.token ∧
      ∀ source, root.Covers source →
        t.root.text = root.spelled source ∧
        ((∀ word ∈ root.words, word.text.toList.any Text.isBlank = false) →
          t.root.text = root.stripped source) := by
  obtain ⟨tree, t, becomes, made, records, _⟩ := exists_lower_eq_ok id code whole
  have reads : t.root.Reads tree := Stands.reads tree (stands_root records)
  have tokens : t.root.tokens = root.words.map Head.token := by
    rw [reads.tokens, ← tokens_lowered "" true root, becomes, Nested.tokensAll_singleton]
  refine ⟨t, made, tokens, fun source covers => ?_⟩
  have text : t.root.text = root.spelled source := by
    rw [Tree.Node.text, tokens, List.map_map, covers.spelled_eq, ← covers.join_eq]
    rfl
  exact ⟨text, fun solid => text.trans (covers.stripped_eq solid).symm⟩

theorem constantAndBlock_spelled :
    constantAndBlock.isComment = false ∧ constantAndBlock.raw ≠ splicedRaw ∧
      ∃ t, constantAndBlock.lower ⟨0⟩ = .ok t ∧
        t.root.tokens.map (·.text) = ["A", ";", ";", ";"] ∧
        constantAndBlock.Covers "A;/**/; ; " ∧ t.root.text = "A;;;" := by
  have code : constantAndBlock.isComment = false := by decide
  have whole : constantAndBlock.raw ≠ splicedRaw := by decide
  obtain ⟨t, made, tokens, spells⟩ := lower_spells_words ⟨0⟩ code whole
  have own : ownKind? "identifier" = none ∧ ownKind? ";" = none := by decide
  have words : constantAndBlock.words = [sample "identifier" true "A" 0 1,
      sample ";" false ";" 1 2, sample ";" false ";" 6 7, sample ";" false ";" 8 9] := by
    simp [constantAndBlock, Concrete.words, Concrete.leaves, Concrete.leavesAll, Concrete.isComment,
      Concrete.isPhrase, Concrete.raw, Concrete.head, sample, splicedRaw, own]
  have comments : constantAndBlock.comments = [sample "block_comment" true "/**/" 2 6] := by
    decide
  have covers : constantAndBlock.Covers "A;/**/; ; " := by
    refine ⟨?_, ?_, ?_, ?_⟩
    · rw [words]
      decide
    · rw [words]
      decide
    · rw [words, comments]
      decide
    · rw [words, comments]
      decide
  have text := (spells _ covers).2 (by rw [words]; decide)
  refine ⟨code, whole, t, made, ?_, covers, ?_⟩
  · rw [tokens, words]
    simp [sample, Head.token]
  · rw [text, Concrete.stripped, comments]
    decide

end TreeLint.Java

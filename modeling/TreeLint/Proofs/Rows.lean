import TreeLint.Proofs.Leaves
import TreeLint.Proofs.Renderings

/-! Rows that a parser starts at line feeds, and the lines of the nodes that stand there. -/

namespace TreeLint

namespace Text

def bytes : List Char → Nat
  | [] => 0
  | c :: rest => c.utf8Size + bytes rest

@[simp] theorem bytes_append (front back : List Char) :
    bytes (front ++ back) = bytes front + bytes back := by
  induction front with
  | nil => simp [bytes]
  | cons c rest ih => simp [bytes, ih, Nat.add_assoc]

theorem eq_nil_of_bytes_eq_zero {text : List Char} (empty : bytes text = 0) : text = [] := by
  cases text with
  | nil => rfl
  | cons c rest =>
      have := c.utf8Size_pos
      rw [bytes] at empty
      omega

theorem eq_of_bytes_eq {whole front other : List Char} (isFront : front <+: whole)
    (isOther : other <+: whole) (same : bytes front = bytes other) : front = other := by
  rcases List.prefix_or_prefix_of_prefix isFront isOther with ⟨more, rfl⟩ | ⟨more, rfl⟩
  · rw [bytes_append] at same
    have empty : bytes more = 0 := by omega
    rw [eq_nil_of_bytes_eq_zero empty, List.append_nil]
  · rw [bytes_append] at same
    have empty : bytes more = 0 := by omega
    rw [eq_nil_of_bytes_eq_zero empty, List.append_nil]

end Text

open Text

/-- The span is what a parser says that starts a row at each line feed. -/
def Span.CountsRows (source : String) (s : Span) : Prop :=
  ∃ startByte endByte start stop, s = .ofPoints startByte endByte start stop ∧
    ∀ front c rest, source.toList = front ++ c :: rest → startByte = bytes front →
      start.row = front.count '\n'

theorem Span.countsRows_ofPoints {source : String} {front : List Char}
    (isFront : front <+: source.toList) {startByte endByte : Nat} {start stop : Point}
    (byte : startByte = bytes front) (row : start.row = front.count '\n') :
    (ofPoints startByte endByte start stop).CountsRows source := by
  refine ⟨_, _, _, _, rfl, ?_⟩
  intro other c rest here same
  rw [row, eq_of_bytes_eq isFront ⟨c :: rest, here.symm⟩ (byte.symm.trans same)]

theorem Span.CountsRows.line_eq {source : String} {s : Span} (counts : s.CountsRows source)
    {front rest : List Char} {c : Char} (here : source.toList = front ++ c :: rest)
    (starts : s.startByte = bytes front) : s.startLine = front.count '\n' + 1 := by
  obtain ⟨startByte, endByte, start, stop, rfl, rows⟩ := counts
  exact congrArg (· + 1) (rows front c rest here starts)

theorem Span.CountsRows.cover {source : String} {a b : Span} (counts : a.CountsRows source)
    (counts' : b.CountsRows source) : (a.cover b).CountsRows source := by
  obtain ⟨startA, endA, pointA, stopA, rfl, rowsA⟩ := counts
  obtain ⟨startB, endB, pointB, stopB, rfl, rowsB⟩ := counts'
  unfold Span.cover
  dsimp only
  split <;> split
  · exact ⟨_, _, _, _, rfl, rowsA⟩
  · exact ⟨_, _, _, _, rfl, rowsA⟩
  · exact ⟨_, _, _, _, rfl, rowsB⟩
  · exact ⟨_, _, _, _, rfl, rowsB⟩

namespace Java

open TreeLint.Tree Lowering Concrete

namespace Lexer.Place

@[simp] theorem passAll_byte (p : Place) (text : List Char) :
    (p.passAll text).byte = p.byte + bytes text := by
  induction text generalizing p with
  | nil => rfl
  | cons c rest ih =>
      have passed : (p.pass c).byte = p.byte + c.utf8Size := by
        unfold pass
        split <;> rfl
      change ((p.pass c).passAll rest).byte = _
      rw [ih, passed, Nat.add_assoc]
      rfl

@[simp] theorem passAll_row (p : Place) (text : List Char) :
    (p.passAll text).point.row = p.point.row + text.count '\n' := by
  induction text generalizing p with
  | nil => rfl
  | cons c rest ih =>
      change ((p.pass c).passAll rest).point.row = _
      rw [ih]
      by_cases feed : c = '\n'
      · subst feed
        simp [pass]
        omega
      · simp [pass, feed]

theorem countsRows_spanTo {source : String} {front : List Char} (isFront : front <+: source.toList)
    (stop : Place) : ((start.passAll front).spanTo stop).CountsRows source := by
  apply Span.countsRows_ofPoints isFront
  · rw [passAll_byte, start, Nat.zero_add]
  · rw [passAll_row, start, Nat.zero_add]

end Lexer.Place

def Concrete.CountsRows (source : String) (root : Concrete) : Prop :=
  ∀ c, Below root c → c.span.CountsRows source

theorem kept_rows (source : String) :
    Kept (fun x => x.span.CountsRows source) (Concrete.CountsRows source) where
  leaf x raw named counts := by
    intro d below
    rcases below.cases with rfl | ⟨e, listed, _⟩
    · exact counts
    · cases listed
  joined text x last counts counts' := by
    intro d below
    rcases below.cases with rfl | ⟨e, listed, _⟩
    · exact counts.cover counts'
    · cases listed
  node raw children first here last there holds := by
    intro d below
    rcases below.cases with rfl | ⟨e, listed, inner⟩
    · exact (holds first here first .self).cover (holds last there last .self)
    · exact holds e listed d inner
  role name c holds := by
    intro d below
    obtain ⟨head, children⟩ := c
    rcases below.cases with rfl | ⟨e, listed, inner⟩
    · exact holds (.node head children) .self
    · exact holds d (.of_child listed inner)

namespace Lexer

@[simp] theorem scan_stop (frames : List Frame) (place : Place) (glued : Bool) (text : List Char) :
    (scan frames place glued text).2 = place.passAll text := by
  cases text with
  | nil =>
      rw [scan]
      rfl
  | cons c rest =>
      rw [scan]
      cases found : extent frames c rest with
      | mk sort n =>
          have later (frames : List Frame) (glued : Bool) :
              (scan frames (place.passAll (c :: rest.take n)) glued (rest.drop n)).2 =
                place.passAll (c :: rest) := by
            rw [scan_stop, ← Place.passAll_append, List.cons_append, List.take_append_drop]
          cases sort with
          | blank => exact later _ _
          | _ => exact later _ _
termination_by text.length

end Lexer

theorem stop_of_lexemes (source : String) :
    (lexemes source).2 = Lexer.Place.start.passAll source.toList := by
  unfold lexemes
  split
  next c rest text =>
    rw [text]
    split
    · exact Lexer.scan_stop ..
    · exact Lexer.scan_stop ..
  next text =>
    rw [text]
    rfl

theorem countsRows_concreteTree (source : String) : (concreteTree source).CountsRows source := by
  have lexeme : ∀ x ∈ (lexemes source).1, x.span.CountsRows source := by
    intro x member
    obtain ⟨front, stop, isFront, same⟩ := exists_start_of_lexeme source x member
    rw [same]
    exact Lexer.Place.countsRows_spanTo isFront stop
  have stop : ((lexemes source).2.spanTo (lexemes source).2).CountsRows source := by
    rw [stop_of_lexemes]
    exact Lexer.Place.countsRows_spanTo List.prefix_rfl _
  have start : (((lexemes source).1.head?.map (·.span)).getD
      ((lexemes source).2.spanTo (lexemes source).2)).CountsRows source := by
    cases first : (lexemes source).1.head? with
    | none => exact stop
    | some x => exact lexeme x (List.mem_of_mem_head? first)
  intro d below
  rcases below.cases with rfl | ⟨e, listed, inner⟩
  · exact start.cover stop
  · exact (kept_rows source).readAll lexeme e listed d inner

/-- All spans of the tree are given, and have the property. -/
inductive Spanned (fits : Span → Prop) : Nested → Prop
  | leaf {field? rawKind? : Option String} {kind : Kind} {text : String} {span : Span}
    (here : fits span) : Spanned fits (.leaf field? kind rawKind? text span)
  | node {field? : Option String} {kind : Kind} {raw : String} {span : Span}
    {children : List Nested} (here : fits span) (below : ∀ tree ∈ children, Spanned fits tree) :
    Spanned fits (.node field? kind (some (raw, span)) children)

section Spans

variable {fits : Span → Prop} {t : Tree}

theorem spanned_phraseTree {parent : String} {c : Concrete} {kind : Kind} {trees : List Nested}
    (here : fits c.span) (below : ∀ tree ∈ trees, Spanned fits tree) :
    Spanned fits (phraseTree parent c kind trees) := by
  unfold phraseTree
  split
  · refine .node here ?_
    rw [List.forall_mem_singleton]
    exact .node here below
  · exact .node here below

theorem spanned_leafTree {parent : String} {first : Bool} {c : Concrete} (here : fits c.span) :
    Spanned fits (leafTree parent first c) := by
  unfold leafTree
  split
  · refine .node here ?_
    rw [List.forall_mem_singleton]
    exact .leaf here
  · exact .leaf here

mutual
theorem spanned_lowered (parent : String) (first : Bool) : (c : Concrete) →
    (∀ d, Below c d → fits d.span) → ∀ tree ∈ lowered parent first c, Spanned fits tree
  | .node head children, all => by
      have here : fits (Concrete.node head children).span := all _ .self
      have below := spanned_loweredAll head.raw true children
        fun c listed d inner => all d (.of_child listed inner)
      rw [lowered]
      split
      · exact nofun
      · split
        · exact below
        · split <;> rw [List.forall_mem_singleton]
          · exact spanned_phraseTree here below
          · exact spanned_leafTree here

theorem spanned_loweredAll (parent : String) (first : Bool) : (phrases : List Concrete) →
    (∀ c ∈ phrases, ∀ d, Below c d → fits d.span) →
    ∀ tree ∈ loweredAll parent first phrases, Spanned fits tree
  | [], _ => nofun
  | c :: rest, all => by
      obtain ⟨here, later⟩ := List.forall_mem_cons.1 all
      rw [loweredAll, List.forall_mem_append]
      exact ⟨spanned_lowered parent first c here, spanned_loweredAll parent false rest later⟩
end

mutual
theorem Spanned.of_reads {n : t.Node} : {tree : Nested} → Spanned fits tree → n.Reads tree →
    ∀ m ∈ n.descendants, fits m.span
  | .leaf .., .leaf here, ⟨_, _, _, _, span, childless⟩ => by
      rw [n.descendants_eq, childless, List.flatMap_nil, List.forall_mem_singleton, span]
      exact here
  | .node .., .node here below, ⟨_, _, _, _, span, reads⟩ => by
      rw [n.descendants_eq, List.forall_mem_cons, span _ rfl]
      exact ⟨here, Spanned.of_readsAll below reads⟩

theorem Spanned.of_readsAll {ns : List t.Node} : {trees : List Nested} →
    (∀ tree ∈ trees, Spanned fits tree) → ReadsAll ns trees →
    ∀ m ∈ ns.flatMap Node.descendants, fits m.span
  | [], _, childless => by
      cases childless
      exact nofun
  | first :: rest, all, ⟨n, others, same, reads, below⟩ => by
      cases same
      obtain ⟨here, later⟩ := List.forall_mem_cons.1 all
      rw [List.flatMap_cons, List.forall_mem_append]
      exact ⟨here.of_reads reads, Spanned.of_readsAll later below⟩
end

theorem exists_lower_with_spans (id : TreeId) {root : Concrete} (code : root.isComment = false)
    (whole : root.raw ≠ splicedRaw) :
    ∃ t, root.lower id = .ok t ∧ ∀ n : t.Node, ∃ c, Below root c ∧ n.span = c.span := by
  obtain ⟨tree, t, becomes, made, records, _⟩ := exists_lower_eq_ok id code whole
  have kinds := wellKinded_lowered "" true root
  have spans : ∀ tree ∈ lowered "" true root, Spanned (fun s => ∃ c, Below root c ∧ s = c.span)
      tree := spanned_lowered "" true root fun d below => ⟨d, below, rfl⟩
  rw [becomes, List.forall_mem_singleton] at kinds spans
  have laid : LaidOut t (Nested.settle .empty tree).1 := ⟨records, kinds.settle .empty⟩
  refine ⟨t, made, fun n => ?_⟩
  exact spans.of_reads (Stands.reads tree (stands_root records)) n
    (laid.wellNumbered.mem_descendants n)

end Spans

end Java

end TreeLint

import TreeLint.Proofs.Lowered
import TreeLint.Proofs.Numbering
import TreeLint.Proofs.Shapes

/-! The phrase that each node of a lowered tree stands for. -/

namespace TreeLint.Java

open TreeLint.Tree Lowering Concrete

variable {t : Tree} {n m p : t.Node} {c d root host : Concrete} {parent : String} {first : Bool}
  {ns : List t.Node}

namespace Lowering

theorem wellKinded_phraseTree {kind : Kind} (composite : kind.isToken = false)
    {trees : List Nested} (kinds : ∀ tree ∈ trees, tree.WellKinded) :
    (phraseTree parent c kind trees).WellKinded := by
  unfold phraseTree
  split
  · refine .node rfl ?_
    rw [List.forall_mem_singleton]
    exact .node composite kinds
  · exact .node composite kinds

theorem wellKinded_leafTree : (leafTree parent first c).WellKinded := by
  unfold leafTree
  split
  · refine .node rfl ?_
    rw [List.forall_mem_singleton]
    exact .leaf rfl
  · refine .leaf ?_
    split
    · rfl
    · exact isToken_leafKind c

mutual
theorem wellKinded_lowered (parent : String) (first : Bool) :
    (c : Concrete) → ∀ tree ∈ lowered parent first c, tree.WellKinded
  | .node head children => by
      have below := wellKinded_loweredAll head.raw true children
      rw [lowered]
      split
      · exact nofun
      · split
        · exact below
        · split
          next composite =>
            rw [List.forall_mem_singleton]
            exact wellKinded_phraseTree (isToken_compositeKind composite) below
          next =>
            rw [List.forall_mem_singleton]
            exact wellKinded_leafTree

theorem wellKinded_loweredAll (parent : String) (first : Bool) :
    (phrases : List Concrete) → ∀ tree ∈ loweredAll parent first phrases, tree.WellKinded
  | [] => nofun
  | c :: rest => by
      rw [loweredAll, List.forall_mem_append]
      exact ⟨wellKinded_lowered parent first c, wellKinded_loweredAll parent false rest⟩
end

end Lowering

/-- The node has the name and the kind of the phrase, and its children are those of the phrase. -/
structure Renders (n : t.Node) (c : Concrete) : Prop where
  rawKind : n.rawKind = c.raw
  kind : compositeKind? c = some n.kind
  children : ReadsAll n.children (loweredAll c.raw true c.children)

/-- What a phrase inside a phrase of the given name is shown as. -/
inductive Shows (parent : String) (c : Concrete) (n : t.Node) : Prop
  | phrase (field? : n.field? = c.head.field?) (renders : Renders n c)
  | anonymous (isBody : c.raw = "class_body") (site : parent ∈ anonymousClassParents)
      (rawKind : n.rawKind = anonymousClass) (body : t.Node) (children : n.children = [body])
      (renders : Renders body c) (field? : n.field? = c.head.field?) (kind : n.kind = .class)
      (inner : body.field? = some "body")
  | leaf (field? : n.field? = c.head.field?) (rawKind : n.rawKind = c.raw)
      (plain : compositeKind? c = none) (kind : c.raw ≠ ";" → n.kind = leafKind c)
      (token : n.kind.isToken) (childless : n.children = [])
      (spelled : n.token = .ok ⟨c.head.text, c.span⟩)
  | statement (isSemicolon : c.raw = ";") (field? : n.field? = c.head.field?)
      (rawKind : n.rawKind = "empty_statement") (plain : compositeKind? c = none)
      (kind : n.kind = .emptyStatement) (semicolon : t.Node) (children : n.children = [semicolon])
      (token : semicolon.kind.isToken) (childless : semicolon.children = [])
      (semicolonRaw : semicolon.rawKind = ";")

theorem Renders.kind_eq {kind : Kind} (renders : Renders n c)
    (composite : compositeKind? c = some kind) : n.kind = kind :=
  Option.some.inj (renders.kind.symm.trans composite)

theorem Renders.childless (renders : Renders n c) (empty : c.children = []) : n.children = [] := by
  have reads := renders.children
  rw [empty] at reads
  exact reads

theorem Shows.renders {kind : Kind} (shows : Shows parent c n)
    (composite : compositeKind? c = some kind) (notBody : c.raw ≠ "class_body") :
    n.field? = c.head.field? ∧ Renders n c := by
  cases shows with
  | phrase field? renders => exact ⟨field?, renders⟩
  | anonymous isBody => exact absurd isBody notBody
  | leaf _ _ plain => cases plain.symm.trans composite
  | statement _ _ _ plain => cases plain.symm.trans composite

theorem Shows.isLeaf (shows : Shows parent c n) (plain : compositeKind? c = none)
    (notSemicolon : c.raw ≠ ";") : n.rawKind = c.raw ∧ n.kind = leafKind c := by
  cases shows with
  | phrase _ renders => cases plain.symm.trans renders.kind
  | anonymous _ _ _ _ _ renders => cases plain.symm.trans renders.kind
  | leaf _ rawKind _ kind => exact ⟨rawKind, kind notSemicolon⟩
  | statement isSemicolon => exact absurd isSemicolon notSemicolon

theorem Renders.not_isLeaf (numbered : WellNumbered t) (renders : Renders n c) :
    n.isLeaf = false := by
  refine Bool.eq_false_iff.2 fun leaf => ?_
  have token : n.kind.isToken := (numbered.token_iff n).1 leaf
  rw [isToken_compositeKind renders.kind] at token
  cases token

theorem Shows.rawKind_eq (shows : Shows parent c n) (notBody : c.raw ≠ "class_body")
    (notSemicolon : c.raw ≠ ";") : n.rawKind = c.raw := by
  cases shows with
  | phrase _ renders => exact renders.rawKind
  | anonymous isBody => exact absurd isBody notBody
  | leaf _ rawKind => exact rawKind
  | statement isSemicolon => exact absurd isSemicolon notSemicolon

theorem Shows.field?_eq (shows : Shows parent c n) : n.field? = c.head.field? := by
  cases shows with
  | phrase field? => exact field?
  | anonymous _ _ _ _ _ _ field? => exact field?
  | leaf field? => exact field?
  | statement _ field? => exact field?

@[simp] theorem readsAll_singleton {tree : Nested} :
    ReadsAll ns [tree] ↔ ∃ n, ns = [n] ∧ n.Reads tree := by
  constructor
  · rintro ⟨n, others, rfl, reads, rfl⟩
    exact ⟨n, rfl, reads⟩
  · rintro ⟨n, rfl, reads⟩
    exact ⟨n, [], rfl, reads, rfl⟩

@[simp] theorem readsAll_append {front back : List Nested} :
    ReadsAll ns (front ++ back) ↔
      ∃ ns₁ ns₂, ns = ns₁ ++ ns₂ ∧ ReadsAll ns₁ front ∧ ReadsAll ns₂ back := by
  induction front generalizing ns with
  | nil =>
      constructor
      · exact fun reads => ⟨[], ns, rfl, rfl, reads⟩
      · rintro ⟨_, _, rfl, rfl, reads⟩
        exact reads
  | cons tree rest ih =>
      constructor
      · rintro ⟨n, others, rfl, reads, later⟩
        obtain ⟨ns₁, ns₂, rfl, front, back⟩ := ih.1 later
        exact ⟨n :: ns₁, ns₂, rfl, ⟨n, ns₁, rfl, reads, front⟩, back⟩
      · rintro ⟨_, ns₂, rfl, ⟨n, others, rfl, reads, front⟩, back⟩
        exact ⟨n, others ++ ns₂, rfl, reads, ih.2 ⟨others, ns₂, rfl, front, back⟩⟩

theorem shows_of_reads (code : c.isComment = false) (whole : c.raw ≠ splicedRaw)
    (reads : ReadsAll ns (lowered parent first c)) : ∃ n, ns = [n] ∧ Shows parent c n := by
  obtain ⟨head, children⟩ := c
  have whole : ¬(head.raw == splicedRaw) = true := mt beq_iff_eq.1 whole
  rw [lowered, code, if_neg Bool.false_ne_true, if_neg whole] at reads
  cases composite : compositeKind? (.node head children) with
  | some kind =>
      rw [composite] at reads
      dsimp only at reads
      obtain ⟨n, rfl, own⟩ := readsAll_singleton.1 reads
      refine ⟨n, rfl, ?_⟩
      unfold phraseTree at own
      split at own
      next anonymous =>
        rw [Bool.and_eq_true, beq_iff_eq, List.contains_iff_mem] at anonymous
        rw [Node.Reads] at own
        obtain ⟨field?, isClass, rawKind, _, _, below⟩ := own
        obtain ⟨body, children, inner⟩ := readsAll_singleton.1 below
        rw [Node.Reads] at inner
        obtain ⟨within, same, name, _, _, below⟩ := inner
        exact .anonymous anonymous.1 anonymous.2 rawKind body children
          ⟨name, same ▸ composite, below⟩ field? isClass within
      next =>
        rw [Node.Reads] at own
        obtain ⟨field?, same, name, _, _, below⟩ := own
        exact .phrase field? ⟨name, same ▸ composite, below⟩
  | none =>
      rw [composite] at reads
      dsimp only at reads
      obtain ⟨n, rfl, own⟩ := readsAll_singleton.1 reads
      refine ⟨n, rfl, ?_⟩
      unfold leafTree at own
      split at own
      next empty =>
        rw [Bool.and_eq_true, beq_iff_eq] at empty
        rw [Node.Reads] at own
        obtain ⟨field?, kind, name, _, _, below⟩ := own
        obtain ⟨semicolon, children, inner⟩ := readsAll_singleton.1 below
        rw [Node.Reads] at inner
        obtain ⟨_, semicolonKind, semicolonRaw, _, _, childless⟩ := inner
        have token : semicolon.kind.isToken := by rw [semicolonKind]; rfl
        exact .statement empty.1 field? name composite kind semicolon children token childless
          (semicolonRaw.trans empty.1)
      next =>
        rw [Node.Reads] at own
        obtain ⟨field?, kind, name, spelled, _, childless⟩ := own
        refine .leaf field? name composite ?_ ?_ childless spelled
        · intro other
          rw [kind, if_neg]
          simp [beq_eq_false_iff_ne.2 other]
        · rw [kind]
          split
          · rfl
          · exact isToken_leafKind _

/-- Every node among those of a phrase's children stands for one of them, or for one that a spliced
phrase among them holds. -/
theorem exists_shown (host : Concrete) (first : Bool) (ns : List t.Node) :
    (phrases : List Concrete) → (∀ c ∈ phrases, c ∈ host.children) →
    ReadsAll ns (loweredAll host.raw first phrases) → ∀ n ∈ ns,
    ∃ h c, Below host h ∧
      (h = host ∨ h.raw = splicedRaw ∧ ∃ s ∈ host.children, s.raw = splicedRaw) ∧
      c ∈ h.children ∧ c.isComment = false ∧ Shows h.raw c n
  | [], _, reads => by
      cases reads
      exact nofun
  | .node head children :: rest, among, reads => by
      obtain ⟨here, among⟩ := List.forall_mem_cons.1 among
      rw [loweredAll] at reads
      obtain ⟨ns₁, ns₂, rfl, reads, later⟩ := readsAll_append.1 reads
      rw [List.forall_mem_append]
      refine ⟨?_, exists_shown host false ns₂ rest among later⟩
      cases code : (Concrete.node head children).isComment with
      | true =>
          rw [lowered, if_pos code] at reads
          cases reads
          exact nofun
      | false =>
          by_cases whole : head.raw = splicedRaw
          · rw [lowered, code, if_neg Bool.false_ne_true, if_pos (beq_iff_eq.2 whole)] at reads
            intro n member
            obtain ⟨h, c, below, same, shown⟩ :=
              exists_shown (.node head children) true ns₁ children (fun _ member => member) reads n
                member
            refine ⟨h, c, .of_child here below, .inr ⟨?_, _, here, whole⟩, shown⟩
            rcases same with rfl | spliced
            · exact whole
            · exact spliced.1
          · obtain ⟨m, rfl, shows⟩ := shows_of_reads code whole reads
            rw [List.forall_mem_singleton]
            exact ⟨host, _, .self, .inl rfl, here, code, shows⟩

theorem exists_showing {phrases : List Concrete} (code : c.isComment = false)
    (whole : c.raw ≠ splicedRaw) (reads : ReadsAll ns (loweredAll parent first phrases))
    (member : c ∈ phrases) : ∃ n ∈ ns, Shows parent c n := by
  induction phrases generalizing ns first with
  | nil => cases member
  | cons d rest ih =>
      rw [loweredAll] at reads
      obtain ⟨ns₁, ns₂, rfl, reads, later⟩ := readsAll_append.1 reads
      rcases List.mem_cons.1 member with rfl | listed
      · obtain ⟨n, rfl, shows⟩ := shows_of_reads code whole reads
        exact ⟨n, List.mem_append_left _ (List.mem_singleton_self n), shows⟩
      · obtain ⟨n, late, shows⟩ := ih later listed
        exact ⟨n, List.mem_append_right _ late, shows⟩

theorem shows_solids {parent : String} {first : Bool} {phrases : List Concrete}
    (whole : ∀ c ∈ solids phrases, c.raw ≠ splicedRaw)
    (reads : ReadsAll ns (loweredAll parent first phrases)) :
    List.Forall₂ (Shows parent) (solids phrases) ns := by
  induction phrases generalizing ns first with
  | nil =>
      cases reads
      exact .nil
  | cons c rest ih =>
      rw [loweredAll] at reads
      obtain ⟨ns₁, ns₂, rfl, reads, later⟩ := readsAll_append.1 reads
      rw [solids, List.filter_cons] at whole ⊢
      cases code : c.isComment with
      | true =>
          obtain ⟨head, children⟩ := c
          rw [lowered, if_pos code] at reads
          cases reads
          rw [code] at whole
          exact ih whole later
      | false =>
          rw [code] at whole
          obtain ⟨here, others⟩ := List.forall_mem_cons.1 whole
          obtain ⟨m, rfl, shows⟩ := shows_of_reads code here reads
          exact .cons shows (ih others later)

theorem Renders.pair (renders : Renders n c) {d e : Concrete} (parts : solids c.children = [d, e])
    (whole : d.raw ≠ splicedRaw) (whole' : e.raw ≠ splicedRaw) :
    ∃ a b, n.children = [a, b] ∧ Shows c.raw d a ∧ Shows c.raw e b := by
  have shown : List.Forall₂ (Shows c.raw) [d, e] n.children := by
    rw [← parts]
    refine shows_solids ?_ renders.children
    rw [parts, List.forall_mem_cons, List.forall_mem_singleton]
    exact ⟨whole, whole'⟩
  obtain ⟨a, _, first, later, children⟩ := List.forall₂_cons_left_iff.1 shown
  obtain ⟨b, _, second, done, rfl⟩ := List.forall₂_cons_left_iff.1 later
  cases done
  exact ⟨a, b, children, first, second⟩

inductive Origin (root : Concrete) (n : t.Node) : Prop
  | top (same : n = t.root)
  | part (host c : Concrete) (below : Below root host) (listed : c ∈ host.children)
      (shows : Shows host.raw c n) (p : t.Node) (parent : n.parent? = some p)
      (sited : Renders p host ∨ host.raw = splicedRaw)
  /-- The body of a class without a name. -/
  | body (c : Concrete) (below : Below root c) (isBody : c.raw = "class_body")
      (renders : Renders n c) (field? : n.field? = some "body")
  /-- The token of a statement without anything in it. -/
  | semicolon (token : n.kind.isToken) (childless : n.children = []) (rawKind : n.rawKind = ";")

theorem Renders.origin_of_child (renders : Renders p c) (below : Below root c)
    (parent : n.parent? = some p) (member : n ∈ p.children) : Origin root n := by
  obtain ⟨h, d, inner, same, listed, _, shows⟩ :=
    exists_shown c true p.children c.children (fun _ member => member) renders.children n member
  have within : Below root h := below.trans inner
  rcases same with rfl | spliced
  · exact .part h d within listed shows p parent (.inl renders)
  · exact .part h d within listed shows p parent (.inr spliced.1)

theorem Origin.child (origin : Origin root p) (top : Renders t.root root)
    (parent : n.parent? = some p) (member : n ∈ p.children) : Origin root n := by
  cases origin with
  | top same =>
      subst same
      exact top.origin_of_child .self parent member
  | part host c below listed shows _ _ _ =>
      have inner : Below root c := .child below listed
      cases shows with
      | phrase _ renders => exact renders.origin_of_child inner parent member
      | anonymous isBody _ _ body children renders _ _ field? =>
          rw [children] at member
          cases List.mem_singleton.1 member
          exact .body c inner isBody renders field?
      | leaf _ _ _ _ _ childless =>
          rw [childless] at member
          cases member
      | statement _ _ _ _ _ semicolon children token childless semicolonRaw =>
          rw [children] at member
          cases List.mem_singleton.1 member
          exact .semicolon token childless semicolonRaw
  | body c below _ renders => exact renders.origin_of_child below parent member
  | semicolon _ childless =>
      rw [childless] at member
      cases member

theorem exists_origin (numbered : WellNumbered t) (top : Renders t.root root) (n : t.Node) :
    Origin root n :=
  match parent : n.parent? with
  | none => .top (Node.index_injective ((numbered.orphan_iff n).1 parent))
  | some p =>
      -- Parents stand before their children.
      have := Node.index_lt_of_parent? parent
      (exists_origin numbered top p).child top parent (numbered.mem_children parent)
termination_by n.index

theorem exists_renders (numbered : WellNumbered t) (top : Renders t.root root)
    (inner : n.isLeaf = false) (own : n.rawKind ∉ [anonymousClass, "empty_statement"]) :
    ∃ c, Below root c ∧ Renders n c := by
  have composite : ¬n.kind.isToken := by
    rw [← numbered.token_iff, ← Node.isLeaf, inner]
    exact Bool.false_ne_true
  simp only [List.mem_cons, List.not_mem_nil, or_false, not_or] at own
  cases exists_origin numbered top n with
  | top same => exact ⟨root, .self, same ▸ top⟩
  | part host c below listed shows =>
      cases shows with
      | phrase _ renders => exact ⟨c, .child below listed, renders⟩
      | anonymous _ _ rawKind => exact absurd rawKind own.1
      | leaf _ _ _ _ token => exact absurd token composite
      | statement _ _ rawKind => exact absurd rawKind own.2
  | body c below _ renders => exact ⟨c, below, renders⟩
  | semicolon token => exact absurd token composite

theorem renders_of_lower {id : TreeId} {root : Concrete} {kind : Kind}
    (own : ownKind? root.raw = some kind) (code : root.isComment = false)
    (notBody : root.raw ≠ "class_body") (made : root.lower id = .ok t) :
    WellNumbered t ∧ Renders t.root root := by
  have composite : compositeKind? root = some kind := by rw [compositeKind?, own]
  have whole : root.raw ≠ splicedRaw := by
    intro spliced
    have none : ownKind? splicedRaw = none := by decide
    rw [spliced, none] at own
    cases own
  obtain ⟨tree, _, becomes, same, records, _⟩ := exists_lower_eq_ok id code whole
  cases made.symm.trans same
  have kinds : tree.WellKinded := by
    have all := wellKinded_lowered "" true root
    rw [becomes, List.forall_mem_singleton] at all
    exact all
  have laid : LaidOut t (Nested.settle .empty tree).1 := ⟨records, kinds.settle .empty⟩
  refine ⟨laid.wellNumbered, ?_⟩
  have reads : ReadsAll [t.root] (lowered "" true root) := by
    rw [becomes]
    exact readsAll_singleton.2 ⟨_, rfl, Stands.reads tree (stands_root records)⟩
  obtain ⟨n, only, shows⟩ := shows_of_reads code whole reads
  cases only
  exact (shows.renders composite notBody).2

theorem Parser.parse_of_lower {p : Parser} {id : TreeId} {source : String}
    (parsed : p source = .ok root) (made : root.lower id = .ok t) : p.parse id source = .ok t := by
  rw [Parser.parse_of_root parsed, made]
  rfl

namespace Concrete.SourceShape

theorem renders {id : TreeId} (shape : SourceShape root) (made : root.lower id = .ok t) :
    WellNumbered t ∧ Renders t.root root :=
  renders_of_lower (by rw [shape.top]; rfl) (by rw [isComment, shape.top]; rfl)
    (by rw [shape.top]; decide) made

theorem exists_lower (shape : SourceShape root) (id : TreeId) :
    ∃ t, root.lower id = .ok t ∧ t.hasErrors = root.hasError ∧ WellNumbered t ∧
      Renders t.root root := by
  have code : root.isComment = false := by rw [isComment, shape.top]; rfl
  have whole : root.raw ≠ splicedRaw := by rw [shape.top]; decide
  obtain ⟨_, t, _, made, _, _, errors⟩ := exists_lower_eq_ok id code whole
  exact ⟨t, made, errors, shape.renders made⟩

theorem of_parse {p : Parser} {id : TreeId} {source : String} (shape : SourceShape root)
    (parsed : p source = .ok root) (made : p.parse id source = .ok t) :
    t.hasErrors = root.hasError ∧ WellNumbered t ∧ Renders t.root root := by
  obtain ⟨_, lowered, stands⟩ := shape.exists_lower id
  cases made.symm.trans (Parser.parse_of_lower parsed lowered)
  exact stands

end Concrete.SourceShape

end TreeLint.Java

import TreeLint.Proofs.Reargued
import TreeLint.Proofs.Superclasses

/-! In the tree of a source nothing that is read as it is spelled holds arguments of types, but
for the annotations between the brackets of arrays. -/

namespace TreeLint.Java

open TreeLint.Tree Lowering Concrete Resolution

variable {t : Tree} {n m p : t.Node} {c d root : Concrete}

def ArgumentFree (n : t.Node) : Prop := ∀ m ∈ n.descendants, m.rawKind ≠ "type_arguments"

theorem raw_of_typeRef {raw : String} (own : ownKind? raw = some .typeRef) : raw ∈ builtTypes := by
  unfold ownKind? at own
  split at own <;> cases own <;> decide

theorem raw_of_parameter {raw : String} (own : ownKind? raw = some .parameter) :
    raw ∈ ["formal_parameter", "spread_parameter", "receiver_parameter"] := by
  unfold ownKind? at own
  split at own <;> cases own <;> decide

theorem raw_of_package {raw : String} (own : ownKind? raw = some .packageDeclaration) :
    raw = "package_declaration" := by
  unfold ownKind? at own
  split at own <;> cases own
  rfl

theorem raw_of_import {raw : String} (own : ownKind? raw = some .importDeclaration) :
    raw = "import_declaration" := by
  unfold ownKind? at own
  split at own <;> cases own
  rfl

theorem mayLead_of_type {parent : String} (shows : Shows parent d m) (isType : IsType d) :
    mayLead m = true := by
  rcases isType.sort with ⟨plain, childless⟩ | ⟨built, filled⟩
  · rw [mayLead, (kind_of_plainType shows plain childless isType.named).2]
    split <;> rfl
  · rw [mayLead, (kind_of_builtType shows (.tail _ built) filled).2]
    split <;> rfl

theorem find?_mayLead {parent : String} {front more : List Concrete} {type : Concrete}
    {ns : List t.Node} (shown : List.Forall₂ (Shows parent) (front ++ type :: more) ns)
    (modifiers : ∀ d ∈ front, d.raw = "modifiers") (isType : IsType type) :
    ∃ m, ns.find? mayLead = some m ∧ Shows parent type m := by
  induction front generalizing ns with
  | nil =>
      obtain ⟨m, _, shows, _, rfl⟩ := List.forall₂_cons_left_iff.1 shown
      exact ⟨m, List.find?_cons_of_pos (mayLead_of_type shows isType), shows⟩
  | cons d rest ih =>
      obtain ⟨raw, modifiers⟩ := List.forall_mem_cons.1 modifiers
      obtain ⟨m, _, shows, later, rfl⟩ := List.forall₂_cons_left_iff.1 shown
      have composite : compositeKind? d = some .modifiers :=
        compositeKind_of_ownKind (by rw [raw]; rfl)
      have kind := (shows.renders composite (by rw [raw]; decide)).2.kind_eq composite
      obtain ⟨b, found, shows⟩ := ih later modifiers
      exact ⟨b, by rw [List.find?_cons_of_neg (by rw [mayLead, kind]; decide), found], shows⟩

section Parsed

variable (shape : NameShape root) (numbered : WellNumbered t) (top : Renders t.root root)

include shape numbered top

theorem argumentFree_of_plain (plain : n.rawKind ∈ plainRaws) : ArgumentFree n := by
  induction n using Node.induction_below with
  | step n ih =>
      have own : ∀ raw ∈ plainRaws, raw ≠ "type_arguments" ∧
          raw ∉ [anonymousClass, "empty_statement"] ∧ raw ≠ "enum_body" ∧ raw ≠ "class_body" ∧
          raw ≠ ";" := by
        decide
      obtain ⟨notArguments, notMade, notEnum, _⟩ := own _ plain
      intro m below
      rw [n.descendants_eq] at below
      rcases List.mem_cons.1 below with rfl | below
      · exact notArguments
      · obtain ⟨child, member, below⟩ := List.mem_flatMap.1 below
        have inner : n.isLeaf = false := Bool.eq_false_iff.2 fun leaf => by
          rw [numbered.leaf n leaf] at member
          cases member
        obtain ⟨c, above, renders⟩ := exists_renders numbered top inner notMade
        obtain ⟨d, listed, code, shows⟩ :=
          exists_shown_child shape.toSourceShape above renders (renders.rawKind ▸ notEnum) member
        have raw := shape.plain c above (renders.rawKind ▸ plain) d listed code
        obtain ⟨_, _, _, notBody, notSemicolon⟩ := own _ raw
        exact ih child member (shows.rawKind_eq notBody notSemicolon ▸ raw) m below

omit top in
theorem argumentFree_of_semicolon {parent : String} (below : Below root d)
    (isSemicolon : d.raw = ";") (shows : Shows parent d n) (inner : n.isLeaf = false) :
    ArgumentFree n := by
  cases shows with
  | phrase _ renders =>
      have plain : compositeKind? d = none := compositeKind?_eq_none_iff.2
        ⟨by rw [isSemicolon]; rfl, shape.semicolon d below isSemicolon⟩
      cases plain.symm.trans renders.kind
  | anonymous isBody => exact absurd (isSemicolon.symm.trans isBody) (by decide)
  | leaf _ _ _ _ token =>
      have leaf : n.isLeaf = true := (numbered.token_iff n).2 token
      cases inner.symm.trans leaf
  | statement _ _ rawKind _ _ semicolon children _ childless semicolonRaw =>
      intro m below
      rw [n.descendants_eq, children, List.flatMap_singleton, semicolon.descendants_eq,
        childless] at below
      simp only [List.flatMap_nil, List.mem_cons, List.not_mem_nil, or_false] at below
      rcases below with rfl | rfl
      · rw [rawKind]
        decide
      · rw [semicolonRaw]
        decide

omit shape in
theorem exists_renders_of_kind {kind : Kind} (isKind : n.kind = kind)
    (proper : kind ∉ [.class, .emptyStatement, .expression, .other])
    (composite : kind.isToken = false) :
    ∃ c, Below root c ∧ Renders n c ∧ ownKind? c.raw = some kind := by
  simp only [List.mem_cons, List.not_mem_nil, or_false, not_or] at proper
  obtain ⟨notClass, notEmpty, notExpression, notOther⟩ := proper
  have own {c : Concrete} (renders : Renders n c) : ownKind? c.raw = some kind :=
    ownKind_of_compositeKind (isKind ▸ renders.kind) notExpression notOther
  have token (token : n.kind.isToken) : False := by
    rw [isKind, composite] at token
    cases token
  cases exists_origin numbered top n with
  | top same => exact ⟨_, .self, same ▸ top, own (same ▸ top)⟩
  | part host c below listed shows =>
      cases shows with
      | phrase _ renders => exact ⟨c, .child below listed, renders, own renders⟩
      | anonymous _ _ _ _ _ _ _ isClass => exact absurd (isKind.symm.trans isClass) notClass
      | leaf _ _ _ _ isToken => exact (token isToken).elim
      | statement _ _ _ _ isEmpty => exact absurd (isKind.symm.trans isEmpty) notEmpty
  | body c below _ renders => exact ⟨c, below, renders, own renders⟩
  | semicolon isToken => exact (token isToken).elim

omit shape in
theorem exists_shown_in_role {role : String} (labelled : n.field? = some role)
    (notBody : role ≠ "body") (inner : n.isLeaf = false) (parent : n.parent? = some p) :
    ∃ host c, Below root host ∧ c ∈ host.children ∧ c.head.field? = some role ∧
      Shows host.raw c n ∧ (Renders p host ∨ host.raw = splicedRaw) := by
  cases exists_origin numbered top n with
  | top same =>
      rw [same, (numbered.orphan_iff _).2 rfl] at parent
      cases parent
  | part host c below listed shows p' parent' sited =>
      cases parent.symm.trans parent'
      exact ⟨host, c, below, listed, shows.field?_eq.symm.trans labelled, shows, sited⟩
  | body _ _ _ _ field? => exact absurd (Option.some.inj (labelled.symm.trans field?)) notBody
  | semicolon token =>
      have leaf : n.isLeaf = true := (numbered.token_iff n).2 token
      cases inner.symm.trans leaf

theorem raw_of_leading (isParameter : p.kind = .parameter)
    (counts : p.rawKind ≠ "receiver_parameter") (absent : p.childInField? "type" = none)
    (leading : p.children.find? mayLead = some n) : n.rawKind ∈ plainTypes ++ builtTypes := by
  obtain ⟨c, below, renders, own⟩ :=
    exists_renders_of_kind numbered top isParameter (by decide) rfl
  have raw := raw_of_parameter own
  have notEnum : c.raw ≠ "enum_body" := by
    intro same
    rw [same] at raw
    exact absurd raw (by decide)
  have types : ∀ raw ∈ plainTypes ++ builtTypes, raw ≠ splicedRaw ∧ raw ≠ "class_body" ∧
      raw ≠ ";" := by
    decide
  simp only [List.mem_cons, List.not_mem_nil, or_false] at raw
  rcases raw with formal | spread | receiver
  · obtain ⟨type, found⟩ := exists_childInField renders (shape.formal c below formal)
      fun raw member => ⟨(types raw member).1, (types raw member).2.1⟩
    cases absent.symm.trans found
  · obtain ⟨front, type, more, order, modifiers, isType⟩ := shape.spread c below spread
    have whole : ∀ d ∈ solids c.children, d.raw ≠ splicedRaw := by
      intro d among spliced
      have around := shape.declarations c below d (mem_solids.1 among).1 spliced
      exact absurd (spread.symm.trans around) (by decide)
    have shown := shows_solids whole renders.children
    rw [order] at shown
    obtain ⟨m, found, shows⟩ := find?_mayLead shown modifiers isType
    cases leading.symm.trans found
    have raw := isType.raw_mem
    obtain ⟨_, notBody, notSemicolon⟩ := types _ raw
    exact shows.rawKind_eq notBody notSemicolon ▸ raw
  · exact absurd (renders.rawKind.trans receiver) counts

omit numbered top in
theorem not_otherTyped (below : Below root c)
    (holds : [Kind.method, .constructor, .field, .parameter].contains p.kind = true ∨
      p.children.any isAnonymous = true) (sited : Renders p c ∨ c.raw = splicedRaw) :
    c.raw ∉ otherTyped := by
  have others : ∀ raw ∈ otherTyped, ownKind? raw = none ∧ raw ∉ anonymousClassParents ∧
      raw ≠ "enum_body" ∧ raw ≠ splicedRaw := by
    decide
  intro other
  obtain ⟨unowned, notSite, notEnum, whole⟩ := others _ other
  have renders := sited.resolve_right whole
  rcases holds with member | anonymous
  · have own : ownKind? c.raw = some p.kind := by
      refine ownKind_of_compositeKind renders.kind ?_ ?_ <;> rintro kind <;>
        rw [kind] at member <;> cases member
    cases unowned.symm.trans own
  · obtain ⟨q, child, isAnonymous⟩ := List.any_eq_true.1 anonymous
    have isAnonymous : q.rawKind = anonymousClass := beq_iff_eq.1 isAnonymous
    obtain ⟨d, listed, _, shows⟩ :=
      exists_shown_child shape.toSourceShape below renders notEnum child
    have named := shape.unmade d (.child below listed)
    cases shows with
    | phrase _ renders => exact named (renders.rawKind.symm.trans isAnonymous)
    | anonymous _ site => exact notSite site
    | leaf _ rawKind => exact named (rawKind.symm.trans isAnonymous)
    | statement _ _ rawKind => exact absurd (isAnonymous.symm.trans rawKind) (by decide)

theorem raw_of_standsForType (stands : standsForType n) (inner : n.isLeaf = false) :
    n.rawKind ∈ plainTypes ++ builtTypes := by
  have types : ∀ raw ∈ plainTypes ++ builtTypes, raw ≠ "class_body" ∧ raw ≠ ";" := by decide
  rw [standsForType, Bool.or_eq_true, Option.any_eq_true] at stands
  rcases stands with names | ⟨p, parent, stands⟩
  · rw [namesType, Bool.or_eq_true, beq_iff_eq, beq_iff_eq] at names
    rcases names with kind | kind
    · have leaf : n.isLeaf = true := (numbered.token_iff n).2 (by rw [kind]; rfl)
      cases inner.symm.trans leaf
    · obtain ⟨c, _, renders, own⟩ := exists_renders_of_kind numbered top kind (by decide) rfl
      exact List.mem_append_right _ (renders.rawKind ▸ raw_of_typeRef own)
  · simp only [standsAsType, Bool.or_eq_true, Bool.and_eq_true, beq_iff_eq, bne_iff_ne,
      Option.isNone_iff_eq_none] at stands
    rcases stands with (element | ⟨typed, holds⟩) | ⟨⟨⟨isParameter, counts⟩, absent⟩, leading⟩
    · obtain ⟨host, c, below, listed, labelled, shows, _⟩ :=
        exists_shown_in_role numbered top element (by decide) inner parent
      have raw := shape.element host below c listed labelled
      exact shows.rawKind_eq (types _ raw).1 (types _ raw).2 ▸ raw
    · obtain ⟨host, c, below, listed, labelled, shows, sited⟩ :=
        exists_shown_in_role numbered top typed (by decide) inner parent
      have raw := shape.typed host below (not_otherTyped shape below holds sited) c listed labelled
      exact shows.rawKind_eq (types _ raw).1 (types _ raw).2 ▸ raw
    · exact raw_of_leading shape numbered top isParameter counts absent leading

theorem argumentFree_of_part (part : isPartOfName n) (inner : n.isLeaf = false) :
    ArgumentFree n := by
  rw [isPartOfName, Option.any_eq_true] at part
  obtain ⟨p, parent, part⟩ := part
  simp only [Bool.or_eq_true, Bool.and_eq_true, beq_iff_eq] at part
  rcases part with named | ⟨heading, part⟩
  · obtain ⟨host, c, below, listed, labelled, shows, _⟩ :=
      exists_shown_in_role numbered top named (by decide) inner parent
    have raw := shape.named host below c listed labelled
    have names : ∀ raw ∈ nameRaws, raw ≠ "class_body" ∧ raw ≠ ";" ∧ raw ∈ plainRaws := by decide
    obtain ⟨notBody, notSemicolon, plain⟩ := names _ raw
    exact argumentFree_of_plain shape numbered top (shows.rawKind_eq notBody notSemicolon ▸ plain)
  · obtain ⟨c, below, renders, isHeading⟩ : ∃ c, Below root c ∧ Renders p c ∧
        c.raw ∈ ["package_declaration", "import_declaration"] := by
      rcases heading with kind | kind
      · obtain ⟨c, below, renders, own⟩ := exists_renders_of_kind numbered top kind (by decide) rfl
        exact ⟨c, below, renders, raw_of_package own ▸ .head _⟩
      · obtain ⟨c, below, renders, own⟩ := exists_renders_of_kind numbered top kind (by decide) rfl
        exact ⟨c, below, renders, raw_of_import own ▸ .tail _ (.head _)⟩
    have notEnum : ∀ raw ∈ ["package_declaration", "import_declaration"], raw ≠ "enum_body" := by
      decide
    obtain ⟨d, listed, code, shows⟩ := exists_shown_child shape.toSourceShape below renders
      (notEnum _ isHeading) (numbered.mem_children parent)
    have raw := shape.heading c below isHeading d listed code
    rcases List.mem_append.1 raw with annotation | raw
    · have ends : ∀ raw ∈ annotationRaws, raw.endsWith "annotation" = true ∧ raw ≠ "class_body" ∧
          raw ≠ ";" := by
        decide +kernel
      obtain ⟨ends, notBody, notSemicolon⟩ := ends _ annotation
      rw [isNamePart, shows.rawKind_eq notBody notSemicolon, ends] at part
      simp at part
    · rcases List.mem_cons.1 raw with semicolon | plain
      · exact argumentFree_of_semicolon shape numbered (.child below listed) semicolon shows inner
      · have others : ∀ raw ∈ plainRaws, raw ≠ "class_body" ∧ raw ≠ ";" := by decide
        obtain ⟨notBody, notSemicolon⟩ := others _ plain
        exact argumentFree_of_plain shape numbered top
          (shows.rawKind_eq notBody notSemicolon ▸ plain)

/-- What is read as it is spelled holds no arguments, but for the brackets of arrays. -/
theorem argumentFree_of_isVerbatim (verbatim : isVerbatim n) (inner : n.isLeaf = false)
    (other : isBrackets n = false) : ArgumentFree n := by
  rw [isVerbatim, other, Bool.or_false, Bool.or_eq_true, Bool.and_eq_true, Bool.not_eq_true',
    ← Bool.not_eq_true, List.contains_iff_mem] at verbatim
  rcases verbatim with ⟨stands, simple⟩ | part
  · have plain : ∀ raw ∈ plainTypes ++ builtTypes, raw ∉ composedTypes → raw ∈ plainRaws := by
      decide
    have raw := raw_of_standsForType shape numbered top stands inner
    exact argumentFree_of_plain shape numbered top (plain _ raw simple)
  · exact argumentFree_of_part shape numbered top part inner

end Parsed

end TreeLint.Java

import TreeLint.Proofs.Reader
import TreeLint.Proofs.Renderings
import TreeLint.Proofs.Sites

/-! The rule against stray semicolons, on the trees of Java sources. -/

namespace TreeLint.Java

open TreeLint.Tree Lowering Concrete

namespace Lowering

def bodyRaws : List String := ["class_body", "interface_body", "enum_body", "annotation_type_body"]

theorem ownKind?_eq_classBody {raw : String} :
    ownKind? raw = some .classBody ↔ raw ∈ bodyRaws := by
  constructor
  · intro own
    unfold ownKind? at own
    split at own <;> cases own <;> simp [bodyRaws]
  · intro body
    simp only [bodyRaws, List.mem_cons, List.not_mem_nil, or_false] at body
    rcases body with rfl | rfl | rfl | rfl <;> rfl

theorem compositeKind?_eq_classBody {c : Concrete} :
    compositeKind? c = some .classBody ↔ c.raw ∈ bodyRaws := by
  constructor
  · intro composite
    unfold compositeKind? at composite
    split at composite
    next own =>
      cases composite
      exact ownKind?_eq_classBody.1 own
    · cases composite
    · split at composite <;> cases composite
  · intro body
    rw [compositeKind?, ownKind?_eq_classBody.2 body]

theorem compositeKind?_ne_emptyStatement (c : Concrete) :
    compositeKind? c ≠ some .emptyStatement := by
  intro composite
  unfold compositeKind? at composite
  split at composite
  next own =>
    cases composite
    unfold ownKind? at own
    split at own <;> cases own
  · cases composite
  · split at composite <;> cases composite

/-- Of phrases, only the bodies of types can have stray semicolons right in them. -/
theorem strays_eq {c : Concrete} {kind : Kind} (composite : compositeKind? c = some kind)
    (trees : List Nested) :
    Nested.strays kind trees =
      (bodyRaws.contains c.raw && decide (1 < Nested.memberCount trees)) := by
  have notEmpty : kind ≠ .emptyStatement := by
    rintro rfl
    exact compositeKind?_ne_emptyStatement c composite
  have isBody : bodyRaws.contains c.raw = decide (kind = .classBody) := by
    rw [Bool.eq_iff_iff, List.contains_iff_mem, ← compositeKind?_eq_classBody, composite,
      Option.some_inj, decide_eq_true_eq]
  rw [isBody]
  cases kind with
  | emptyStatement => exact absurd rfl notEmpty
  | classBody => rfl
  | _ => rfl

theorem text_of_ofTokenText {text : String} (semicolon : Kind.ofTokenText text = .semicolon) :
    text = ";" := by
  unfold Kind.ofTokenText at semicolon
  split at semicolon
  · rfl
  case h_8 =>
    split at semicolon
    · cases semicolon
    · split at semicolon <;> cases semicolon
  all_goals cases semicolon

theorem text_of_leafKind {c : Concrete} (semicolon : leafKind c = .semicolon) :
    c.head.text = ";" := by
  unfold leafKind at semicolon
  repeat' split at semicolon
  all_goals first
    | exact text_of_ofTokenText semicolon
    | cases semicolon

theorem leafKind_of_semicolon {c : Concrete} (unnamed : c.head.named = false)
    (text : c.head.text = ";") : leafKind c = .semicolon := by
  rw [leafKind, unnamed, text]
  rfl

@[simp] theorem strayLinesAll_leaf (stray : Bool) (field? : Option String) (kind : Kind)
    (rawKind? : Option String) (text : String) (span : Span) :
    Nested.strayLinesAll stray [.leaf field? kind rawKind? text span] =
      if stray && kind == .semicolon then [span.startLine] else [] := by
  by_cases semicolon : kind = .semicolon <;> cases stray <;>
    simp [Nested.strayLinesAll, Nested.strayLines, Nested.semicolonLine?, semicolon]

@[simp] theorem strayLinesAll_phraseTree (stray : Bool) (parent : String) (c : Concrete)
    (kind : Kind) (trees : List Nested) :
    Nested.strayLinesAll stray [phraseTree parent c kind trees] =
      Nested.strayLinesAll (Nested.strays kind trees) trees := by
  unfold phraseTree
  split <;> simp [Nested.strayLinesAll, Nested.strayLines, Nested.semicolonLine?]

inductive Lands (host body : Concrete) : Prop
  | whole (own : host.raw ≠ splicedRaw) (same : body = host)
  | spliced (spliced : host.raw = splicedRaw) (isEnum : body.raw = "enum_body")

variable {root host body : Concrete} {first : Bool} {c : Concrete}

theorem isMember_eq (lands : Lands host body) (constants : host.raw ≠ "enum_body")
    (semicolon : Head) (first : Bool) :
    (bodyRaws.contains body.raw && !(host.raw == splicedRaw && first)) =
      (⟨semicolon, host, first, body⟩ : Site).isMember := by
  cases lands with
  | whole own same =>
      subst same
      have own : (body.raw == "enum_body_declarations") = false := beq_eq_false_iff_ne.2 own
      simp [Site.isMember, bodyRaws, splicedRaw, own, constants]
  | spliced spliced isEnum =>
      have spliced : host.raw = "enum_body_declarations" := spliced
      simp [Site.isMember, bodyRaws, splicedRaw, spliced, isEnum]

theorem isStatement_eq (s : Site) : s.isStatement =
    (statementContainers.contains s.host.raw || s.semicolon.field?.any statementFields.contains) :=
  rfl

theorem strays_of_literal (lands : Lands host body) {kind : Kind}
    (composite : compositeKind? body = some kind) (literal : host.raw.endsWith "_literal" = true)
    (trees : List Nested) : Nested.strays kind trees = false := by
  have other : ∀ raw ∈ splicedRaw :: bodyRaws, raw.endsWith "_literal" = false := by
    decide +kernel
  have apart : host.raw ∉ splicedRaw :: bodyRaws := by
    intro listed
    rw [other _ listed] at literal
    cases literal
  rw [List.mem_cons, not_or] at apart
  cases lands with
  | whole own same =>
      subst same
      rw [strays_eq composite, Bool.eq_false_iff.2 (mt List.contains_iff_mem.1 apart.2),
        Bool.false_and]
  | spliced spliced => exact absurd spliced apart.1

section Sited

variable (grammatical : root.Grammatical) (clean : root.hasError = false)
  (spelled : root.SpellsSemicolons)

include grammatical clean in
theorem strayLines_semicolon (below : Below root host) (listed : c ∈ host.children)
    (lands : Lands host body) {kind : Kind} (composite : compositeKind? body = some kind)
    (semicolon : c.raw = ";") :
    Nested.strayLinesAll (Nested.strays kind (loweredAll body.raw true body.children))
        [leafTree host.raw first c] =
      ([⟨c.head, host, first, body⟩].filter Site.isStray).map Site.line := by
  obtain ⟨_, unnamed, text⟩ :=
    grammatical.semicolon_of_clean clean (.child below listed) semicolon
  have constants : host.raw ≠ "enum_body" := grammatical.constants host below c listed semicolon
  have member := isMember_eq lands constants c.head first
  have isSemicolon : (c.raw == ";") = true := beq_iff_eq.2 semicolon
  rw [leafTree, isSemicolon, Bool.true_and, Bool.true_and,
    ← isStatement_eq ⟨c.head, host, first, body⟩]
  cases statement : (⟨c.head, host, first, body⟩ : Site).isStatement with
  | true =>
      simp [Site.isStray, statement, Nested.strayLinesAll, Nested.strayLines, Nested.strays,
        Nested.semicolonLine?, Site.line, Concrete.span]
  | false =>
      have stray : (⟨c.head, host, first, body⟩ : Site).isStray =
          (Nested.strays kind (loweredAll body.raw true body.children) &&
            !(host.raw == splicedRaw && first)) := by
        rw [Site.isStray, statement, ← member, strays_eq composite, Bool.false_or,
          Bool.and_right_comm]
        rfl
      have own : leafKind c = .semicolon := leafKind_of_semicolon unnamed text
      rw [if_neg Bool.false_ne_true, strayLinesAll_leaf, own]
      cases ends : host.raw == splicedRaw && first <;>
        cases strays : Nested.strays kind (loweredAll body.raw true body.children) <;>
        simp_all [Site.line, Concrete.span]

include spelled in
theorem strayLines_other (below : Below root host) (listed : c ∈ host.children)
    (lands : Lands host body) {kind : Kind} (composite : compositeKind? body = some kind)
    (other : c.raw ≠ ";") (childless : c.children = []) (trees : List Nested) :
    Nested.strayLinesAll (Nested.strays kind trees) [leafTree host.raw first c] = [] := by
  have notSemicolon : (c.raw == ";") = false := beq_eq_false_iff_ne.2 other
  rw [leafTree, notSemicolon, Bool.false_and, if_neg Bool.false_ne_true, Bool.false_and,
    Bool.false_and]
  dsimp only
  rw [if_neg Bool.false_ne_true, strayLinesAll_leaf, if_neg]
  intro stray
  rw [Bool.and_eq_true, beq_iff_eq] at stray
  cases literal : host.raw.endsWith "_literal" with
  | true =>
      rw [strays_of_literal lands composite literal] at stray
      cases stray.1
  | false =>
      exact other (spelled host below literal c listed childless (text_of_leafKind stray.2))

end Sited

mutual
/-- The stray semicolons that a phrase leaves in the tree are those that it has. -/
theorem strayLines_lowered (grammatical : root.Grammatical) (clean : root.hasError = false)
    (spelled : root.SpellsSemicolons) {host body : Concrete} {kind : Kind}
    (below : Below root host) (lands : Lands host body)
    (composite : compositeKind? body = some kind) (first : Bool) :
    (c : Concrete) → c ∈ host.children →
    Nested.strayLinesAll (Nested.strays kind (loweredAll body.raw true body.children))
        (lowered host.raw first c) =
      ((sites host body first c).filter Site.isStray).map Site.line
  | .node head children, listed => by
      have within : Below root (.node head children) := .child below listed
      cases code : (Concrete.node head children).isComment with
      | true =>
          have childless : children = [] := grammatical.comment _ within code
          have raw : (Concrete.node head children).raw ∈ commentNames := isComment_iff.1 code
          have other : (Concrete.node head children).raw ≠ ";" := by
            intro semicolon
            exact absurd (semicolon ▸ raw) (by decide)
          have whole : (Concrete.node head children).raw ≠ splicedRaw := by
            intro spliced
            exact absurd (spliced ▸ raw) (by decide)
          rw [lowered_comment code, sites_phrase other whole]
          cases childless
          rfl
      | false =>
          by_cases spliced : (Concrete.node head children).raw = splicedRaw
          · -- Its children come into the node of the body around it.
            have isEnum : host.raw = "enum_body" :=
              grammatical.declarations host below _ listed spliced
            have inner : Lands (.node head children) body := by
              cases lands with
              | whole own same => exact .spliced spliced (same ▸ isEnum)
              | spliced other => exact absurd (other.symm.trans isEnum) (by decide)
            rw [lowered_spliced code spliced, sites_spliced spliced]
            exact strayLines_loweredAll grammatical clean spelled within inner composite true
              children fun _ member => member
          · cases own : compositeKind? (.node head children) with
            | some inner =>
                have other : (Concrete.node head children).raw ≠ ";" := by
                  intro semicolon
                  have childless := (grammatical.semicolon _ within semicolon).1
                  have leaf : compositeKind? (.node head children) = none :=
                    compositeKind?_eq_none_iff.2 ⟨by rw [semicolon]; rfl, childless⟩
                  cases leaf.symm.trans own
                rw [lowered_phrase code spliced own, sites_phrase other spliced,
                  strayLinesAll_phraseTree]
                exact strayLines_loweredAll grammatical clean spelled within (.whole spliced rfl)
                  own true children fun _ member => member
            | none =>
                rw [lowered_leaf code spliced own]
                by_cases semicolon : (Concrete.node head children).raw = ";"
                · rw [sites_semicolon semicolon]
                  exact strayLines_semicolon grammatical clean below listed lands composite
                    semicolon
                · have childless : children = [] := (compositeKind?_eq_none_iff.1 own).2
                  rw [sites_phrase semicolon spliced,
                    strayLines_other spelled below listed lands composite semicolon childless]
                  cases childless
                  rfl

theorem strayLines_loweredAll (grammatical : root.Grammatical) (clean : root.hasError = false)
    (spelled : root.SpellsSemicolons) {host body : Concrete} {kind : Kind}
    (below : Below root host) (lands : Lands host body)
    (composite : compositeKind? body = some kind) (first : Bool) :
    (phrases : List Concrete) → (∀ c ∈ phrases, c ∈ host.children) →
    Nested.strayLinesAll (Nested.strays kind (loweredAll body.raw true body.children))
        (loweredAll host.raw first phrases) =
      ((sitesAll host body first phrases).filter Site.isStray).map Site.line
  | [], _ => rfl
  | c :: rest, among => by
      obtain ⟨here, later⟩ := List.forall_mem_cons.1 among
      rw [loweredAll, Nested.strayLinesAll_append,
        strayLines_lowered grammatical clean spelled below lands composite first c here,
        strayLines_loweredAll grammatical clean spelled below lands composite false rest later,
        sitesAll, List.filter_append, List.map_append]
end

end Lowering

open TreeLint.Checks

theorem exists_lower_with_strays (id : TreeId) {root : Concrete} (grammatical : root.Grammatical)
    (clean : root.hasError = false) (spelled : root.SpellsSemicolons) :
    ∃ tree t, root.lower id = .ok t ∧ t.root.Reads tree ∧ WellNumbered t ∧ t.id = id ∧
      tree.strayLines = (root.semicolons.filter Site.isStray).map Site.line := by
  have own : ownKind? root.raw = some .compilationUnit := by rw [grammatical.top]; rfl
  have code : root.isComment = false := by rw [isComment, grammatical.top]; rfl
  have whole : root.raw ≠ splicedRaw := by rw [grammatical.top]; decide
  have notBody : root.raw ≠ "class_body" := by rw [grammatical.top]; decide
  have composite : compositeKind? root = some .compilationUnit := by rw [compositeKind?, own]
  obtain ⟨tree, t, becomes, made, records, same, _⟩ := exists_lower_eq_ok id code whole
  refine ⟨tree, t, made, Stands.reads tree (stands_root records),
    (renders_of_lower own code notBody made).1, same, ?_⟩
  have phrase : lowered "" true root =
      [phraseTree "" root .compilationUnit (loweredAll root.raw true root.children)] :=
    lowered_phrase code whole composite
  have alone := strayLinesAll_phraseTree false "" root .compilationUnit
    (loweredAll root.raw true root.children)
  rw [← phrase, becomes,
    strayLines_loweredAll grammatical clean spelled .self (.whole whole rfl) composite true
      root.children fun _ member => member] at alone
  rw [semicolons, ← alone]
  simp [Nested.strayLinesAll]

/-- Run on the tree, the rule completes with one issue for each semicolon of the phrase that is a
statement or stands among other members, on its line and in the order of the source. -/
def ReportsStrays (root : Concrete) (t : Tree) : Prop :=
  ∀ (σ : Type) (metadata : Metadata) (state : σ) (path : String) (symbols? : Option SymbolTable),
    (∀ symbols ∈ symbols?, symbols.tree = t.id) →
    let rule : Rule σ := ⟨metadata, EmptyStatement.behavior, state⟩
    let lines := (root.semicolons.filter Site.isStray).map Site.line
    let issues := lines.map (EmptyStatement.issueAt rule path)
    runFile ⟨path, t, symbols?⟩ [rule] =
      .ok (⟨path, issues, [⟨metadata.key, .completed issues.length⟩]⟩, [rule])

theorem exists_lower_reporting_strays (id : TreeId) {root : Concrete}
    (grammatical : root.Grammatical) (clean : root.hasError = false)
    (spelled : root.SpellsSemicolons) :
    ∃ t, root.lower id = .ok t ∧ t.id = id ∧ ReportsStrays root t := by
  obtain ⟨tree, t, made, reads, numbered, same, lines⟩ :=
    exists_lower_with_strays id grammatical clean spelled
  have placed : 0 ∉ tree.strayLines := by
    rw [lines]
    intro zero
    obtain ⟨site, member, none⟩ := List.mem_map.1 zero
    have among := (List.mem_filter.1 member).1
    obtain ⟨c, below, semicolon, head⟩ :=
      exists_of_mem_sitesAll root.children (fun c listed => .child .self listed) among
    have line := grammatical.line c below semicolon
    rw [Concrete.span, head] at line
    exact Nat.ne_of_gt line none
  refine ⟨t, made, same, fun σ metadata state path symbols? bound => ?_⟩
  have ran := @EmptyStatement.runFile_eq σ ⟨path, t, symbols?⟩
    ⟨metadata, EmptyStatement.behavior, state⟩ rfl bound numbered tree reads placed
  rw [lines] at ran
  exact ran

/-- Stray semicolons are reported in all sources without errors, as soon as the parser's trees are
what the rule expects, and on all such trees. -/
theorem strays_are_reported :
    (∀ (p : Parser) (id : TreeId) (source : String) (root : Concrete),
      p.Obeys Concrete.Grammatical → p source = .ok root → root.hasError = false →
      root.SpellsSemicolons → ∃ t, p.parse id source = .ok t ∧ t.id = id ∧ ReportsStrays root t) ∧
    ∀ (id : TreeId) (root : Concrete), root.Grammatical → root.hasError = false →
      root.SpellsSemicolons → ∃ t, root.lower id = .ok t ∧ t.id = id ∧ ReportsStrays root t := by
  constructor
  · intro p id source root obeys parsed clean spelled
    have grammatical := obeys source root parsed clean
    obtain ⟨t, made, reports⟩ := exists_lower_reporting_strays id grammatical clean spelled
    exact ⟨t, Parser.parse_of_lower parsed made, reports⟩
  · intro id root grammatical clean spelled
    exact exists_lower_reporting_strays id grammatical clean spelled

/-- An enumeration of one constant, with a semicolon too many behind it, and one behind itself. -/
def enumAndSemicolon : String := "enum E \x7b A\n;\n;\n\x7d\n;"

theorem enumAndSemicolon_has_two_strays :
    reader.Obeys Concrete.Grammatical ∧ ∃ root, reader enumAndSemicolon = .ok root ∧
      root.hasError = false ∧ root.SpellsSemicolons ∧
      ∃ t, reader.parse ⟨0⟩ enumAndSemicolon = .ok t ∧
        let rule : Rule Unit := ⟨EmptyStatement.metadata, EmptyStatement.behavior, ()⟩
        runFile ⟨"E.java", t, some (.new ⟨0⟩)⟩ [rule] =
          .ok (⟨"E.java", [EmptyStatement.issueAt rule "E.java" 3,
              EmptyStatement.issueAt rule "E.java" 5],
            [⟨"EmptyStatementUsageCheck", .completed 2⟩]⟩, [rule]) := by
  have clean : (concreteTree enumAndSemicolon).hasError = false := by decide +kernel
  have spelled : (concreteTree enumAndSemicolon).SpellsSemicolons :=
    forall_below (by decide +kernel)
  have lines : ((concreteTree enumAndSemicolon).semicolons.filter Site.isStray).map Site.line =
      [3, 5] := by
    decide +kernel
  obtain ⟨t, made, same, reports⟩ := strays_are_reported.1 reader ⟨0⟩ enumAndSemicolon _
    reader_obeys_grammatical rfl clean spelled
  have bound : ∀ symbols ∈ some (SymbolTable.new ⟨0⟩), symbols.tree = t.id := by
    rintro symbols present
    cases present
    exact same.symm
  have ran := reports Unit EmptyStatement.metadata () "E.java" _ bound
  rw [lines] at ran
  exact ⟨reader_obeys_grammatical, _, rfl, clean, spelled, t, made, ran⟩

end TreeLint.Java

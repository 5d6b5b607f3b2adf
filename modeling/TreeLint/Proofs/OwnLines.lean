import TreeLint.Proofs.Reporting
import TreeLint.Proofs.Rows
import TreeLint.Proofs.Silencing
import TreeLint.Proofs.Stemming

namespace TreeLint.Suppression

open Text Java

variable {source : String} {above line below : List Char}

theorem fromLine?_of_stands (stands : Stands source above line below) :
    fromLine? source (above.count '\n') =
      ofLine? (((lines source).take (above.count '\n' + 1)).all isCommentOrEmpty)
        (above.count '\n' + 1) line :=
  fromLine?_eq stands.getElem?_lines

theorem line_of_narrow {place : Nat} {s : Suppression} (given : fromLine? source place = some s)
    (narrow : s.scope = .line) : s.line = place + 1 := by
  obtain ⟨_, _, given⟩ := exists_line_of_fromLine? given
  rw [line_of_ofLine? given, narrow, if_neg (by decide)]

theorem silences_iff_of_narrow {place : Nat} {s : Suppression} {issue : Issue}
    (given : fromLine? source place = some s) (narrow : s.scope = .line) :
    s.silences issue = true ↔ issue.line = place + 1 ∧ s.Names issue.rule := by
  rw [silences_iff, Fits, and_comm]
  refine and_congr_left' ?_
  rw [← line_of_narrow given narrow]
  constructor
  · rintro (wide | ⟨_, same⟩ | ⟨next, _⟩)
    · cases narrow.symm.trans wide
    · exact same
    · cases narrow.symm.trans next
  · exact .here narrow

structure Numbered (source : String) {t : Tree} (n : t.Node) (above line below : List Char) :
    Prop where
  number : above.count '\n' + 1 = n.line
  listed : (lines source)[above.count '\n']? = some line
  read : fromLine? source (above.count '\n') =
    ofLine? (((lines source).take n.line).all isCommentOrEmpty) n.line line
  /-- Of the directives for their own lines, those on the line reach the issues on the node. -/
  silences : ∀ (r : Report) (rule file : String) (severity : Severity), r.anchor = .node n →
    ∀ place s, fromLine? source place = some s → s.scope = .line →
      (s.silences (r.issue rule file severity) = true ↔
        place = above.count '\n' ∧ s.Names rule)

theorem numbered_of_line {t : Tree} {n : t.Node} (stands : Stands source above line below)
    (number : n.line = above.count '\n' + 1) : Numbered source n above line below := by
  refine ⟨number.symm, stands.getElem?_lines, ?_, ?_⟩
  · rw [number]
    exact fromLine?_of_stands stands
  · intro r rule file severity anchor place s given narrow
    have here : (r.issue rule file severity).line = n.line := congrArg Anchor.firstLine anchor
    rw [silences_iff_of_narrow given narrow, here, number, Nat.succ_inj, eq_comm]
    rfl

/-- Each node is on the line that its first character stands in, and there is such a line. -/
def OnOwnLines (source : String) (t : Tree) : Prop :=
  ∀ (n : t.Node) (front : List Char) (c : Char) (rest : List Char),
    source.toList = front ++ c :: rest → n.span.startByte = bytes front →
    (∃ above line below, Holds source front c above line below) ∧
      ∀ above line below, Holds source front c above line below →
        Numbered source n above line below

theorem exists_lower_onOwnLines (id : TreeId) {root : Concrete} (code : root.isComment = false)
    (whole : root.raw ≠ Lowering.splicedRaw) (counts : root.CountsRows source) :
    ∃ t, root.lower id = .ok t ∧ OnOwnLines source t := by
  obtain ⟨t, made, spans⟩ := exists_lower_with_spans id code whole
  refine ⟨t, made, fun n front c rest here starts => ⟨exists_holds here, ?_⟩⟩
  intro above line below holds
  obtain ⟨phrase, within, span⟩ := spans n
  rw [span] at starts
  have number : n.line = front.count '\n' + 1 := by
    change n.span.startLine = _
    rw [span]
    exact (counts phrase within).line_eq here starts
  exact numbered_of_line holds.stands (number.trans (by rw [holds.count_eq]))

/-- A node is on the line that its first character stands in, whatever else may look like the end
of a line.  Of the parser it matters only that it starts a row at each line feed. -/
theorem nodes_are_on_their_lines (source : String) :
    ofSource source = (List.range (lines source).length).filterMap (fromLine? source) ∧
      (∀ (p : Parser) (id : TreeId) (root : Concrete), p source = .ok root →
        root.isComment = false → root.raw ≠ Lowering.splicedRaw → root.CountsRows source →
        ∃ t, p.parse id source = .ok t ∧ OnOwnLines source t) ∧
      ∀ (id : TreeId) (root : Concrete), root.isComment = false →
        root.raw ≠ Lowering.splicedRaw → root.CountsRows source →
        ∃ t, root.lower id = .ok t ∧ OnOwnLines source t := by
  refine ⟨ofSource_eq source, ?_, fun id root code whole => exists_lower_onOwnLines id code whole⟩
  intro p id root parsed code whole counts
  obtain ⟨t, made, placed⟩ := exists_lower_onOwnLines id code whole counts
  exact ⟨t, Parser.parse_of_lower parsed made, placed⟩

def brokenSource : String := String.ofList ['\ufeff', '\r', '\n', '\r', ';']

theorem brokenSource_numbered :
    ∃ root, reader brokenSource = .ok root ∧ root.isComment = false ∧
      root.raw ≠ Lowering.splicedRaw ∧ root.CountsRows brokenSource ∧
      ∃ t, reader.parse ⟨0⟩ brokenSource = .ok t ∧ t.root.line = 2 ∧
        Numbered brokenSource t.root ['\ufeff', '\r', '\n'] ['\r', ';'] [] := by
  have code : (concreteTree brokenSource).isComment = false := rfl
  have whole : (concreteTree brokenSource).raw ≠ Lowering.splicedRaw := by
    change "program" ≠ Lowering.splicedRaw
    decide
  have counts := countsRows_concreteTree brokenSource
  obtain ⟨-, numbers, -⟩ := nodes_are_on_their_lines brokenSource
  obtain ⟨t, made, all⟩ := numbers reader ⟨0⟩ _ rfl code whole counts
  have told : (reader.parse ⟨0⟩ brokenSource).toOption.map (fun t =>
      (t.root.line, t.root.span.startByte)) = some (2, 6) := by
    decide +kernel
  rw [made] at told
  obtain ⟨line, starts⟩ := Prod.mk.inj (Option.some.inj told)
  have text : brokenSource.toList = ['\ufeff', '\r', '\n', '\r'] ++ ';' :: [] :=
    String.toList_ofList
  have stands : Stands brokenSource ['\ufeff', '\r', '\n'] ['\r', ';'] [] :=
    ⟨text, .inr ⟨['\ufeff', '\r'], rfl⟩, by decide, .text (by decide)⟩
  have holds : Holds brokenSource ['\ufeff', '\r', '\n', '\r'] ';' ['\ufeff', '\r', '\n']
      ['\r', ';'] [] := ⟨stands, ['\r'], [], rfl, rfl⟩
  refine ⟨_, rfl, code, whole, counts, t, made, line, ?_⟩
  exact (all t.root _ ';' [] text (starts.trans (by decide))).2 _ _ _ holds

end TreeLint.Suppression

import TreeLint.Proofs.Entries
import TreeLint.Proofs.Merging
import TreeLint.Proofs.Renderings
import TreeLint.Proofs.Settings

/-! A file that can be read is analyzed, whatever its syntax is like. -/

namespace TreeLint

namespace RuleSet

variable {c : Config} {b : Builtin} {s : RuleSpec} {rules : RuleSet}

theorem builtin_of_spec (made : spec c b = .ok s) : s.builtin = b := by
  rw [spec] at made
  cases checked : params b (c.rule? b.key) with
  | error e =>
      rw [checked] at made
      cases made
  | ok params =>
      rw [checked] at made
      cases made
      rfl

theorem specs_of_ofConfig (configured : ofConfig c = .ok rules) :
    List.Forall₂ (fun b s => spec c b = .ok s) Builtin.all rules.specs := by
  rw [ofConfig] at configured
  split at configured
  · cases configured
  · cases made : Builtin.all.mapM (spec c) with
    | error e =>
        rw [made] at configured
        cases configured
    | ok specs =>
        rw [made] at configured
        cases configured
        exact mapM_eq_ok_iff.1 made

theorem map_builtin_of_ofConfig (configured : ofConfig c = .ok rules) :
    rules.specs.map (·.builtin) = Builtin.all := by
  have same : List.Forall₂ (fun b s => b = RuleSpec.builtin s) Builtin.all rules.specs :=
    (specs_of_ofConfig configured).imp fun _ _ made => (builtin_of_spec made).symm
  rw [← List.forall₂_map_right_iff, List.forall₂_eq_eq_eq] at same
  exact same.symm

@[simp] theorem key_rule (s : RuleSpec) : s.rule.key = s.builtin.key := rfl

theorem nodup_keys (configured : ofConfig c = .ok rules) :
    (rules.rules.map Rule.key).Nodup := by
  have enabled : (rules.rules.map Rule.key).Sublist ((rules.specs.map (·.builtin)).map
      Builtin.key) := by
    simpa [RuleSet.rules, RuleSet.enabled, Function.comp_def] using
      List.filter_sublist.map fun s : RuleSpec => s.builtin.key
  rw [map_builtin_of_ofConfig configured] at enabled
  exact enabled.nodup (by decide)

end RuleSet

namespace Java

variable {t : Tree} {table : SymbolTable}

theorem tree_of_resolve (ran : resolve t = .ok table) : table.tree = t.id := by
  obtain ⟨linked, traced, enrolled⟩ := Resolution.exists_enrolled (Resolution.covers_all t) ran
  exact enrolled.tree.trans traced.tree

theorem isSome_toOption_resolve (root : t.root.kind = .compilationUnit) :
    (resolve t).toOption.isSome = !t.hasErrors := by
  cases clean : t.hasErrors with
  | true =>
      rw [resolve_of_refused clean]
      rfl
  | false =>
      obtain ⟨table, ran, -⟩ := exists_resolved clean root
      rw [ran]
      rfl

end Java

section Analyzing

open Java

variable {root : Concrete} {c : Config} {rules : RuleSet} {t : Tree}

def rootNames : List String := ["program", "ERROR"]

theorem exists_lower_of_root (id : TreeId) (isRoot : root.raw ∈ rootNames) :
    ∃ t, root.lower id = .ok t ∧ t.hasErrors = root.hasError := by
  have code : root.isComment = false := by
    rcases List.mem_pair.1 isRoot with program | error
    · rw [Concrete.isComment, program]
      decide
    · rw [Concrete.isComment, error]
      decide
  have whole : root.raw ≠ Lowering.splicedRaw := by
    intro spliced
    rw [spliced] at isRoot
    revert isRoot
    decide
  obtain ⟨-, t, -, made, -, -, errors⟩ := Lowering.exists_lower_eq_ok id code whole
  exact ⟨t, made, errors⟩

theorem isSome_resolve_of_lower {id : TreeId} (isRoot : root.raw ∈ rootNames)
    (made : root.lower id = .ok t) (errors : t.hasErrors = root.hasError) :
    (resolve t).toOption.isSome = !root.hasError := by
  rw [← errors]
  rcases List.mem_pair.1 isRoot with program | error
  · have code : root.isComment = false := by
      rw [Concrete.isComment, program]
      decide
    have notBody : root.raw ≠ "class_body" := by
      rw [program]
      decide
    have own : Lowering.ownKind? root.raw = some .compilationUnit := by
      rw [program]
      rfl
    obtain ⟨-, top⟩ := renders_of_lower own code notBody made
    apply isSome_toOption_resolve
    apply top.kind_eq
    rw [Lowering.compositeKind?, own]
  · have isError : root.isError = true := beq_iff_eq.2 error
    have refused : t.hasErrors = true := errors.trans (Concrete.hasError_of_isError isError)
    rw [resolve_of_refused refused, refused]
    rfl

theorem symbols_of_own_tree : ∀ symbols ∈ (resolve t).toOption, symbols.tree = t.id := by
  intro symbols found
  cases ran : resolve t with
  | error e =>
      rw [ran] at found
      cases found
  | ok table =>
      rw [ran] at found
      cases found
      exact tree_of_resolve ran

theorem exists_report (configured : RuleSet.ofConfig c = .ok rules) (path source : String)
    (isRoot : root.raw ∈ rootNames) :
    ∃ t found after, root.lower sourceTreeId = .ok t ∧ t.hasErrors = root.hasError ∧
      runFile ⟨path, t, (resolve t).toOption⟩ rules.rules = .ok (found, after) ∧
      analyzeTree path source t rules =
        .ok (.ofReport source (resolve t).toOption.isSome found) := by
  obtain ⟨t, made, errors⟩ := exists_lower_of_root sourceTreeId isRoot
  let input : FileInput := ⟨path, t, (resolve t).toOption⟩
  have checked : input.check rules.rules = .ok () :=
    check_eq_ok_iff.2 ⟨RuleSet.nodup_keys configured, symbols_of_own_tree⟩
  have ran := runFile_of_check checked
  exact ⟨t, _, _, made, errors, ran, analyzeTree_of_report ran⟩

theorem analyzeConcrete_of_tree {path source : String} {r : AnalysisResult}
    (made : root.lower sourceTreeId = .ok t) (analyzed : analyzeTree path source t rules = .ok r) :
    analyzeConcrete path source root rules = .ok r := by
  rw [analyzeConcrete, made]
  change (analyzeTree path source t rules).mapError AnalysisError.run = .ok r
  rw [analyzed]
  rfl

theorem analyzeText_of_parsed (path : String) (rules : RuleSet) {p : Parser} {source : String}
    (parsed : p source = .ok root) :
    analyzeText p path source rules =
      (analyzeConcrete path source root rules).mapError SourceError.ofAnalysis := by
  rw [analyzeText, Parser.parse_of_root parsed, analyzeConcrete]
  cases root.lower sourceTreeId with
  | error e => rfl
  | ok tree =>
      change (analyzeTree path source tree rules).mapError SourceError.run =
        ((analyzeTree path source tree rules).mapError AnalysisError.run).mapError
          SourceError.ofAnalysis
      cases analyzeTree path source tree rules <;> rfl

theorem analyzeText_of_failed {p : Parser} {path source : String} {e : ParserFailure}
    (failed : p source = .error e) :
    analyzeText p path source rules = .error (.parse (.parser e)) := by
  rw [analyzeText, Parser.parse_of_failure failed]
  rfl

theorem exists_analyzeText (configured : RuleSet.ofConfig c = .ok rules) (path : String)
    {p : Parser} {source : String} (parsed : p source = .ok root) (isRoot : root.raw ∈ rootNames) :
    ∃ r, analyzeText p path source rules = .ok r ∧ r.scanned = 1 ∧ r.failures = [] := by
  obtain ⟨_, _, _, made, _, _, analyzed⟩ := exists_report configured path source isRoot
  have complete := analyzeText_of_parsed path rules parsed
  rw [analyzeConcrete_of_tree made analyzed] at complete
  exact ⟨_, complete, rfl, rfl⟩

section Files

variable {p : Parser} {d : Disk} {name source : String} {l : Location}

theorem failures_of_unreadable {e : FileError} (read : d.readAt l = .error e) :
    (analyzeFile p d rules name l).failures = [⟨name, e.message⟩] := by
  rw [analyzeFile, read]

theorem failures_of_error {e : SourceError} (read : d.readAt l = .ok source)
    (failed : analyzeText p name source rules = .error e) :
    (analyzeFile p d rules name l).failures = [⟨name, e.message⟩] := by
  simp only [analyzeFile, read, failed, Except.mapError]

theorem analyzeFile_of_ok {r : AnalysisResult} (read : d.readAt l = .ok source)
    (analyzed : analyzeText p name source rules = .ok r) : analyzeFile p d rules name l = r := by
  simp only [analyzeFile, read, analyzed, Except.mapError]

end Files

/-- A file under the settings' rules fails only by not being read, or for want of a tree from the
parser: lowering and running the rules always succeed, and errors of the resolver just leave the
file without symbols. -/
theorem only_unreadable_files_fail (configured : RuleSet.ofConfig c = .ok rules) :
    (rules.rules.map Rule.key).Nodup ∧
    (∀ (path source : String) (root : Concrete), root.raw ∈ rootNames →
      ∃ t found after r, root.lower sourceTreeId = .ok t ∧
        (∀ symbols ∈ (resolve t).toOption, symbols.tree = t.id) ∧
        runFile ⟨path, t, (resolve t).toOption⟩ rules.rules = .ok (found, after) ∧
        analyzeConcrete path source root rules = .ok r ∧
        r.faults = found.faults ∧ r.failures = [] ∧ r.scanned = 1 ∧
        r.unresolved = (if (resolve t).toOption.isSome then 0 else 1) ∧
        ((resolve t).toOption.isSome = !root.hasError)) ∧
    ∀ p : Parser, (∀ source root, p source = .ok root → root.raw ∈ rootNames) →
      (∀ (path source : String) (root : Concrete), p source = .ok root →
        ∃ r, analyzeText p path source rules = .ok r ∧ r.scanned = 1) ∧
      ∀ (d : Disk) (name : String) (l : Location) (failure : FileFailure),
        failure ∈ (analyzeFile p d rules name l).failures ↔
          (∃ e, d.readAt l = .error e ∧ failure = ⟨name, e.message⟩) ∨
            ∃ source e, d.readAt l = .ok source ∧ p source = .error e ∧
              failure = ⟨name, e.message⟩ := by
  refine ⟨RuleSet.nodup_keys configured, ?_, fun p isRoot => ⟨?_, ?_⟩⟩
  · intro path source root isRoot
    obtain ⟨t, found, after, made, errors, ran, analyzed⟩ :=
      exists_report configured path source isRoot
    exact ⟨t, found, after, _, made, symbols_of_own_tree, ran,
      analyzeConcrete_of_tree made analyzed, rfl, rfl, rfl, rfl,
      isSome_resolve_of_lower isRoot made errors⟩
  · intro path source root parsed
    obtain ⟨r, analyzed, scanned, -⟩ :=
      exists_analyzeText configured path parsed (isRoot source root parsed)
    exact ⟨r, analyzed, scanned⟩
  · intro d name l failure
    cases read : d.readAt l with
    | error e => simp [failures_of_unreadable read]
    | ok source =>
        cases parsed : p source with
        | error e =>
            rw [failures_of_error read (analyzeText_of_failed parsed), List.mem_singleton]
            constructor
            · exact fun same => .inr ⟨source, e, rfl, parsed, same⟩
            · rintro (⟨_, unreadable, _⟩ | ⟨_, _, same, failed, made⟩)
              · cases unreadable
              · cases same
                cases parsed.symm.trans failed
                exact made
        | ok root =>
            obtain ⟨r, analyzed, -, failures⟩ :=
              exists_analyzeText configured name parsed (isRoot source root parsed)
            rw [analyzeFile_of_ok read analyzed, failures]
            refine iff_of_false nofun ?_
            rintro (⟨_, unreadable, _⟩ | ⟨_, _, same, failed, _⟩)
            · cases unreadable
            · cases same
              cases parsed.symm.trans failed

def usualRules : RuleSet where
  specs := Builtin.all.map fun b =>
    ⟨b, b.metadata.severity, b.metadata.activatedByDefault, b.defaultParams⟩

/-- What may be made of `class ;`: a phrase that is an error, with a body that is missing. -/
def brokenClass : Concrete :=
  .node (sample "ERROR" true "class ;" 0 7) [
    .node (sample "class" false "class" 0 5) [],
    .node { sample "class_body" true "" 6 6 with missing := true } [],
    .node (sample ";" false ";" 6 7) []]

def brokenClassParser : Parser := fun source =>
  if source = "class ;" then .ok brokenClass else .error .noTree

theorem broken_class_is_analyzed :
    RuleSet.ofConfig .default = .ok usualRules ∧ brokenClass.raw ∈ rootNames ∧
      (∃ r, analyzeConcrete "A.java" "class ;" brokenClass usualRules = .ok r ∧
        r.failures = [] ∧ r.scanned = 1 ∧ r.unresolved = 1) ∧
      (∃ r, analyzeText brokenClassParser "A.java" "class ;" usualRules = .ok r ∧
        r.scanned = 1) ∧
      ∀ d : Disk, d.readAt ["A.java"] = .ok "class A {}" →
        ⟨"A.java", "parser produced no tree"⟩ ∈
          (analyzeFile brokenClassParser d usualRules "A.java" ["A.java"]).failures := by
  have configured : RuleSet.ofConfig .default = .ok usualRules := by decide
  have isRoot : brokenClass.raw ∈ rootNames := by decide
  have roots : ∀ source root, brokenClassParser source = .ok root → root.raw ∈ rootNames := by
    intro source root parsed
    rw [brokenClassParser] at parsed
    split at parsed <;> cases parsed
    exact isRoot
  obtain ⟨-, analyzes, parsing⟩ := only_unreadable_files_fail configured
  obtain ⟨t, _, _, r, _, _, _, analyzed, _, failures, scanned, unresolved, errors⟩ :=
    analyzes "A.java" "class ;" brokenClass isRoot
  rw [errors] at unresolved
  obtain ⟨texts, files⟩ := parsing brokenClassParser roots
  refine ⟨configured, isRoot, ⟨r, analyzed, failures, scanned, unresolved⟩,
    texts "A.java" "class ;" brokenClass rfl, fun d read => ?_⟩
  have failed : brokenClassParser "class A {}" = .error .noTree := if_neg (by decide)
  exact (files d "A.java" ["A.java"] _).2 (.inr ⟨_, _, read, failed, rfl⟩)

end Analyzing

end TreeLint

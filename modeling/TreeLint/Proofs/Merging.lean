import TreeLint.Analysis.Files
import TreeLint.Proofs.Blocks
import TreeLint.Proofs.Keeping
import TreeLint.Proofs.Shares
import TreeLint.Proofs.Silencing

/-! Results of single files make the same whole in whatever order they are merged: sorting keeps
what compares as equal in order, and issues of different files never do. -/

namespace TreeLint

section StableSort

variable {cmp : α → α → Ordering} [Std.TransCmp cmp] {l l' : List α}

theorem isLE_total (x y : α) : (cmp x y).isLE || (cmp y x).isLE := by
  have swapped : cmp y x = (cmp x y).swap := Std.OrientedCmp.eq_swap
  rw [swapped]
  cases cmp x y <;> rfl

/-- Elements that compare as equal stay in their order. -/
theorem filter_mergeSort (l : List α) (a : α) :
    (l.mergeSort fun x y => (cmp x y).isLE).filter (cmp a · == .eq) =
      l.filter (cmp a · == .eq) := by
  have inOrder : (l.filter (cmp a · == .eq)).Pairwise fun x y => (cmp x y).isLE := by
    refine List.pairwise_of_forall_mem_list fun x foundX y foundY => ?_
    have sameX : cmp a x = .eq := by simpa using (List.mem_filter.1 foundX).2
    have sameY : cmp a y = .eq := by simpa using (List.mem_filter.1 foundY).2
    rw [← Std.TransCmp.congr_left sameX, sameY]
    rfl
  have kept := (List.sublist_mergeSort (fun _ _ _ => Std.TransCmp.isLE_trans) isLE_total inOrder
    List.filter_sublist).filter (cmp a · == .eq)
  rw [List.filter_filter] at kept
  simp only [Bool.and_self] at kept
  exact (kept.eq_of_length ((List.mergeSort_perm l _).filter _).length_eq.symm).symm

omit [Std.TransCmp cmp] in
theorem mem_of_filter_eq [Std.ReflCmp cmp]
    (same : ∀ a, l.filter (cmp a · == .eq) = l'.filter (cmp a · == .eq)) {x : α} (found : x ∈ l) :
    x ∈ l' := by
  have equal : cmp x x = .eq := Std.ReflCmp.compare_self
  have kept : x ∈ l.filter (cmp x · == .eq) := List.mem_filter.2 ⟨found, by rw [equal]; rfl⟩
  rw [same] at kept
  exact List.mem_of_mem_filter kept

/-- Lists in order are the same once each class of elements that compare as equal is. -/
theorem eq_of_filter_eq : {l l' : List α} → l.Pairwise (fun x y => (cmp x y).isLE) →
    l'.Pairwise (fun x y => (cmp x y).isLE) →
    (∀ a, l.filter (cmp a · == .eq) = l'.filter (cmp a · == .eq)) → l = l'
  | [], l', _, _, same => (List.eq_nil_iff_forall_not_mem.2 fun _ found =>
      List.not_mem_nil (mem_of_filter_eq (fun a => (same a).symm) found)).symm
  | x :: xs, [], _, _, same => by cases mem_of_filter_eq same (List.mem_cons_self ..)
  | x :: xs, y :: ys, inOrder, inOrder', same => by
      have least {z w : α} {ws : List α} (sorted : (w :: ws).Pairwise fun x y => (cmp x y).isLE)
          (found : z ∈ w :: ws) : (cmp w z).isLE := by
        rcases List.mem_cons.1 found with rfl | later
        · exact Std.ReflCmp.isLE_rfl
        · exact List.rel_of_pairwise_cons sorted later
      have equal : cmp x y = .eq := Std.OrientedCmp.isLE_antisymm
        (least inOrder (mem_of_filter_eq (fun a => (same a).symm) (List.mem_cons_self ..)))
        (least inOrder' (mem_of_filter_eq same (List.mem_cons_self ..)))
      have heads : x :: xs.filter (cmp x · == .eq) = y :: ys.filter (cmp x · == .eq) := by
        have found := same x
        rwa [List.filter_cons_of_pos (by simp [Std.ReflCmp.compare_self]),
          List.filter_cons_of_pos (by simp [equal])] at found
      obtain ⟨rfl, _⟩ := List.cons.inj heads
      refine congrArg (x :: ·) (eq_of_filter_eq inOrder.tail inOrder'.tail fun a => ?_)
      have found := same a
      rw [List.filter_cons, List.filter_cons] at found
      split at found
      · exact (List.cons.inj found).2
      · exact found

theorem pairwise_mergeSort_isLE (l : List α) :
    (l.mergeSort fun x y => (cmp x y).isLE).Pairwise fun x y => (cmp x y).isLE :=
  List.pairwise_mergeSort (fun _ _ _ => Std.TransCmp.isLE_trans) isLE_total l

theorem mergeSort_eq_of_filter_eq
    (same : ∀ a, l.filter (cmp a · == .eq) = l'.filter (cmp a · == .eq)) :
    l.mergeSort (fun x y => (cmp x y).isLE) = l'.mergeSort fun x y => (cmp x y).isLE :=
  eq_of_filter_eq (pairwise_mergeSort_isLE l) (pairwise_mergeSort_isLE l') fun a =>
    (filter_mergeSort l a).trans ((same a).trans (filter_mergeSort l' a).symm)

end StableSort

structure AnalysisResult.About (file : String) (r : AnalysisResult) : Prop where
  issues : ∀ issue ∈ r.issues, issue.file = file
  faults : ∀ fault ∈ r.faults, fault.file = file
  failures : ∀ failure ∈ r.failures, failure.file = file

instance : Std.TransCmp Issue.comparePosition :=
  inferInstanceAs (Std.TransCmp (compareLex (compareOn Issue.file)
    (compareLex (compareLex (compareOn Issue.line) (compareOn Issue.column))
      (compareOn Issue.rule))))

theorem Issue.file_eq_of_comparePosition (a b : Issue) (same : a.comparePosition b = .eq) :
    a.file = b.file :=
  Std.LawfulEqOrd.eq_of_compare (Ordering.then_eq_eq.1 same).1

def RuleFault.compareSource : RuleFault → RuleFault → Ordering :=
  compareLex (compareOn file) (compareOn rule)

instance : Std.TransCmp RuleFault.compareSource :=
  inferInstanceAs (Std.TransCmp (compareLex (compareOn RuleFault.file) (compareOn RuleFault.rule)))

theorem RuleFault.file_eq_of_compareSource (a b : RuleFault) (same : a.compareSource b = .eq) :
    a.file = b.file :=
  Std.LawfulEqOrd.eq_of_compare (Ordering.then_eq_eq.1 same).1

def FileFailure.compareFile : FileFailure → FileFailure → Ordering := compareOn file

instance : Std.TransCmp FileFailure.compareFile :=
  inferInstanceAs (Std.TransCmp (compareOn FileFailure.file))

theorem FileFailure.file_eq_of_compareFile (a b : FileFailure) (same : a.compareFile b = .eq) :
    a.file = b.file :=
  Std.LawfulEqOrd.eq_of_compare same

section Entries

variable {entries entries' : List (String × AnalysisResult)} {block : AnalysisResult → List α}
  {cmp : α → α → Ordering} {fileOf : α → String}

theorem filter_named_of_perm (alike : ∀ e ∈ entries, ∀ e' ∈ entries, e.1 = e'.1 → e = e')
    (reordered : entries.Perm entries') (file : String) :
    entries.filter (·.1 == file) = entries'.filter (·.1 == file) := by
  have anyOrder (l : List (String × AnalysisResult)) : l.Pairwise fun _ _ => True :=
    List.pairwise_of_forall fun _ _ => trivial
  refine List.Perm.eq_of_pairwise (fun e e' found found' _ _ => ?_) (anyOrder _) (anyOrder _)
    (reordered.filter _)
  obtain ⟨member, named⟩ := List.mem_filter.1 found
  obtain ⟨member', named'⟩ := List.mem_filter.1 found'
  exact alike e member e' (reordered.mem_iff.2 member')
    ((beq_iff_eq.1 named).trans (beq_iff_eq.1 named').symm)

theorem flatMap_filter_named {file : String} :
    (entries : List (String × AnalysisResult)) →
    (∀ e ∈ entries, e.1 ≠ file → block e.2 = []) →
    (entries.filter (·.1 == file)).flatMap (fun e => block e.2) =
      entries.flatMap fun e => block e.2
  | [], _ => rfl
  | e :: rest, foreign => by
      have later := flatMap_filter_named rest fun e' found =>
        foreign e' (List.mem_cons_of_mem _ found)
      by_cases named : e.1 = file
      · rw [List.filter_cons_of_pos (by simpa using named), List.flatMap_cons, later,
          List.flatMap_cons]
      · rw [List.filter_cons_of_neg (by simpa using named), later, List.flatMap_cons,
          foreign e (List.mem_cons_self ..) named, List.nil_append]

variable (sameFile : ∀ a b, cmp a b = .eq → fileOf a = fileOf b)
  (own : ∀ e ∈ entries, ∀ a ∈ block e.2, fileOf a = e.1)

include sameFile own

theorem filter_of_other {e : String × AnalysisResult} (member : e ∈ entries) {a : α}
    (other : e.1 ≠ fileOf a) : (block e.2).filter (cmp a · == .eq) = [] := by
  refine List.filter_eq_nil_iff.2 fun b found same => other ?_
  exact (own e member b found).symm.trans (sameFile a b (beq_iff_eq.1 same)).symm

/-- Sorted blocks are the same in whatever order they come: those of one file are alike, and those
of different files do not mix. -/
theorem mergeSort_flatMap_of_perm [Std.TransCmp cmp]
    (alike : ∀ e ∈ entries, ∀ e' ∈ entries, e.1 = e'.1 → e = e')
    (reordered : entries.Perm entries') :
    (entries.flatMap fun e => block e.2).mergeSort (fun a b => (cmp a b).isLE) =
      (entries'.flatMap fun e => block e.2).mergeSort fun a b => (cmp a b).isLE := by
  refine mergeSort_eq_of_filter_eq fun a => ?_
  let equals (r : AnalysisResult) : List α := (block r).filter (cmp a · == .eq)
  have foreign : ∀ e ∈ entries, e.1 ≠ fileOf a → equals e.2 = [] :=
    fun e member => filter_of_other sameFile own member
  have foreign' : ∀ e ∈ entries', e.1 ≠ fileOf a → equals e.2 = [] :=
    fun e member => foreign e (reordered.mem_iff.2 member)
  rw [List.filter_flatMap, List.filter_flatMap]
  calc entries.flatMap (fun e => equals e.2)
      = (entries.filter (·.1 == fileOf a)).flatMap (fun e => equals e.2) :=
        (flatMap_filter_named entries foreign).symm
    _ = (entries'.filter (·.1 == fileOf a)).flatMap (fun e => equals e.2) := by
        rw [filter_named_of_perm alike reordered]
    _ = entries'.flatMap fun e => equals e.2 := flatMap_filter_named entries' foreign'

theorem filter_mergeSort_flatMap [Std.TransCmp cmp] (distinct : (entries.map Prod.fst).Nodup)
    {e : String × AnalysisResult} (member : e ∈ entries) {a : α} (mine : a ∈ block e.2) :
    ((entries.flatMap fun e => block e.2).mergeSort fun a b => (cmp a b).isLE).filter
        (cmp a · == .eq) =
      (block e.2).filter (cmp a · == .eq) := by
  rw [filter_mergeSort, List.filter_flatMap]
  refine flatMap_eq_of_nodup distinct.of_map member fun e' member' other => ?_
  refine filter_of_other sameFile own member' fun same => other ?_
  rw [own e member a mine] at same
  exact List.inj_on_of_nodup_map distinct member' member same

end Entries

namespace AnalysisResult

theorem foldl_merge_eq (results : List AnalysisResult) (r : AnalysisResult) :
    results.foldl merge r =
      { issues := r.issues ++ results.flatMap (·.issues)
        suppressed := r.suppressed ++ results.flatMap (·.suppressed)
        faults := r.faults ++ results.flatMap (·.faults)
        failures := r.failures ++ results.flatMap (·.failures)
        scanned := r.scanned + (results.map (·.scanned)).sum
        unresolved := r.unresolved + (results.map (·.unresolved)).sum } := by
  induction results generalizing r with
  | nil => simp
  | cons first rest ih =>
      rw [List.foldl_cons, ih]
      simp [merge, List.append_assoc, Nat.add_assoc]

def whole (entries : List (String × AnalysisResult)) : AnalysisResult :=
  (mergeAll (entries.map Prod.snd)).sort

theorem whole_eq (entries : List (String × AnalysisResult)) :
    whole entries =
      { issues := (entries.flatMap (·.2.issues)).mergeSort fun a b => (a.comparePosition b).isLE
        suppressed := (entries.map (·.2.suppressed)).flatten
        faults := (entries.flatMap (·.2.faults)).mergeSort fun a b => (a.compareSource b).isLE
        failures := (entries.flatMap (·.2.failures)).mergeSort fun a b => (a.compareFile b).isLE
        scanned := (entries.map (·.2.scanned)).sum
        unresolved := (entries.map (·.2.unresolved)).sum } := by
  rw [whole, mergeAll, foldl_merge_eq]
  simp only [sort, empty, List.flatMap_def, List.map_map, List.nil_append, Nat.zero_add]
  rfl

/-- Nothing of the entries is lost or counted twice, silenced issues stay together file by file,
and issues come by position. -/
structure Gathers (entries : List (String × AnalysisResult)) (r : AnalysisResult) : Prop where
  issues : r.issues.Perm (entries.flatMap (·.2.issues))
  faults : r.faults.Perm (entries.flatMap (·.2.faults))
  failures : r.failures.Perm (entries.flatMap (·.2.failures))
  suppressed : r.suppressed = (entries.map (·.2.suppressed)).flatten
  scanned : r.scanned = (entries.map (·.2.scanned)).sum
  unresolved : r.unresolved = (entries.map (·.2.unresolved)).sum
  ordered : r.issues.Pairwise fun a b => (a.comparePosition b).isLE

/-- Issues at one position are those of one file, in the order in which they were found there. -/
def Stable (entries : List (String × AnalysisResult)) (r : AnalysisResult) : Prop :=
  ∀ e ∈ entries, ∀ issue ∈ e.2.issues,
    r.issues.filter (issue.comparePosition · == .eq) =
      e.2.issues.filter (issue.comparePosition · == .eq)

/-- Two results say the same, but for the order of silenced issues. -/
structure Agrees (r r' : AnalysisResult) : Prop where
  issues : r.issues = r'.issues
  faults : r.faults = r'.faults
  failures : r.failures = r'.failures
  scanned : r.scanned = r'.scanned
  unresolved : r.unresolved = r'.unresolved

variable {entries entries' : List (String × AnalysisResult)}

theorem gathers_whole (entries : List (String × AnalysisResult)) :
    Gathers entries (whole entries) := by
  rw [whole_eq]
  exact {
    issues := List.mergeSort_perm _ _
    faults := List.mergeSort_perm _ _
    failures := List.mergeSort_perm _ _
    suppressed := rfl
    scanned := rfl
    unresolved := rfl
    ordered := pairwise_mergeSort_isLE _ }

theorem stable_whole (about : ∀ e ∈ entries, e.2.About e.1)
    (distinct : (entries.map Prod.fst).Nodup) : Stable entries (whole entries) := by
  intro e member issue found
  rw [whole_eq]
  exact filter_mergeSort_flatMap Issue.file_eq_of_comparePosition
    (fun e member => (about e member).issues) distinct member found

theorem agrees_whole (about : ∀ e ∈ entries, e.2.About e.1)
    (alike : ∀ e ∈ entries, ∀ e' ∈ entries, e.1 = e'.1 → e = e')
    (reordered : entries.Perm entries') : Agrees (whole entries) (whole entries') := by
  rw [whole_eq, whole_eq]
  exact {
    issues := mergeSort_flatMap_of_perm Issue.file_eq_of_comparePosition
      (fun e member => (about e member).issues) alike reordered
    faults := mergeSort_flatMap_of_perm RuleFault.file_eq_of_compareSource
      (fun e member => (about e member).faults) alike reordered
    failures := mergeSort_flatMap_of_perm FileFailure.file_eq_of_compareFile
      (fun e member => (about e member).failures) alike reordered
    scanned := (reordered.map _).sum_eq
    unresolved := (reordered.map _).sum_eq }

end AnalysisResult

theorem Rule.file_of_share {input : FileInput} {rule : Rule σ} {fault : RuleFault}
    (failed : (rule.share input).outcome.fault? = some fault) : fault.file = input.path := by
  cases ended : (rule.share input).outcome with
  | completed n =>
      rw [ended] at failed
      cases failed
  | failed other =>
      rw [ended] at failed
      cases failed
      exact ((rule.proper_share input).failed fault ended).2.2

theorem analyzeTree_of_report {path source : String} {tree : Tree} {rules : RuleSet}
    {found : FileReport} {after : List (Rule Unit)}
    (ran : runFile ⟨path, tree, (Java.resolve tree).toOption⟩ rules.rules = .ok (found, after)) :
    analyzeTree path source tree rules =
      .ok (.ofReport source (Java.resolve tree).toOption.isSome found) := by
  rw [analyzeTree, ran]
  rfl

theorem exists_report_of_analyzeTree {path source : String} {tree : Tree} {rules : RuleSet}
    {r : AnalysisResult} (analyzed : analyzeTree path source tree rules = .ok r) :
    ∃ found after,
      runFile ⟨path, tree, (Java.resolve tree).toOption⟩ rules.rules = .ok (found, after) ∧
      r = .ofReport source (Java.resolve tree).toOption.isSome found := by
  cases ran : runFile ⟨path, tree, (Java.resolve tree).toOption⟩ rules.rules with
  | error e =>
      rw [analyzeTree, ran] at analyzed
      cases analyzed
  | ok both =>
      rw [analyzeTree_of_report ran] at analyzed
      cases analyzed
      exact ⟨both.1, both.2, rfl, rfl⟩

theorem exists_tree_of_analyzeText {p : Java.Parser} {path source : String} {rules : RuleSet}
    {r : AnalysisResult} (analyzed : analyzeText p path source rules = .ok r) :
    ∃ tree, p.parse sourceTreeId source = .ok tree ∧
      analyzeTree path source tree rules = .ok r := by
  cases parsed : p.parse sourceTreeId source with
  | error e =>
      rw [analyzeText, parsed] at analyzed
      cases analyzed
  | ok tree =>
      rw [analyzeText, parsed] at analyzed
      change (analyzeTree path source tree rules).mapError SourceError.run = .ok r at analyzed
      cases ran : analyzeTree path source tree rules with
      | error e =>
          rw [ran] at analyzed
          cases analyzed
      | ok found =>
          rw [ran] at analyzed
          cases analyzed
          exact ⟨tree, rfl, ran⟩

theorem about_of_analyzeText {p : Java.Parser} {path source : String} {rules : RuleSet}
    {r : AnalysisResult} (analyzed : analyzeText p path source rules = .ok r) : r.About path := by
  obtain ⟨tree, _, analyzed⟩ := exists_tree_of_analyzeText analyzed
  obtain ⟨_, _, ran, rfl⟩ := exists_report_of_analyzeTree analyzed
  obtain ⟨-, rfl, -⟩ := runFile_eq_ok ran
  have made := report_made_of_shares ⟨path, tree, (Java.resolve tree).toOption⟩ rules.rules
  refine ⟨fun issue active => ?_, fun fault failed => ?_, nofun⟩
  · have kept : issue ∈ (Suppression.filter _ (Suppression.ofSource source)).1 := active
    rw [Suppression.filter_fst] at kept
    have reported := List.mem_of_mem_filter kept
    rw [made.issues] at reported
    obtain ⟨s, member, inBlock⟩ := List.mem_flatMap.1 reported
    obtain ⟨rule, own, rfl⟩ := List.mem_map.1 member
    exact ((made.proper _ member).stamped (rules.keepsContext_journal _ own) issue inBlock).2.1
  · obtain ⟨run, member, outcome⟩ := List.mem_filterMap.1 failed
    rw [made.runs, List.map_map] at member
    obtain ⟨rule, -, rfl⟩ := List.mem_map.1 member
    exact Rule.file_of_share outcome

section Analyzed

variable (p : Java.Parser) (d : Disk) (rules : RuleSet)

theorem analyzeFile_about (name : String) (l : Location) :
    (analyzeFile p d rules name l).About name := by
  rw [analyzeFile]
  cases d.readAt l with
  | error e => exact ⟨nofun, nofun, fun failure found => by cases List.mem_singleton.1 found; rfl⟩
  | ok source =>
      dsimp only
      cases analyzed : analyzeText p name source rules with
      | error e =>
          exact ⟨nofun, nofun, fun failure found => by cases List.mem_singleton.1 found; rfl⟩
      | ok r => exact about_of_analyzeText analyzed

def nameOf (way : Location) : String := String.intercalate "/" way

def analyzed (folder : Location) (files : List Location) : List (String × AnalysisResult) :=
  files.map fun way => (nameOf way, analyzeFile p d rules (nameOf way) (folder ++ way))

theorem analyzeFiles_eq (folder : Location) (files : List Location) :
    analyzeFiles p d rules folder files = .whole (analyzed p d rules folder files) := by
  rw [analyzeFiles, AnalysisResult.whole, analyzed, List.map_map]
  rfl

@[simp] theorem map_fst_analyzed (folder : Location) (files : List Location) :
    (analyzed p d rules folder files).map Prod.fst = files.map nameOf :=
  List.map_map

variable {p d rules} {folder : Location} {files : List Location}

theorem about_of_mem_analyzed : ∀ e ∈ analyzed p d rules folder files, e.2.About e.1 :=
  List.forall_mem_map.2 fun way _ => analyzeFile_about p d rules (nameOf way) (folder ++ way)

theorem alike_of_mem_analyzed
    (named : ∀ way ∈ files, ∀ way' ∈ files, nameOf way = nameOf way' → way = way') :
    ∀ e ∈ analyzed p d rules folder files, ∀ e' ∈ analyzed p d rules folder files,
      e.1 = e'.1 → e = e' := by
  intro e member e' member' same
  obtain ⟨way, found, rfl⟩ := List.mem_map.1 member
  obtain ⟨way', found', rfl⟩ := List.mem_map.1 member'
  rw [named way found way' found' same]

end Analyzed

open AnalysisResult in
/-- The order of files is of no account, neither in merging their results nor in analyzing them;
files whose names tell them apart may even be listed more than once. -/
theorem order_of_files_irrelevant :
    (∀ entries entries' : List (String × AnalysisResult), (∀ e ∈ entries, e.2.About e.1) →
      (entries.map Prod.fst).Nodup → entries.Perm entries' →
        Gathers entries (whole entries) ∧ Gathers entries' (whole entries') ∧
          Stable entries (whole entries) ∧ Agrees (whole entries) (whole entries')) ∧
    ∀ (p : Java.Parser) (d : Disk) (rules : RuleSet) (folder : Location)
      (files files' : List Location),
      (∀ way ∈ files, ∀ way' ∈ files, nameOf way = nameOf way' → way = way') →
        files.Perm files' →
          Gathers (analyzed p d rules folder files) (analyzeFiles p d rules folder files) ∧
          Gathers (analyzed p d rules folder files') (analyzeFiles p d rules folder files') ∧
          Agrees (analyzeFiles p d rules folder files) (analyzeFiles p d rules folder files') ∧
          (files.Nodup →
            Stable (analyzed p d rules folder files) (analyzeFiles p d rules folder files)) := by
  constructor
  case left =>
    intro entries entries' about distinct reordered
    have alike : ∀ e ∈ entries, ∀ e' ∈ entries, e.1 = e'.1 → e = e' :=
      fun e member e' member' => List.inj_on_of_nodup_map distinct member member'
    exact ⟨gathers_whole entries, gathers_whole entries', stable_whole about distinct,
      agrees_whole about alike reordered⟩
  case right =>
    intro p d rules folder files files' named reordered
    rw [analyzeFiles_eq, analyzeFiles_eq]
    refine ⟨gathers_whole _, gathers_whole _, agrees_whole about_of_mem_analyzed
      (alike_of_mem_analyzed named) (reordered.map _), fun once => stable_whole
      about_of_mem_analyzed ?_⟩
    rw [map_fst_analyzed]
    exact once.map_on fun way found way' found' => named way found way' found'

def emptyStatement (file message : String) : Issue :=
  ⟨"S1116", file, 3, none, none, message, .warning, none⟩

def twoFiles : List (String × AnalysisResult) := [
  ("A.java", { AnalysisResult.empty with
    issues := [emptyStatement "A.java" "first", emptyStatement "A.java" "second"], scanned := 1 }),
  ("B.java", { AnalysisResult.empty with
    issues := [emptyStatement "B.java" "third"]
    faults := [⟨"S2134", "B.java", .panic, "rule panicked"⟩], scanned := 1, unresolved := 1 })]

def twoSources : Disk where
  root := .folder [
    ("A.java", .file "class A { ; }".toUTF8), ("B.java", .file "class B extends A {}".toUTF8)]
  workingFolder := []

def everyRule : RuleSet :=
  ⟨Builtin.all.map fun b => ⟨b, b.metadata.severity, true, b.defaultParams⟩⟩

open AnalysisResult in
theorem order_of_two_files_irrelevant :
    (Stable twoFiles (whole twoFiles) ∧ Agrees (whole twoFiles) (whole twoFiles.reverse)) ∧
      Agrees (analyzeFiles Java.reader twoSources everyRule [] [["A.java"], ["B.java"]])
        (analyzeFiles Java.reader twoSources everyRule [] [["B.java"], ["A.java"]]) := by
  obtain ⟨merging, analyzing⟩ := order_of_files_irrelevant
  have about : ∀ e ∈ twoFiles, e.2.About e.1 := by
    refine List.forall_mem_cons.2 ⟨⟨?_, ?_, ?_⟩, List.forall_mem_singleton.2 ⟨?_, ?_, ?_⟩⟩ <;>
      decide
  have merged := merging twoFiles twoFiles.reverse about (by decide) (by decide)
  have named : ∀ way ∈ [["A.java"], ["B.java"]], ∀ way' ∈ [["A.java"], ["B.java"]],
      nameOf way = nameOf way' → way = way' := by decide
  exact ⟨merged.2.2, (analyzing Java.reader twoSources everyRule [] _ _ named (.swap ..)).2.2.1⟩

end TreeLint

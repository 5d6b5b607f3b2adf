import TreeLint.Checks.ThreadRun
import TreeLint.Proofs.Coherence
import TreeLint.Proofs.Numbering
import TreeLint.Proofs.Spotting

/-! Which classes are reported as threads that do nothing.  A constructor of a class that is called
`run` passes for a method. -/

namespace TreeLint.Checks.ThreadRun

open TreeLint.Tree SymbolTable

variable {σ : Type} {t : Tree} {symbols : SymbolTable} {id : SymbolId} {s : TypeSymbol}

def BelowThread (symbols : SymbolTable) (s : TypeSymbol) : Prop :=
  ∃ parent r, s.superclass? = some parent ∧ symbols.type? parent = some r ∧
    r.qualifiedName = "java.lang.Thread"

/-- The method or constructor is the type's and would be called by `run()`. -/
structure IsRun (symbols : SymbolTable) (id : SymbolId) (m : MethodSymbol) : Prop where
  known : ∃ place, symbols.method? place = some m
  owner : m.owner = id
  name : m.name = "run"
  parameters : m.parameterTypes = []

def DeclaresRun (symbols : SymbolTable) (id : SymbolId) : Prop :=
  ∃ m, IsRun symbols id m ∧ m.isConstructor = false ∧ m.inherited = false

/-- A constructor or an inherited method is taken for a declaration of `run()`. -/
def SeemsToDeclareRun (symbols : SymbolTable) (id : SymbolId) : Prop :=
  ∃ m, IsRun symbols id m ∧ (m.isConstructor ∨ m.inherited)

/-- The class stands right below that of threads and does not declare `run()`. -/
def Idle (symbols : SymbolTable) (n : t.Node) : Prop :=
  n.kind = .class ∧ ∃ id s, symbols.typeOf? n = some (id, s) ∧ BelowThread symbols s ∧
    ¬ DeclaresRun symbols id

def Disguised (symbols : SymbolTable) (n : t.Node) : Prop :=
  ∃ id s, symbols.typeOf? n = some (id, s) ∧ SeemsToDeclareRun symbols id

theorem extendsThread_iff (kept : symbols.Kept) (known : symbols.type? id = some s) :
    extendsThread symbols id ↔ BelowThread symbols s := by
  rw [extendsThread, kept.superclass?_eq known]
  simp only [Option.any_eq_true, Option.bind_eq_some_iff, beq_iff_eq, BelowThread]
  constructor
  · rintro ⟨r, ⟨parent, stored, found⟩, name⟩
    exact ⟨parent, r, stored, found, name⟩
  · rintro ⟨parent, r, stored, found, name⟩
    exact ⟨r, ⟨parent, stored, found⟩, name⟩

theorem overridesRun_iff (kept : symbols.Kept) (known : symbols.type? id = some s) :
    overridesRun symbols s ↔ ∃ m, IsRun symbols id m := by
  have listed := kept.listed.mem_named_iff id s known "run"
  constructor
  · intro overrides
    obtain ⟨⟨place, symbol⟩, member, unary⟩ := List.any_eq_true.1 overrides
    obtain ⟨other, named, read⟩ := List.mem_filterMap.1 member
    obtain ⟨symbol, found, same⟩ := Option.map_eq_some_iff.1 read
    cases same
    obtain ⟨m, isMethod, unary⟩ := (Option.any_eq_true _ _).1 unary
    obtain ⟨symbol', present, owner, name⟩ := (listed place).1 named
    cases found.symm.trans present
    cases symbol <;> cases isMethod
    refine ⟨m, ⟨place, ?_⟩, Option.some.inj owner, name, ?_⟩
    · rw [SymbolTable.method?, found]
      rfl
    · exact List.eq_nil_of_length_eq_zero (beq_iff_eq.1 unary)
  · rintro ⟨m, ⟨place, found⟩, owner, name, parameters⟩
    obtain ⟨symbol, present, isMethod⟩ := Option.bind_eq_some_iff.1 found
    cases symbol <;> cases isMethod
    have named := (listed place).2 ⟨_, present, congrArg some owner, name⟩
    apply List.any_eq_true.2
    refine ⟨(place, .method m), List.mem_filterMap.2 ⟨place, named, ?_⟩, ?_⟩
    · rw [present]
      rfl
    · simp [Symbol.method?, MethodSymbol.arity, parameters]

theorem exists_isRun_iff :
    (∃ m, IsRun symbols id m) ↔ DeclaresRun symbols id ∨ SeemsToDeclareRun symbols id := by
  constructor
  · rintro ⟨m, runs⟩
    cases constructs : m.isConstructor with
    | true => exact .inr ⟨m, runs, .inl constructs⟩
    | false =>
        cases inherits : m.inherited with
        | true => exact .inr ⟨m, runs, .inr inherits⟩
        | false => exact .inl ⟨m, runs, constructs, inherits⟩
  · rintro (⟨m, runs, _⟩ | ⟨m, runs, _⟩)
    · exact ⟨m, runs⟩
    · exact ⟨m, runs⟩

def message : String := "Stop extending the Thread class as the \"run\" method is not overridden"

def lacksRun (symbols : SymbolTable) (n : t.Node) : Bool :=
  (symbols.typeOf? n).any fun (id, s) => extendsThread symbols id && !overridesRun symbols s

def spot? (input : FileInput) (n : input.tree.Node) : Option Report :=
  if input.symbols?.any (lacksRun · n) then some ⟨.node n, message, none⟩ else none

theorem lacksRun_iff (kept : symbols.Kept) (n : t.Node) :
    n.kind = .class ∧ lacksRun symbols n ↔ Idle symbols n ∧ ¬ Disguised symbols n := by
  cases found : symbols.typeOf? n with
  | none => simp [lacksRun, found, Idle]
  | some both =>
      obtain ⟨id, s⟩ := both
      have known : symbols.type? id = some s := by
        obtain ⟨_, _, read⟩ := Option.bind_eq_some_iff.1 found
        obtain ⟨_, known, same⟩ := Option.map_eq_some_iff.1 read
        cases same
        exact known
      have lacks : overridesRun symbols s = false ↔
          ¬ DeclaresRun symbols id ∧ ¬ SeemsToDeclareRun symbols id := by
        rw [← not_or, ← exists_isRun_iff, ← overridesRun_iff kept known, Bool.not_eq_true]
      simp [lacksRun, found, Idle, Disguised, extendsThread_iff kept known, lacks, and_assoc]

theorem exists_spots : ∃ hooks : Subscriber σ, behavior = .subscription hooks ∧
    hooks.Spots [.class] spot? := by
  refine ⟨_, rfl, fun _ => rfl, fun _ => rfl, fun _ => rfl, ?_, fun _ _ => rfl, fun _ => rfl⟩
  intro input n
  unfold spot? lacksRun
  dsimp only
  cases tabled : input.symbols? with
  | none => simp only [Option.any_none, Bool.false_eq_true, if_false]
  | some symbols =>
      cases found : symbols.typeOf? n with
      | none => simp only [Option.any_some, found, Option.any_none, Bool.false_eq_true, if_false]
      | some both =>
          cases lacks : extendsThread symbols both.1 && !overridesRun symbols both.2 with
          | false => simp only [Option.any_some, found, lacks, Bool.false_eq_true, if_false]
          | true =>
              simp only [Option.any_some, found, lacks, if_true]
              rfl

theorem issues_of_spots (rule : Rule σ) (path : String) (nodes : List t.Node) :
    ((nodes.filter ([Kind.class].contains ·.kind)).filterMap
        (spot? ⟨path, t, some symbols⟩)).map
          (·.issue rule.key path rule.metadata.severity) =
      (nodes.filter fun n => n.kind == .class && lacksRun symbols n).map
        (Issue.onNode rule.key path rule.metadata.severity · message) := by
  induction nodes with
  | nil => rfl
  | cons n rest ih =>
      by_cases isClass : n.kind = .class
      · cases lacks : lacksRun symbols n with
        | true => simp_all [spot?]
        | false => simp_all [spot?]
      · simp_all

theorem taken_of_spot {input : FileInput} {n : input.tree.Node} {r : Report}
    (spotted : spot? input n = some r) (rule : String) :
    r.anchor.answer rule input.tree.id = .ok () := by
  obtain ⟨_, same⟩ := Option.ite_none_right_eq_some.1 spotted
  cases same
  exact if_pos rfl

theorem runFile_eq {input : FileInput} {rule : Rule σ} (same : rule.behavior = behavior)
    (bound : ∀ symbols ∈ input.symbols?, symbols.tree = input.tree.id) :
    let reports := (input.tree.root.descendants.filter ([Kind.class].contains ·.kind)).filterMap
      (spot? input)
    let issues := reports.map (·.issue rule.key input.path rule.metadata.severity)
    runFile input [rule] =
      .ok (⟨input.path, issues, [⟨rule.key, .completed issues.length⟩]⟩, [rule]) := by
  obtain ⟨hooks, subscribes, spots⟩ := exists_spots (σ := σ)
  apply spots.runFile_eq (same.trans subscribes) bound
  intro n _ _ r spotted
  exact taken_of_spot spotted rule.key

/-- On any tree and with any table for it, the rule reports once and in document order on classes
right below that of threads which neither declare `run()` nor seem to. -/
theorem idle_threads_are_reported {id : TreeId} {calls : List Builder.Call}
    (finished : ((Builder.new id).attemptAll calls).finish = .ok t) (metadata : Metadata)
    (state : σ) (path : String) :
    let rule : Rule σ := ⟨metadata, behavior, state⟩
    runFile ⟨path, t, none⟩ [rule] = .ok (⟨path, [], [⟨rule.key, .completed 0⟩]⟩, [rule]) ∧
      ∀ tableCalls : List SymbolTable.Call,
        let symbols := (SymbolTable.new t.id).attemptAll tableCalls
        ∃ idle : List t.Node, idle.Pairwise (fun a b => a.index < b.index) ∧
          (∀ n, n ∈ idle ↔ Idle symbols n ∧ ¬ Disguised symbols n) ∧
          runFile ⟨path, t, some symbols⟩ [rule] =
            .ok (⟨path, idle.map (Issue.onNode rule.key path metadata.severity · message),
              [⟨rule.key, .completed idle.length⟩]⟩, [rule]) := by
  intro rule
  obtain ⟨_, laid⟩ := exists_laidOut finished
  have numbered := laid.wellNumbered
  constructor
  · have bound : ∀ s ∈ (FileInput.mk path t none).symbols?, s.tree = t.id := nofun
    have none : (t.root.descendants.filter ([Kind.class].contains ·.kind)).filterMap
        (spot? ⟨path, t, none⟩) = [] := by
      simp [spot?]
    have ran : runFile _ [rule] = _ := runFile_eq rfl bound
    rwa [none] at ran
  · intro tableCalls symbols
    have kept : symbols.Kept := kept_attemptAll t.id tableCalls
    have own : symbols.tree = t.id := tree_attemptAll _ tableCalls
    refine ⟨t.root.descendants.filter fun n => n.kind == .class && lacksRun symbols n, ?_, ?_, ?_⟩
    · exact numbered.descendants_ascending.sublist List.filter_sublist
    · intro n
      rw [← lacksRun_iff kept]
      simp [numbered.mem_descendants n]
    · have ran : runFile ⟨path, t, some symbols⟩ [rule] = _ :=
        runFile_eq rfl (FileInput.bound_of_own own)
      rwa [issues_of_spots, List.length_map] at ran

def namedRun : List Builder.Call := [
  .start .compilationUnit none, .start .class none,
  .token .identifier none "run" (.onLine 1 7 10), .start .constructor none,
  .token .identifier none "run" (.onLine 2 3 6), .finishNode, .finishNode, .finishNode]

def namedRunCalls : List SymbolTable.Call := [
  .declareType "Thread" "java.lang.Thread" .class none, .declareType "run" "run" .class (some 1),
  .setSuperclass ⟨1⟩ ⟨0⟩, .addMethod ⟨"run", ⟨1⟩, [], none, false, some 3⟩]

def namedRunTypes : SymbolTable := (SymbolTable.new ⟨0⟩).attemptAll namedRunCalls

theorem typeOf?_namedRun {n : t.Node} (own : t.id = ⟨0⟩) (place : n.index = 1) :
    namedRunTypes.typeOf? n = (namedRunTypes.type? ⟨1⟩).map (⟨1⟩, ·) := by
  have indexed := (kept_attemptAll ⟨0⟩ namedRunCalls).declarations
  obtain ⟨last, found⟩ := indexed.complete ⟨1⟩ _ 1 rfl rfl
  obtain ⟨symbol, present, declares⟩ := indexed.declared 1 last found
  have only : last = ⟨1⟩ := by
    match last with
    | ⟨0⟩ =>
        cases present
        cases declares
    | ⟨1⟩ => rfl
    | ⟨2⟩ =>
        cases present
        cases declares
    | ⟨_ + 3⟩ => cases present
  have declared : namedRunTypes.declaredBy? n = some ⟨1⟩ := by
    rw [declaredBy?, own, place, ← only, ← found]
    exact if_pos rfl
  rw [typeOf?, declared]
  rfl

theorem idle_namedRun {n : t.Node} (own : t.id = ⟨0⟩) (place : n.index = 1)
    (isClass : n.kind = .class) : Idle namedRunTypes n ∧ Disguised namedRunTypes n := by
  have type := typeOf?_namedRun own place
  refine ⟨⟨isClass, _, _, type, ⟨_, _, rfl, rfl, rfl⟩, ?_⟩, ?_⟩
  · rintro ⟨m, ⟨⟨⟨at_⟩, known⟩, _, _, _⟩, declared, _⟩
    match at_ with
    | 0 => cases known
    | 1 => cases known
    | 2 =>
        cases known
        cases declared
    | _ + 3 => cases known
  · exact ⟨_, _, type, _, ⟨⟨⟨2⟩, rfl⟩, rfl, rfl, rfl⟩, .inl rfl⟩

/-- Its constructor keeps such a class from being reported. -/
theorem namedRun_is_missed :
    ∃ t, ((Builder.new ⟨0⟩).attemptAll namedRun).finish = .ok t ∧
      let rule : Rule Unit := ⟨metadata, behavior, ()⟩
      ∃ (n : t.Node) (idle : List t.Node), Idle namedRunTypes n ∧ n ∉ idle ∧
        runFile ⟨"run.java", t, some namedRunTypes⟩ [rule] =
          .ok (⟨"run.java", idle.map (Issue.onNode rule.key "run.java" .warning · message),
            [⟨rule.key, .completed idle.length⟩]⟩, [rule]) := by
  obtain ⟨t, finished, nodes⟩ :=
    Builder.finish_of_closed (b := (Builder.new ⟨0⟩).attemptAll namedRun) rfl (by decide)
  have own : t.id = ⟨0⟩ := (Builder.marks_of_finish finished).1
  have reported := (idle_threads_are_reported finished metadata () "run.java").2 namedRunCalls
  rw [own] at reported
  obtain ⟨idle, _, listed, ran⟩ := reported
  have inside : 1 < t.nodes.size := by
    rw [nodes]
    decide
  let n : t.Node := ⟨1, inside⟩
  have isClass : n.kind = .class := by
    have record := n.record_eq
    rw [nodes] at record
    rw [Node.kind, ← Option.some.inj record]
    rfl
  obtain ⟨isIdle, disguised⟩ := idle_namedRun own rfl isClass
  exact ⟨t, finished, n, idle, isIdle, fun member => ((listed n).1 member).2 disguised, ran⟩

end TreeLint.Checks.ThreadRun

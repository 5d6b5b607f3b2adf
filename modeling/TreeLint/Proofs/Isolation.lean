import TreeLint.Proofs.Dispatch
import TreeLint.Rule.Run

/-! Rules that run together on a file each run as they would alone. -/

namespace TreeLint

open Traversal

namespace Session

variable {input : FileInput}

/-- A step of the shared walk, as far as it concerns one rule. -/
def step (s : Session σ) (at_ : Step input.tree) : Session σ :=
  if s.isOut then s else s.visit input at_.1 at_.2

theorem step_of_isOut {s : Session σ} (out : s.isOut) (at_ : Step input.tree) :
    s.step at_ = s :=
  if_pos out

def walkAlone (input : FileInput) (s : Session σ) : Session σ :=
  ((fullLog input.tree.root).filter fun (_, n) => s.subscribe.1.contains n.kind).foldl step
    s.subscribe.2

theorem walkAlone_of_unsubscribed {s : Session σ} (unsubscribed : s.subscribe = ([], s)) :
    walkAlone input s = s := by
  have none : (fullLog input.tree.root).filter
      (fun (_, n) => ([] : List Kind).contains n.kind) = [] :=
    List.filter_eq_nil_iff.2 fun _ _ => Bool.false_ne_true
  rw [walkAlone, unsubscribed, none, List.foldl_nil]

def alone (input : FileInput) (rule : Rule σ) : Session σ :=
  (walkAlone input ((start input rule).scanFile input)).leaveFile input

end Session

section SharedWalk

variable {input : FileInput}

private theorem modify_of_fixed {xs : Array α} {i : Nat} {f : α → α}
    (fixed : ∀ x, xs[i]? = some x → f x = x) : xs.modify i f = xs := by
  refine Array.ext_getElem? fun j => ?_
  rw [Array.getElem?_modify]
  split
  next same =>
    subst same
    cases found : xs[i]? with
    | none => rfl
    | some x => exact congrArg some (fixed x found)
  next => rfl

private theorem modify_of_found {xs : Array α} {i : Nat} {x : α} (found : xs[i]? = some x)
    (f : α → α) : xs.modify i f = xs.setIfInBounds i (f x) := by
  refine Array.ext_getElem? fun j => ?_
  rw [Array.getElem?_modify, Array.getElem?_setIfInBounds]
  split
  next same =>
    subst same
    obtain ⟨inside, _⟩ := Array.getElem?_eq_some_iff.1 found
    rw [found, if_pos inside]
    rfl
  next => rfl

/-- A call is a step of the session that is called, and is answered by detaching only if that
session is out. -/
private theorem run_callSession (event : Event) (index : Nat) (n : input.tree.Node)
    (sessions : Array (Session σ)) :
    ∃ verdict,
      (callSession input event index n).run sessions =
          (verdict, sessions.modify index (·.step (event, n))) ∧
        (verdict = .detach →
          ∀ s, sessions[index]? = some s → (s.step (event, n)).isOut) := by
  cases found : sessions[index]? with
  | none =>
      have absent : ∀ s, sessions[index]? = some s → s.step (event, n) = s := by
        intro s here
        rw [found] at here
        cases here
      refine ⟨.detach, ?_, fun _ s here => by cases here⟩
      rw [modify_of_fixed absent]
      simp only [callSession, bind_pure_comp, StateT.run_bind, StateT.run_get, pure_bind, found,
        StateT.run_pure]
      rfl
  | some s =>
      by_cases out : s.isOut
      · have fixed : ∀ s, sessions[index]? = some s → s.step (event, n) = s := by
          intro s' here
          rw [found] at here
          cases here
          exact Session.step_of_isOut out _
        refine ⟨.detach, ?_, fun _ s' here => ?_⟩
        · rw [modify_of_fixed fixed]
          simp only [callSession, bind_pure_comp, StateT.run_bind, StateT.run_get, pure_bind,
            found, out, if_true, StateT.run_pure]
          rfl
        · cases here
          rwa [Session.step_of_isOut out]
      · have stepped : s.step (event, n) = s.visit input event n := if_neg out
        refine ⟨if (s.visit input event n).failure?.isSome then .detach else .continue, ?_,
          fun detached s' here => ?_⟩
        · rw [modify_of_found found, stepped]
          simp only [callSession, bind_pure_comp, StateT.run_bind, StateT.run_get, pure_bind,
            found, out, Bool.false_eq_true, if_false, StateT.run_map, StateT.run_modify, map_pure]
          rfl
        · cases here
          rw [stepped, Session.isOut]
          split at detached
          next failed => rw [failed, Bool.true_or]
          next => cases detached

/-- Serving calls takes each session through the steps that it is called for, and through no
others. -/
private theorem run_serve_callSession (calls : List (Call input.tree)) (detached : List Nat)
    (sessions : Array (Session σ))
    (out : ∀ i ∈ detached, ∀ s, sessions[i]? = some s → s.isOut) (i : Nat) :
    ((serve (callSession input) detached calls).run sessions).2[i]? =
      sessions[i]?.map fun s =>
        ((calls.filter (·.subscriber == i)).map fun c => (c.event, c.node)).foldl
          Session.step s := by
  induction calls generalizing detached sessions with
  | nil => exact (Option.map_id' ..).symm
  | cons c rest ih =>
      rw [serve]
      split
      next gone =>
        rw [ih detached sessions out, List.filter_cons]
        split
        next mine =>
          cases found : sessions[i]? with
          | none => rfl
          | some s =>
              have member : i ∈ detached :=
                beq_iff_eq.1 mine ▸ List.contains_iff_mem.1 gone
              simp only [Option.map_some, List.map_cons, List.foldl_cons,
                Session.step_of_isOut (out i member s found)]
        next => rfl
      next =>
        obtain ⟨verdict, called, leaves⟩ :=
          run_callSession c.event c.subscriber c.node sessions
        have stays : ∀ j ∈ detached, ∀ s,
            (sessions.modify c.subscriber (·.step (c.event, c.node)))[j]? = some s →
              s.isOut := by
          intro j member s here
          rw [Array.getElem?_modify] at here
          split at here
          · obtain ⟨before, found, rfl⟩ := Option.map_eq_some_iff.1 here
            have gone := out j member before found
            rwa [Session.step_of_isOut gone]
          · exact out j member s here
        have moved : sessions[i]?.map (fun s =>
              (((c :: rest).filter (·.subscriber == i)).map fun c => (c.event, c.node)).foldl
                Session.step s) =
            (sessions.modify c.subscriber (·.step (c.event, c.node)))[i]?.map fun s =>
              ((rest.filter (·.subscriber == i)).map fun c => (c.event, c.node)).foldl
                Session.step s := by
          rw [Array.getElem?_modify, List.filter_cons]
          simp only [beq_iff_eq]
          split
          · rw [Option.map_map]
            rfl
          · rfl
        rw [StateT.run_bind, called, moved]
        cases verdict with
        | «continue» => exact ih detached _ stays
        | detach =>
            refine ih (c.subscriber :: detached) _ fun j member s here => ?_
            rcases List.mem_cons.1 member with rfl | member
            · rw [Array.getElem?_modify, if_pos rfl] at here
              obtain ⟨before, found, rfl⟩ := Option.map_eq_some_iff.1 here
              exact leaves rfl before found
            · exact stays j member s here

theorem sharedWalk_eq_map (input : FileInput) (sessions : List (Session σ)) :
    sharedWalk input sessions = sessions.map (Session.walkAlone input) := by
  refine List.ext_getElem? fun i => ?_
  simp only [sharedWalk, dispatch_eq_serve]
  rw [Array.getElem?_toList,
    run_serve_callSession _ _ _ (fun _ none => absurd none List.not_mem_nil),
    filter_callsOf_interested, List.map_map, List.getElem?_map, List.getElem?_toArray,
    List.getElem?_map, List.getElem?_map, List.getD_eq_getElem?_getD, List.getElem?_map,
    List.getElem?_map]
  cases found : sessions[i]? with
  | none => rfl
  | some s =>
      have unlabelled : ∀ steps : List (Step input.tree),
          steps.map ((fun c : Call input.tree => (c.event, c.node)) ∘
            fun (event, n) => ⟨event, i, n⟩) = steps := List.map_id
      simp only [Option.map_some, Option.getD_some, Session.walkAlone]
      rw [unlabelled]

end SharedWalk

section DuplicateKey

variable {seen : List String} {first : Rule σ}

theorem duplicateKey?_of_mem (known : first.key ∈ seen) (rest : List (Rule σ)) :
    duplicateKey? seen (first :: rest) = some first.key :=
  if_pos (List.contains_iff_mem.2 known)

theorem duplicateKey?_of_not_mem (unknown : first.key ∉ seen) (rest : List (Rule σ)) :
    duplicateKey? seen (first :: rest) = duplicateKey? (first.key :: seen) rest :=
  if_neg (mt List.contains_iff_mem.1 unknown)

end DuplicateKey

theorem duplicateKey?_eq_none_iff {rules : List (Rule σ)} {seen : List String} :
    duplicateKey? seen rules = none ↔
      (rules.map Rule.key).Nodup ∧ ∀ rule ∈ rules, rule.key ∉ seen := by
  induction rules generalizing seen with
  | nil => simp [duplicateKey?]
  | cons rule rest ih =>
      rw [List.map_cons, List.nodup_cons, List.forall_mem_cons]
      by_cases known : rule.key ∈ seen
      · rw [duplicateKey?_of_mem known]
        exact ⟨nofun, fun fresh => absurd known fresh.2.1⟩
      · rw [duplicateKey?_of_not_mem known, ih]
        constructor
        · rintro ⟨distinct, fresh⟩
          refine ⟨⟨fun repeated => ?_, distinct⟩, known, fun later member seenLater =>
            fresh later member (List.mem_cons_of_mem _ seenLater)⟩
          obtain ⟨later, member, same⟩ := List.mem_map.1 repeated
          exact fresh later member (same ▸ List.mem_cons_self ..)
        · rintro ⟨⟨new, distinct⟩, _, fresh⟩
          refine ⟨distinct, fun later member seenLater => ?_⟩
          rcases List.mem_cons.1 seenLater with same | before
          · exact new (same ▸ List.mem_map_of_mem member)
          · exact fresh later member before

theorem FileInput.bound_iff {input : FileInput} :
    input.symbols?.any (·.tree ≠ input.tree.id) = false ↔
      ∀ symbols ∈ input.symbols?, symbols.tree = input.tree.id := by
  cases input.symbols? with
  | none => simp
  | some symbols => simp

theorem check_eq_ok_iff {input : FileInput} {rules : List (Rule σ)} :
    input.check rules = .ok () ↔
      (rules.map Rule.key).Nodup ∧ ∀ symbols ∈ input.symbols?, symbols.tree = input.tree.id := by
  have unseen : (∀ rule ∈ rules, rule.key ∉ ([] : List String)) ↔ True :=
    iff_true_intro fun _ _ => List.not_mem_nil
  rw [FileInput.check, ← FileInput.bound_iff]
  cases input.symbols?.any (·.tree ≠ input.tree.id) with
  | true => simp
  | false =>
      rw [if_neg Bool.false_ne_true]
      cases found : duplicateKey? [] rules with
      | none =>
          rw [duplicateKey?_eq_none_iff, unseen] at found
          exact iff_of_true rfl ⟨found.1, rfl⟩
      | some key =>
          refine iff_of_false nofun fun ⟨distinct, _⟩ => ?_
          rw [duplicateKey?_eq_none_iff.2 ⟨distinct, unseen.2 trivial⟩] at found
          cases found

theorem FileInput.bound_of_own {path : String} {t : Tree} {symbols : SymbolTable}
    (own : symbols.tree = t.id) :
    ∀ s ∈ (FileInput.mk path t (some symbols)).symbols?, s.tree = t.id := by
  rintro s present
  cases present
  exact own

theorem runFile_of_check {input : FileInput} {rules : List (Rule σ)}
    (checked : input.check rules = .ok ()) :
    runFile input rules =
      .ok (report input (rules.map (Session.alone input)),
        rules.map fun rule => (Session.alone input rule).rule) := by
  have sessions : (sharedWalk input (rules.map fun rule =>
      (Session.start input rule).scanFile input)).map (·.leaveFile input) =
        rules.map (Session.alone input) := by
    rw [sharedWalk_eq_map, List.map_map, List.map_map]
    rfl
  rw [runFile, checked]
  change Except.ok _ = _
  rw [sessions, List.map_map]
  rfl

theorem runFile_eq_ok {input : FileInput} {rules after : List (Rule σ)} {found : FileReport}
    (ran : runFile input rules = .ok (found, after)) :
    input.check rules = .ok () ∧
      found = report input (rules.map (Session.alone input)) ∧
      after = rules.map fun rule => (Session.alone input rule).rule := by
  cases checked : input.check rules with
  | error e =>
      rw [runFile, checked] at ran
      cases ran
  | ok _ =>
      rw [runFile_of_check checked] at ran
      cases ran
      exact ⟨rfl, rfl, rfl⟩

/-- A run of several rules is their runs on the same file alone, put one after the other. -/
theorem runFile_eq_solo_runs (input : FileInput) (rules : List (Rule σ))
    (distinct : (rules.map Rule.key).Nodup)
    (bound : ∀ symbols ∈ input.symbols?, symbols.tree = input.tree.id) :
    ∃ solo : List (FileReport × Rule σ),
      rules.map (fun rule => runFile input [rule]) =
          solo.map (fun (report, rule) => .ok (report, [rule])) ∧
        runFile input rules =
          .ok (⟨input.path, solo.flatMap (·.1.issues), solo.flatMap (·.1.runs)⟩,
            solo.map (·.2)) := by
  refine ⟨rules.map fun rule =>
    (report input [Session.alone input rule], (Session.alone input rule).rule), ?_, ?_⟩
  · rw [List.map_map]
    refine List.map_congr_left fun rule _ => ?_
    exact runFile_of_check (check_eq_ok_iff.2 ⟨List.pairwise_singleton _ rule.key, bound⟩)
  · rw [runFile_of_check (check_eq_ok_iff.2 ⟨distinct, bound⟩)]
    have runs : (rules.map (Session.alone input)).map
          (fun s => RuleRun.mk s.rule.key (s.finish input).1) =
        rules.flatMap fun rule =>
          [⟨(Session.alone input rule).rule.key, ((Session.alone input rule).finish input).1⟩] := by
      rw [List.map_map]
      exact List.map_eq_flatMap
    rw [report, runs]
    simp only [report, List.flatMap_map, List.map_map, List.map_cons, List.map_nil,
      List.flatMap_cons, List.flatMap_nil, List.append_nil]
    rfl

def loneSemicolon : Tree where
  id := ⟨0⟩
  nodes := #[
    ⟨.block, "block", none, none, #[1], none, .onLine 1 1 2⟩,
    ⟨.semicolon, "semicolon", none, some 0, #[], some ⟨";", .onLine 1 1 2⟩, .onLine 1 1 2⟩]
  hasErrors := false
  nonempty := by decide
  links := {
    child_after := fun i r here =>
      match i with
      | 0 => by cases here; decide
      | 1 => by cases here; decide
      | _ + 2 => nomatch here
    parent_before := fun i r here =>
      match i with
      | 0 => by cases here; decide
      | 1 => by cases here; decide
      | _ + 2 => nomatch here }

/-- One rule that walks the tree itself and counts nodes, one that crashes in the shared walk,
one that ignores that its report is refused, and one that does so and goes on in another name. -/
def unrulyRules : List (Rule Nat) := [
  ⟨.new "counts" "counts",
    .visitor fun _ => ⟨fun n => do
      Scan.setState ((← Scan.getState) + 1)
      Scan.addIssue n "seen"
      return .children, fun _ => pure ()⟩, 0⟩,
  ⟨.new "crashes" "crashes",
    .subscription {
      kinds := fun _ => .ok [.semicolon]
      scanFile := fun _ => pure ()
      visitNode := fun _ n => do
        Scan.addIssue n "before the crash"
        Scan.fail (.panic none)
      leaveNode := fun _ _ => pure ()
      leaveFile := fun _ => pure () }, 0⟩,
  ⟨.new "strays" "strays",
    .subscription {
      kinds := fun _ => .ok [.semicolon, .block, .semicolon]
      asked := (· + 1)
      scanFile := fun _ => pure ()
      visitNode := fun _ _ => do
        let _ ← Scan.tryReport ⟨.line 0, "nowhere", none⟩
      leaveNode := fun _ _ => pure ()
      leaveFile := fun _ => Scan.setState 7 }, 0⟩,
  ⟨.new "poses" "poses",
    .subscription {
      kinds := fun _ => .ok [.block]
      scanFile := fun _ => pure ()
      visitNode := fun input n => do
        let _ ← Scan.tryReport ⟨.line 0, "nowhere", none⟩
        Scan.renewContext input "counts" .error
        Scan.addIssue n "in another name"
      leaveNode := fun _ _ => pure ()
      leaveFile := fun _ => pure () }, 0⟩]

def loneSemicolonInput : FileInput := ⟨"A.java", loneSemicolon, some (.new ⟨0⟩)⟩

theorem unrulyRules_run_as_alone :
    (unrulyRules.map Rule.key).Nodup ∧
      (∀ symbols ∈ loneSemicolonInput.symbols?,
        symbols.tree = loneSemicolonInput.tree.id) ∧
      ∃ solo : List (FileReport × Rule Nat),
        unrulyRules.map (fun rule => runFile loneSemicolonInput [rule]) =
            solo.map (fun (report, rule) => .ok (report, [rule])) ∧
          runFile loneSemicolonInput unrulyRules =
            .ok (⟨"A.java", solo.flatMap (·.1.issues), solo.flatMap (·.1.runs)⟩,
              solo.map (·.2)) := by
  have distinct : (unrulyRules.map Rule.key).Nodup := by decide
  have bound : ∀ symbols ∈ loneSemicolonInput.symbols?,
      symbols.tree = loneSemicolonInput.tree.id := by
    rintro symbols present
    cases present
    rfl
  exact ⟨distinct, bound, runFile_eq_solo_runs loneSemicolonInput unrulyRules distinct bound⟩

end TreeLint

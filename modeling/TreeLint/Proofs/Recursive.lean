import TreeLint.Proofs.Outcome

/-! Rules that walk on their own: what their one hook does is all that they do. -/

namespace TreeLint

namespace Scan

/-- From any state and in any context of the tree, the hook does this, ends like this, and keeps
the state and the context. -/
structure Does (x : Scan σ α) (tree : TreeId) (did : List Script.Act)
    (result : Except Failure α) : Prop where
  kept : Script.Act.KeepContext did
  acts : ∀ state context, context.sink.tree = tree → (x state).acts context = did
  run : ∀ state context, context.sink.tree = tree →
    (x state).run context = (result, state, context.recording did)

variable {tree : TreeId} {acts front back : List Script.Act}

theorem does_pure (value : α) : (pure value : Scan σ α).Does tree [] (.ok value) :=
  ⟨Script.Act.keepContext_nil, fun _ _ _ => rfl, fun _ _ _ => rfl⟩

theorem does_fail (failure : Failure) :
    (fail failure : Scan σ α).Does tree [.failed failure] (.error failure) where
  kept := List.forall_mem_singleton.2 rfl
  acts _ _ _ := rfl
  run state context _ :=
    congrArg (Except.error failure, state, ·) (context.recording_failed failure).symm

theorem Does.bind {x : Scan σ α} {f : α → Scan σ β} {value : α} {result : Except Failure β}
    (first : x.Does tree front (.ok value)) (later : (f value).Does tree back result) :
    (x >>= f).Does tree (front ++ back) result := by
  have stays {context : Context} (own : context.sink.tree = tree) :
      (context.recording front).sink.tree = tree := by
    rwa [context.recording_of_keepContext first.kept]
  refine ⟨first.kept.append later.kept, fun state context own => ?_, fun state context own => ?_⟩
  · rw [acts_bind, first.acts state context own, first.run state context own]
    exact congrArg (front ++ ·) (later.acts state _ (stays own))
  · rw [run_bind, first.run state context own]
    exact (later.run state _ (stays own)).trans (by rw [Context.recording_append])

theorem Does.bind_failed {x : Scan σ α} {f : α → Scan σ β} {failure : Failure}
    (failed : x.Does tree acts (.error failure)) : (x >>= f).Does tree acts (.error failure) := by
  refine ⟨failed.kept, fun state context own => ?_, fun state context own => ?_⟩
  · rw [acts_bind, failed.acts state context own, failed.run state context own]
    exact List.append_nil acts
  · rw [run_bind, failed.run state context own]
    rfl

theorem does_report {r : Report} (taken : ∀ rule, r.anchor.answer rule tree = .ok ()) :
    (report r : Scan σ Unit).Does tree [.reported r (.ok ())] (.ok ()) := by
  have tried : (tryReport r : Scan σ _).Does tree [.reported r (.ok ())] (.ok (.ok ())) := by
    refine ⟨List.forall_mem_singleton.2 rfl, ?_, ?_⟩
    all_goals
      rintro state context rfl
      simp [tryReport, Script.acts, Script.run, Context.report_eq, Context.answer, taken]
  exact tried.bind (does_pure ())

theorem does_addIssue {t : Tree} (n : t.Node) (message : String) :
    (addIssue n message : Scan σ Unit).Does t.id [.reported ⟨.node n, message, none⟩ (.ok ())]
      (.ok ()) :=
  does_report fun _ => if_pos rfl

section Each

variable {xs : List α} {f : α → Scan σ Unit} {spot? : α → Option Report}

theorem Does.forM
    (each : ∀ x ∈ xs, (f x).Does tree ((spot? x).toList.map (.reported · (.ok ()))) (.ok ())) :
    (xs.forM f).Does tree ((xs.filterMap spot?).map (.reported · (.ok ()))) (.ok ()) := by
  induction xs with
  | nil => exact does_pure ()
  | cons x xs ih =>
      obtain ⟨here, later⟩ := List.forall_mem_cons.1 each
      have split : ((x :: xs).filterMap spot?).map (Script.Act.reported · (.ok ())) =
          (spot? x).toList.map (.reported · (.ok ())) ++
            (xs.filterMap spot?).map (.reported · (.ok ())) := by
        cases spotted : spot? x <;> simp [spotted]
      rw [split]
      exact here.bind (ih later)

theorem Does.forM_failed {x : α} {rest : List α} {failure : Failure}
    (each : ∀ x ∈ xs, (f x).Does tree ((spot? x).toList.map (.reported · (.ok ()))) (.ok ()))
    (failed : (f x).Does tree [.failed failure] (.error failure)) :
    ((xs ++ x :: rest).forM f).Does tree
      ((xs.filterMap spot?).map (.reported · (.ok ())) ++ [.failed failure]) (.error failure) := by
  have split : (xs ++ x :: rest).forM f =
      (xs.forM f >>= fun _ => f x >>= fun _ => rest.forM f) := List.forM_append
  rw [split]
  exact (Does.forM each).bind failed.bind_failed

end Each

end Scan

variable {input : FileInput} {rule : Rule σ} {scan : FileInput → Scan σ Unit}
  {reports : List Report} {failure : Failure}

theorem Session.alone_of_recursive (walks : rule.behavior.subscriber? = none) :
    alone input rule = (start input rule).scanFile input := by
  have left : ((start input rule).scanFile input).rule.behavior.subscriber? = none := by
    unfold scanFile attempt
    split <;> exact walks
  rw [alone, walkAlone_of_unsubscribed (subscribe_of_recursive left), leaveFile_of_recursive left]

namespace Rule

theorem acts_journal_of_recursive (walks : rule.behavior = .recursive scan) :
    (rule.journal input).acts =
      (scan input rule.state).acts (Session.start input rule).context := by
  have alone : (Session.start input rule).rule.behavior.subscriber? = none :=
    congrArg Behavior.subscriber? walks
  have noting : rule.noted.behavior.subscriber? = none := Session.recursive_noting alone []
  have hook : (Session.start input rule).rule.behavior.scanFile = scan :=
    congrArg Behavior.scanFile walks
  rw [journal, Session.alone_of_recursive noting, Session.start_noted, Session.scanFile_noting,
    hook]
  exact Journal.acts_call [] _ _

theorem acts_journal_of_does {acts : List Script.Act} {result : Except Failure Unit}
    (walks : rule.behavior = .recursive scan)
    (does : (scan input).Does input.tree.id acts result) : (rule.journal input).acts = acts :=
  (acts_journal_of_recursive walks).trans (does.acts _ _ rfl)

theorem rule_alone_of_does {acts : List Script.Act} {result : Except Failure Unit}
    (walks : rule.behavior = .recursive scan)
    (does : (scan input).Does input.tree.id acts result) :
    (Session.alone input rule).rule = rule := by
  have ran := does.run rule.state (Session.start input rule).context rfl
  have hook : (Session.start input rule).rule.behavior.scanFile = scan :=
    congrArg Behavior.scanFile walks
  rw [Session.alone_of_recursive (congrArg Behavior.subscriber? walks), Session.scanFile, hook,
    Session.attempt, show (Session.start input rule).rule = rule from rfl, ran]
  cases result <;> rfl

theorem runFile_of_does {acts : List Script.Act} {result : Except Failure Unit}
    (walks : rule.behavior = .recursive scan)
    (bound : ∀ symbols ∈ input.symbols?, symbols.tree = input.tree.id)
    (does : (scan input).Does input.tree.id acts result) :
    (rule.journal input).acts = acts ∧
      runFile input [rule] =
        .ok (⟨input.path, (rule.decided input (rule.journal input)).2,
          [⟨rule.key, (rule.decided input (rule.journal input)).1⟩]⟩, [rule]) := by
  have checked : input.check [rule] = .ok () :=
    check_eq_ok_iff.2 ⟨List.pairwise_singleton _ rule.key, bound⟩
  have same := rule_alone_of_does walks does
  have journaled := acts_journal_of_does walks does
  refine ⟨journaled, ?_⟩
  have kept : (rule.journal input).KeepsContext := by
    rw [Journal.KeepsContext, journaled]
    exact does.kept
  rw [runFile_of_check checked, ← settled_of_keepsContext kept]
  simp [report, Session.finish_alone, same]

theorem runFile_of_reports (walks : rule.behavior = .recursive scan)
    (bound : ∀ symbols ∈ input.symbols?, symbols.tree = input.tree.id)
    (does : (scan input).Does input.tree.id (reports.map (.reported · (.ok ()))) (.ok ())) :
    let issues := reports.map (·.issue rule.key input.path rule.metadata.severity)
    runFile input [rule] =
      .ok (⟨input.path, issues, [⟨rule.key, .completed issues.length⟩]⟩, [rule]) := by
  intro issues
  obtain ⟨acts, ran⟩ := runFile_of_does walks bound does
  rw [ran, decided, Journal.rejections, Journal.failures, Journal.accepted, acts,
    Script.Act.rejection_of_taken, Script.Act.failure_of_taken,
    Script.Act.accepted_of_taken]
  rfl

theorem runFile_of_failed (walks : rule.behavior = .recursive scan)
    (bound : ∀ symbols ∈ input.symbols?, symbols.tree = input.tree.id)
    (does : (scan input).Does input.tree.id
      (reports.map (.reported · (.ok ())) ++ [.failed failure]) (.error failure)) :
    runFile input [rule] =
      .ok (⟨input.path, [],
        [⟨rule.key, .failed ⟨rule.key, input.path, failure.kind, failure.message⟩⟩]⟩, [rule]) := by
  obtain ⟨acts, ran⟩ := runFile_of_does walks bound does
  rw [ran, decided, Journal.rejections, Journal.failures, acts, List.filterMap_append,
    List.filterMap_append, Script.Act.rejection_of_taken, Script.Act.failure_of_taken]
  rfl

end Rule

end TreeLint

import TreeLint.Proofs.Assembling

/-! Calls of a builder that are refused: when, and that nothing is left of them. -/

namespace TreeLint.Tree

namespace Builder

def Call.Adds : Call → Prop
  | .start kind _ => kind.isToken = false
  | .token kind .. => kind.isToken
  | _ => False

variable {b : Builder} {kind : Kind}

@[simp] theorem perform_start_of_token (token : kind.isToken) (given? : Option (String × Span)) :
    b.perform (.start kind given?) = .error (.tokenKindAsComposite kind) := by
  cases given? with
  | none => rw [perform, startNode_of_token token]; rfl
  | some given => rw [perform, startSpanned_of_token token]; rfl

theorem perform_start_of_full (composite : kind.isToken = false) (full : ¬ b.HasRoom)
    (given? : Option (String × Span)) :
    b.perform (.start kind given?) = .error .multipleRoots := by
  cases given? with
  | none => rw [perform, startNode_of_full composite full]; rfl
  | some given => rw [perform, startSpanned_of_full composite full]; rfl

theorem perform_token_of_composite (composite : kind.isToken = false)
    (rawKind? : Option String) (text : String) (span : Span) :
    b.perform (.token kind rawKind? text span) = .error (.compositeKindAsToken kind) := by
  cases rawKind? with
  | none => rw [perform, Builder.token, tokenRaw_of_composite composite]; rfl
  | some rawKind => rw [perform, tokenRaw_of_composite composite]; rfl

theorem perform_token_of_full (token : kind.isToken) (full : ¬ b.HasRoom)
    (rawKind? : Option String) (text : String) (span : Span) :
    b.perform (.token kind rawKind? text span) = .error .multipleRoots := by
  cases rawKind? with
  | none => rw [perform, Builder.token, tokenRaw_of_full token full]; rfl
  | some rawKind => rw [perform, tokenRaw_of_full token full]; rfl

private theorem ok_of_map_some {x : Except TreeError (Nat × Builder)} {answer : Option Nat}
    {b' : Builder} (made : x.map (fun (n, b) => (some n, b)) = .ok (answer, b')) :
    ∃ n, x = .ok (n, b') := by
  cases x with
  | error e => cases made
  | ok pair =>
      cases made
      exact ⟨pair.1, rfl⟩

theorem sameMarks_perform_start {b b' : Builder} {given? : Option (String × Span)}
    {answer : Option Nat} (made : b.perform (.start kind given?) = .ok (answer, b')) :
    SameMarks b b' := by
  cases given? with
  | none =>
      obtain ⟨n, started⟩ := ok_of_map_some made
      exact sameMarks_startNode started
  | some given =>
      obtain ⟨n, started⟩ := ok_of_map_some made
      exact sameMarks_startSpanned started

theorem sameMarks_perform_token {b b' : Builder} {rawKind? : Option String} {text : String}
    {span : Span} {answer : Option Nat}
    (made : b.perform (.token kind rawKind? text span) = .ok (answer, b')) :
    SameMarks b b' := by
  cases rawKind? with
  | none =>
      obtain ⟨n, added⟩ := ok_of_map_some made
      exact sameMarks_tokenRaw added
  | some rawKind =>
      obtain ⟨n, added⟩ := ok_of_map_some made
      exact sameMarks_tokenRaw added

end Builder

namespace Assembly

open InPlace

@[simp] theorem perform_start (kind : Kind) (given? : Option (String × Span)) :
    perform (.start kind given?) =
      some <$> openNode kind ((given?.map (·.1)).getD kind.name) (given?.map (·.2)) := by
  cases given? with
  | none => rfl
  | some given => rfl

@[simp] theorem perform_token (kind : Kind) (rawKind? : Option String) (text : String)
    (span : Span) :
    perform (.token kind rawKind? text span) =
      some <$> tokenRaw kind (rawKind?.getD kind.name) text span := by
  cases rawKind? with
  | none => rfl
  | some rawKind => rfl

/-- Why a call is refused. -/
inductive Refuses (a : Assembly) : Builder.Call → TreeError → Prop
  | tokenAsComposite (token : kind.isToken) :
    Refuses a (.start kind given?) (.tokenKindAsComposite kind)
  | compositeAsToken (composite : kind.isToken = false) :
    Refuses a (.token kind rawKind? text span) (.compositeKindAsToken kind)
  | secondRoot (adds : call.Adds) (closed : a.opened = []) (placed : a.nodes ≠ #[]) :
    Refuses a call .multipleRoots
  | noneOpen (closed : a.opened = []) : Refuses a .finishNode .noOpenNode

theorem Refuses.unique {a : Assembly} {call : Builder.Call} {e e' : TreeError}
    (refuses : Refuses a call e) (other : Refuses a call e') : e' = e := by
  cases refuses with
  | tokenAsComposite token =>
      cases other with
      | tokenAsComposite => rfl
      | secondRoot adds => exact absurd token (Bool.eq_false_iff.1 adds)
  | compositeAsToken composite =>
      cases other with
      | compositeAsToken => rfl
      | secondRoot adds => exact absurd adds (Bool.eq_false_iff.1 composite)
  | secondRoot adds =>
      cases other with
      | tokenAsComposite token => exact absurd token (Bool.eq_false_iff.1 adds)
      | compositeAsToken composite => exact absurd adds (Bool.eq_false_iff.1 composite)
      | secondRoot => rfl
      | noneOpen => exact adds.elim
  | noneOpen =>
      cases other with
      | secondRoot adds => exact adds.elim
      | noneOpen => rfl

/-- What a call comes to, by the builder and in place. -/
inductive Outcome (b : Builder) (call : Builder.Call) : Prop
  | made (answer : Option Nat) (b' : Builder) (performs : b.perform call = .ok (answer, b'))
    (inPlace : perform call (of b) = .ok answer (of b'))
    (unopposed : ∀ e, ¬ Refuses (of b) call e)
  | refused (e : TreeError) (fails : b.perform call = .error e)
    (inPlace : perform call (of b) = .error (.refused e) (of b))
    (reason : Refuses (of b) call e)

section Outcome

variable {b : Builder}

@[simp] theorem opened_of_eq_nil_iff : (of b).opened = [] ↔ b.opened = [] := List.map_eq_nil_iff

theorem refuses_of_full {call : Builder.Call} (adds : call.Adds) (full : ¬ b.HasRoom) :
    Refuses (of b) call .multipleRoots := by
  obtain ⟨closed, placed⟩ := Classical.not_imp.1 full
  exact .secondRoot adds (opened_of_eq_nil_iff.2 closed) placed

theorem not_refuses_of_room {call : Builder.Call} (adds : call.Adds) (room : b.HasRoom)
    (e : TreeError) : ¬ Refuses (of b) call e := by
  rintro (token | composite | ⟨_, closed, placed⟩ | _)
  · exact absurd token (Bool.eq_false_iff.1 adds)
  · exact absurd adds (Bool.eq_false_iff.1 composite)
  · exact placed (room (opened_of_eq_nil_iff.1 closed))
  · exact adds

theorem outcome_start (b : Builder) (kind : Kind) (given? : Option (String × Span)) :
    Outcome b (.start kind given?) := by
  cases sort : kind.isToken with
  | true =>
      refine .refused _ (Builder.perform_start_of_token sort given?) ?_ (.tokenAsComposite sort)
      rw [perform_start]
      exact map_of_error (openNode_of_token sort _ _) _
  | false =>
      by_cases room : b.HasRoom
      · obtain ⟨b', started, adds, opened, lastSpan⟩ :=
          Builder.perform_start_of_room sort room given?
        refine .made _ b' started ?_ (not_refuses_of_room sort room)
        rw [perform_start]
        rw [← Option.isSome_map] at opened
        exact map_of_ok (openNode_of_room sort room adds opened lastSpan
          (Builder.sameMarks_perform_start started)) _
      · refine .refused _ (Builder.perform_start_of_full sort room given?) ?_
          (refuses_of_full sort room)
        rw [perform_start]
        exact map_of_error (openNode_of_full sort room _ _) _

theorem outcome_token (b : Builder) (kind : Kind) (rawKind? : Option String) (text : String)
    (span : Span) : Outcome b (.token kind rawKind? text span) := by
  cases sort : kind.isToken with
  | true =>
      by_cases room : b.HasRoom
      · obtain ⟨b', added, adds, opened, lastSpan⟩ :=
          Builder.perform_token_of_room sort room rawKind? text span
        refine .made _ b' added ?_ (not_refuses_of_room sort room)
        rw [perform_token]
        exact map_of_ok (tokenRaw_of_room sort room adds opened lastSpan
          (Builder.sameMarks_perform_token added)) _
      · refine .refused _ (Builder.perform_token_of_full sort room rawKind? text span) ?_
          (refuses_of_full sort room)
        rw [perform_token]
        exact map_of_error (tokenRaw_of_full sort room _ text span) _
  | false =>
      refine .refused _ (Builder.perform_token_of_composite sort rawKind? text span) ?_
        (.compositeAsToken sort)
      rw [perform_token]
      exact map_of_error (tokenRaw_of_composite sort _ text span) _

theorem outcome_finishNode (b : Builder) : Outcome b .finishNode := by
  cases opened : b.opened with
  | nil =>
      refine .refused .noOpenNode ?_ (map_of_error (finishNode_of_closed opened) _)
        (.noneOpen (opened_of_eq_nil_iff.2 opened))
      rw [Builder.perform, Builder.finishNode_of_closed opened]
      rfl
  | cons o rest =>
      obtain ⟨b', closed, inPlace⟩ := finishNode_of_opened opened
      refine .made (some o.index) b' ?_ (map_of_ok inPlace _) ?_
      · rw [Builder.perform, closed]
        rfl
      · rintro e (_ | _ | ⟨adds, _, _⟩ | none)
        · exact adds
        · rw [opened_of_eq_nil_iff, opened] at none
          cases none

theorem outcome_perform (b : Builder) (call : Builder.Call) : Outcome b call := by
  cases call with
  | field name => exact .made none (b.field name) rfl rfl fun | _, .secondRoot adds _ _ => adds
  | markError => exact .made none b.markError rfl rfl fun | _, .secondRoot adds _ _ => adds
  | start kind given? => exact outcome_start b kind given?
  | token kind rawKind? text span => exact outcome_token b kind rawKind? text span
  | finishNode => exact outcome_finishNode b

end Outcome

theorem careful_perform : Careful perform fun a => ∃ b, a = of b where
  stays := by
    rintro _ a' call answer ⟨b, rfl⟩ ran
    cases outcome_perform b call with
    | made answer' b' performs inPlace unopposed =>
        rw [inPlace] at ran
        cases ran
        exact ⟨b', rfl⟩
    | refused e fails inPlace reason =>
        rw [inPlace] at ran
        cases ran
  harmless := by
    rintro _ a' call stop ⟨b, rfl⟩ failed
    cases outcome_perform b call with
    | made answer b' performs inPlace unopposed =>
        rw [inPlace] at failed
        cases failed
    | refused e fails inPlace reason =>
        rw [inPlace] at failed
        cases failed
        rfl

@[simp] theorem after_of (b : Builder) (calls : List Builder.Call) :
    after perform (of b) calls = of (b.attemptAll calls) := by
  induction calls generalizing b with
  | nil => rfl
  | cons call rest ih =>
      rw [after, left, Builder.attemptAll]
      cases outcome_perform b call with
      | made answer b' performs inPlace unopposed =>
          rw [inPlace, performs]
          exact ih b'
      | refused e fails inPlace reason =>
          rw [inPlace, fails]
          exact ih b

@[simp] theorem finish_of (b : Builder) :
    (of b).finish = b.finish.map fun t => (t.nodes, t.hasErrors) := by
  have opened : (of b).opened.isEmpty = b.opened.isEmpty := List.isEmpty_map
  have count : (of b).opened.length = b.opened.length := List.length_map _
  rw [finish, Builder.finish, opened, count]
  cases b.opened.isEmpty with
  | false => rfl
  | true =>
      by_cases some : 0 < b.nodes.size
      · have nodes : (of b).nodes.isEmpty = false := by
          simp [of, Array.isEmpty_eq_false_iff, Array.size_pos_iff.1 some]
        rw [nodes, dif_pos some]
        rfl
      · have nodes : (of b).nodes.isEmpty = true := by
          simp [of, Array.size_eq_zero_iff.1 (Nat.eq_zero_of_not_pos some)]
        rw [nodes, dif_neg some]
        rfl

theorem perform_eq_error_iff {a a' : Assembly} {call : Builder.Call} {stop : Stop}
    (built : ∃ b, a = of b) :
    perform call a = .error stop a' ↔ a' = a ∧ ∃ e, stop = .refused e ∧ Refuses a call e := by
  obtain ⟨b, rfl⟩ := built
  cases outcome_perform b call with
  | made answer b' performs inPlace unopposed =>
      rw [inPlace]
      refine iff_of_false nofun ?_
      rintro ⟨_, e, _, refuses⟩
      exact unopposed e refuses
  | refused e fails inPlace reason =>
      rw [inPlace]
      constructor
      · rintro ⟨⟩
        exact ⟨rfl, e, rfl, reason⟩
      · rintro ⟨rfl, e', rfl, other⟩
        rw [reason.unique other]

/-- A call stops early exactly when there is a reason to refuse it, and then nothing has changed.
Without the calls that are refused all others answer as before, also those that come later, and the
outcome is the same.  It is that of a builder with the same calls. -/
theorem refused_calls_leave_no_trace :
    (∀ (calls : List Builder.Call) (call : Builder.Call) (stop : Stop) (a : Assembly),
      perform call (after perform new calls) = .error stop a ↔
        a = after perform new calls ∧
          ∃ e, stop = .refused e ∧ Refuses (after perform new calls) call e) ∧
    (∀ calls later : List Builder.Call,
      transcript perform new (succeeding perform new calls ++ later) =
          (transcript perform new calls).filter (·.2.isOk) ++
            transcript perform (after perform new calls) later ∧
        after perform new (succeeding perform new calls ++ later) =
          after perform new (calls ++ later)) ∧
    ∀ (id : TreeId) (calls : List Builder.Call),
      (after perform new calls).finish =
        ((Builder.new id).attemptAll calls).finish.map fun t => (t.nodes, t.hasErrors) := by
  have built : ∃ b, new = of b := ⟨.new ⟨0⟩, rfl⟩
  refine ⟨fun calls call stop a => ?_, fun calls later => ?_, fun id calls => ?_⟩
  · exact perform_eq_error_iff (careful_perform.after built calls)
  · exact ⟨careful_perform.transcript_succeeding_append built calls later,
      careful_perform.after_succeeding_append built calls later⟩
  · exact (congrArg finish (after_of (.new id) calls)).trans (finish_of _)

end Assembly

end TreeLint.Tree

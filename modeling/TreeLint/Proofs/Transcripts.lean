import TreeLint.InPlace

/-! Calls that change nothing when they fail can be left out: the others answer as before. -/

namespace TreeLint.InPlace

variable {κ ε σ α β : Type}

@[simp] theorem get_eq (s : σ) : (get : EStateM ε σ σ) s = .ok s s := rfl

theorem bind_of_ok {x : EStateM ε σ α} {s s' : σ} {a : α} (ran : x s = .ok a s')
    (f : α → EStateM ε σ β) : (x >>= f) s = f a s' := by
  change EStateM.bind x f s = _
  rw [EStateM.bind, ran]

theorem bind_of_error {x : EStateM ε σ α} {s s' : σ} {e : ε} (failed : x s = .error e s')
    (f : α → EStateM ε σ β) : (x >>= f) s = .error e s' := by
  change EStateM.bind x f s = _
  rw [EStateM.bind, failed]

theorem map_of_ok {x : EStateM ε σ α} {s s' : σ} {a : α} (ran : x s = .ok a s') (f : α → β) :
    (f <$> x) s = .ok (f a) s' := by
  change EStateM.map f x s = _
  rw [EStateM.map, ran]

theorem map_of_error {x : EStateM ε σ α} {s s' : σ} {e : ε} (failed : x s = .error e s')
    (f : α → β) : (f <$> x) s = .error e s' := by
  change EStateM.map f x s = _
  rw [EStateM.map, failed]

@[simp] theorem result_eq_error_iff {s s' : σ} {r : Except ε (α × σ)} {e : ε} :
    result s r = .error e s' ↔ s' = s ∧ r = .error e := by
  cases r with
  | ok pair => exact iff_of_false nofun nofun
  | error e' =>
      constructor
      · rintro ⟨⟩
        exact ⟨rfl, rfl⟩
      · rintro ⟨rfl, ⟨⟩⟩
        rfl

theorem then_return_result {x : EStateM ε σ Unit} {s : σ} {r : Except ε σ}
    (ran : x s = result s (r.map ((), ·))) (a : α) :
    (do x; return a) s = result s (r.map (a, ·)) := by
  cases r with
  | ok s' => exact bind_of_ok ran _
  | error e => exact bind_of_error ran _

theorem map_result {x : EStateM ε σ α} {s : σ} {r : Except ε (α × σ)} (ran : x s = result s r)
    (f : α → β) : (f <$> x) s = result s (r.map fun (a, s') => (f a, s')) := by
  cases r with
  | ok pair => exact map_of_ok ran f
  | error e => exact map_of_error ran f

variable {perform : κ → EStateM ε σ α} {s : σ}

@[simp] theorem after_append (perform : κ → EStateM ε σ α) (s : σ) (front back : List κ) :
    after perform s (front ++ back) = after perform (after perform s front) back := by
  induction front generalizing s with
  | nil => rfl
  | cons call rest ih => exact ih _

@[simp] theorem transcript_append (perform : κ → EStateM ε σ α) (s : σ) (front back : List κ) :
    transcript perform s (front ++ back) =
      transcript perform s front ++ transcript perform (after perform s front) back := by
  induction front generalizing s with
  | nil => rfl
  | cons call rest ih => exact congrArg (_ :: ·) (ih _)

theorem succeeding_cons_of_ok {call : κ} {s' : σ} {a : α} (made : perform call s = .ok a s')
    (rest : List κ) :
    succeeding perform s (call :: rest) = call :: succeeding perform s' rest := by
  simp only [succeeding, transcript, answer, left, made]
  rfl

theorem succeeding_cons_of_error {call : κ} {s' : σ} {e : ε}
    (failed : perform call s = .error e s') (rest : List κ) :
    succeeding perform s (call :: rest) = succeeding perform s' rest := by
  simp only [succeeding, transcript, answer, left, failed]
  rfl

/-- Calls on these states lead to such states, and those that fail leave the state alone. -/
structure Careful (perform : κ → EStateM ε σ α) (Sound : σ → Prop) : Prop where
  stays : ∀ {s s' : σ} {call : κ} {a : α}, Sound s → perform call s = .ok a s' → Sound s'
  harmless : ∀ {s s' : σ} {call : κ} {e : ε}, Sound s → perform call s = .error e s' → s' = s

namespace Careful

variable {Sound : σ → Prop}

theorem after (careful : Careful perform Sound) (sound : Sound s) (calls : List κ) :
    Sound (after perform s calls) := by
  induction calls generalizing s with
  | nil => exact sound
  | cons call rest ih =>
      rw [InPlace.after, left]
      cases made : perform call s with
      | ok a s' => exact ih (careful.stays sound made)
      | error e s' => exact ih (careful.harmless sound made ▸ sound)

theorem without_failures (careful : Careful perform Sound) (sound : Sound s) (calls : List κ) :
    InPlace.after perform s (succeeding perform s calls) = InPlace.after perform s calls ∧
      transcript perform s (succeeding perform s calls) =
        (transcript perform s calls).filter (·.2.isOk) := by
  induction calls generalizing s with
  | nil => exact ⟨rfl, rfl⟩
  | cons call rest ih =>
      cases made : perform call s with
      | ok a s' =>
          obtain ⟨state, answers⟩ := ih (careful.stays sound made)
          rw [succeeding_cons_of_ok made]
          simp only [InPlace.after, transcript, left, answer, made]
          exact ⟨state, congrArg (_ :: ·) answers⟩
      | error e s' =>
          cases careful.harmless sound made
          rw [succeeding_cons_of_error made]
          simp only [InPlace.after, transcript, left, answer, made]
          exact ih sound

/-- Without the calls that failed, all others and those made later answer the same. -/
theorem transcript_succeeding_append (careful : Careful perform Sound) (sound : Sound s)
    (calls later : List κ) :
    transcript perform s (succeeding perform s calls ++ later) =
      (transcript perform s calls).filter (·.2.isOk) ++
        transcript perform (InPlace.after perform s calls) later := by
  obtain ⟨state, answers⟩ := careful.without_failures sound calls
  rw [transcript_append, state, answers]

theorem after_succeeding_append (careful : Careful perform Sound) (sound : Sound s)
    (calls later : List κ) :
    InPlace.after perform s (succeeding perform s calls ++ later) =
      InPlace.after perform s (calls ++ later) := by
  rw [after_append, after_append, (careful.without_failures sound calls).1]

end Careful

end TreeLint.InPlace

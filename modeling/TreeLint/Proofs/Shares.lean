import TreeLint.Proofs.Outcome

/-! A report is made of one share for each rule.  Rules that walk on their own are done before
the others, so sessions wait for the report in the slots of their rules. -/

namespace TreeLint

/-- Puts each value into the slot that it comes with, in whatever order they come. -/
def fill (slots : List (Option α)) (entries : List (α × Nat)) : List (Option α) :=
  entries.foldl (fun slots (a, i) => slots.set i (some a)) slots

section Fill

variable {slots : List (Option α)} {entries : List (α × Nat)}

@[simp] theorem fill_append (slots : List (Option α)) (before after : List (α × Nat)) :
    fill slots (before ++ after) = fill (fill slots before) after :=
  List.foldl_append

@[simp] theorem length_fill : (fill slots entries).length = slots.length := by
  induction entries generalizing slots with
  | nil => rfl
  | cons entry rest ih => exact ih.trans List.length_set

theorem fill_untouched {i : Nat} (absent : i ∉ entries.map Prod.snd) :
    (fill slots entries)[i]? = slots[i]? := by
  induction entries generalizing slots with
  | nil => rfl
  | cons entry rest ih =>
      rw [List.map_cons, List.mem_cons, not_or] at absent
      exact (ih absent.2).trans (List.getElem?_set_ne (Ne.symm absent.1))

theorem fill_present {a : α} {i : Nat} (distinct : (entries.map Prod.snd).Nodup)
    (member : (a, i) ∈ entries) (inside : i < slots.length) :
    (fill slots entries)[i]? = some (some a) := by
  induction entries generalizing slots with
  | nil => cases member
  | cons entry rest ih =>
      rw [List.map_cons, List.nodup_cons] at distinct
      rcases List.mem_cons.1 member with rfl | later
      · exact (fill_untouched distinct.1).trans (List.getElem?_set_self inside)
      · exact ih distinct.2 later (by rwa [List.length_set])

theorem fill_of_perm {as : List α} (all : entries.Perm as.zipIdx) :
    fill (.replicate as.length none) entries = as.map some := by
  have indices : (entries.map Prod.snd).Perm (List.range' 0 as.length) := by
    rw [← List.zipIdx_map_snd]
    exact all.map Prod.snd
  refine List.ext_getElem? fun i => ?_
  rw [List.getElem?_map]
  cases here : as[i]? with
  | none =>
      refine List.getElem?_eq_none ?_
      rwa [length_fill, List.length_replicate, ← List.getElem?_eq_none_iff]
  | some a =>
      have inside := (List.getElem?_eq_some_iff.1 here).1
      have member := all.mem_iff.2 (List.mk_mem_zipIdx_iff_getElem?.2 here)
      exact fill_present (indices.nodup_iff.2 List.nodup_range') member
        (by rwa [List.length_replicate])

end Fill

section Slots

variable {input : FileInput}

def Session.sharesWalk (s : Session σ) : Bool := s.rule.behavior.subscriber?.isSome

/-- Ends sessions that have scanned the file: first those of rules that walk on their own, then
the others, after the walk that they share. -/
def endInSlots (input : FileInput) (scanned : List (Session σ)) : List (Option (Session σ)) :=
  let (sharing, walking) := scanned.zipIdx.partition fun (s, _) => s.sharesWalk
  let walked := (sharedWalk input (sharing.map Prod.fst)).map (·.leaveFile input)
  fill (fill (.replicate scanned.length none) walking) (walked.zip (sharing.map Prod.snd))

/-- The report of the sessions in the slots, each under the key of the rule in its place.  Empty
slots are passed over. -/
def reportOfSlots (input : FileInput) (rules : List (Rule σ))
    (slots : List (Option (Session σ))) : FileReport :=
  let filled := (rules.zip slots).filterMap fun (rule, s?) => s?.map fun s => (rule, s)
  { file := input.path
    issues := filled.flatMap fun (_, s) => (s.finish input).2
    runs := filled.map fun (rule, s) => ⟨rule.key, (s.finish input).1⟩ }

private def concluded (input : FileInput) (s : Session σ) : Session σ :=
  (s.walkAlone input).leaveFile input

private theorem concluded_of_not_sharesWalk {s : Session σ} (walks : ¬ s.sharesWalk) :
    concluded input s = s := by
  have recursive := Option.not_isSome_iff_eq_none.1 walks
  rw [concluded, Session.walkAlone_of_unsubscribed (Session.subscribe_of_recursive recursive),
    Session.leaveFile_of_recursive recursive]

/-- However the two sorts of rules are mixed, each session ends up in its own slot. -/
theorem endInSlots_eq (input : FileInput) (scanned : List (Session σ)) :
    endInSlots input scanned =
      scanned.map fun s => some ((s.walkAlone input).leaveFile input) := by
  let conclude : Session σ × Nat → Session σ × Nat := Prod.map (concluded input) id
  let sharing := scanned.zipIdx.filter fun (s, _) => s.sharesWalk
  let walking := scanned.zipIdx.filter fun (s, _) => !s.sharesWalk
  have walked : ((sharedWalk input (sharing.map Prod.fst)).map (·.leaveFile input)).zip
      (sharing.map Prod.snd) = sharing.map conclude := by
    rw [sharedWalk_eq_map, List.map_map, List.map_map, List.zip_map']
    rfl
  -- The walk and the end of the file leave rules that walk on their own as they are, so these may
  -- be taken for concluded as well.
  have unchanged : walking.map conclude = walking := by
    refine (List.map_congr_left fun (s, i) member => ?_).trans (List.map_id walking)
    have walks : ¬ s.sharesWalk := by simpa using (List.mem_filter.1 member).2
    exact Prod.ext (concluded_of_not_sharesWalk walks) rfl
  have all : (walking ++ sharing.map conclude).Perm
      (scanned.map (concluded input)).zipIdx := by
    rw [← unchanged, List.zipIdx_map, ← List.map_append]
    exact (List.perm_append_comm.trans
      (List.filter_append_perm (fun (s, _) => s.sharesWalk) _)).map conclude
  have filled := fill_of_perm all
  rw [fill_append, ← walked, List.length_map, List.map_map] at filled
  rw [endInSlots, List.partition_eq_filter_filter]
  exact filled

theorem reportOfSlots_full (input : FileInput) (rules : List (Rule σ))
    (sessionOf : Rule σ → Session σ) :
    reportOfSlots input rules (rules.map fun rule => some (sessionOf rule)) =
      { file := input.path
        issues := rules.flatMap fun rule => ((sessionOf rule).finish input).2
        runs := rules.map fun rule => ⟨rule.key, ((sessionOf rule).finish input).1⟩ } := by
  have filled : (rules.zip (rules.map fun rule => some (sessionOf rule))).filterMap
      (fun (rule, s?) => s?.map fun s => (rule, s)) =
        rules.map fun rule => (rule, sessionOf rule) := by
    have paired : rules.zip (rules.map fun rule => some (sessionOf rule)) =
        rules.map fun rule => (rule, some (sessionOf rule)) := by
      rw [← List.map_id rules, List.map_map, List.zip_map', List.map_map]
      rfl
    rw [paired, List.filterMap_map, ← List.filterMap_eq_map]
    rfl
  rw [reportOfSlots, filled, List.flatMap_map, List.map_map]
  rfl

end Slots

structure Share (σ : Type) where
  rule : Rule σ
  outcome : RuleOutcome
  block : List Issue

def RuleOutcome.completed? : RuleOutcome → Option Nat
  | completed issues => some issues
  | failed _ => none

namespace Share

def run (s : Share σ) : RuleRun := ⟨s.rule.key, s.outcome⟩

structure Proper (input : FileInput) (s : Share σ) : Prop where
  settled : (s.outcome, s.block) = s.rule.settled input (s.rule.journal input)
  /-- A rule that keeps its context reports in its own name. -/
  stamped : (s.rule.journal input).KeepsContext → ∀ issue ∈ s.block, issue.rule = s.rule.key ∧
    issue.file = input.path ∧ issue.severity = s.rule.metadata.severity
  completed : ∀ n, s.outcome = .completed n → s.block.length = n
  failed : ∀ fault, s.outcome = .failed fault →
    s.block = [] ∧ fault.rule = s.rule.key ∧ fault.file = input.path

theorem proper_of_settled {input : FileInput} {rule : Rule σ} {outcome : RuleOutcome}
    {block : List Issue} (settled : (outcome, block) = rule.settled input (rule.journal input)) :
    Proper input ⟨rule, outcome, block⟩ := by
  have ended : (∃ kind message, outcome = .failed ⟨rule.key, input.path, kind, message⟩ ∧
      block = []) ∨ outcome = .completed block.length := by
    obtain ⟨kind, message, failed⟩ | ⟨issues, completed⟩ :=
      rule.settled_cases input (rule.journal input)
    · obtain ⟨rfl, rfl⟩ := Prod.mk.inj (settled.trans failed)
      exact .inl ⟨kind, message, rfl, rfl⟩
    · obtain ⟨rfl, rfl⟩ := Prod.mk.inj (settled.trans completed)
      exact .inr rfl
  constructor
  case settled => exact settled
  case stamped =>
    intro kept issue found
    have own : block = (rule.settled input (rule.journal input)).2 := congrArg Prod.snd settled
    obtain ⟨r, _, rfl⟩ := Rule.mem_settled_of_keepsContext kept (own ▸ found)
    exact ⟨rfl, rfl, rfl⟩
  case completed =>
    rintro n ⟨⟩
    obtain ⟨_, _, failed, _⟩ | completed := ended
    · cases failed
    · cases completed
      rfl
  case failed =>
    rintro fault ⟨⟩
    obtain ⟨_, _, failed, none⟩ | completed := ended
    · cases failed
      exact ⟨none, rfl, rfl⟩
    · cases completed

variable {input : FileInput}

theorem failed_runs :
    (shares : List (Share σ)) → (∀ s ∈ shares, s.Proper input) →
    (shares.map run).filter (·.outcome.fault?.isSome) =
      ((shares.map run).filterMap (·.outcome.fault?)).map fun fault => ⟨fault.rule, .failed fault⟩
  | [], _ => rfl
  | ⟨rule, .completed n, block⟩ :: rest, proper =>
      failed_runs rest fun s member => proper s (List.mem_cons_of_mem _ member)
  | ⟨rule, .failed fault, block⟩ :: rest, proper => by
      have named : fault.rule = rule.key :=
        ((proper _ (List.mem_cons_self ..)).failed fault rfl).2.1
      have later := failed_runs rest fun s member => proper s (List.mem_cons_of_mem _ member)
      change (⟨rule.key, .failed fault⟩ : RuleRun) ::
          (rest.map run).filter (·.outcome.fault?.isSome) =
        ⟨fault.rule, .failed fault⟩ :: ((rest.map run).filterMap (·.outcome.fault?)).map _
      rw [later, named]

theorem sum_completed :
    (shares : List (Share σ)) → (∀ s ∈ shares, s.Proper input) →
    ((shares.map run).filterMap (·.outcome.completed?)).sum = (shares.flatMap (·.block)).length
  | [], _ => rfl
  | ⟨rule, .completed n, block⟩ :: rest, proper => by
      have own : block.length = n := (proper _ (List.mem_cons_self ..)).completed n rfl
      have later := sum_completed rest fun s member => proper s (List.mem_cons_of_mem _ member)
      change (n :: (rest.map run).filterMap (·.outcome.completed?)).sum =
        (block ++ rest.flatMap (·.block)).length
      rw [List.sum_cons, List.length_append, later, own]
  | ⟨rule, .failed fault, block⟩ :: rest, proper => by
      have own : block = [] := ((proper _ (List.mem_cons_self ..)).failed fault rfl).1
      have later := sum_completed rest fun s member => proper s (List.mem_cons_of_mem _ member)
      change ((rest.map run).filterMap (·.outcome.completed?)).sum =
        (block ++ rest.flatMap (·.block)).length
      rw [own, List.nil_append, later]

end Share

structure FileReport.MadeOf (input : FileInput) (rules : List (Rule σ)) (shares : List (Share σ))
    (report : FileReport) : Prop where
  rules : shares.map (·.rule) = rules
  proper : ∀ s ∈ shares, s.Proper input
  runs : report.runs = shares.map Share.run
  issues : report.issues = shares.flatMap (·.block)

namespace FileReport.MadeOf

variable {input : FileInput} {rules : List (Rule σ)} {shares : List (Share σ)}
  {report : FileReport}

theorem outcome?_eq (made : MadeOf input rules shares report)
    (distinct : (rules.map Rule.key).Nodup) {s : Share σ} (member : s ∈ shares) :
    report.outcome? s.rule.key = some s.outcome := by
  have keys : (shares.map (·.rule.key)).Nodup := by
    rw [← made.rules, List.map_map] at distinct
    exact distinct
  have itself : shares.find? (fun other => other.rule.key == s.rule.key) = some s := by
    cases found : shares.find? (fun other => other.rule.key == s.rule.key) with
    | none => exact absurd (beq_self_eq_true s.rule.key) (List.find?_eq_none.1 found s member)
    | some other =>
        have same : other.rule.key = s.rule.key := by simpa using List.find?_some found
        exact congrArg some
          (List.inj_on_of_nodup_map keys (List.mem_of_find?_eq_some found) member same)
  rw [outcome?, made.runs, List.find?_map]
  exact congrArg (Option.map RuleRun.outcome ∘ Option.map Share.run) itself

end FileReport.MadeOf

theorem Rule.settled_eq_of_metadata {input : FileInput} {a b : Rule σ}
    (same : a.metadata = b.metadata) (journal : Journal) :
    a.settled input journal = b.settled input journal := by
  unfold settled outcomeBy key
  rw [same]

def Rule.share (input : FileInput) (rule : Rule σ) : Share σ :=
  ⟨rule, ((Session.alone input rule).finish input).1, ((Session.alone input rule).finish input).2⟩

theorem Rule.settled_share (input : FileInput) (rule : Rule σ) :
    ((rule.share input).outcome, (rule.share input).block) =
      rule.settled input (rule.journal input) :=
  (Session.finish_alone input rule).trans
    (settled_eq_of_metadata (Session.alone_noted input rule).2.metadata _)

theorem Rule.proper_share (input : FileInput) (rule : Rule σ) :
    (rule.share input).Proper input :=
  Share.proper_of_settled (rule.settled_share input)

theorem report_eq_shares (input : FileInput) (rules : List (Rule σ)) :
    report input (rules.map (Session.alone input)) =
      { file := input.path
        issues := rules.flatMap fun rule => (rule.share input).block
        runs := rules.map fun rule => (rule.share input).run } := by
  rw [report, List.flatMap_map, List.map_map]
  refine congrArg (FileReport.mk _ _) (List.map_congr_left fun rule _ => ?_)
  exact congrArg (RuleRun.mk · _) (Session.key_alone input rule)

theorem report_made_of_shares (input : FileInput) (rules : List (Rule σ)) :
    (report input (rules.map (Session.alone input))).MadeOf input rules
      (rules.map (Rule.share input)) where
  rules := by
    rw [List.map_map]
    exact List.map_id rules
  proper := List.forall_mem_map.2 fun rule _ => rule.proper_share input
  runs := by rw [report_eq_shares, List.map_map]; rfl
  issues := by rw [report_eq_shares, List.flatMap_map]

theorem report_eq_reportOfSlots (input : FileInput) (rules : List (Rule σ)) :
    report input (rules.map (Session.alone input)) =
      reportOfSlots input rules
        (endInSlots input (rules.map fun rule => (Session.start input rule).scanFile input)) := by
  rw [report_eq_shares, endInSlots_eq, List.map_map]
  exact (reportOfSlots_full input rules (Session.alone input)).symm

end TreeLint

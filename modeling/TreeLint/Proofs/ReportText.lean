import TreeLint.Proofs.JsonText
import TreeLint.Report.Json

namespace TreeLint.Json

variable {α β ρ : Type}

/-- What the value is read back as from its written form, in which no number is a decimal. -/
structure Format.Gives (f : Format α) (value : α) (back : Except ReadError α) : Prop where
  read_write : f.read (f.write value) = back
  whole : (f.write value).hasDecimal = false

namespace Format

theorem gives_text (s : String) : text.Gives s (.ok s) := ⟨rfl, rfl⟩

theorem gives_count (n : Nat) : count.Gives n (.ok n) := ⟨rfl, rfl⟩

theorem gives_option {f : Format α} {value? : Option α}
    (given : ∀ value ∈ value?, f.Gives value (.ok value))
    (notNull : ∀ value, f.write value ≠ .null) :
    f.option.Gives value? (.ok value?) := by
  cases value? with
  | none => exact ⟨rfl, rfl⟩
  | some value =>
      obtain ⟨read_write, whole⟩ := given value rfl
      refine ⟨?_, whole⟩
      change f.option.read (f.write value) = _
      rw [option]
      dsimp only
      split
      next null => exact absurd null (notNull value)
      next => rw [read_write]; rfl

theorem gives_list {f : Format α} {back : α → Except ReadError α} (items : List α)
    (given : ∀ item, f.Gives item (back item)) : f.list.Gives items (items.mapM back) := by
  refine ⟨?_, ?_⟩
  · have same : f.read ∘ f.write = back := funext fun item => (given item).read_write
    change (items.map f.write).mapM f.read = _
    rw [List.mapM_map, same]
  · change anyDecimal (items.map f.write) = false
    induction items with
    | nil => rfl
    | cons item rest ih => simp [anyDecimal, (given item).whole, ih]

end Format

@[simp] theorem anyMemberDecimal_append (front back : List (String × Json)) :
    anyMemberDecimal (front ++ back) = (anyMemberDecimal front || anyMemberDecimal back) := by
  induction front with
  | nil => rfl
  | cons member rest ih => simp [anyMemberDecimal, ih, Bool.or_assoc]

namespace Field

variable {f : Field α} {value : α}

theorem key_of_mem_write {member : String × Json} (written : member ∈ f.write value) :
    member.1 = f.key := by
  rw [write] at written
  split at written
  · cases written
  · rw [List.mem_singleton.1 written]

theorem filter_write (key : String) :
    (f.write value).filter (·.1 == key) = if f.key = key then f.write value else [] := by
  split
  next same =>
    refine List.filter_eq_self.2 fun member written => ?_
    simp [key_of_mem_write written, same]
  next other =>
    refine List.filter_eq_nil_iff.2 fun member written => ?_
    simpa [key_of_mem_write written] using other

structure Gives (f : Field α) (value : α) (back : Except ReadError α) : Prop where
  read : ∀ members : List (String × Json),
    members.filter (·.1 == f.key) = f.write value → f.read members = back
  whole : anyMemberDecimal (f.write value) = false

theorem gives {back : Except ReadError α} (given : f.format.Gives value back) :
    f.Gives value (if f.skips value then f.absent else back) := by
  refine ⟨fun members only => ?_, ?_⟩
  · rw [read, only, write]
    by_cases skipped : f.skips value = true
    · simp [skipped]
    · simp [skipped, given.read_write]
  · rw [write]
    split
    · rfl
    · simp [anyMemberDecimal, given.whole]

theorem gives_required (key : String) {format : Format α} {back : Except ReadError α}
    (given : format.Gives value back) : (required key format).Gives value back :=
  gives given

theorem gives_optional (key : String) {format : Format α} {value? : Option α}
    (given : ∀ value ∈ value?, format.Gives value (.ok value))
    (notNull : ∀ value, format.write value ≠ .null) :
    (optional key format).Gives value? (.ok value?) := by
  have found := gives (f := optional key format) (Format.gives_option given notNull)
  cases value? <;> exact found

theorem gives_listed (key : String) {format : Format α} {back : α → Except ReadError α}
    (items : List α) (given : ∀ item, format.Gives item (back item)) :
    (listed key format).Gives items (items.mapM back) := by
  have found := gives (f := listed key format) (Format.gives_list items given)
  cases items <;> exact found

end Field

namespace Fields

variable {r : ρ}

structure Gives (fields : Fields ρ α) (r : ρ) (back : Except ReadError α) : Prop where
  keyed : ∀ member ∈ fields.write r, member.1 ∈ fields.keys
  read : ∀ members : List (String × Json),
    (∀ key ∈ fields.keys, members.filter (·.1 == key) = (fields.write r).filter (·.1 == key)) →
      fields.read members = back
  whole : anyMemberDecimal (fields.write r) = false

theorem gives_into (r : ρ) (make : α) : (into make : Fields ρ α).Gives r (.ok make) :=
  ⟨nofun, fun _ _ => rfl, rfl⟩

theorem Gives.filter_eq_nil {fields : Fields ρ α} {back : Except ReadError α}
    (given : fields.Gives r back) {key : String} (new : key ∉ fields.keys) :
    (fields.write r).filter (·.1 == key) = [] := by
  refine List.filter_eq_nil_iff.2 fun member written same => new ?_
  rw [← beq_iff_eq.1 same]
  exact given.keyed member written

theorem Gives.field {fields : Fields ρ (α → β)} {next : Field α}
    {made : Except ReadError (α → β)} {back : Except ReadError α} (given : fields.Gives r made)
    (get : ρ → α) (added : next.Gives (get r) back) (new : next.key ∉ fields.keys) :
    (fields.field next get).Gives r (made.bind fun make => back.map make) where
  keyed := by
    intro member written
    rw [Fields.field] at written ⊢
    rcases List.mem_append.1 written with earlier | last
    · exact List.mem_append_left _ (given.keyed member earlier)
    · exact List.mem_append_right _ (List.mem_singleton.2 (Field.key_of_mem_write last))
  read := by
    intro members same
    have parts (key : String) : ((fields.field next get).write r).filter (·.1 == key) =
        (fields.write r).filter (·.1 == key) ++
          if next.key = key then next.write (get r) else [] := by
      rw [Fields.field, List.filter_append, Field.filter_write]
    have earlier : fields.read members = made := by
      refine given.read members fun key known => ?_
      have other : next.key ≠ key := fun equal => new (equal ▸ known)
      rw [same key (List.mem_append_left _ known), parts, if_neg other, List.append_nil]
    have last : next.read members = back := by
      refine added.read members ?_
      rw [same next.key (List.mem_append_right _ (List.mem_singleton_self _)), parts, if_pos rfl,
        given.filter_eq_nil new, List.nil_append]
    rw [Fields.field]
    dsimp only
    rw [earlier, last]
    cases made <;> cases back <;> rfl
  whole := by
    rw [Fields.field]
    dsimp only
    rw [anyMemberDecimal_append, given.whole, added.whole, Bool.or_false]

theorem Gives.format {fields : Fields ρ ρ} {back : Except ReadError ρ}
    (given : fields.Gives r back) : fields.format.Gives r back :=
  ⟨given.read _ fun _ _ => rfl, given.whole⟩

end Fields

end TreeLint.Json

namespace TreeLint.Report

open TreeLint.Json

open Field Format

theorem gives_issue (i : JsonIssue) : JsonIssue.fields.format.Gives i (.ok i) :=
  (Fields.gives_into i JsonIssue.mk
    |>.field (·.rule) (gives_required "rule" (gives_text _)) (by decide)
    |>.field (·.severity) (gives_required "severity" (gives_text _)) (by decide)
    |>.field (·.file) (gives_required "file" (gives_text _)) (by decide)
    |>.field (·.line) (gives_required "line" (gives_count _)) (by decide)
    |>.field (·.column?)
      (gives_optional "column" (fun _ _ => gives_count _) fun _ => nofun) (by decide)
    |>.field (·.message) (gives_required "message" (gives_text _)) (by decide)).format

theorem gives_fault (f : JsonFault) : JsonFault.fields.format.Gives f (.ok f) :=
  (Fields.gives_into f JsonFault.mk
    |>.field (·.rule) (gives_required "rule" (gives_text _)) (by decide)
    |>.field (·.file) (gives_required "file" (gives_text _)) (by decide)
    |>.field (·.kind) (gives_required "kind" (gives_text _)) (by decide)
    |>.field (·.message) (gives_required "message" (gives_text _)) (by decide)).format

theorem gives_failure (f : JsonFailure) : JsonFailure.fields.format.Gives f (.ok f) :=
  (Fields.gives_into f JsonFailure.mk
    |>.field (·.file) (gives_required "file" (gives_text _)) (by decide)
    |>.field (·.error) (gives_required "error" (gives_text _)) (by decide)).format

theorem gives_summary (s : JsonSummary) : JsonSummary.fields.format.Gives s (.ok s) :=
  (Fields.gives_into s JsonSummary.mk
    |>.field (·.errors) (gives_required "errors" (gives_count _)) (by decide)
    |>.field (·.warnings) (gives_required "warnings" (gives_count _)) (by decide)
    |>.field (·.infos) (gives_required "infos" (gives_count _)) (by decide)).format

def unlessReasonless (reason : String) (value : α) : Except ReadError α :=
  if reason.isEmpty then .error (.missing "reason") else .ok value

theorem gives_reason (reason : String) :
    reasonField.Gives reason (unlessReasonless reason reason) :=
  Field.gives (gives_text reason)

theorem gives_suppression (s : JsonSuppression) :
    JsonSuppression.fields.format.Gives s (unlessReasonless s.reason s) := by
  have given := (Fields.gives_into s JsonSuppression.mk
    |>.field (·.rule) (gives_required "rule" (gives_text _)) (by decide)
    |>.field (·.reason) (gives_reason _) (by decide)
    |>.field (·.line) (gives_required "line" (gives_count _)) (by decide)
    |>.field (·.scope) (gives_required "type" (gives_text _)) (by decide)).format
  unfold unlessReasonless at given ⊢
  split
  next lost => rwa [if_pos lost] at given
  next kept => rwa [if_neg kept] at given

theorem gives_suppressedIssue (s : JsonSuppressedIssue) :
    JsonSuppressedIssue.fields.format.Gives s (unlessReasonless s.suppression.reason s) := by
  have given := (Fields.gives_into s JsonSuppressedIssue.mk
    |>.field (·.issue) (gives_required "issue" (gives_issue _)) (by decide)
    |>.field (·.suppression) (gives_required "suppression" (gives_suppression _))
      (by decide)).format
  unfold unlessReasonless at given ⊢
  split
  next lost => rwa [if_pos lost] at given
  next kept => rwa [if_neg kept] at given

theorem mapM_ok (items : List α) :
    items.mapM (Except.ok : α → Except ReadError α) = .ok items := by
  induction items with
  | nil => rfl
  | cons item rest ih =>
      rw [List.mapM_cons, ih]
      rfl

theorem mapM_unlessReasonless (items : List JsonSuppressedIssue) :
    items.mapM (fun s => unlessReasonless s.suppression.reason s) =
      if items.any (·.suppression.reason.isEmpty) then .error (.missing "reason")
      else .ok items := by
  induction items with
  | nil => rfl
  | cons s rest ih =>
      rw [List.mapM_cons, ih, List.any_cons, unlessReasonless]
      cases s.suppression.reason.isEmpty with
      | true => rfl
      | false => cases rest.any (·.suppression.reason.isEmpty) <;> rfl

theorem gives_report (r : JsonReport) :
    JsonReport.fields.format.Gives r
      (if r.suppressed.any (·.suppression.reason.isEmpty) then .error (.missing "reason")
        else .ok r) := by
  have issues := Format.gives_list r.issues gives_issue
  have faults := gives_listed "faults" r.faults gives_fault
  have failures := gives_listed "failures" r.failures gives_failure
  have suppressed := gives_listed "suppressed" r.suppressed gives_suppressedIssue
  rw [mapM_ok] at issues faults failures
  rw [mapM_unlessReasonless] at suppressed
  have given := (Fields.gives_into r JsonReport.mk
    |>.field (·.version) (gives_required "version" (gives_text _)) (by decide)
    |>.field (·.path) (gives_required "path" (gives_text _)) (by decide)
    |>.field (·.config?)
      (gives_optional "config" (fun _ _ => gives_text _) fun _ => nofun) (by decide)
    |>.field (·.filesScanned) (gives_required "files_scanned" (gives_count _)) (by decide)
    |>.field (·.filesUnresolved) (gives_required "files_unresolved" (gives_count _)) (by decide)
    |>.field (·.issues) (gives_required "issues" issues) (by decide)
    |>.field (·.faults) faults (by decide)
    |>.field (·.failures) failures (by decide)
    |>.field (·.suppressed) suppressed (by decide)
    |>.field (·.suppressedCount) (gives_required "suppressed_count" (gives_count _)) (by decide)
    |>.field (·.summary) (gives_required "summary" (gives_summary _)) (by decide)).format
  split
  next lost => rwa [if_pos lost] at given
  next kept => rwa [if_neg kept] at given

/-- A printed report is read back as it was, field for field, unless the reason of a silenced issue
is empty: it is left out of the text, and then missed. -/
theorem readJson_jsonText (path : String) (config? : Option String) (r : AnalysisResult) :
    readJson (jsonText path config? r) =
      if r.suppressed.any (·.suppression.reason.isEmpty) then .error (.missing "reason")
      else .ok (jsonReport path config? r) := by
  have given := gives_report (jsonReport path config? r)
  have reasons : (jsonReport path config? r).suppressed.any (·.suppression.reason.isEmpty) =
      r.suppressed.any (·.suppression.reason.isEmpty) := List.any_map
  have parsed : parse? (jsonText path config? r) = some (json path config? r) :=
    parse?_pretty given.whole
  rw [readJson, Format.readText, parsed, ← reasons]
  exact given.read_write

end TreeLint.Report

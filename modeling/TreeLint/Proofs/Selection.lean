import TreeLint.Proofs.Depths
import TreeLint.Proofs.Keeping
import TreeLint.Proofs.Shares
import TreeLint.Proofs.Unfailing

namespace TreeLint

/-- The value is this number, of 64 bits, with whatever tags in front of it. -/
inductive Yaml.Value.Counts : Yaml.Value → Nat → Prop where
  | int {n : Nat} (fits : n < 2 ^ 64) : Counts (.int n) n
  | tagged {tag : String} {v : Yaml.Value} {n : Nat} (inner : Counts v n) :
    Counts (.tagged tag v) n

/-- What a rule is set to by the parameters of its entry. -/
inductive RuleSettings.Gives (settings : RuleSettings) : Builtin → Params → Prop where
  | max {value : Yaml.Value} {n : Nat} (given : ("max", value) ∈ settings.params)
    (counts : value.Counts n) : Gives settings .inheritanceDepth (.inheritanceDepth n)

namespace Builtin

inductive Takes : Builtin → String × Yaml.Value → Prop where
  | max {value : Yaml.Value} {n : Nat} (counts : value.Counts n) :
    Takes inheritanceDepth ("max", value)

/-- What a rule objects to in its parameters: the least name that it does not know, or else a
greatest depth that is no number. -/
inductive Objects (b : Builtin) (params : List (String × Yaml.Value)) : String → String → Prop where
  | name {name : String} {value : Yaml.Value} (given : (name, value) ∈ params)
    (unknown : name ∉ b.parameters)
    (least : ∀ param ∈ params, param.1 ∉ b.parameters → name ≤ param.1) :
    Objects b params name "unknown parameter"
  | value {value : Yaml.Value} (known : ∀ param ∈ params, param.1 ∈ b.parameters)
    (given : ("max", value) ∈ params) (bad : ∀ n, ¬ value.Counts n) :
    Objects b params "max" "expected a non-negative integer"

def Has (key : String) : Prop := ∃ b : Builtin, b.key = key

end Builtin

namespace Config

/-- Only known rules are set, whether they are on or off, and each with parameters it takes. -/
def Sound (c : Config) : Prop :=
  ∀ entry ∈ c.rules, ∃ b : Builtin, b.key = entry.1 ∧ ∀ param ∈ entry.2.params, b.Takes param

def Suits (c : Config) (b : Builtin) : Prop :=
  ∀ settings, (b.key, settings) ∈ c.rules → ∀ param ∈ settings.params, b.Takes param

/-- The error that settings are refused with.  The least unknown key outweighs parameters; of
the rules with bad ones the first counts. -/
inductive Refuses (c : Config) : ConfigError → Prop where
  | rule {key : String} {settings : RuleSettings} (listed : (key, settings) ∈ c.rules)
    (unknown : ¬ Builtin.Has key)
    (least : ∀ entry ∈ c.rules, ¬ Builtin.Has entry.1 → key ≤ entry.1) :
    Refuses c (.unknownRule key)
  | param {before after : List Builtin} {b : Builtin} {settings : RuleSettings}
    {param message : String} (known : ∀ entry ∈ c.rules, Builtin.Has entry.1)
    (order : Builtin.all = before ++ b :: after)
    (suits : ∀ a ∈ before, c.Suits a)
    (listed : (b.key, settings) ∈ c.rules) (objects : b.Objects settings.params param message) :
    Refuses c (.invalidParam b.key param message)

def Alike (c d : Config) (key : String) : Prop :=
  ∀ settings, (key, settings) ∈ c.rules ↔ (key, settings) ∈ d.rules

/-- The value is what the rule's own entry gives, or the usual one if no such entry gives one. -/
structure Sets (c : Config) (key : String) (gives : RuleSettings → α → Prop) (usual value : α) :
    Prop where
  given : ∀ settings, (key, settings) ∈ c.rules → ∀ v, gives settings v → value = v
  missing : (∀ settings, (key, settings) ∈ c.rules → ∀ v, ¬ gives settings v) → value = usual

end Config

namespace Config.Sets

variable {c d : Config} {key : String} {gives : RuleSettings → α → Prop} {usual v w : α}

theorem given_or_usual (sets : c.Sets key gives usual v) :
    (∃ settings, (key, settings) ∈ c.rules ∧ gives settings v) ∨ v = usual := by
  by_cases given : ∃ settings, (key, settings) ∈ c.rules ∧ ∃ u, gives settings u
  · obtain ⟨settings, listed, u, given⟩ := given
    rw [sets.given settings listed u given]
    exact .inl ⟨settings, listed, given⟩
  · exact .inr (sets.missing fun settings listed u gives => given ⟨settings, listed, u, gives⟩)

theorem eq_of_alike (sets : c.Sets key gives usual v) (others : d.Sets key gives usual w)
    (alike : c.Alike d key) : v = w := by
  rcases sets.given_or_usual with ⟨settings, listed, given⟩ | same
  · exact (others.given settings ((alike settings).1 listed) v given).symm
  · rcases others.given_or_usual with ⟨settings, listed, given⟩ | alsoSame
    · exact sets.given settings ((alike settings).2 listed) w given
    · rw [same, alsoSame]

end Config.Sets

theorem Yaml.Value.count?_eq_some_iff {v : Value} {n : Nat} : v.count? = some n ↔ v.Counts n := by
  constructor
  · intro counted
    induction v using count?.induct with
    | case1 i inside =>
        rw [count?, if_pos inside] at counted
        cases counted
        simp only [Bool.and_eq_true, decide_eq_true_eq] at inside
        obtain ⟨m, rfl⟩ := Int.eq_ofNat_of_zero_le inside.1
        exact .int (Int.ofNat_lt.1 inside.2)
    | case2 i outside =>
        rw [count?, if_neg outside] at counted
        cases counted
    | case3 tag v ih => exact .tagged (ih counted)
    | case4 v notInt notTagged =>
        cases v with
        | int i => exact absurd rfl (notInt i)
        | tagged tag v => exact absurd rfl (notTagged tag v)
        | _ => cases counted
  · intro counts
    induction counts with
    | int fits =>
        refine (if_pos ?_).trans (congrArg some (Int.toNat_natCast _))
        simpa using Int.ofNat_lt.2 fits
    | tagged _ ih => exact ih

theorem Yaml.Value.Counts.unique {v : Value} {m n : Nat} (one : v.Counts m)
    (two : v.Counts n) : m = n := by
  rw [← count?_eq_some_iff] at one two
  exact Option.some.inj (one.symm.trans two)

namespace Builtin

variable {b : Builtin} {name : String} {value : Yaml.Value}

theorem mem_all (b : Builtin) : b ∈ all := by cases b <;> decide

theorem key_injective {a b : Builtin} (same : a.key = b.key) : a = b := by
  revert same
  cases a <;> cases b <;> decide

theorem isKnown_iff {key : String} : isKnown key ↔ Has key := by
  simp [isKnown, Has, mem_all]

theorem mem_parameters_iff : name ∈ b.parameters ↔ b = inheritanceDepth ∧ name = "max" := by
  cases b <;> simp [parameters]

@[simp] theorem takes_iff : b.Takes (name, value) ↔ name ∈ b.parameters ∧ ∃ n, value.Counts n := by
  rw [mem_parameters_iff]
  constructor
  · rintro ⟨counts⟩
    exact ⟨⟨rfl, rfl⟩, _, counts⟩
  · rintro ⟨⟨rfl, rfl⟩, n, counts⟩
    exact .max counts

end Builtin

namespace Scan

theorem exists_does_forM {tree : TreeId} {P : Script.Act → Prop} {xs : List α}
    {f : α → Scan σ Unit}
    (each : ∀ x, ∃ acts result, (f x).Does tree acts result ∧ ∀ act ∈ acts, P act) :
    ∃ acts result, (xs.forM f).Does tree acts result ∧ ∀ act ∈ acts, P act := by
  induction xs with
  | nil => exact ⟨[], .ok (), does_pure (), nofun⟩
  | cons x rest ih =>
      obtain ⟨front, ended, first, kept⟩ := each x
      cases ended with
      | error failure => exact ⟨front, .error failure, first.bind_failed, kept⟩
      | ok _ =>
          obtain ⟨back, result, later, alsoKept⟩ := ih
          refine ⟨front ++ back, result, first.bind later, ?_⟩
          intro act member
          exact (List.mem_append.1 member).elim (kept act) (alsoKept act)

end Scan

namespace Checks.InheritanceDepth

variable {max : Nat} {input : FileInput} {rule : Rule σ}

def Exceeds (max : Nat) (act : Script.Act) : Prop :=
  ∀ r answer, act = .reported r answer → ∃ depth, max < depth ∧ r.message = message depth max

theorem exists_does_visit {t : Tree} (symbols : SymbolTable) (n : t.Node) :
    ∃ acts result, (visit max symbols n : Scan σ Unit).Does t.id acts result ∧
      ∀ act ∈ acts, Exceeds max act := by
  by_cases fails : n.kind.isTypeDeclaration ∧ ∃ e, symbols.depth? n = some (.error e)
  · obtain ⟨declares, e, failed⟩ := fails
    refine ⟨_, _, does_visit_failed declares failed, ?_⟩
    rintro act member r answer rfl
    cases List.mem_singleton.1 member
  · refine ⟨_, _, does_visit fun declares e failed => fails ⟨declares, e, failed⟩, ?_⟩
    rintro act member r answer rfl
    obtain ⟨reported, made, same⟩ := List.mem_map.1 member
    cases same
    rw [Option.mem_toList, report?] at made
    split at made
    next depth _ _ =>
      split_ifs at made with deep
      cases made
      exact ⟨depth, deep, rfl⟩
    · cases made

theorem exceeds_of_mem_share (same : rule.behavior = behavior max) :
    ∀ issue ∈ (rule.share input).block, ∃ depth, max < depth ∧
      issue.message = message depth max := by
  intro issue member
  have scans : ∃ acts result, ((behavior max : Behavior σ).scanFile input).Does input.tree.id acts
      result ∧ ∀ act ∈ acts, Exceeds max act := by
    cases present : input.symbols? with
    | none =>
        refine ⟨[], .ok (), ?_, nofun⟩
        simp only [behavior, Behavior.scanFile, present]
        exact Scan.does_pure ()
    | some symbols =>
        rw [scanFile_eq present]
        exact Scan.exists_does_forM (exists_does_visit symbols)
  obtain ⟨acts, result, does, exceed⟩ := scans
  have journaled : (rule.journal input).acts = acts :=
    Rule.acts_journal_of_does (same.trans rfl) does
  have settled : issue ∈ (rule.settled input (rule.journal input)).2 :=
    congrArg Prod.snd (rule.settled_share input) ▸ member
  have kept : (rule.journal input).KeepsContext := by
    rw [Journal.KeepsContext, journaled]
    exact does.kept
  obtain ⟨r, accepted, rfl⟩ := Rule.mem_settled_of_keepsContext kept settled
  have reported := Script.Act.mem_of_mem_accepted accepted
  rw [journaled] at reported
  exact exceed _ reported r _ rfl

end Checks.InheritanceDepth

namespace RuleSet

section Params

variable {b : Builtin} {settings : RuleSettings}

theorem readParams_of_known (known : ∀ param ∈ settings.params, param.1 ∈ b.parameters) :
    readParams b settings.params = readKnown settings.params b := by
  have all : (settings.params.find? fun param => !b.parameters.contains param.1) = none := by
    simpa [List.find?_eq_none] using known
  rw [readParams, all]

section Max

variable {params : List (String × Yaml.Value)} {value : Yaml.Value} {n : Nat}

theorem readMax_of_absent (rule : String) (absent : ∀ value, ("max", value) ∉ params) :
    readMax rule params = .ok Checks.InheritanceDepth.defaultMax := by
  rw [readMax, lookup_eq_none_iff_absent.2 absent]

theorem readMax_of_counts (increasing : Increasing params) (rule : String)
    (given : ("max", value) ∈ params) (counts : value.Counts n) :
    readMax rule params = .ok n := by
  simp only [readMax, increasing.lookup_eq_some_iff.2 given,
    Yaml.Value.count?_eq_some_iff.2 counts]

theorem readMax_of_bad (increasing : Increasing params) (rule : String)
    (given : ("max", value) ∈ params) (bad : ∀ n, ¬ value.Counts n) :
    readMax rule params = .error (.invalidParam rule "max" "expected a non-negative integer") := by
  have uncounted : value.count? = none := by
    apply Option.eq_none_iff_forall_ne_some.2
    intro n counted
    exact bad n (Yaml.Value.count?_eq_some_iff.1 counted)
  simp only [readMax, increasing.lookup_eq_some_iff.2 given, uncounted]

end Max

theorem readParams_of_taken (increasing : Increasing settings.params)
    (taken : ∀ param ∈ settings.params, b.Takes param) :
    ∃ p, readParams b settings.params = .ok p ∧ (∀ q, settings.Gives b q → p = q) ∧
      ((∀ q, ¬ settings.Gives b q) → p = b.defaultParams) := by
  rw [readParams_of_known fun param given => (Builtin.takes_iff.1 (taken param given)).1]
  cases b with
  | emptyStatement | threadRun => exact ⟨.none, rfl, nofun, fun _ => rfl⟩
  | inheritanceDepth =>
      by_cases absent : ∀ value, ("max", value) ∉ settings.params
      · refine ⟨_, by rw [readKnown, readMax_of_absent _ absent]; rfl, ?_, fun _ => rfl⟩
        rintro q (⟨given, -⟩)
        exact absurd given (absent _)
      · push Not at absent
        obtain ⟨value, given⟩ := absent
        obtain ⟨-, n, counts⟩ := Builtin.takes_iff.1 (taken _ given)
        refine ⟨.inheritanceDepth n, ?_, ?_, fun nothing => absurd (.max given counts) (nothing _)⟩
        · rw [readKnown, readMax_of_counts increasing _ given counts]
          rfl
        · rintro q (⟨otherGiven, otherCounts⟩)
          rw [increasing.eq_of_mem otherGiven given] at otherCounts
          exact congrArg _ (counts.unique otherCounts)

theorem readParams_of_objects (increasing : Increasing settings.params) {param message : String}
    (objects : b.Objects settings.params param message) :
    readParams b settings.params = .error (.invalidParam b.key param message) := by
  cases objects with
  | @name _ value given unknown least =>
      have first : (settings.params.find? fun param => !b.parameters.contains param.1) =
          some (param, value) := by
        apply increasing.find?_eq_some_iff.2
        simpa [unknown] using And.intro given fun n v => least (n, v)
      rw [readParams, first]
  | @value value known given bad =>
      rw [readParams_of_known known]
      obtain ⟨rfl, -⟩ := Builtin.mem_parameters_iff.1 (known _ given)
      rw [readKnown, readMax_of_bad increasing _ given bad]
      rfl

theorem taken_or_objects (b : Builtin) (increasing : Increasing settings.params) :
    (∀ param ∈ settings.params, b.Takes param) ∨
      ∃ param message, b.Objects settings.params param message := by
  cases found : settings.params.find? fun param => !b.parameters.contains param.1 with
  | some entry =>
      obtain ⟨given, unknown, least⟩ := increasing.find?_eq_some_iff.1 found
      exact .inr ⟨_, _, .name given (by simpa using unknown) (by simpa using least)⟩
  | none =>
      have known : ∀ param ∈ settings.params, param.1 ∈ b.parameters := by
        simpa [List.find?_eq_none] using found
      by_cases counted : ∀ param ∈ settings.params, ∃ n, param.2.Counts n
      · exact .inl fun param given => Builtin.takes_iff.2 ⟨known param given, counted param given⟩
      · push Not at counted
        obtain ⟨⟨name, value⟩, given, bad⟩ := counted
        obtain ⟨-, rfl⟩ := Builtin.mem_parameters_iff.1 (known _ given)
        exact .inr ⟨_, _, .value known given bad⟩

end Params

section Spec

variable {c : Config} {b : Builtin} {s : RuleSpec}

theorem rule?_eq_some_iff (sorted : c.Sorted) {key : String} {settings : RuleSettings} :
    c.rule? key = some settings ↔ (key, settings) ∈ c.rules :=
  sorted.rules.lookup_eq_some_iff

theorem rule?_eq_none_iff {key : String} :
    c.rule? key = none ↔ ∀ settings, (key, settings) ∉ c.rules :=
  lookup_eq_none_iff_absent

theorem sets_getD (sorted : c.Sorted) (key : String) (field : RuleSettings → Option α)
    (usual : α) :
    c.Sets key (fun settings v => field settings = some v) usual
      (((c.rule? key).bind field).getD usual) := by
  cases found : c.rule? key with
  | none =>
      refine ⟨fun settings listed => ?_, fun _ => rfl⟩
      exact absurd listed (rule?_eq_none_iff.1 found settings)
  | some settings =>
      have listed := (rule?_eq_some_iff sorted).1 found
      constructor
      · intro other otherListed v given
        cases sorted.rules.eq_of_mem listed otherListed
        simp [given]
      · intro nothing
        cases given : field settings with
        | none => simp [given]
        | some v => exact absurd given (nothing settings listed v)

theorem params_of_suits (sorted : c.Sorted) (suits : c.Suits b) :
    ∃ p, params b (c.rule? b.key) = .ok p ∧ c.Sets b.key (·.Gives b) b.defaultParams p := by
  cases found : c.rule? b.key with
  | none =>
      refine ⟨_, rfl, fun settings listed => ?_, fun _ => rfl⟩
      exact absurd listed (rule?_eq_none_iff.1 found settings)
  | some settings =>
      have listed := (rule?_eq_some_iff sorted).1 found
      obtain ⟨p, read, given, missing⟩ :=
        readParams_of_taken (sorted.params _ listed) (suits settings listed)
      refine ⟨p, read, ?_, fun nothing => missing (nothing settings listed)⟩
      intro other otherListed
      rwa [sorted.rules.eq_of_mem otherListed listed]

theorem suits_or_objects (sorted : c.Sorted) (b : Builtin) :
    c.Suits b ∨ ∃ settings param message, (b.key, settings) ∈ c.rules ∧
      b.Objects settings.params param message := by
  by_cases suits : c.Suits b
  · exact .inl suits
  · rw [Config.Suits] at suits
    push Not at suits
    obtain ⟨settings, listed, param, given, refused⟩ := suits
    rcases taken_or_objects b (sorted.params _ listed) with taken | ⟨param, message, objects⟩
    · exact absurd (taken param given) refused
    · exact .inr ⟨settings, param, message, listed, objects⟩

theorem spec_of_objects (sorted : c.Sorted) {settings : RuleSettings} {param message : String}
    (listed : (b.key, settings) ∈ c.rules) (objects : b.Objects settings.params param message) :
    spec c b = .error (.invalidParam b.key param message) := by
  rw [spec, (rule?_eq_some_iff sorted).2 listed, params,
    readParams_of_objects (sorted.params _ listed) objects]
  rfl

structure Follows (c : Config) (s : RuleSpec) : Prop where
  enabled : c.Sets s.builtin.key (fun settings v => settings.enabled? = some v)
    s.builtin.metadata.activatedByDefault s.enabled
  severity : c.Sets s.builtin.key (fun settings v => settings.severity? = some v)
    s.builtin.metadata.severity s.severity
  params : c.Sets s.builtin.key (·.Gives s.builtin) s.builtin.defaultParams s.params

theorem spec_of_suits (sorted : c.Sorted) (suits : c.Suits b) :
    ∃ s, spec c b = .ok s ∧ s.builtin = b ∧ Follows c s := by
  obtain ⟨p, made, sets⟩ := params_of_suits sorted suits
  refine ⟨_, by rw [spec, made]; rfl, rfl, ?_, ?_, sets⟩
  · exact sets_getD sorted b.key (·.enabled?) _
  · exact sets_getD sorted b.key (·.severity?) _

theorem follows_of_spec (sorted : c.Sorted) (made : spec c b = .ok s) : Follows c s := by
  rcases suits_or_objects sorted b with suits | ⟨settings, param, message, listed, objects⟩
  · obtain ⟨other, otherMade, -, follows⟩ := spec_of_suits sorted suits
    rw [made] at otherMade
    cases otherMade
    exact follows
  · rw [spec_of_objects sorted listed objects] at made
    cases made

end Spec

section Rules

variable {c : Config} {rules : RuleSet} {e : ConfigError}

theorem ofConfig_of_known (known : ∀ entry ∈ c.rules, Builtin.Has entry.1) :
    ofConfig c = (Builtin.all.mapM (spec c)).map .mk := by
  have all : (c.rules.find? fun entry => !Builtin.isKnown entry.1) = none := by
    simpa [List.find?_eq_none, Builtin.isKnown_iff] using known
  rw [ofConfig, all]

theorem ofConfig_of_sound (sorted : c.Sorted) (sound : c.Sound) :
    ∃ rules, ofConfig c = .ok rules := by
  have fine : ∀ b ∈ Builtin.all, ∃ s, spec c b = .ok s := by
    intro b _
    obtain ⟨s, made, -⟩ := spec_of_suits sorted (b := b) fun settings listed => by
      obtain ⟨a, same, taken⟩ := sound _ listed
      rwa [← Builtin.key_injective same]
    exact ⟨s, made⟩
  obtain ⟨specs, made⟩ := exists_mapM_eq_ok fine
  have known : ∀ entry ∈ c.rules, Builtin.Has entry.1 := by
    intro entry listed
    obtain ⟨b, same, -⟩ := sound entry listed
    exact ⟨b, same⟩
  exact ⟨⟨specs⟩, by rw [ofConfig_of_known known, made]; rfl⟩

theorem ofConfig_of_refuses (sorted : c.Sorted) (refuses : c.Refuses e) :
    ofConfig c = .error e := by
  cases refuses with
  | @rule key settings listed unknown least =>
      have first : (c.rules.find? fun entry => !Builtin.isKnown entry.1) =
          some (key, settings) := by
        apply sorted.rules.find?_eq_some_iff.2
        have strange : Builtin.isKnown key = false :=
          Bool.eq_false_iff.2 (mt Builtin.isKnown_iff.1 unknown)
        refine ⟨listed, by simp [strange], ?_⟩
        intro other otherListed otherStrange
        apply least other otherListed
        rw [← Builtin.isKnown_iff]
        simpa using otherStrange
      rw [ofConfig, first]
  | @param before after b settings param message known order suits listed objects =>
      have earlier : ∀ a ∈ before, ∃ s, spec c a = .ok s := by
        intro a member
        obtain ⟨s, made, -⟩ := spec_of_suits sorted (suits a member)
        exact ⟨s, made⟩
      rw [ofConfig_of_known known, order,
        mapM_of_failed earlier (spec_of_objects sorted listed objects)]
      rfl

theorem sound_or_refuses (sorted : c.Sorted) : c.Sound ∨ ∃ e, c.Refuses e := by
  cases found : c.rules.find? fun entry => !Builtin.isKnown entry.1 with
  | some entry =>
      obtain ⟨listed, unknown, least⟩ := sorted.rules.find?_eq_some_iff.1 found
      simp only [Bool.not_eq_true', Bool.eq_false_iff, ne_eq, Builtin.isKnown_iff] at unknown least
      exact .inr ⟨_, .rule listed unknown least⟩
  | none =>
      have known : ∀ entry ∈ c.rules, Builtin.Has entry.1 := by
        simpa [List.find?_eq_none, Builtin.isKnown_iff] using found
      -- Of several rules with bad parameters it is the one that comes first that objects.
      classical
      cases bad : Builtin.all.find? fun b => ¬ c.Suits b with
      | none =>
          have suits : ∀ b, c.Suits b := by
            simpa [List.find?_eq_none, Builtin.mem_all] using bad
          refine .inl fun entry listed => ?_
          obtain ⟨b, same⟩ := known entry listed
          obtain ⟨key, settings⟩ := entry
          cases same
          exact ⟨b, rfl, suits b settings listed⟩
      | some b =>
          obtain ⟨refused, before, after, order, suits⟩ := List.find?_eq_some_iff_append.1 bad
          rcases suits_or_objects sorted b with good | ⟨settings, param, message, listed, objects⟩
          · exact absurd good (by simpa using refused)
          · exact .inr ⟨_, .param known order (by simpa using suits) listed objects⟩

theorem follows_of_ofConfig (sorted : c.Sorted) (made : ofConfig c = .ok rules) :
    ∀ s ∈ rules.specs, Follows c s := by
  intro s member
  obtain ⟨b, -, own⟩ := exists_mem_of_forall₂ (specs_of_ofConfig made) member
  exact follows_of_spec sorted own

structure InForce (rules : RuleSet) (found : FileReport) : Prop where
  runs : found.runs.map (·.rule) = rules.enabled.map (·.builtin.key)
  issues : ∀ issue ∈ found.issues, ∃ s ∈ rules.enabled,
    issue.rule = s.builtin.key ∧ issue.severity = s.severity ∧
      (s.builtin = .inheritanceDepth → ∃ max depth, s.params = .inheritanceDepth max ∧
        max < depth ∧ issue.message = Checks.InheritanceDepth.message depth max)

theorem Follows.exists_max {s : RuleSpec} (follows : Follows c s)
    (depths : s.builtin = .inheritanceDepth) : ∃ max, s.params = .inheritanceDepth max := by
  have sets := follows.params
  rw [depths] at sets
  rcases sets.given_or_usual with ⟨settings, -, given⟩ | usual
  · generalize s.params = p at given
    cases given
    exact ⟨_, rfl⟩
  · exact ⟨_, usual⟩

theorem inForce_of_runFile (follows : ∀ s ∈ rules.specs, Follows c s) {input : FileInput}
    {found : FileReport} {after : List (Rule Unit)}
    (ran : runFile input rules.rules = .ok (found, after)) : InForce rules found := by
  obtain ⟨-, rfl, -⟩ := runFile_eq_ok ran
  have made := report_made_of_shares input rules.rules
  constructor
  · rw [made.runs, RuleSet.rules]
    simp only [List.map_map]
    rfl
  · intro issue member
    rw [made.issues, RuleSet.rules, List.map_map] at member
    obtain ⟨share, shareMember, inShare⟩ := List.mem_flatMap.1 member
    obtain ⟨s, on, rfl⟩ := List.mem_map.1 shareMember
    obtain ⟨named, -, severity⟩ := (Rule.proper_share input s.rule).stamped
      (Rule.keepsContext_journal input (s.builtin.keepsContext s.params)) issue inShare
    refine ⟨s, on, named, severity, ?_⟩
    intro depths
    obtain ⟨max, own⟩ := (follows s (List.mem_of_mem_filter on)).exists_max depths
    have behaves : s.rule.behavior = Checks.InheritanceDepth.behavior max := by
      rw [RuleSpec.rule, depths, own]
      rfl
    obtain ⟨depth, deep, message⟩ :=
      Checks.InheritanceDepth.exceeds_of_mem_share behaves issue inShare
    exact ⟨max, depth, own, deep, message⟩

structure Selected (c : Config) (rules : RuleSet) : Prop where
  each : rules.specs.map (·.builtin) = Builtin.all
  follows : ∀ s ∈ rules.specs, Follows c s
  /-- Settings that agree with these on the entry of a rule set the rule alike. -/
  alone : ∀ (d : Config) (others : RuleSet), d.Sorted → ofConfig d = .ok others →
    ∀ s ∈ rules.specs, ∀ other ∈ others.specs, other.builtin = s.builtin →
      d.Alike c s.builtin.key → other = s
  instances : rules.rules = (rules.specs.filter (·.enabled)).map fun s =>
    ⟨{ s.builtin.metadata with severity := s.severity }, s.builtin.behavior s.params, ()⟩
  inForce : ∀ (input : FileInput) (found : FileReport) (after : List (Rule Unit)),
    runFile input rules.rules = .ok (found, after) → InForce rules found

theorem eq_of_follows {d : Config} {s other : RuleSpec} (follows : Follows c s)
    (otherFollows : Follows d other) (same : other.builtin = s.builtin)
    (alike : d.Alike c s.builtin.key) : other = s := by
  obtain ⟨enabled, severity, params⟩ := otherFollows
  rw [same] at enabled severity params
  have sameEnabled := enabled.eq_of_alike follows.enabled alike
  have sameSeverity := severity.eq_of_alike follows.severity alike
  have sameParams := params.eq_of_alike follows.params alike
  cases s
  cases other
  simp_all only

def boundedDepth : Config where
  version := "1"
  exclude := []
  includeTests? := none
  rules := [("MaximumInheritanceDepth", ⟨some true, some .error, [("max", .int 2)]⟩),
    ("S2134", ⟨some false, none, []⟩)]

def boundedRules : RuleSet where
  specs := [⟨.inheritanceDepth, .error, true, .inheritanceDepth 2⟩,
    ⟨.emptyStatement, .info, true, .none⟩, ⟨.threadRun, .warning, false, .none⟩]

end Rules

end RuleSet

end TreeLint

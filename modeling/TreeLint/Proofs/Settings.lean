import Mathlib.Data.List.Forall2
import Mathlib.Data.String.Basic
import Mathlib.Tactic.SplitIfs
import TreeLint.Config.Basic

/-! Settings as they are read: entries in increasing order of their names. -/

namespace TreeLint

section Steps

variable {ε : Type} {f : α → Except ε β} {xs : List α} {ys : List β}

theorem exists_of_bind_eq_ok {x : Except ε α} {y : β} (made : x >>= f = .ok y) :
    ∃ a, x = .ok a ∧ f a = .ok y := by
  cases x with
  | error e => cases made
  | ok a => exact ⟨a, rfl, made⟩

theorem mapM_eq_ok_iff : xs.mapM f = .ok ys ↔ List.Forall₂ (fun x y => f x = .ok y) xs ys := by
  induction xs generalizing ys with
  | nil =>
      rw [List.forall₂_nil_left_iff]
      exact ⟨fun made => (Except.ok.inj made).symm, fun same => congrArg Except.ok same.symm⟩
  | cons x rest ih =>
      rw [List.mapM_cons, List.forall₂_cons_left_iff]
      constructor
      · intro made
        obtain ⟨y, first, made⟩ := exists_of_bind_eq_ok made
        obtain ⟨others, later, made⟩ := exists_of_bind_eq_ok made
        cases made
        exact ⟨y, others, first, ih.1 later, rfl⟩
      · rintro ⟨y, others, first, later, rfl⟩
        rw [first, ih.2 later]
        rfl

theorem exists_mapM_eq_ok (fine : ∀ x ∈ xs, ∃ y, f x = .ok y) : ∃ ys, xs.mapM f = .ok ys := by
  induction xs with
  | nil => exact ⟨[], rfl⟩
  | cons x rest ih =>
      obtain ⟨⟨y, first⟩, later⟩ := List.forall_mem_cons.1 fine
      obtain ⟨others, made⟩ := ih later
      exact ⟨y :: others, mapM_eq_ok_iff.2 (.cons first (mapM_eq_ok_iff.1 made))⟩

theorem mapM_of_failed {before after : List α} {x : α} {e : ε}
    (fine : ∀ a ∈ before, ∃ b, f a = .ok b) (failed : f x = .error e) :
    (before ++ x :: after).mapM f = .error e := by
  obtain ⟨others, made⟩ := exists_mapM_eq_ok fine
  rw [List.mapM_append, made, List.mapM_cons, failed]
  rfl

theorem exists_mem_of_forall₂ {R : α → β → Prop} {y : β} (paired : List.Forall₂ R xs ys)
    (member : y ∈ ys) : ∃ x ∈ xs, R x y := by
  induction paired with
  | nil => cases member
  | cons first _ ih =>
      rcases List.mem_cons.1 member with rfl | later
      · exact ⟨_, List.mem_cons_self .., first⟩
      · obtain ⟨x, found, related⟩ := ih later
        exact ⟨x, List.mem_cons_of_mem _ found, related⟩

end Steps

section Entries

variable {entries : List (String × α)} {name : String} {value : α}

def Increasing (entries : List (String × α)) : Prop := entries.Pairwise fun a b => a.1 < b.1

instance : Decidable (Increasing entries) :=
  inferInstanceAs (Decidable (entries.Pairwise fun a b => a.1 < b.1))

theorem mem_insertSorted {entry : String × α} (member : entry ∈ insertSorted name value entries) :
    entry = (name, value) ∨ entry ∈ entries := by
  induction entries with
  | nil => exact .inl (List.mem_singleton.1 member)
  | cons first rest ih =>
      rw [insertSorted] at member
      split_ifs at member with same less
      · exact (List.mem_cons.1 member).imp_right (List.mem_cons_of_mem _)
      · exact List.mem_cons.1 member
      · rcases List.mem_cons.1 member with rfl | later
        · exact .inr (List.mem_cons_self ..)
        · exact (ih later).imp_right (List.mem_cons_of_mem _)

theorem Increasing.insertSorted (increasing : Increasing entries) (name : String) (value : α) :
    Increasing (insertSorted name value entries) := by
  induction entries with
  | nil => exact List.pairwise_singleton ..
  | cons first rest ih =>
      obtain ⟨least, later⟩ := List.pairwise_cons.1 increasing
      rw [TreeLint.insertSorted]
      split_ifs with same less
      · subst same
        exact List.pairwise_cons.2 ⟨least, later⟩
      · refine List.pairwise_cons.2 ⟨?_, increasing⟩
        intro other member
        rcases List.mem_cons.1 member with rfl | behind
        · exact less
        · exact lt_trans less (least other behind)
      · have greater : first.1 < name := lt_of_le_of_ne (not_lt.1 less) (Ne.symm same)
        refine List.pairwise_cons.2 ⟨?_, ih later⟩
        intro other member
        rcases mem_insertSorted member with rfl | behind
        · exact greater
        · exact least other behind

theorem Increasing.lookup_eq_some_iff (increasing : Increasing entries) :
    entries.lookup name = some value ↔ (name, value) ∈ entries := by
  rw [List.lookup_eq_some_iff]
  constructor
  · rintro ⟨front, back, rfl, -⟩
    exact List.mem_append_right _ (List.mem_cons_self ..)
  · intro member
    obtain ⟨front, back, rfl⟩ := List.append_of_mem member
    refine ⟨front, back, rfl, ?_⟩
    intro other before
    have less := (List.pairwise_append.1 increasing).2.2 other before _ (List.mem_cons_self ..)
    exact bne_iff_ne.2 less.ne'

theorem Increasing.eq_of_mem (increasing : Increasing entries) {other : α}
    (one : (name, value) ∈ entries) (two : (name, other) ∈ entries) : value = other := by
  have found := increasing.lookup_eq_some_iff.2 one
  rw [increasing.lookup_eq_some_iff.2 two] at found
  exact (Option.some.inj found).symm

theorem lookup_eq_none_iff_absent :
    entries.lookup name = none ↔ ∀ value, (name, value) ∉ entries := by
  rw [List.lookup_eq_none_iff]
  constructor
  · intro differs value member
    exact bne_iff_ne.1 (differs _ member) rfl
  · intro absent entry member
    refine bne_iff_ne.2 ?_
    rintro rfl
    exact absent entry.2 member

theorem Increasing.find?_eq_some_iff (increasing : Increasing entries) {p : String × α → Bool}
    {entry : String × α} :
    entries.find? p = some entry ↔
      entry ∈ entries ∧ p entry ∧ ∀ other ∈ entries, p other → entry.1 ≤ other.1 := by
  rw [List.find?_eq_some_iff_append]
  constructor
  · rintro ⟨fits, front, back, rfl, passed⟩
    refine ⟨List.mem_append_right _ (List.mem_cons_self ..), fits, ?_⟩
    intro other member otherFits
    rcases List.mem_append.1 member with before | behind
    · have passedOver := passed other before
      rw [otherFits] at passedOver
      cases passedOver
    · rcases List.mem_cons.1 behind with rfl | later
      · exact le_rfl
      · exact ((List.pairwise_cons.1 (List.pairwise_append.1 increasing).2.1).1 other later).le
  · rintro ⟨member, fits, least⟩
    obtain ⟨front, back, rfl⟩ := List.append_of_mem member
    refine ⟨fits, front, back, rfl, ?_⟩
    intro other before
    have less := (List.pairwise_append.1 increasing).2.2 other before _ (List.mem_cons_self ..)
    cases otherFits : p other with
    | false => rfl
    | true => exact absurd (least other (List.mem_append_left _ before) otherFits) (not_le.2 less)

end Entries

namespace Config

open Yaml

structure Sorted (c : Config) : Prop where
  rules : Increasing c.rules
  params : ∀ entry ∈ c.rules, Increasing entry.2.params

variable {n : Node}

theorem of_readEntries {read : Node → Except Yaml.Error α} {entries : List (String × α)}
    (made : readEntries read n = .ok entries) :
    Increasing entries ∧ ∀ entry ∈ entries, ∃ part, read part = .ok entry.2 := by
  obtain ⟨parts, -, made⟩ := exists_of_bind_eq_ok made
  obtain ⟨pairs, each, made⟩ := exists_of_bind_eq_ok made
  have readPair : ∀ pair ∈ pairs, ∃ part, read part = .ok pair.2 := by
    intro pair member
    obtain ⟨part, -, pairMade⟩ := exists_mem_of_forall₂ (mapM_eq_ok_iff.1 each) member
    obtain ⟨name, -, pairMade⟩ := exists_of_bind_eq_ok pairMade
    obtain ⟨value, valueMade, pairMade⟩ := exists_of_bind_eq_ok pairMade
    cases pairMade
    exact ⟨part.2, valueMade⟩
  cases made
  refine List.foldlRecOn (motive := fun sorted =>
    Increasing sorted ∧ ∀ entry ∈ sorted, ∃ part, read part = .ok entry.2) pairs _
      ⟨List.Pairwise.nil, nofun⟩ ?_
  rintro sorted ⟨increasing, fromParts⟩ ⟨name, value⟩ member
  refine ⟨increasing.insertSorted name value, ?_⟩
  intro entry found
  rcases mem_insertSorted found with rfl | old
  · exact readPair _ member
  · exact fromParts entry old

theorem of_readField {read : Node → Except Yaml.Error α} {fields : List (String × Node)}
    {name : String} {missing value : α} (made : readField fields name missing read = .ok value) :
    value = missing ∨ ∃ part, read part = .ok value := by
  rw [readField] at made
  split at made
  · exact .inr ⟨_, made⟩
  · exact .inl (Except.ok.inj made).symm

theorem increasing_of_readSettings {settings : RuleSettings}
    (made : readSettings n = .ok settings) : Increasing settings.params := by
  obtain ⟨fields, -, made⟩ := exists_of_bind_eq_ok made
  obtain ⟨enabled, -, made⟩ := exists_of_bind_eq_ok made
  obtain ⟨severity, -, made⟩ := exists_of_bind_eq_ok made
  obtain ⟨params, read, made⟩ := exists_of_bind_eq_ok made
  cases made
  rcases of_readField read with rfl | ⟨part, read⟩
  · exact List.Pairwise.nil
  · exact (of_readEntries read).1

theorem sorted_of_read {c : Config} (made : read n = .ok c) : c.Sorted := by
  obtain ⟨fields, -, made⟩ := exists_of_bind_eq_ok made
  obtain ⟨version, -, made⟩ := exists_of_bind_eq_ok made
  obtain ⟨exclude, -, made⟩ := exists_of_bind_eq_ok made
  obtain ⟨includeTests, -, made⟩ := exists_of_bind_eq_ok made
  obtain ⟨rules, entriesRead, made⟩ := exists_of_bind_eq_ok made
  cases made
  rcases of_readField entriesRead with rfl | ⟨part, entriesRead⟩
  · exact ⟨List.Pairwise.nil, nofun⟩
  · obtain ⟨increasing, fromParts⟩ := of_readEntries entriesRead
    refine ⟨increasing, ?_⟩
    intro entry member
    obtain ⟨settings, settingsRead⟩ := fromParts entry member
    exact increasing_of_readSettings settingsRead

theorem sorted_default : default.Sorted := ⟨List.Pairwise.nil, nofun⟩

theorem sorted_of_ofYaml {text : String} {c : Config} (made : ofYaml text = .ok c) : c.Sorted := by
  obtain ⟨document, -, made⟩ := exists_of_bind_eq_ok made
  cases document with
  | none =>
      cases made
      exact sorted_default
  | some n => exact sorted_of_read made

end Config

end TreeLint

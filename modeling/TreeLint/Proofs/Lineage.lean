import Mathlib.Logic.ExistsUnique
import TreeLint.Proofs.TableCalls
import TreeLint.Symbols.Ancestry

/-! Every chain of superclasses ends, repeats or exceeds the limit, and a climb shows which. -/

namespace TreeLint

namespace SymbolTable

def ancestor? (table : SymbolTable) (origin : SymbolId) : Nat → Option SymbolId
  | 0 => some origin
  | n + 1 => (table.ancestor? origin n).bind table.superclass?

/-- The origin and the next types above it, up to the given one, are there and differ. -/
structure Distinct (table : SymbolTable) (origin : SymbolId) (last : Nat) : Prop where
  present : ∀ i ≤ last, ∃ id, table.ancestor? origin i = some id
  apart : ∀ i j, i < j → j ≤ last → table.ancestor? origin i ≠ table.ancestor? origin j

end SymbolTable

/-- How a chain of superclasses goes on above its origin. -/
inductive Lineage where
  | ends (depth : Nat)
  | repeats (place : Nat)
  | exceeds

/-- A chain that repeats does so for the first time at the given place. -/
def Lineage.Of (table : SymbolTable) (origin : SymbolId) (limit : Nat) : Lineage → Prop
  | ends depth =>
      depth ≤ limit ∧ table.Distinct origin depth ∧ table.ancestor? origin (depth + 1) = none
  | repeats place =>
      place ≤ limit + 1 ∧ table.Distinct origin (place - 1) ∧
        ∃ earlier < place, table.ancestor? origin place = table.ancestor? origin earlier
  | exceeds => table.Distinct origin (limit + 1)

variable {table : SymbolTable} {origin : SymbolId}

namespace SymbolTable

theorem ancestor?_succ {n : Nat} {id : SymbolId} (here : table.ancestor? origin n = some id) :
    table.ancestor? origin (n + 1) = table.superclass? id := by
  simp [ancestor?, here]

theorem type_of_ancestor? {n : Nat} {id : SymbolId}
    (above : table.ancestor? origin (n + 1) = some id) : ∃ s, table.type? id = some s := by
  simp only [ancestor?, Option.bind_eq_some_iff] at above
  obtain ⟨below, _, linked⟩ := above
  obtain ⟨_, _, _, known⟩ := superclass?_eq_some_iff.1 linked
  exact known

namespace Distinct

theorem zero : table.Distinct origin 0 where
  present := by
    intro i small
    cases Nat.le_zero.1 small
    exact ⟨origin, rfl⟩
  apart := by
    intro i j before small
    omega

theorem mono {m n : Nat} (distinct : table.Distinct origin n) (below : m ≤ n) :
    table.Distinct origin m where
  present := by
    intro i small
    exact distinct.present i (by omega)
  apart := by
    intro i j before small
    exact distinct.apart i j before (by omega)

theorem succ {n : Nat} {id : SymbolId} (distinct : table.Distinct origin n)
    (next : table.ancestor? origin (n + 1) = some id)
    (fresh : ∀ i ≤ n, table.ancestor? origin i ≠ some id) : table.Distinct origin (n + 1) where
  present := by
    intro i small
    rcases Nat.le_succ_iff.1 small with below | rfl
    · exact distinct.present i below
    · exact ⟨id, next⟩
  apart := by
    intro i j before small
    rcases Nat.le_succ_iff.1 small with below | rfl
    · exact distinct.apart i j before below
    · rw [next]
      exact fresh i (by omega)

end Distinct

end SymbolTable

namespace Lineage

variable {limit : Nat}

/-- A chain that is well up to some place goes on, ends there or repeats right after. -/
theorem step_of_distinct {n : Nat} (distinct : table.Distinct origin n) (small : n ≤ limit) :
    table.Distinct origin (n + 1) ∨ (ends n).Of table origin limit ∨
      (repeats (n + 1)).Of table origin limit := by
  cases next : table.ancestor? origin (n + 1) with
  | none => exact .inr (.inl ⟨small, distinct, next⟩)
  | some id =>
      by_cases again : ∃ i ≤ n, table.ancestor? origin i = some id
      · obtain ⟨i, below, same⟩ := again
        have before : i < n + 1 := by omega
        refine .inr (.inr ⟨by omega, distinct, i, before, ?_⟩)
        rw [next, same]
      · refine .inl (distinct.succ next ?_)
        intro i below same
        exact again ⟨i, below, same⟩

theorem distinct_or_exists (n : Nat) (small : n ≤ limit + 1) :
    table.Distinct origin n ∨ ∃ lineage : Lineage, lineage.Of table origin limit := by
  induction n with
  | zero => exact .inl .zero
  | succ n ih =>
      rcases ih (by omega) with distinct | found
      · have below : n ≤ limit := by omega
        rcases step_of_distinct distinct below with longer | ended | again
        · exact .inl longer
        · exact .inr ⟨_, ended⟩
        · exact .inr ⟨_, again⟩
      · exact .inr found

theorem exists_of (table : SymbolTable) (origin : SymbolId) (limit : Nat) :
    ∃ lineage : Lineage, lineage.Of table origin limit := by
  rcases distinct_or_exists (limit + 1) (Nat.le_refl _) with distinct | found
  · exact ⟨exceeds, distinct⟩
  · exact found

theorem le_of_ends {depth n : Nat} (ended : (ends depth).Of table origin limit)
    (distinct : table.Distinct origin n) : n ≤ depth := by
  apply Nat.le_of_not_lt
  intro beyond
  obtain ⟨id, found⟩ := distinct.present (depth + 1) beyond
  rw [ended.2.2] at found
  cases found

theorem lt_of_repeats {place n : Nat} (again : (repeats place).Of table origin limit)
    (distinct : table.Distinct origin n) : n < place := by
  apply Nat.lt_of_not_le
  intro beyond
  obtain ⟨_, _, earlier, before, same⟩ := again
  exact distinct.apart earlier place before beyond same.symm

theorem present_of_repeats {place : Nat} (again : (repeats place).Of table origin limit) :
    ∃ id, table.ancestor? origin place = some id := by
  obtain ⟨_, distinct, earlier, before, same⟩ := again
  rw [same]
  exact distinct.present earlier (by omega)

theorem not_ends_and_repeats {depth place : Nat} (ended : (ends depth).Of table origin limit)
    (again : (repeats place).Of table origin limit) : False := by
  have upTo := le_of_ends ended again.2.1
  have beyond := lt_of_repeats again ended.2.1
  obtain ⟨id, found⟩ := present_of_repeats again
  have place_eq : place = depth + 1 := by omega
  rw [place_eq, ended.2.2] at found
  cases found

theorem eq_of_of {first second : Lineage} (one : first.Of table origin limit)
    (other : second.Of table origin limit) : first = second := by
  cases first with
  | ends depth =>
      cases second with
      | ends depth' =>
          have := le_of_ends one other.2.1
          have := le_of_ends other one.2.1
          congr
          omega
      | repeats place => exact (not_ends_and_repeats one other).elim
      | exceeds =>
          have := le_of_ends one other
          have := one.1
          omega
  | repeats place =>
      cases second with
      | ends depth => exact (not_ends_and_repeats other one).elim
      | repeats place' =>
          have := lt_of_repeats one other.2.1
          have := lt_of_repeats other one.2.1
          congr
          omega
      | exceeds =>
          have := lt_of_repeats one other
          have := one.1
          omega
  | exceeds =>
      cases second with
      | ends depth =>
          have := le_of_ends other one
          have := other.1
          omega
      | repeats place =>
          have := lt_of_repeats other one
          have := other.1
          omega
      | exceeds => rfl

end Lineage

namespace Ascent

structure Climbed (table : SymbolTable) (origin : SymbolId) (height : Nat) (a : Ascent) : Prop where
  origin_eq : a.origin = origin
  running : a.error? = none
  current : a.current? = table.ancestor? origin height
  mem_seen : ∀ id, id ∈ a.seen ↔ ∃ i ≤ height, table.ancestor? origin i = some id
  hops : a.hops = height

theorem climbed_start : Climbed table origin 0 (start origin) where
  origin_eq := rfl
  running := rfl
  current := rfl
  mem_seen := by
    intro id
    simp [start, SymbolTable.ancestor?, eq_comm]
  hops := rfl

theorem Climbed.hop {height : Nat} {a : Ascent} (climbed : Climbed table origin height a)
    (distinct : table.Distinct origin (height + 1)) (short : height < maxAncestryDepth) :
    ∃ id a', table.ancestor? origin (height + 1) = some id ∧ a.next table = (some id, a') ∧
      Climbed table origin (height + 1) a' := by
  obtain ⟨current, here⟩ := distinct.present height (by omega)
  obtain ⟨id, above⟩ := distinct.present (height + 1) (Nat.le_refl _)
  have linked : table.superclass? current = some id := by
    rw [← SymbolTable.ancestor?_succ here, above]
  have fresh : id ∉ a.seen := by
    intro seen
    obtain ⟨i, below, same⟩ := (climbed.mem_seen id).1 seen
    exact distinct.apart i (height + 1) (by omega) (Nat.le_refl _) (same.trans above.symm)
  refine ⟨id, _, above, next_of_hop climbed.running (climbed.current.trans here) linked fresh ?_,
    climbed.origin_eq, climbed.running, above.symm, ?_, congrArg (· + 1) climbed.hops⟩
  · rw [climbed.hops]
    exact short
  · intro other
    simp only [List.mem_cons, climbed.mem_seen]
    constructor
    · rintro (rfl | ⟨i, below, found⟩)
      · exact ⟨height + 1, Nat.le_refl _, above⟩
      · exact ⟨i, by omega, found⟩
    · rintro ⟨i, below, found⟩
      rcases Nat.le_succ_iff.1 below with lower | rfl
      · exact .inr ⟨i, lower, found⟩
      · rw [above] at found
        cases found
        exact .inl rfl

theorem exists_climbed (height : Nat) (distinct : table.Distinct origin height)
    (short : height ≤ maxAncestryDepth) :
    ∃ ids a, Climbed table origin height a ∧
      ids.map some = (List.range height).map (fun i => table.ancestor? origin (i + 1)) ∧
      (start origin).collect table = (ids ++ (a.collect table).1, (a.collect table).2) := by
  induction height with
  | zero => exact ⟨[], start origin, climbed_start, rfl, rfl⟩
  | succ height ih =>
      obtain ⟨ids, a, climbed, answered, collected⟩ :=
        ih (distinct.mono (Nat.le_succ height)) (by omega)
      obtain ⟨id, a', above, hopped, higher⟩ := climbed.hop distinct short
      refine ⟨ids ++ [id], a', higher, ?_, ?_⟩
      · rw [List.map_append, answered, List.range_succ, List.map_append]
        simp [above]
      · rw [collected, collect_of_some hopped, List.append_assoc]
        rfl

end Ascent

/-- What a climb from the origin comes to: it answers the given number of types, nearest first,
and then no more, and the error tells why it stopped if not at the top. -/
structure Climbs (table : SymbolTable) (origin : SymbolId) (count : Nat)
    (error? : Option AncestryError) : Prop where
  answers : ((Ascent.start origin).collect table).1.map some =
    (List.range count).map fun i => table.ancestor? origin (i + 1)
  error : ((Ascent.start origin).collect table).2.error? = error?
  ended : ((Ascent.start origin).collect table).2.next table =
    (none, ((Ascent.start origin).collect table).2)

namespace Climbs

theorem of_next {height : Nat} {error? : Option AncestryError}
    (distinct : table.Distinct origin height) (short : height ≤ maxAncestryDepth)
    (stops : ∀ a, Ascent.Climbed table origin height a →
      ∃ last, a.next table = (none, last) ∧ last.current? = none ∧ last.error? = error?) :
    Climbs table origin height error? := by
  obtain ⟨ids, a, climbed, answered, collected⟩ := Ascent.exists_climbed height distinct short
  obtain ⟨last, stopped, ended, error⟩ := stops a climbed
  rw [Ascent.collect_of_none stopped, List.append_nil] at collected
  constructor
  · rw [collected]
    exact answered
  · rw [collected]
    exact error
  · rw [collected]
    exact Ascent.next_of_ended ended

theorem inheritanceDepth {count : Nat} {error? : Option AncestryError}
    (climbs : Climbs table origin count error?) :
    table.inheritanceDepth origin =
      match error? with
      | none => .ok count
      | some error => .error error := by
  have length := congrArg List.length climbs.answers
  simp only [List.length_map, List.length_range] at length
  simp only [SymbolTable.inheritanceDepth, climbs.error, length]
  cases error? <;> rfl

theorem of_ends {depth : Nat} (ended : (Lineage.ends depth).Of table origin maxAncestryDepth) :
    Climbs table origin depth none := by
  obtain ⟨short, distinct, top⟩ := ended
  apply of_next distinct short
  intro a climbed
  obtain ⟨current, here⟩ := distinct.present depth (Nat.le_refl _)
  rw [SymbolTable.ancestor?_succ here] at top
  exact ⟨_, Ascent.next_of_top climbed.running (climbed.current.trans here) top, rfl,
    climbed.running⟩

theorem of_repeats {place : Nat} {s : TypeSymbol}
    (again : (Lineage.repeats place).Of table origin maxAncestryDepth)
    (known : table.type? origin = some s) :
    ∃ id r, table.ancestor? origin place = some id ∧ table.type? id = some r ∧
      Climbs table origin (place - 1)
        (some (.cyclic s.qualifiedName r.qualifiedName (place - 1))) := by
  obtain ⟨id, above⟩ := Lineage.present_of_repeats again
  obtain ⟨short, distinct, earlier, before, same⟩ := again
  obtain ⟨height, rfl⟩ : ∃ height, place = height + 1 := ⟨place - 1, by omega⟩
  rw [Nat.add_sub_cancel] at distinct ⊢
  obtain ⟨r, repeated⟩ := SymbolTable.type_of_ancestor? above
  refine ⟨id, r, above, repeated, of_next distinct (by omega) ?_⟩
  intro a climbed
  obtain ⟨current, here⟩ := distinct.present height (Nat.le_refl _)
  have linked : table.superclass? current = some id := by
    rw [← SymbolTable.ancestor?_succ here, above]
  have seen : id ∈ a.seen := (climbed.mem_seen id).2 ⟨earlier, by omega, same ▸ above⟩
  refine ⟨_, Ascent.next_of_repeated climbed.running (climbed.current.trans here) linked seen
    (climbed.origin_eq.symm ▸ known) repeated, rfl, ?_⟩
  rw [climbed.hops]

theorem of_exceeds {s : TypeSymbol} (long : Lineage.exceeds.Of table origin maxAncestryDepth)
    (known : table.type? origin = some s) :
    Climbs table origin maxAncestryDepth
      (some (.tooDeep s.qualifiedName maxAncestryDepth)) := by
  have distinct : table.Distinct origin (maxAncestryDepth + 1) := long
  apply of_next (distinct.mono (Nat.le_succ _)) (Nat.le_refl _)
  intro a climbed
  obtain ⟨current, here⟩ := distinct.present maxAncestryDepth (Nat.le_succ _)
  obtain ⟨id, above⟩ := distinct.present (maxAncestryDepth + 1) (Nat.le_refl _)
  have linked : table.superclass? current = some id := by
    rw [← SymbolTable.ancestor?_succ here, above]
  have fresh : id ∉ a.seen := by
    intro seen
    obtain ⟨i, below, same⟩ := (climbed.mem_seen id).1 seen
    exact distinct.apart i (maxAncestryDepth + 1) (by omega) (Nat.le_refl _)
      (same.trans above.symm)
  exact ⟨_, Ascent.next_of_excess climbed.running (climbed.current.trans here) linked fresh
    (Nat.le_of_eq climbed.hops.symm) (climbed.origin_eq.symm ▸ known), rfl, rfl⟩

end Climbs

/-- Exactly one of three things is true of the chain above a type, whatever the table, and the
climb and the depth tell which. -/
theorem climbs_by_lineage {s : TypeSymbol} (known : table.type? origin = some s) :
    (∃! lineage : Lineage, lineage.Of table origin 256) ∧
      (∀ depth, (Lineage.ends depth).Of table origin 256 →
        Climbs table origin depth none ∧ table.inheritanceDepth origin = .ok depth) ∧
      (∀ place, (Lineage.repeats place).Of table origin 256 →
        ∃ id r, table.ancestor? origin place = some id ∧ table.type? id = some r ∧
          Climbs table origin (place - 1)
            (some (.cyclic s.qualifiedName r.qualifiedName (place - 1))) ∧
          table.inheritanceDepth origin =
            .error (.cyclic s.qualifiedName r.qualifiedName (place - 1))) ∧
      (Lineage.exceeds.Of table origin 256 →
        Climbs table origin 256 (some (.tooDeep s.qualifiedName 256)) ∧
          table.inheritanceDepth origin = .error (.tooDeep s.qualifiedName 256)) := by
  refine ⟨?_, ?_, ?_, ?_⟩
  · obtain ⟨lineage, holds⟩ := Lineage.exists_of table origin 256
    refine ⟨lineage, holds, ?_⟩
    intro other also
    exact Lineage.eq_of_of also holds
  · intro depth ended
    have climbs := Climbs.of_ends ended
    exact ⟨climbs, climbs.inheritanceDepth⟩
  · intro place again
    obtain ⟨id, r, above, repeated, climbs⟩ := Climbs.of_repeats again known
    exact ⟨id, r, above, repeated, climbs, climbs.inheritanceDepth⟩
  · intro long
    have climbs := Climbs.of_exceeds long known
    exact ⟨climbs, climbs.inheritanceDepth⟩

/-- One type below two that are each other's superclass. -/
def loopAboveOrigin : SymbolTable :=
  (SymbolTable.new ⟨0⟩).attemptAll [
    .declareType "A" "p.A" .class none, .declareType "B" "p.B" .class none,
    .declareType "D" "p.D" .class none, .setSuperclass ⟨2⟩ ⟨0⟩, .setSuperclass ⟨0⟩ ⟨1⟩,
    .setSuperclass ⟨1⟩ ⟨0⟩]

theorem loopAboveOrigin_repeats :
    (∃ s, loopAboveOrigin.type? ⟨2⟩ = some s) ∧
      (Lineage.repeats 3).Of loopAboveOrigin ⟨2⟩ 256 ∧
      loopAboveOrigin.inheritanceDepth ⟨2⟩ = .error (.cyclic "p.D" "p.A" 2) := by
  have known : loopAboveOrigin.type? ⟨2⟩ = some ⟨"D", "p.D", .class, some ⟨0⟩, [], [], none⟩ := rfl
  have repeats : (Lineage.repeats 3).Of loopAboveOrigin ⟨2⟩ 256 := by
    refine ⟨by decide, ⟨?_, ?_⟩, 1, by decide, rfl⟩
    · intro i small
      obtain rfl | rfl | rfl : i = 0 ∨ i = 1 ∨ i = 2 := by omega
      · exact ⟨⟨2⟩, rfl⟩
      · exact ⟨⟨0⟩, rfl⟩
      · exact ⟨⟨1⟩, rfl⟩
    · intro i j before small
      obtain ⟨rfl, rfl⟩ | ⟨rfl, rfl⟩ | ⟨rfl, rfl⟩ :
          i = 0 ∧ j = 1 ∨ i = 0 ∧ j = 2 ∨ i = 1 ∧ j = 2 := by omega
      · decide
      · decide
      · decide
  obtain ⟨id, r, above, repeated, _, depth⟩ := (climbs_by_lineage known).2.2.1 3 repeats
  cases above
  cases repeated
  exact ⟨⟨_, known⟩, repeats, depth⟩

end TreeLint

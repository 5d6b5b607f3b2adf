import Mathlib.Data.List.TakeWhile
import TreeLint.Files.Path

namespace TreeLint.Path

structure IsName (name : String) : Prop where
  busy : isIdle name = false
  notUp : name ≠ ".."
  whole : '/' ∉ name.toList

instance (name : String) : Decidable (IsName name) :=
  decidable_of_iff (isIdle name = false ∧ name ≠ ".." ∧ '/' ∉ name.toList)
    ⟨fun ⟨busy, notUp, whole⟩ => ⟨busy, notUp, whole⟩,
      fun ⟨busy, notUp, whole⟩ => ⟨busy, notUp, whole⟩⟩

namespace IsName

variable {name : String} (isName : IsName name)

include isName

theorem ne_empty : name ≠ "" := by
  rintro rfl
  exact absurd isName.busy (by decide)

theorem ne_dot : name ≠ "." := by
  rintro rfl
  exact absurd isName.busy (by decide)

theorem ne_slash : name ≠ "/" := by
  rintro rfl
  exact isName.whole (by decide)

end IsName

theorem isAbsolute_intercalate {first : String} (isName : IsName first) (rest : List String) :
    isAbsolute (String.intercalate "/" (first :: rest)) = false := by
  obtain ⟨c, chars, spelled⟩ : ∃ c chars, first.toList = c :: chars :=
    List.exists_cons_of_ne_nil (by simpa using isName.ne_empty)
  have begins : ∃ more, (String.intercalate "/" (first :: rest)).toList = c :: more := by
    cases rest <;> simp [String.toList_intercalate, spelled]
  obtain ⟨more, begins⟩ := begins
  apply Bool.eq_false_iff.2
  intro absolute
  rw [isAbsolute, String.startsWith_string_iff, begins] at absolute
  obtain rfl : '/' = c := by simpa using absolute
  exact isName.whole (by simp [spelled])

section Joined

variable {way : List String} (all : ∀ name ∈ way, IsName name)

include all

theorem pieces_intercalate (filled : way ≠ []) : pieces (String.intercalate "/" way) = way := by
  have whole : ∀ chars ∈ way.map String.toList, '/' ∉ chars := by
    intro chars member
    obtain ⟨name, listed, rfl⟩ := List.mem_map.1 member
    exact (all name listed).whole
  have split : (['/'].intercalate (way.map String.toList)).splitOn '/' = way.map String.toList :=
    List.splitOn_intercalate '/' whole (by simpa using filled)
  rw [pieces, String.toList_intercalate]
  change ((['/'].intercalate (way.map String.toList)).splitOn '/').map String.ofList = way
  rw [split]
  simp [Function.comp_def]

@[simp] theorem names_intercalate : names (String.intercalate "/" way) = way := by
  cases way with
  | nil => decide +kernel
  | cons first rest =>
      have isName : IsName first := all first (by simp)
      have pieces : pieces (String.intercalate "/" (first :: rest)) = first :: rest :=
        pieces_intercalate all (by simp)
      have notHere : (first :: rest).head? ≠ some "." := by simpa using isName.ne_dot
      have busy : (first :: rest).filter (!isIdle ·) = first :: rest := by
        apply List.filter_eq_self.2
        intro name member
        simp [(all name member).busy]
      rw [names, pieces, isAbsolute_intercalate isName, if_neg notHere, busy]
      simp

theorem fileName?_intercalate {name : String} (last : way.getLast? = some name) :
    fileName? (String.intercalate "/" way) = some name := by
  have isName : IsName name := all name (List.mem_of_getLast? last)
  rw [fileName?, names_intercalate all, last]
  simp [isName.ne_slash, isName.ne_dot, isName.notUp]

end Joined

theorem exists_last_dot {name : String} (dotted : '.' ∈ name.toList) :
    ∃ stem ending, '.' ∉ ending.toList ∧ name = stem ++ "." ++ ending := by
  obtain ⟨behind, front, split, undotted⟩ :=
    List.eq_append_cons_of_mem (List.mem_reverse.2 dotted)
  refine ⟨String.ofList front.reverse, String.ofList behind.reverse, by simpa using undotted, ?_⟩
  apply String.toList_inj.1
  rw [← List.reverse_reverse name.toList, split]
  simp

theorem splitName_undotted {name : String} (undotted : '.' ∉ name.toList) :
    splitName name = (name, none) := by
  have all : name.toList.reverse.takeWhile (· != '.') = name.toList.reverse := by
    apply List.takeWhile_eq_self_iff.2
    intro c member
    rw [bne_iff_ne]
    rintro rfl
    exact undotted (List.mem_reverse.1 member)
  simp [splitName, all, String.length_toList]

@[simp] theorem splitName_dotted {stem ending : String} (undotted : '.' ∉ ending.toList) :
    splitName (stem ++ "." ++ ending) =
      if stem = "" then (stem ++ "." ++ ending, none) else (stem, some ending) := by
  have spelled : (stem ++ "." ++ ending).toList = stem.toList ++ '.' :: ending.toList := by simp
  have behind : (stem ++ "." ++ ending).toList.reverse.takeWhile (· != '.') =
      ending.toList.reverse := by
    have only : ∀ c ∈ ending.toList.reverse, (c != '.') = true := by
      intro c member
      rw [bne_iff_ne]
      rintro rfl
      exact undotted (List.mem_reverse.1 member)
    rw [spelled, List.reverse_append, List.reverse_cons, List.append_assoc,
      List.takeWhile_append_of_pos only]
    simp
  have length : (stem ++ "." ++ ending).length = stem.length + 1 + ending.length := by
    rw [String.length_append, String.length_append]
    rfl
  have front : (stem ++ "." ++ ending).toList.take stem.length = stem.toList := by
    rw [spelled, ← String.length_toList, List.take_left]
  have before : stem.length + 1 + ending.length - ending.length - 1 = stem.length := by omega
  rw [splitName, behind, length]
  simp only [List.length_reverse, String.length_toList, before, front]
  by_cases empty : stem = "" <;> simp [empty]

theorem splitName_snd_eq_some_iff {name ending : String} :
    (splitName name).2 = some ending ↔
      '.' ∉ ending.toList ∧ ∃ stem, stem ≠ "" ∧ name = stem ++ "." ++ ending := by
  constructor
  · intro split
    by_cases dotted : '.' ∈ name.toList
    · obtain ⟨stem, own, undotted, rfl⟩ := exists_last_dot dotted
      rw [splitName_dotted undotted] at split
      by_cases empty : stem = ""
      · simp [empty] at split
      · rw [if_neg empty] at split
        cases split
        exact ⟨undotted, stem, empty, rfl⟩
    · rw [splitName_undotted dotted] at split
      cases split
  · rintro ⟨undotted, stem, filled, rfl⟩
    rw [splitName_dotted undotted, if_neg filled]

end TreeLint.Path

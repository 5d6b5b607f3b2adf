import Mathlib.Data.List.Nodup

namespace TreeLint

universe u v

variable {α : Type u} {β : Type v} {f : α → List β} {a : α} {l : List α}

theorem flatMap_eq_of_nodup (nodup : l.Nodup) (member : a ∈ l)
    (others : ∀ b ∈ l, b ≠ a → f b = []) : l.flatMap f = f a := by
  induction l with
  | nil => cases member
  | cons first rest ih =>
      obtain ⟨fresh, nodup⟩ := List.nodup_cons.1 nodup
      have later (b : α) (found : b ∈ rest) (differs : b ≠ a) : f b = [] :=
        others b (List.mem_cons_of_mem _ found) differs
      rcases List.mem_cons.1 member with rfl | found
      · have empty : rest.flatMap f = [] := List.flatMap_eq_nil_iff.2 fun b found =>
          later b found fun same => fresh (same ▸ found)
        rw [List.flatMap_cons, empty, List.append_nil]
      · have empty : f first = [] := others first (List.mem_cons_self ..) fun same =>
          fresh (same ▸ found)
        rw [List.flatMap_cons, empty, List.nil_append, ih nodup found later]

theorem flatMap_sublist_flatMap {g : α → List β} (l : List α)
    (blocks : ∀ a ∈ l, (f a).Sublist (g a)) : (l.flatMap f).Sublist (l.flatMap g) := by
  induction l with
  | nil => exact .slnil
  | cons first rest ih =>
      rw [List.flatMap_cons, List.flatMap_cons]
      exact (blocks first (List.mem_cons_self ..)).append
        (ih fun a found => blocks a (List.mem_cons_of_mem _ found))

theorem sublist_flatMap {g : α → List α} (l : List α) (heads : ∀ a ∈ l, ∃ more, g a = a :: more) :
    l.Sublist (l.flatMap g) := by
  induction l with
  | nil => exact .slnil
  | cons first rest ih =>
      obtain ⟨more, same⟩ := heads first (List.mem_cons_self ..)
      rw [List.flatMap_cons, same]
      exact .cons_cons _ ((ih fun a found => heads a (List.mem_cons_of_mem _ found)).trans
        (List.sublist_append_right more _))

theorem forM_flatMap {m : Type → Type} [Monad m] [LawfulMonad m] (g : β → m PUnit) (l : List α)
    (f : α → List β) : (l.flatMap f).forM g = l.forM fun a => (f a).forM g := by
  induction l with
  | nil => rfl
  | cons first rest ih =>
      change forM (f first ++ rest.flatMap f) g = _
      rw [List.forM_append]
      exact congrArg ((f first).forM g >>= fun _ => ·) ih

theorem forM_congr {m : Type → Type} [Monad m] {g h : α → m PUnit}
    (same : ∀ a ∈ l, g a = h a) : l.forM g = l.forM h := by
  induction l with
  | nil => rfl
  | cons first rest ih =>
      obtain ⟨here, later⟩ := List.forall_mem_cons.1 same
      change (g first >>= fun _ => rest.forM g) = (h first >>= fun _ => rest.forM h)
      rw [here, ih later]

theorem exists_of_getElem?_filter {p : α → Bool} {i : Nat} (found : (l.filter p)[i]? = some a) :
    ∃ j, l[j]? = some a ∧ (l.take j).countP p = i := by
  induction l generalizing i with
  | nil => simp at found
  | cons first rest ih =>
      by_cases kept : p first
      · rw [List.filter_cons_of_pos kept] at found
        cases i with
        | zero => exact ⟨0, found, rfl⟩
        | succ i =>
            obtain ⟨j, there, count⟩ := ih found
            exact ⟨j + 1, there, by simp [kept, count]⟩
      · rw [List.filter_cons_of_neg kept] at found
        obtain ⟨j, there, count⟩ := ih found
        exact ⟨j + 1, there, by simp [kept, count]⟩

end TreeLint

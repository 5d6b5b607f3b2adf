import TreeLint.Java.Concrete

namespace TreeLint.Java

def commentNames : List String := ["line_comment", "block_comment"]

def contentNames : List String :=
  ["string_fragment", "multiline_string_fragment", "escape_sequence"]

namespace Concrete

theorem isComment_iff {c : Concrete} : c.isComment = true ↔ c.raw ∈ commentNames := by
  simp [isComment, commentNames]

inductive Below (c : Concrete) : Concrete → Prop
  | self : Below c c
  | child {e d : Concrete} (below : Below c e) (listed : d ∈ e.children) : Below c d

theorem Below.cases {c d : Concrete} (below : Below c d) :
    d = c ∨ ∃ e ∈ c.children, Below e d := by
  induction below with
  | self => exact .inl rfl
  | child _ listed ih =>
      rcases ih with rfl | ⟨e, first, below⟩
      · exact .inr ⟨_, listed, .self⟩
      · exact .inr ⟨e, first, .child below listed⟩

theorem Below.trans {c d e : Concrete} (above : Below c d) (below : Below d e) : Below c e := by
  induction below with
  | self => exact above
  | child _ inner ih => exact .child ih inner

theorem Below.of_child {c d e : Concrete} (listed : e ∈ c.children) (below : Below e d) :
    Below c d :=
  .trans (.child .self listed) below

mutual
def phrases : Concrete → List Concrete
  | .node head children => .node head children :: phrasesAll children

def phrasesAll : List Concrete → List Concrete
  | [] => []
  | first :: rest => phrases first ++ phrasesAll rest
end

mutual
theorem mem_phrases {d : Concrete} : (c : Concrete) → Below c d → d ∈ c.phrases
  | .node head children, below => by
      rcases below.cases with rfl | ⟨e, listed, inner⟩
      · exact List.mem_cons_self ..
      · exact List.mem_cons_of_mem _ (mem_phrasesAll children e listed inner)

theorem mem_phrasesAll {d : Concrete} : (several : List Concrete) → ∀ e ∈ several, Below e d →
    d ∈ phrasesAll several
  | [], e, listed, _ => by cases listed
  | first :: rest, e, listed, below => by
      rw [phrasesAll, List.mem_append]
      rcases List.mem_cons.1 listed with same | later
      · exact .inl (mem_phrases first (same ▸ below))
      · exact .inr (mem_phrasesAll rest e later below)
end

theorem forall_below {root : Concrete} {P : Concrete → Prop} (all : ∀ c ∈ root.phrases, P c) :
    ∀ c, Below root c → P c :=
  fun c below => all c (mem_phrases root below)

theorem hasError_of_mem {c : Concrete} {children : List Concrete} (member : c ∈ children)
    (clean : anyError children = false) : c.hasError = false := by
  induction children with
  | nil => cases member
  | cons first rest ih =>
      rw [anyError, Bool.or_eq_false_iff] at clean
      rcases List.mem_cons.1 member with rfl | later
      · exact clean.1
      · exact ih later clean.2

theorem hasError_of_below {root c : Concrete} (clean : root.hasError = false)
    (below : Below root c) : c.hasError = false := by
  induction below with
  | self => exact clean
  | @child e d _ listed ih =>
      obtain ⟨head, children⟩ := e
      rw [hasError, Bool.or_eq_false_iff] at ih
      exact hasError_of_mem listed ih.2

theorem missing_of_below {root c : Concrete} (clean : root.hasError = false)
    (below : Below root c) : c.head.missing = false := by
  apply Bool.eq_false_iff.2
  intro missing
  exact Bool.eq_false_iff.1 (hasError_of_below clean below) (hasError_of_missing missing)

def solids (phrases : List Concrete) : List Concrete := phrases.filter (!·.isComment)

section Solids

variable {c : Concrete} {found : List Concrete}

@[simp] theorem solids_nil : solids [] = [] := rfl

@[simp] theorem solids_append (front back : List Concrete) :
    solids (front ++ back) = solids front ++ solids back :=
  List.filter_append front back

@[simp] theorem solids_dropWhile (phrases : List Concrete) :
    solids (phrases.dropWhile isComment) = solids phrases := by
  have front : solids (phrases.takeWhile isComment) = [] := by
    refine List.filter_eq_nil_iff.2 fun c member => ?_
    rw [List.all_eq_true.1 List.all_takeWhile c member]
    exact Bool.false_ne_true
  rw [← List.takeWhile_append_dropWhile (p := isComment) (l := phrases), solids_append, front,
    List.nil_append, List.takeWhile_append_dropWhile]

theorem solids_comments {comments : List Concrete} (only : ∀ d ∈ comments, d.isComment = true) :
    solids comments = [] :=
  List.filter_eq_nil_iff.2 fun d member => by simp [only d member]

theorem solids_singleton (code : c.isComment = false) : solids [c] = [c] :=
  List.filter_cons_of_pos (by rw [code, Bool.not_false])

@[simp] theorem mem_solids : c ∈ solids found ↔ c ∈ found ∧ c.isComment = false := by
  rw [solids, List.mem_filter, Bool.not_eq_true']

end Solids

end Concrete

end TreeLint.Java

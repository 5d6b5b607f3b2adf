import TreeLint.Proofs.Productions

namespace TreeLint.Java

open Concrete

namespace Form

variable {P : Type} {grammar : P → Form P} {form : Form P} {found : List Concrete} {role : String}
  {test : Form P → Bool}

mutual
/-- Whether all that the form gives the role to at the top is made by forms that pass.  Phrases of
the grammar are taken to give no roles. -/
def labels (role : String) (test : Form P → Bool) : Form P → Bool
  | terminal _ | phrase _ | node _ _ | barring _ => true
  | seq items => allLabel role test items
  | choice options => allLabel role test options
  | many item => labels role test item
  | field name body => (name != role || test body) && labels role test body
  | chain first _ => labels role test first
  | only _ body => labels role test body

def allLabel (role : String) (test : Form P → Bool) : List (Form P) → Bool
  | [] => true
  | first :: rest => labels role test first && allLabel role test rest
end

theorem labels_of_mem {f : Form P} {forms : List (Form P)} (all : allLabel role test forms)
    (member : f ∈ forms) : f.labels role test := by
  induction forms with
  | nil => cases member
  | cons first rest ih =>
      rw [allLabel, Bool.and_eq_true] at all
      rcases List.mem_cons.1 member with rfl | later
      · exact all.1
      · exact ih all.2 later

theorem Derives.labelled (derives : Derives grammar form found)
    (closed : ∀ p, (grammar p).passes (.without role)) (labels : form.labels role test) :
    ∀ c ∈ found, c.head.field? = some role → ∃ body part, test body ∧
      Derives grammar body part ∧ ∃ d ∈ part, d.isComment = false ∧ d.raw = c.raw := by
  -- Roles are given to what is spelled already, so the induction is on the derivation; phrases and
  -- what wraps others have no role by then.
  have wrapped {raw : String} {body : Form P} {found : List Concrete}
      (derives : Derives grammar body found) :
      ∀ c ∈ wrap raw found, c.head.field? ≠ some role := by
    intro c member
    rcases mem_wrap member with ⟨listed, comment⟩ | ⟨_, span, rfl⟩
    · rw [derives.field?_of_comment c listed comment]
      exact nofun
    · exact nofun
  induction derives with
  | token only _ made =>
      intro c member labelled
      rcases List.mem_append.1 member with comment | here
      · cases (only c comment).2.1.symm.trans labelled
      · rw [Option.mem_toList] at here
        cases here
        obtain ⟨_, _, rfl⟩ := exists_leaf made
        cases labelled
  | joined only =>
      intro c member labelled
      rcases List.mem_append.1 member with comment | here
      · cases (only c comment).2.1.symm.trans labelled
      · cases List.mem_singleton.1 here
        cases labelled
  | @phrase p _ derives =>
      intro c member labelled
      exact absurd labelled (derives.ensured (ensures_without role) closed (closed p) c member)
  | nil | stop | barring => exact nofun
  | cons _ _ ih ih' =>
      rw [Form.labels, allLabel, Bool.and_eq_true] at labels
      rw [List.forall_mem_append]
      exact ⟨ih labels.1, ih' labels.2⟩
  | choice member _ ih => exact ih (labels_of_mem labels member)
  | again _ _ ih ih' =>
      rw [List.forall_mem_append]
      exact ⟨ih labels, ih' labels⟩
  | node derives _ =>
      intro c member labelled
      exact absurd labelled (wrapped derives c member)
  | @field name body inner derives ih =>
      rw [Form.labels, Bool.and_eq_true] at labels
      intro c member labelled
      obtain ⟨d, listed, ⟨_, rfl⟩ | ⟨code, rfl⟩, raw, _⟩ := mem_labelAll member
      · exact ih labels.2 c listed labelled
      · cases own : d.head.field? with
        | none =>
            rw [field?_inField own, Option.some.injEq] at labelled
            have passed : test body = true := by simpa [labelled] using labels.1
            exact ⟨body, inner, passed, derives, d, listed, code, raw.symm⟩
        | some other =>
            have same : (d.inField name).head.field? = some other := by
              obtain ⟨head, children⟩ := d
              have own : head.field? = some other := own
              change (head.field? <|> some name) = some other
              rw [own]
              rfl
            obtain ⟨body, part, passed, derives, e, among, code, kept⟩ :=
              ih labels.2 d listed (own.trans (same.symm.trans labelled))
            exact ⟨body, part, passed, derives, e, among, code, kept.trans raw.symm⟩
  | start _ ih => exact ih labels
  | grown _ derives _ =>
      intro c member labelled
      exact absurd labelled (wrapped derives c member)
  | only _ ih => exact ih labels

end Form

def Sieve.within (raws : List String) : Sieve where
  leaf
    | .keyword text | .symbol text => raws.contains text
    | .keywordAs raw _ | .name raw _ => raws.contains raw
    | .joined parts => raws.contains (String.join parts)
    | .literal => literalNames.all raws.contains
    | .content => contentNames.all raws.contains
    | .hidden => true
  node := raws.contains
  role _ := true

theorem ensures_within (raws : List String) :
    (Sieve.within raws).Ensures fun c => c.isComment = true ∨ c.raw ∈ raws where
  comment _ comment _ := .inl comment
  leaf t x c passed known made := by
    right
    cases sort : x.sort <;> cases t <;> simp [Terminal.leafOf, sort] at made
    case word.keyword | word.keywordAs | word.name | symbol.symbol =>
      obtain ⟨_, rfl⟩ := made
      exact List.contains_iff_mem.1 passed
    case literal.literal own | content.content own =>
      subst made
      rw [sort] at known
      have own := List.all_eq_true.1 passed own (List.contains_iff_mem.1 known)
      exact List.contains_iff_mem.1 own
  joined _ _ passed := .inr (List.contains_iff_mem.1 passed)
  node _ _ _ passed _ := .inr (List.contains_iff_mem.1 passed)
  role name c _ holds := by
    obtain ⟨head, children⟩ := c
    exact holds

/-- Phrases that forms may lead to, where all that these put at the top passes. -/
structure Reach (sieve : Sieve) where
  leads : Phrase → Bool
  closed : ∀ p, leads p → p.form.passes sieve ∧ p.form.leavesTo leads

def Reach.none {sieve : Sieve} : Reach sieve := ⟨fun _ => false, nofun⟩

/-- Phrases of the grammar in which all that their rules put right into them passes. -/
structure Contents (sieve : Sieve) extends Reach sieve where
  hosts : List String
  inner : "program" ∉ hosts
  kept : ∀ rule ∈ rules, rule.1 ∈ hosts → rule.2.passes sieve ∧ rule.2.leavesTo leads

/-- A role that only phrases of some names have in the hosts. -/
structure Role (raws : List String) extends Reach (.within raws) where
  name : String
  hosts : String → Bool
  bare : Grammar.topLevel.passes (.without name) ∧
    Phrase.listed.all (·.form.passes (.without name))
  kept : ∀ rule ∈ rules, hosts rule.1 → rule.2.labels name fun body =>
    body.passes (.within raws) && body.leavesTo leads

section Source

variable {source : String} (clean : (concreteTree source).hasError = false) {c d : Concrete}
  (below : Below (concreteTree source) c) (listed : d ∈ c.children)

include clean below listed

theorem Contents.ensured {sieve : Sieve} {Q : Concrete → Prop} (contents : Contents sieve)
    (ensures : sieve.Ensures Q) (host : c.raw ∈ contents.hosts) : Q d := by
  have inner : c.raw ≠ "program" := ne_of_mem_of_not_mem host contents.inner
  obtain ⟨body, found, rule, derives, children⟩ := exists_rule clean below inner listed
  obtain ⟨passes, leaves⟩ := contents.kept _ rule host
  rw [children] at listed
  exact derives.ensured_among ensures contents.closed passes leaves d
    (List.dropWhile_subset _ listed)

theorem Contents.raw_mem {raws : List String} (contents : Contents (.within raws))
    (host : c.raw ∈ contents.hosts) (code : d.isComment = false) : d.raw ∈ raws :=
  (contents.ensured clean below listed (ensures_within raws) host).resolve_left
    (Bool.eq_false_iff.1 code)

theorem Role.raw_mem {raws : List String} (role : Role raws) (host : role.hosts c.raw)
    (labelled : d.head.field? = some role.name) : d.raw ∈ raws := by
  have without := Phrase.forall_form (·.passes (.without role.name)) role.bare.2
  rcases ruled_of_below clean below with rfl | childless | ⟨body, found, rule, derives, children⟩
  · rcases mem_children_concreteTree clean listed with ⟨_, none, _⟩ | ⟨found, derives, among⟩
    · cases none.symm.trans labelled
    · exact absurd labelled (derives.ensured (ensures_without _) without role.bare.1 d among)
  · rw [childless] at listed
    cases listed
  · rw [children] at listed
    obtain ⟨body, part, passed, derives, e, among, plain, same⟩ :=
      derives.labelled without (role.kept _ rule host) d (List.dropWhile_subset _ listed) labelled
    rw [Bool.and_eq_true] at passed
    have known := derives.ensured_among (ensures_within raws) role.closed passed.1 passed.2 e among
    exact same ▸ known.resolve_left (Bool.eq_false_iff.1 plain)

end Source

end TreeLint.Java

import Mathlib.Data.List.TakeWhile
import TreeLint.Proofs.Reading

namespace TreeLint.Java

open Concrete

/-- A test of the phrases that a form makes: of leaves by their terminals, of other phrases by their
names, and of roles. -/
structure Sieve where
  leaf : Terminal → Bool
  node : String → Bool
  role : String → Bool

namespace Form

variable {P : Type}

mutual
/-- Whether all that the form makes at the top passes.  Phrases of the grammar are left to their own
forms. -/
def passes (sieve : Sieve) : Form P → Bool
  | terminal t => sieve.leaf t
  | phrase _ | barring _ => true
  | seq items => allPass sieve items
  | choice options => allPass sieve options
  | many item => passes sieve item
  | node raw _ => sieve.node raw
  | field name body => sieve.role name && passes sieve body
  | chain first growths => passes sieve first && growths.all (sieve.node ·.raw)
  | only _ body => passes sieve body

def allPass (sieve : Sieve) : List (Form P) → Bool
  | [] => true
  | first :: rest => passes sieve first && allPass sieve rest
end

theorem passes_of_mem {sieve : Sieve} {f : Form P} {forms : List (Form P)}
    (all : allPass sieve forms) (member : f ∈ forms) : f.passes sieve := by
  induction forms with
  | nil => cases member
  | cons first rest ih =>
      rw [allPass, Bool.and_eq_true] at all
      rcases List.mem_cons.1 member with rfl | later
      · exact all.1
      · exact ih all.2 later

end Form

namespace Sieve

structure Ensures (sieve : Sieve) (Q : Concrete → Prop) : Prop where
  comment : ∀ c : Concrete, c.isComment = true → c.head.field? = none → Q c
  leaf : ∀ (t : Terminal) (x : Lexeme) (c : Concrete), sieve.leaf t → x.sort.isKnown →
    t.leafOf x = some (some c) → Q c
  joined : ∀ (parts : List String) (span : Span), sieve.leaf (.joined parts) →
    Q (.node ⟨.join parts, false, false, none, .join parts, span⟩ [])
  node : ∀ (raw : String) (span : Span) (children : List Concrete), sieve.node raw →
    children ≠ [] → Q (.node ⟨raw, true, false, none, "", span⟩ children)
  role : ∀ (name : String) (c : Concrete), sieve.role name → Q c → Q (c.inField name)

end Sieve

namespace Form

variable {P : Type} {grammar : P → Form P} {form : Form P} {found : List Concrete}

theorem Derives.field?_of_comment (derives : Derives grammar form found) :
    ∀ c ∈ found, c.isComment = true → c.head.field? = none := by
  have around {raw : String} {found : List Concrete}
      (inner : ∀ c ∈ found, c.isComment = true → c.head.field? = none) :
      ∀ c ∈ wrap raw found, c.isComment = true → c.head.field? = none := by
    intro c member comment
    rcases mem_wrap member with ⟨listed, _⟩ | ⟨_, span, rfl⟩
    · exact inner c listed comment
    · rfl
  induction derives with
  | token only _ made =>
      intro c member _
      rcases List.mem_append.1 member with comment | here
      · exact (only c comment).2.1
      · rw [Option.mem_toList] at here
        cases here
        obtain ⟨_, _, rfl⟩ := exists_leaf made
        rfl
  | joined only =>
      intro c member _
      rcases List.mem_append.1 member with comment | here
      · exact (only c comment).2.1
      · cases List.mem_singleton.1 here
        rfl
  | phrase _ ih => exact ih
  | nil => exact nofun
  | cons _ _ ih ih' =>
      rw [List.forall_mem_append]
      exact ⟨ih, ih'⟩
  | choice _ _ ih => exact ih
  | stop => exact nofun
  | again _ _ ih ih' =>
      rw [List.forall_mem_append]
      exact ⟨ih, ih'⟩
  | node _ ih => exact around ih
  | field _ ih =>
      intro c member comment
      obtain ⟨d, listed, ⟨_, rfl⟩ | ⟨other, _⟩, raw, _⟩ := mem_labelAll member
      · exact ih c listed comment
      · rw [isComment, raw] at comment
        exact absurd comment (Bool.eq_false_iff.1 other)
  | start _ ih => exact ih
  | grown _ _ ih => exact around ih
  | only _ ih => exact ih
  | barring => exact nofun

mutual
/-- Whether the form leaves what it makes at the top to no phrases of the grammar but these. -/
def leavesTo (these : P → Bool) : Form P → Bool
  | phrase p => these p
  | terminal _ | node _ _ | barring _ => true
  | seq items => allLeaveTo these items
  | choice options => allLeaveTo these options
  | many item => leavesTo these item
  | field _ body => leavesTo these body
  | chain first _ => leavesTo these first
  | only _ body => leavesTo these body

def allLeaveTo (these : P → Bool) : List (Form P) → Bool
  | [] => true
  | first :: rest => leavesTo these first && allLeaveTo these rest
end

theorem leavesTo_of_mem {these : P → Bool} {f : Form P} {forms : List (Form P)}
    (all : allLeaveTo these forms) (member : f ∈ forms) : f.leavesTo these := by
  induction forms with
  | nil => cases member
  | cons first rest ih =>
      rw [allLeaveTo, Bool.and_eq_true] at all
      rcases List.mem_cons.1 member with rfl | later
      · exact all.1
      · exact ih all.2 later

mutual
theorem leavesTo_any : (form : Form P) → form.leavesTo fun _ => true
  | terminal _ | phrase _ | node _ _ | barring _ => rfl
  | seq items => allLeaveTo_any items
  | choice options => allLeaveTo_any options
  | many item => leavesTo_any item
  | field _ body => leavesTo_any body
  | chain first _ => leavesTo_any first
  | only _ body => leavesTo_any body

theorem allLeaveTo_any : (forms : List (Form P)) → allLeaveTo (fun _ => true) forms
  | [] => rfl
  | first :: rest => by rw [allLeaveTo, leavesTo_any first, allLeaveTo_any rest]; rfl
end

/-- What a form spells has the property that its sieve ensures, if the phrases that it leaves
things to pass as well. -/
theorem Derives.ensured_among {sieve : Sieve} {Q : Concrete → Prop} {these : P → Bool}
    (ensures : sieve.Ensures Q)
    (closed : ∀ p, these p → (grammar p).passes sieve ∧ (grammar p).leavesTo these)
    (derives : Derives grammar form found) (passes : form.passes sieve)
    (leaves : form.leavesTo these) : ∀ c ∈ found, Q c := by
  have around {raw : String} {body : Form P} {found : List Concrete} (passed : sieve.node raw)
      (derives : Derives grammar body found) : ∀ c ∈ wrap raw found, Q c := by
    intro c member
    rcases mem_wrap member with ⟨listed, comment⟩ | ⟨filled, span, rfl⟩
    · exact ensures.comment c comment (derives.field?_of_comment c listed comment)
    · exact ensures.node raw span _ passed filled
  induction derives with
  | token only known made =>
      rw [List.forall_mem_append]
      refine ⟨fun c comment => ensures.comment c (only c comment).1 (only c comment).2.1, ?_⟩
      intro c member
      rw [Option.mem_toList] at member
      cases member
      exact ensures.leaf _ _ c passes known made
  | joined only =>
      rw [List.forall_mem_append]
      refine ⟨fun c comment => ensures.comment c (only c comment).1 (only c comment).2.1, ?_⟩
      rw [List.forall_mem_singleton]
      exact ensures.joined _ _ passes
  | @phrase p _ _ ih =>
      obtain ⟨inner, among⟩ := closed p leaves
      exact ih inner among
  | nil => exact nofun
  | cons _ _ ih ih' =>
      rw [Form.passes, allPass, Bool.and_eq_true] at passes
      rw [leavesTo, allLeaveTo, Bool.and_eq_true] at leaves
      rw [List.forall_mem_append]
      exact ⟨ih passes.1 leaves.1, ih' passes.2 leaves.2⟩
  | choice member _ ih => exact ih (passes_of_mem passes member) (leavesTo_of_mem leaves member)
  | stop => exact nofun
  | again _ _ ih ih' =>
      rw [List.forall_mem_append]
      exact ⟨ih passes leaves, ih' passes leaves⟩
  | node derives _ => exact around passes derives
  | field _ ih =>
      rw [Form.passes, Bool.and_eq_true] at passes
      intro c member
      obtain ⟨d, listed, ⟨_, rfl⟩ | ⟨_, rfl⟩, _⟩ := mem_labelAll member
      · exact ih passes.2 leaves c listed
      · exact ensures.role _ d passes.1 (ih passes.2 leaves d listed)
  | start _ ih =>
      rw [Form.passes, Bool.and_eq_true] at passes
      exact ih passes.1 leaves
  | grown member derives _ =>
      rw [Form.passes, Bool.and_eq_true] at passes
      exact around (List.all_eq_true.1 passes.2 _ member) derives
  | only _ ih => exact ih passes leaves
  | barring => exact nofun

theorem Derives.ensured {sieve : Sieve} {Q : Concrete → Prop} (ensures : sieve.Ensures Q)
    (closed : ∀ p, (grammar p).passes sieve) (derives : Derives grammar form found)
    (passes : form.passes sieve) : ∀ c ∈ found, Q c :=
  derives.ensured_among ensures (fun p _ => ⟨closed p, leavesTo_any _⟩) passes (leavesTo_any form)

theorem Derives.parts {items : List (Form P)} (derives : Derives grammar (.seq items) found) :
    (∀ c ∈ found, ∃ f ∈ items, ∃ part, Derives grammar f part ∧ c ∈ part) ∧
      ∀ f ∈ items, ∃ part, Derives grammar f part ∧ part ⊆ found := by
  induction items generalizing found with
  | nil =>
      cases derives
      exact ⟨nofun, nofun⟩
  | cons first others ih =>
      cases derives with
      | @cons _ _ front back one more =>
          obtain ⟨among, every⟩ := ih more
          constructor
          · intro c member
            rcases List.mem_append.1 member with here | later
            · exact ⟨first, List.mem_cons_self .., front, one, here⟩
            · obtain ⟨f, listed, part, derives, here⟩ := among c later
              exact ⟨f, List.mem_cons_of_mem _ listed, part, derives, here⟩
          · intro f member
            rcases List.mem_cons.1 member with rfl | later
            · exact ⟨front, one, List.subset_append_left _ _⟩
            · obtain ⟨part, derives, fewer⟩ := every f later
              exact ⟨part, derives, List.Subset.trans fewer (List.subset_append_right _ _)⟩

theorem Derives.of_optional (derives : Derives grammar (.optional form) found) :
    found = [] ∨ Derives grammar form found := by
  cases derives with
  | choice member inner =>
      simp only [List.mem_cons, List.not_mem_nil, or_false] at member
      rcases member with rfl | rfl
      · exact .inr inner
      · cases inner
        exact .inl rfl

theorem Derives.of_many (derives : Derives grammar (.many form) found) :
    ∀ c ∈ found, ∃ part, Derives grammar form part ∧ c ∈ part := by
  generalize many : Form.many form = whole at derives
  induction derives with
  | stop => exact nofun
  | again first _ _ ih =>
      cases many
      intro c member
      rcases List.mem_append.1 member with here | later
      · exact ⟨_, first, here⟩
      · exact ih rfl c later
  | _ => cases many

def Sole (Q : Concrete → Prop) (found : List Concrete) : Prop :=
  ∃ comments c, found = comments ++ [c] ∧ (∀ d ∈ comments, d.isComment = true) ∧
    c.isComment = false ∧ Q c

def Names (grammar : P → Form P) (form : Form P) (Q : Concrete → Prop) : Prop :=
  ∀ found, Derives grammar form found → Sole Q found

/-- The form does not spell comments alone. -/
def Solid (grammar : P → Form P) (form : Form P) : Prop :=
  ∀ found, Derives grammar form found → ∃ c ∈ found, c.isComment = false

variable {Q : Concrete → Prop}

theorem Sole.mono {Q' : Concrete → Prop} (sole : Sole Q found) (weaker : ∀ c, Q c → Q' c) :
    Sole Q' found := by
  obtain ⟨comments, c, same, only, code, holds⟩ := sole
  exact ⟨comments, c, same, only, code, weaker c holds⟩

theorem Sole.of_mem {c : Concrete} (sole : Sole Q found) (member : c ∈ found) :
    c.isComment = true ∨ Q c := by
  obtain ⟨comments, d, rfl, only, _, holds⟩ := sole
  rcases List.mem_append.1 member with comment | here
  · exact .inl (only c comment)
  · exact .inr (List.mem_singleton.1 here ▸ holds)

theorem Sole.exists_mem (sole : Sole Q found) : ∃ c ∈ found, c.isComment = false ∧ Q c := by
  obtain ⟨comments, c, rfl, _, code, holds⟩ := sole
  exact ⟨c, List.mem_append_right _ (List.mem_singleton_self c), code, holds⟩

theorem Names.solid (names : Names grammar form Q) : Solid grammar form := by
  intro found derives
  obtain ⟨c, listed, code, _⟩ := (names found derives).exists_mem
  exact ⟨c, listed, code⟩

theorem Solid.seq {items : List (Form P)} (member : form ∈ items) (solid : Solid grammar form) :
    Solid grammar (.seq items) := by
  intro found derives
  obtain ⟨part, inner, fewer⟩ := derives.parts.2 form member
  obtain ⟨c, listed, code⟩ := solid part inner
  exact ⟨c, fewer listed, code⟩

theorem Sole.solids (sole : Sole Q found) : ∃ c, solids found = [c] ∧ Q c := by
  obtain ⟨comments, c, rfl, only, code, holds⟩ := sole
  refine ⟨c, ?_, holds⟩
  rw [solids_append, solids_comments only, solids_singleton code, List.nil_append]

theorem Derives.of_cons {others : List (Form P)}
    (derives : Derives grammar (.seq (form :: others)) found) :
    ∃ front later, found = front ++ later ∧ Derives grammar form front ∧
      Derives grammar (.seq others) later := by
  cases derives with
  | cons first rest => exact ⟨_, _, rfl, first, rest⟩

theorem Derives.first {others : List (Form P)}
    (derives : Derives grammar (.seq (form :: others)) found) (names : Names grammar form Q) :
    ∃ c later, Concrete.solids found = c :: Concrete.solids later ∧ Q c ∧
      Derives grammar (.seq others) later := by
  obtain ⟨front, later, rfl, first, rest⟩ := derives.of_cons
  obtain ⟨c, only, holds⟩ := (names _ first).solids
  exact ⟨c, later, by rw [solids_append, only, List.singleton_append], holds, rest⟩

theorem Derives.sole (derives : Derives grammar (.seq [form]) found) :
    Derives grammar form found := by
  obtain ⟨front, later, rfl, first, rest⟩ := derives.of_cons
  cases rest
  rwa [List.append_nil]

theorem Derives.pair {form' : Form P} {Q' : Concrete → Prop}
    (derives : Derives grammar (.seq [form, form']) found) (names : Names grammar form Q)
    (names' : Names grammar form' Q') :
    ∃ c d, Concrete.solids found = [c, d] ∧ Q c ∧ Q' d := by
  obtain ⟨c, later, same, holds, derives⟩ := derives.first names
  obtain ⟨d, only, holds'⟩ := (names' _ derives.sole).solids
  exact ⟨c, d, by rw [same, only], holds, holds'⟩

theorem wrap_of_code {raw : String} {c : Concrete} (listed : c ∈ found)
    (code : c.isComment = false) :
    ∃ comments span, wrap raw found =
        comments ++ [.node ⟨raw, true, false, none, "", span⟩ (found.dropWhile isComment)] ∧
      (∀ d ∈ comments, d.isComment = true) ∧ found.dropWhile isComment ≠ [] := by
  have front : ∀ d ∈ found.takeWhile isComment, d.isComment = true :=
    List.all_eq_true.1 List.all_takeWhile
  rw [wrap]
  split
  next none =>
    have all := List.dropWhile_eq_nil_iff.1 none c listed
    rw [code] at all
    cases all
  next first rest split =>
    rw [split]
    exact ⟨_, _, rfl, front, List.cons_ne_nil _ _⟩

theorem Names.phrase {p : P} (names : Names grammar (grammar p) Q) :
    Names grammar (.phrase p) Q := by
  intro found derives
  cases derives with
  | phrase inner => exact names found inner

theorem Names.choice {options : List (Form P)} (names : ∀ f ∈ options, Names grammar f Q) :
    Names grammar (.choice options) Q := by
  intro found derives
  cases derives with
  | choice member inner => exact names _ member found inner

theorem Names.only {raws : List String} (names : Names grammar form Q) :
    Names grammar (.only raws form) Q := by
  intro found derives
  cases derives with
  | only inner => exact names found inner

theorem Names.field {name : String} {Q' : Concrete → Prop} (names : Names grammar form Q)
    (labelled : ∀ c, Q c → Q' (c.inField name)) : Names grammar (.field name form) Q' := by
  intro found derives
  cases derives with
  | @field _ _ inner derives =>
      obtain ⟨comments, c, rfl, only, code, holds⟩ := names inner derives
      refine ⟨comments, c.inField name, ?_, only, ?_, labelled c holds⟩
      · rw [labelAll, List.map_append, List.map_singleton, code,
          List.map_congr_left fun d member => if_pos (only d member), List.map_id']
        rfl
      · obtain ⟨head, children⟩ := c
        exact code

section Tokens

variable {x : Lexeme} {leaf? : Option Concrete} {raw text : String}

@[simp] theorem isComment_leaf (code : raw ∉ commentNames) (named : Bool) :
    (x.leaf raw named).isComment = false :=
  Bool.eq_false_iff.2 fun comment => code (isComment_iff.1 comment)

theorem leafOf_keyword (made : (Terminal.keyword text).leafOf x = some leaf?) :
    x.text = text ∧ leaf? = some (x.leaf text false) := by
  cases sort : x.sort <;> simp [Terminal.leafOf, sort] at made
  exact ⟨made.1, made.2.symm⟩

theorem leafOf_symbol (made : (Terminal.symbol text).leafOf x = some leaf?) :
    x.text = text ∧ leaf? = some (x.leaf text false) := by
  cases sort : x.sort <;> simp [Terminal.leafOf, sort] at made
  exact ⟨made.1, made.2.symm⟩

theorem leafOf_keywordAs (made : (Terminal.keywordAs raw text).leafOf x = some leaf?) :
    leaf? = some (x.leaf raw true) := by
  cases sort : x.sort <;> simp [Terminal.leafOf, sort] at made
  exact made.2.symm

theorem leafOf_name {reserved : List String}
    (made : (Terminal.name raw reserved).leafOf x = some leaf?) :
    leaf? = some (x.leaf raw true) := by
  cases sort : x.sort <;> simp [Terminal.leafOf, sort] at made
  exact made.2.symm

theorem Names.keyword (code : text ∉ commentNames)
    (holds : ∀ x : Lexeme, x.text = text → Q (x.leaf text false)) :
    Names grammar (.terminal (.keyword text)) Q := by
  intro found derives
  cases derives with
  | token only _ made =>
      obtain ⟨spelled, rfl⟩ := leafOf_keyword made
      exact ⟨_, _, rfl, fun d member => (only d member).1, isComment_leaf code false,
        holds _ spelled⟩

theorem Names.symbol (code : text ∉ commentNames)
    (holds : ∀ x : Lexeme, x.text = text → Q (x.leaf text false)) :
    Names grammar (.terminal (.symbol text)) Q := by
  intro found derives
  cases derives with
  | token only _ made =>
      obtain ⟨spelled, rfl⟩ := leafOf_symbol made
      exact ⟨_, _, rfl, fun d member => (only d member).1, isComment_leaf code false,
        holds _ spelled⟩

theorem Names.keywordAs (code : raw ∉ commentNames) (holds : ∀ x : Lexeme, Q (x.leaf raw true)) :
    Names grammar (.terminal (.keywordAs raw text)) Q := by
  intro found derives
  cases derives with
  | token only _ made =>
      cases leafOf_keywordAs made
      exact ⟨_, _, rfl, fun d member => (only d member).1, isComment_leaf code true, holds _⟩

theorem Names.name {reserved : List String} (code : raw ∉ commentNames)
    (holds : ∀ x : Lexeme, Q (x.leaf raw true)) :
    Names grammar (.terminal (.name raw reserved)) Q := by
  intro found derives
  cases derives with
  | token only _ made =>
      cases leafOf_name made
      exact ⟨_, _, rfl, fun d member => (only d member).1, isComment_leaf code true, holds _⟩

end Tokens

theorem sole_wrap {raw : String} {c : Concrete} (fresh : raw ∉ commentNames) (listed : c ∈ found)
    (code : c.isComment = false)
    (holds : ∀ span, found.dropWhile isComment ≠ [] →
      Q (.node ⟨raw, true, false, none, "", span⟩ (found.dropWhile isComment))) :
    Sole Q (wrap raw found) := by
  obtain ⟨comments, span, same, only, some⟩ := wrap_of_code listed code
  refine ⟨comments, _, same, only, ?_, holds span some⟩
  exact Bool.eq_false_iff.2 fun comment => fresh (isComment_iff.1 comment)

theorem Names.around {raw : String} (fresh : raw ∉ commentNames) (solid : Solid grammar form)
    (holds : ∀ found span, Derives grammar form found →
      Q (.node ⟨raw, true, false, none, "", span⟩ (found.dropWhile isComment))) :
    Names grammar (.node raw form) Q := by
  intro found derives
  cases derives with
  | node inner =>
      obtain ⟨c, listed, code⟩ := solid _ inner
      exact sole_wrap fresh listed code fun span _ => holds _ span inner

def HoldsOf (Q : Concrete → Prop) (raw : String) : Prop :=
  raw ∉ commentNames ∧ ∀ span children, children ≠ [] →
    Q (.node ⟨raw, true, false, none, "", span⟩ children)

theorem Names.node {raw : String} (holds : HoldsOf Q raw) (solid : Solid grammar form) :
    Names grammar (.node raw form) Q := by
  intro found derives
  cases derives with
  | node inner =>
      obtain ⟨c, listed, code⟩ := solid _ inner
      exact sole_wrap holds.1 listed code fun span some => holds.2 span _ some

inductive Leads (whole : Form P) : Form P → Prop
  | self : Leads whole whole
  | field {f : Form P} {name : String} (leads : Leads whole f) : Leads whole (.field name f)
  | seq {f : Form P} {others : List (Form P)} (leads : Leads whole f) :
      Leads whole (.seq (f :: others))

theorem leads_body (whole : Form P) (g : Growth (Form P)) : Leads whole (g.body whole) := by
  rw [Growth.body]
  split
  · exact .seq (.field .self)
  · exact .seq .self

/-- A chain does not grow from nothing. -/
theorem solid_of_leads {first : Form P} {growths : List (Growth (Form P))}
    (solid : Solid grammar first) (code : ∀ g ∈ growths, g.raw ∉ commentNames)
    (derives : Derives grammar form found) (leads : Leads (.chain first growths) form) :
    ∃ c ∈ found, c.isComment = false := by
  -- What a chain grows to has the whole chain in it, so the induction is on the derivation, down
  -- the heads of what it spells to where the chain starts.
  induction derives with
  | token | joined | phrase | nil | choice | stop | again | node | only | barring => cases leads
  | cons _ _ ih _ =>
      cases leads with
      | seq leads =>
          obtain ⟨c, listed, code⟩ := ih leads
          exact ⟨c, List.mem_append_left _ listed, code⟩
  | @field name _ inner _ ih =>
      cases leads with
      | field leads =>
          obtain ⟨c, listed, code⟩ := ih leads
          refine ⟨c.inField name, List.mem_map.2 ⟨c, listed, ?_⟩, ?_⟩
          · rw [code]; rfl
          · obtain ⟨head, children⟩ := c
            exact code
  | start derives _ =>
      cases leads with
      | self => exact solid _ derives
  | grown member _ ih =>
      cases leads with
      | self =>
          obtain ⟨c, listed, plain⟩ := ih (leads_body _ _)
          obtain ⟨comments, d, same, _, other, _⟩ :=
            sole_wrap (Q := fun _ => True) (code _ member) listed plain fun _ _ => trivial
          exact ⟨d, same ▸ List.mem_append_right _ (List.mem_singleton_self d), other⟩

theorem Names.chain {growths : List (Growth (Form P))} (names : Names grammar form Q)
    (holds : ∀ g ∈ growths, HoldsOf Q g.raw) : Names grammar (.chain form growths) Q := by
  intro found derives
  cases derives with
  | start inner => exact names found inner
  | grown member inner =>
      obtain ⟨c, listed, code⟩ :=
        solid_of_leads names.solid (fun g member => (holds g member).1) inner (leads_body _ _)
      exact sole_wrap (holds _ member).1 listed code fun span some => (holds _ member).2 span _ some

end Form

end TreeLint.Java

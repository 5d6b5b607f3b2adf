import TreeLint.Proofs.Lowered
import TreeLint.Proofs.Shapes
import TreeLint.Proofs.Strays

namespace TreeLint.Java

open TreeLint.Tree Lowering

namespace Concrete

structure Site where
  semicolon : Head
  /-- The phrase that the semicolon is a child of. -/
  host : Concrete
  /-- Whether it is the first child. -/
  first : Bool
  /-- The nearest phrase around it that has a node: the host, unless that one is spliced. -/
  body : Concrete

mutual
def sites (host body : Concrete) (first : Bool) : Concrete → List Site
  | .node head children =>
      if head.raw == ";" then [⟨head, host, first, body⟩]
      else if head.raw == splicedRaw then sitesAll (.node head children) body true children
      else sitesAll (.node head children) (.node head children) true children

def sitesAll (host body : Concrete) (first : Bool) : List Concrete → List Site
  | [] => []
  | c :: rest => sites host body first c ++ sitesAll host body false rest
end

def semicolons (root : Concrete) : List Site := sitesAll root root true root.children

namespace Site

def isStatement (s : Site) : Bool :=
  ["program", "block", "constructor_body", "switch_block_statement_group",
    "labeled_statement"].contains s.host.raw ||
  s.semicolon.field?.any ["body", "consequence", "alternative"].contains

/-- The semicolon stands among the members of a type.  The first one behind the constants of an
enumeration ends them. -/
def isMember (s : Site) : Bool :=
  ["class_body", "interface_body", "annotation_type_body"].contains s.host.raw ||
  s.host.raw == "enum_body_declarations" && !s.first

/-- The children of the node that the semicolon comes into, braces apart.  It is one of them
itself. -/
def memberCount (s : Site) : Nat :=
  Nested.memberCount (loweredAll s.body.raw true s.body.children)

def isStray (s : Site) : Bool := s.isStatement || s.isMember && 1 < s.memberCount

def line (s : Site) : Nat := s.semicolon.span.startLine

end Site

/-- Outside of literals nothing but semicolons reads like one. -/
def SpellsSemicolons (root : Concrete) : Prop :=
  ∀ host, Below root host → host.raw.endsWith "_literal" = false →
    ∀ c ∈ host.children, c.children = [] → c.head.text = ";" → c.raw = ";"

theorem Grammatical.semicolon_of_clean {root c : Concrete} (grammatical : root.Grammatical)
    (clean : root.hasError = false) (below : Below root c) (semicolon : c.raw = ";") :
    c.children = [] ∧ c.head.named = false ∧ c.head.text = ";" := by
  obtain ⟨childless, unnamed, text⟩ := grammatical.semicolon c below semicolon
  exact ⟨childless, unnamed, text (missing_of_below clean below)⟩

section Sites

variable {host body : Concrete} {first : Bool} {c : Concrete}

theorem sites_semicolon (semicolon : c.raw = ";") :
    sites host body first c = [⟨c.head, host, first, body⟩] := by
  obtain ⟨head, children⟩ := c
  have semicolon : head.raw = ";" := semicolon
  rw [sites, if_pos (beq_iff_eq.2 semicolon)]
  rfl

theorem sites_spliced (spliced : c.raw = splicedRaw) :
    sites host body first c = sitesAll c body true c.children := by
  obtain ⟨head, children⟩ := c
  have spliced : head.raw = splicedRaw := spliced
  have other : ¬(head.raw == ";") = true := by
    rw [spliced]
    decide
  rw [sites, if_neg other, if_pos (beq_iff_eq.2 spliced)]
  rfl

theorem sites_phrase (other : c.raw ≠ ";") (whole : c.raw ≠ splicedRaw) :
    sites host body first c = sitesAll c c true c.children := by
  obtain ⟨head, children⟩ := c
  have other : head.raw ≠ ";" := other
  have whole : head.raw ≠ splicedRaw := whole
  rw [sites, if_neg (mt beq_iff_eq.1 other), if_neg (mt beq_iff_eq.1 whole)]
  rfl

end Sites

mutual
theorem exists_of_mem_sites {root host body : Concrete} {first : Bool} {s : Site} :
    (c : Concrete) → Below root c → s ∈ sites host body first c →
    ∃ d, Below root d ∧ d.raw = ";" ∧ d.head = s.semicolon
  | .node head children, below, member => by
      rw [sites] at member
      split at member
      next semicolon =>
        cases List.mem_singleton.1 member
        exact ⟨_, below, beq_iff_eq.1 semicolon, rfl⟩
      next =>
        have inner : ∀ d ∈ children, Below root d := fun d listed => .child below listed
        split at member <;> exact exists_of_mem_sitesAll children inner member

theorem exists_of_mem_sitesAll {root host body : Concrete} {first : Bool} {s : Site} :
    (phrases : List Concrete) → (∀ c ∈ phrases, Below root c) →
    s ∈ sitesAll host body first phrases →
    ∃ d, Below root d ∧ d.raw = ";" ∧ d.head = s.semicolon
  | [], _, member => by cases member
  | c :: rest, below, member => by
      obtain ⟨here, later⟩ := List.forall_mem_cons.1 below
      rw [sitesAll] at member
      rcases List.mem_append.1 member with own | other
      · exact exists_of_mem_sites c here own
      · exact exists_of_mem_sitesAll rest later other
end

end Concrete

end TreeLint.Java

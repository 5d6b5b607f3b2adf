import TreeLint.Proofs.Agreement
import TreeLint.Proofs.TwinTables
import TreeLint.Proofs.Verbatim

namespace TreeLint.Java

open TreeLint.Tree Concrete Resolution

variable {t t' : Tree} {n : t.Node} {n' : t'.Node} {free : (u : Tree) → u.Node → Bool}

def isTypeArguments (n : t.Node) : Bool :=
  n.rawKind == "type_arguments" && n.parent?.any (·.rawKind == "generic_type")

/-- Whether no type is declared in the node, and it is in no annotation between the brackets of an
array's type. -/
def isIdle (u : Tree) (n : u.Node) : Bool :=
  n.descendants.all (!declares ·) && n.ancestors.all (!isBrackets ·)

/-- The nodes and those below them agree but for arguments of types, all of which are free to
differ. -/
inductive Replaced (free : (u : Tree) → u.Node → Bool) : t.Node → t'.Node → Prop
  | arguments {n : t.Node} {n' : t'.Node} (old : isTypeArguments n) (new : isTypeArguments n')
      (freed : free t n) (freed' : free t' n') : Replaced free n n'
  | inner {n : t.Node} {n' : t'.Node} (kind : n.kind = n'.kind) (rawKind : n.rawKind = n'.rawKind)
      (field? : n.field? = n'.field?) (text? : n.token?.map (·.text) = n'.token?.map (·.text))
      (length : n.children.length = n'.children.length)
      (below : ∀ (i : Nat) (c : t.Node) (c' : t'.Node), n.children[i]? = some c →
        n'.children[i]? = some c' → Replaced free c c') : Replaced free n n'

namespace Replaced

theorem words (replaced : Replaced free n n')
    (fixed : ∀ m ∈ n.descendants, isTypeArguments m → free t m = false) :
    n.tokens.map (·.text) = n'.tokens.map (·.text) := by
  induction replaced with
  | @arguments n _ old _ freed =>
      have none := fixed n (by rw [n.descendants_eq]; exact .head _) old
      cases none.symm.trans freed
  | @inner n n' _ _ _ text? length _ ih =>
      have below : List.Forall₂ (fun c c' : _ => c.tokens.map (·.text) = c'.tokens.map (·.text))
          n.children n'.children := by
        refine List.forall₂_iff_get.2 ⟨length, fun i inside inside' => ?_⟩
        refine ih i _ _ (List.getElem?_eq_getElem inside) (List.getElem?_eq_getElem inside') ?_
        intro m member
        refine fixed m ?_
        rw [n.descendants_eq]
        exact .tail _ (List.mem_flatMap.2 ⟨_, List.get_mem _ ⟨i, inside⟩, member⟩)
      rw [n.tokens_eq, n'.tokens_eq, List.map_append, List.map_append, List.map_flatMap,
        List.map_flatMap, flatMap_eq_of_forall₂ below fun _ _ same => same]
      congr 1
      rw [← Option.toList_map, ← Option.toList_map, text?]

theorem text (replaced : Replaced free n n')
    (fixed : ∀ m ∈ n.descendants, isTypeArguments m → free t m = false) : n.text = n'.text :=
  congrArg String.join (replaced.words fixed)

end Replaced

section Parsed

variable {root root' : Concrete} (shape : NameShape root) (shape' : NameShape root')
  (numbered : WellNumbered t) (numbered' : WellNumbered t') (top : Renders t.root root)
  (top' : Renders t'.root root')

include shape numbered top

theorem isArguments_of_idle (isArguments : isTypeArguments n) (idle : isIdle t n) :
    IsArguments n := by
  rw [isTypeArguments, Bool.and_eq_true, beq_iff_eq, Option.any_eq_true] at isArguments
  obtain ⟨rawKind, p, parent, generic⟩ := isArguments
  have generic : p.rawKind = "generic_type" := beq_iff_eq.1 generic
  obtain ⟨inner, c, below, renders⟩ :=
    exists_renders_of_composed numbered top (n := p) (by rw [generic]; decide)
  have raw := renders.rawKind.symm.trans generic
  obtain ⟨base, arguments, children, baseRaw, _, _, kind, field?⟩ :=
    children_of_generic shape.toTypeShape below renders raw
  have member := numbered.mem_children parent
  rw [children] at member
  have same : n = arguments := by
    simp only [List.mem_cons, List.not_mem_nil, or_false] at member
    refine member.resolve_left ?_
    rintro rfl
    rw [rawKind] at baseRaw
    exact absurd baseRaw (by decide)
  rw [isIdle, Bool.and_eq_true] at idle
  exact {
    rawKind
    kind := same ▸ kind
    field? := same ▸ field?
    place := ⟨p, parent, generic,
      renders.kind_eq (compositeKind_of_ownKind (by rw [raw]; rfl))⟩
    bare := fun m below => by simpa using List.all_eq_true.1 idle.1 m below }

theorem not_idle_of_isVerbatim {m : t.Node} (verbatim : isVerbatim n) (inner : n.isLeaf = false)
    (below : m ∈ n.descendants) (isArguments : isTypeArguments m) : isIdle t m = false := by
  rw [isTypeArguments, Bool.and_eq_true, beq_iff_eq] at isArguments
  cases brackets : isBrackets n with
  | false =>
      exact absurd isArguments.1
        (argumentFree_of_isVerbatim shape numbered top verbatim inner brackets m below)
  | true =>
      have other : n ≠ m := by
        rintro rfl
        rw [isBrackets, Bool.and_eq_true] at brackets
        obtain ⟨p, parent, generic⟩ := (Option.any_eq_true _ _).1 isArguments.2
        obtain ⟨p', parent', array⟩ := (Option.any_eq_true _ _).1 brackets.2
        cases parent.symm.trans parent'
        rw [beq_iff_eq] at generic array
        exact absurd (generic.symm.trans array) (by decide)
      have above := Node.mem_ancestors_of_mem_descendants numbered below other
      refine Bool.eq_false_iff.2 fun idle => ?_
      rw [isIdle, Bool.and_eq_true] at idle
      have none := List.all_eq_true.1 idle.2 n above
      rw [brackets] at none
      cases none

include shape' numbered' top'

theorem Replaced.reargued (replaced : Replaced isIdle n n') : Reargued n n' := by
  induction replaced with
  | arguments old new idle idle' =>
      exact .arguments (isArguments_of_idle shape numbered top old idle)
        (isArguments_of_idle shape' numbered' top' new idle')
  | @inner n n' kind rawKind field? text? length below ih =>
      refine .inner kind rawKind field? text? ?_ length ih
      intro verbatim
      cases leaf : n.isLeaf with
      | true =>
          have leaf' : n'.isLeaf = true := by
            rw [Node.isLeaf, numbered'.token_iff, ← kind, ← numbered.token_iff]
            exact leaf
          rw [Node.text_of_isLeaf numbered leaf, Node.text_of_isLeaf numbered' leaf', text?]
      | false =>
          have replaced : Replaced isIdle n n' := .inner kind rawKind field? text? length below
          exact replaced.text fun m => not_idle_of_isVerbatim shape numbered top verbatim leaf

end Parsed

def looksReplaced (free : (u : Tree) → u.Node → Bool) : Nat → t.Node → t'.Node → Bool
  | 0, _, _ => false
  | k + 1, n, n' =>
      isTypeArguments n && isTypeArguments n' && free t n && free t' n' ||
        n.kind == n'.kind && n.rawKind == n'.rawKind && n.field? == n'.field? &&
          n.token?.map (·.text) == n'.token?.map (·.text) &&
          n.children.length == n'.children.length &&
          (n.children.zip n'.children).all fun c => looksReplaced free k c.1 c.2

theorem replaced_of_looksReplaced {k : Nat} {n : t.Node} {n' : t'.Node}
    (looks : looksReplaced free k n n') : Replaced free n n' := by
  induction k generalizing n n' with
  | zero => cases looks
  | succ k ih =>
      simp only [looksReplaced, Bool.or_eq_true, Bool.and_eq_true, beq_iff_eq,
        List.all_eq_true] at looks
      rcases looks with ⟨⟨⟨old, new⟩, freed⟩, freed'⟩ |
        ⟨⟨⟨⟨⟨kind, rawKind⟩, field?⟩, text?⟩, length⟩, below⟩
      · exact .arguments old new freed freed'
      · refine .inner kind rawKind field? text? length fun i c c' here there => ih ?_
        exact below (c, c') (List.mem_of_getElem? (List.getElem?_zip_eq_some.2 ⟨here, there⟩))

/-- The reader's trees of two sources without errors, which differ in arguments that are free to. -/
structure Reworded (free : (u : Tree) → u.Node → Bool) (source source' : String) (t t' : Tree) :
    Prop where
  clean : (concreteTree source).hasError = false
  clean' : (concreteTree source').hasError = false
  made : reader.parse ⟨0⟩ source = .ok t
  made' : reader.parse ⟨0⟩ source' = .ok t'
  replaced : Replaced free t.root t'.root

theorem exists_reworded {k : Nat} {source source' : String}
    (clean : (concreteTree source).hasError = false)
    (clean' : (concreteTree source').hasError = false)
    (looks : ((reader.parse ⟨0⟩ source).toOption.any fun t =>
      (reader.parse ⟨0⟩ source').toOption.any fun t' => looksReplaced free k t.root t'.root)) :
    ∃ t t', Reworded free source source' t t' := by
  obtain ⟨t, lowered, _⟩ := (sourceShape_concreteTree clean).exists_lower ⟨0⟩
  obtain ⟨t', lowered', _⟩ := (sourceShape_concreteTree clean').exists_lower ⟨0⟩
  have made : reader.parse ⟨0⟩ source = .ok t := Parser.parse_of_lower rfl lowered
  have made' : reader.parse ⟨0⟩ source' = .ok t' := Parser.parse_of_lower rfl lowered'
  rw [made, made'] at looks
  exact ⟨t, t', clean, clean', made, made', replaced_of_looksReplaced looks⟩

def shallow : String := "class A extends B<C>.D<E> { void m(F<G>[] p) {} }"

def deep : String := "class A extends B<C<D>, ?>.D<A[]> { void m(F<G<H>>[] p) {} }"

/-- In the tree, the class of the first name extends that of the second. -/
def Extends (t : Tree) (name parent : String) : Prop :=
  ∃ table id, resolve t = .ok table ∧ table.typeNamed? name = some id ∧
    table.parentName? id = some parent

/-- What the methods of the name take and return in the type of the name. -/
def Records (t : Tree) (name method : String) (signatures : List Signature) : Prop :=
  ∃ table id s, resolve t = .ok table ∧ table.typeNamed? name = some id ∧
    table.type? id = some s ∧
    (table.membersNamed s method).map (fun m => signature m.2) = signatures

def anything (u : Tree) (_ : u.Node) : Bool := true

def declaring : String := "class A extends B<@X(() -> { class C {} }) D> { class K extends C {} }"

def undeclaring : String := "class A extends B<D> { class K extends C {} }"

def bracketed : String := "class A { void m(B @X(new C<D>()) [] p) {} }"

def rebracketed : String := "class A { void m(B @X(new C<E>()) [] p) {} }"

def looksExtended (name parent : String) (t : Tree) : Bool :=
  decide ((fileScope t).types.toList.map (·.qualifiedName)).Nodup &&
    (fileScope t).types.toList.any fun d => d.qualifiedName == name &&
      superclassName? (fileScope t) (declarations t).2 d == some parent

theorem extends_of_looksExtended {source name parent : String}
    (clean : (concreteTree source).hasError = false) (made : reader.parse ⟨0⟩ source = .ok t)
    (looks : (reader.parse ⟨0⟩ source).toOption.any (looksExtended name parent)) :
    Extends t name parent := by
  have shape := sourceShape_concreteTree clean
  obtain ⟨errors, _, top⟩ := shape.of_parse rfl made
  have looks : looksExtended name parent t = true := by rwa [made] at looks
  rw [looksExtended, Bool.and_eq_true, decide_eq_true_eq, List.any_eq_true] at looks
  obtain ⟨nodup, d, member, both⟩ := looks
  rw [Bool.and_eq_true, beq_iff_eq, beq_iff_eq] at both
  exact exists_parentName? (errors.trans clean) (kind_root top shape) nodup ⟨d, member, both⟩

theorem records_of_single {source name method : String} {only : Signature}
    (clean : (concreteTree source).hasError = false) (made : reader.parse ⟨0⟩ source = .ok t)
    (told : (reader.parse ⟨0⟩ source).toOption.map (fun t => (fileScope t).types.toList.map fun d =>
      (d.qualifiedName, signatures d)) = some [(name, [only])])
    (named : ∀ symbol, signature symbol = only → symbol.name = method) :
    Records t name method [only] := by
  have shape := sourceShape_concreteTree clean
  obtain ⟨errors, _, top⟩ := shape.of_parse rfl made
  rw [made] at told
  obtain ⟨d, declared, same⟩ := List.map_eq_singleton_iff.1 (Option.some.inj told)
  obtain ⟨rfl, listed⟩ := Prod.mk.inj same
  obtain ⟨⟨n, symbol⟩, entries, recorded⟩ := List.map_eq_singleton_iff.1 listed
  obtain ⟨table, ran, resolved⟩ := exists_resolved (errors.trans clean) (kind_root top shape)
  have among : d ∈ (fileScope t).types.toList := by
    rw [declared]
    exact .head _
  have distinct := distinct_of_nodup (t := t) (by rw [declared]; exact List.nodup_singleton _)
  obtain ⟨s, linked⟩ := resolved.tied d among
  have own := listed_eq ran among linked.known method
  rw [entries, List.map_singleton, List.filter_singleton, named _ recorded, beq_self_eq_true,
    cond_true] at own
  obtain ⟨m, members, same⟩ := List.map_eq_singleton_iff.1 own
  refine ⟨table, d.id, s, ran, resolved.typeNamed?_of_distinct distinct among, linked.known, ?_⟩
  rw [members, List.map_singleton, same, recorded]

theorem name_of_method {symbol : Symbol} {name : String} {types : List String}
    {result? : Option String} {inherited : Bool}
    (recorded : signature symbol = .method name types result? inherited) : symbol.name = name := by
  cases symbol <;> cases recorded
  rfl

theorem exists_reworded_declaring : ∃ t t', Reworded anything declaring undeclaring t t' :=
  exists_reworded (k := 9) (by decide +kernel) (by decide +kernel) (by decide +kernel)

theorem exists_reworded_bracketed : ∃ t t', Reworded anything bracketed rebracketed t t' :=
  exists_reworded (k := 16) (by decide +kernel) (by decide +kernel) (by decide +kernel)

end TreeLint.Java

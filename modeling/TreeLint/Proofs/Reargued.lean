import TreeLint.Proofs.BuiltTypes

/-! Trees that differ in the arguments of their types, and what is read off both. -/

namespace TreeLint

theorem map_find?_eq_of_forall₂ {α β γ : Type} {R : α → β → Prop} {xs : List α} {ys : List β}
    {p : α → Bool} {q : β → Bool} {f : α → γ} {g : β → γ} (all : List.Forall₂ R xs ys)
    (same : ∀ a b, R a b → p a = q b)
    (agree : ∀ a, xs.find? p = some a → ∀ b, R a b → f a = g b) :
    (xs.find? p).map f = (ys.find? q).map g := by
  have found := find?_forall₂ all same
  generalize xs.find? p = x, ys.find? q = y at found agree
  cases found with
  | none => rfl
  | some related => exact congrArg some (agree _ rfl _ related)

theorem map_filter_eq_of_forall₂ {α β γ : Type} {R : α → β → Prop} {xs : List α} {ys : List β}
    {p : α → Bool} {q : β → Bool} {f : α → γ} {g : β → γ} (all : List.Forall₂ R xs ys)
    (same : ∀ a b, R a b → p a = q b) (agree : ∀ a ∈ xs, ∀ b, R a b → p a = true → f a = g b) :
    (xs.filter p).map f = (ys.filter q).map g := by
  induction all with
  | nil => rfl
  | @cons a b xs ys related _ ih =>
      obtain ⟨here, later⟩ := List.forall_mem_cons.1 agree
      rw [List.filter_cons, List.filter_cons, ← same a b related]
      split
      next passed => rw [List.map_cons, List.map_cons, here b related passed, ih later]
      next => exact ih later

open TreeLint.Tree

variable {t t' : Tree} {n : t.Node} {n' : t'.Node}

namespace Tree.Node

theorem text_of_isLeaf (numbered : WellNumbered t) (leaf : n.isLeaf = true) :
    n.text = (n.token?.map (·.text)).getD "" := by
  rw [text, n.tokens_eq, numbered.leaf n leaf]
  cases n.token? with
  | none => rfl
  | some token => simp

theorem field?_of_childInField? {c : t.Node} {name : String}
    (found : n.childInField? name = some c) : c.field? = some name :=
  beq_iff_eq.1 (List.find?_some (p := fun c : t.Node => c.field? == some name) found)

theorem map_childInField?_eq {γ : Type} {R : t.Node → t'.Node → Prop} {f : t.Node → γ}
    {g : t'.Node → γ} {name : String} (numbered : WellNumbered t)
    (all : List.Forall₂ R n.children n'.children) (roles : ∀ c c', R c c' → c.field? = c'.field?)
    (agree : ∀ c c', c.parent? = some n → c.field? = some name → R c c' → f c = g c') :
    (n.childInField? name).map f = (n'.childInField? name).map g := by
  refine map_find?_eq_of_forall₂ all (fun c c' related => by rw [roles c c' related]) ?_
  intro c found c' related
  have parent := numbered.listed_by_parent c n (List.mem_of_find?_eq_some found)
  exact agree c c' parent (field?_of_childInField? found) related

end Tree.Node

namespace Java

open Resolution Node

/-- Whether the part of a package or import declaration belongs to the name. -/
def isNamePart (c : t.Node) : Bool :=
  !([Kind.keyword, .semicolon].contains c.kind) && !c.rawKind.endsWith "annotation"

/-- Whether the part of a parameter may be its type. -/
def mayLead (c : t.Node) : Bool := !([Kind.modifiers, .operator, .punctuator].contains c.kind)

/-- Whether the name of a type is read off the node, if the node stands in the other one. -/
def standsAsType (n p : t.Node) : Bool :=
  n.field? == some "element" ||
    n.field? == some "type" && ([Kind.method, .constructor, .field, .parameter].contains p.kind ||
      p.children.any isAnonymous) ||
    p.kind == .parameter && p.rawKind != "receiver_parameter" &&
      (p.childInField? "type").isNone && p.children.find? mayLead == some n

def standsForType (n : t.Node) : Bool := namesType n || n.parent?.any (standsAsType n)

def isBrackets (n : t.Node) : Bool :=
  n.field? == some "dimensions" && n.parent?.any (·.rawKind == "array_type")

def isPartOfName (n : t.Node) : Bool :=
  n.parent?.any fun p => n.field? == some "name" ||
    (p.kind == .packageDeclaration || p.kind == .importDeclaration) && isNamePart n

/-- Whether the node is read as it is spelled: names, what is not told by its parts where a type
stands, and the brackets of arrays. -/
def isVerbatim (n : t.Node) : Bool :=
  standsForType n && !composedTypes.contains n.rawKind || isBrackets n || isPartOfName n

structure IsArguments (n : t.Node) : Prop where
  rawKind : n.rawKind = "type_arguments"
  kind : n.kind = .other
  field? : n.field? = none
  place : ∃ p, n.parent? = some p ∧ p.rawKind = "generic_type" ∧ p.kind = .typeRef
  bare : ∀ m ∈ n.descendants, declares m = false

/-- The nodes and those below them agree but for where they stand and for the arguments of
types. -/
inductive Reargued : t.Node → t'.Node → Prop
  | arguments {n : t.Node} {n' : t'.Node} (old : IsArguments n) (new : IsArguments n') :
      Reargued n n'
  | inner {n : t.Node} {n' : t'.Node} (kind : n.kind = n'.kind) (rawKind : n.rawKind = n'.rawKind)
      (field? : n.field? = n'.field?) (text? : n.token?.map (·.text) = n'.token?.map (·.text))
      (spelled : isVerbatim n → n.text = n'.text) (length : n.children.length = n'.children.length)
      (below : ∀ (i : Nat) (c : t.Node) (c' : t'.Node), n.children[i]? = some c →
        n'.children[i]? = some c' → Reargued c c') : Reargued n n'

theorem IsArguments.ne_childInField? {c : t.Node} {name : String} (isArguments : IsArguments n)
    (found : c.childInField? name = some n) : False := by
  cases isArguments.field?.symm.trans (field?_of_childInField? found)

theorem IsArguments.not_declares (isArguments : IsArguments n) : declares n = false :=
  isArguments.bare n (by rw [n.descendants_eq]; exact .head _)

theorem IsArguments.not_standsForType (isArguments : IsArguments n) : standsForType n = false := by
  obtain ⟨p, parent, _, kind⟩ := isArguments.place
  simp [standsForType, standsAsType, namesType, isArguments.kind, isArguments.field?, parent, kind]

theorem IsArguments.not_isVerbatim (isArguments : IsArguments n) : isVerbatim n = false := by
  obtain ⟨p, parent, _, kind⟩ := isArguments.place
  simp [isVerbatim, isBrackets, isPartOfName, isArguments.not_standsForType, isArguments.field?,
    parent, kind]

namespace Reargued

theorem kind (related : Reargued n n') : n.kind = n'.kind := by
  cases related with
  | arguments old new => rw [old.kind, new.kind]
  | inner kind => exact kind

theorem rawKind (related : Reargued n n') : n.rawKind = n'.rawKind := by
  cases related with
  | arguments old new => rw [old.rawKind, new.rawKind]
  | inner _ rawKind => exact rawKind

theorem field? (related : Reargued n n') : n.field? = n'.field? := by
  cases related with
  | arguments old new => rw [old.field?, new.field?]
  | inner _ _ field? => exact field?

theorem text_of_isVerbatim (related : Reargued n n') (verbatim : isVerbatim n) :
    n.text = n'.text := by
  cases related with
  | arguments old =>
      rw [old.not_isVerbatim] at verbatim
      cases verbatim
  | inner _ _ _ _ spelled => exact spelled verbatim

theorem arguments_or_children (related : Reargued n n') :
    IsArguments n ∧ IsArguments n' ∨ List.Forall₂ Reargued n.children n'.children := by
  cases related with
  | arguments old new => exact .inl ⟨old, new⟩
  | inner _ _ _ _ _ length below =>
      refine .inr (List.forall₂_iff_get.2 ⟨length, fun i inside inside' => ?_⟩)
      exact below i _ _ (List.getElem?_eq_getElem inside) (List.getElem?_eq_getElem inside')

theorem children (related : Reargued n n') (other : ¬IsArguments n) :
    List.Forall₂ Reargued n.children n'.children :=
  related.arguments_or_children.resolve_left fun both => other both.1

theorem childInField? (related : Reargued n n') (other : ¬IsArguments n) (name : String) :
    Option.Rel Reargued (n.childInField? name) (n'.childInField? name) :=
  find?_forall₂ (related.children other) fun _ _ child => by rw [child.field?]

theorem childOfKind? (related : Reargued n n') (other : ¬IsArguments n) (kind : Kind) :
    Option.Rel Reargued (n.childOfKind? kind) (n'.childOfKind? kind) :=
  find?_forall₂ (related.children other) fun _ _ child => by rw [child.kind]

theorem namesType (related : Reargued n n') : Java.namesType n = Java.namesType n' := by
  rw [Java.namesType, Java.namesType, related.kind]

theorem isAnonymous (related : Reargued n n') :
    Resolution.isAnonymous n = Resolution.isAnonymous n' := by
  rw [Resolution.isAnonymous, Resolution.isAnonymous, related.rawKind]

section Numbered

variable (numbered : WellNumbered t) (numbered' : WellNumbered t')

include numbered numbered'

theorem text_of_isToken (related : Reargued n n') (token : n.kind.isToken) : n.text = n'.text := by
  have leaf : n.isLeaf = true := (numbered.token_iff n).2 token
  have leaf' : n'.isLeaf = true := (numbered'.token_iff n').2 (related.kind ▸ token)
  rw [Node.text_of_isLeaf numbered leaf, Node.text_of_isLeaf numbered' leaf']
  cases related with
  | arguments old =>
      rw [old.kind] at token
      cases token
  | inner _ _ _ text? => rw [text?]

theorem isLeaf (related : Reargued n n') : n.isLeaf = n'.isLeaf := by
  rw [Bool.eq_iff_iff, Node.isLeaf, Node.isLeaf, numbered.token_iff, numbered'.token_iff,
    related.kind]

section Parts

variable (leaf : n.isLeaf = false) (leaf' : n'.isLeaf = false) (rawKind : n.rawKind = n'.rawKind)
  (children : List.Forall₂ (fun c c' => Reargued c c' ∧
    (standsForType c → Java.typeName c = Java.typeName c')) n.children n'.children)

include leaf leaf' rawKind children

omit numbered numbered' in
theorem typeName_of_generic (generic : n.rawKind = "generic_type") :
    Java.typeName n = Java.typeName n' := by
  rw [Java.typeName_of_generic leaf generic, Java.typeName_of_generic leaf' (rawKind ▸ generic),
    map_find?_eq_of_forall₂ children (fun _ _ child => child.1.namesType)]
  intro c found c' child
  exact child.2 (by simp [standsForType, List.find?_some found])

theorem typeName_of_scoped (dotted : n.rawKind = "scoped_type_identifier") :
    Java.typeName n = Java.typeName n' := by
  have added (c : t.Node) (c' : t'.Node) (child : Reargued c c' ∧
      (standsForType c → Java.typeName c = Java.typeName c')) : addedName c = addedName c' := by
    obtain ⟨child, named⟩ := child
    have spelled := child.text_of_isToken numbered numbered'
    rw [addedName, addedName, ← child.kind]
    cases kind : c.kind
    case identifier | dot => exact spelled (by rw [kind]; rfl)
    case typeRef => exact named (by simp [standsForType, Java.namesType, kind])
    all_goals rfl
  rw [Java.typeName_of_scoped leaf dotted, Java.typeName_of_scoped leaf' (rawKind ▸ dotted),
    map_eq_of_forall₂ children added]

omit numbered' in
theorem typeName_of_array (array : n.rawKind = "array_type") :
    Java.typeName n = Java.typeName n' := by
  have element : (n.childInField? "element").map Java.typeName =
      (n'.childInField? "element").map Java.typeName := by
    refine map_childInField?_eq numbered children (fun _ _ child => child.1.field?) ?_
    intro c c' parent role child
    exact child.2 (by simp [standsForType, standsAsType, parent, role])
  have dimensions : (n.childInField? "dimensions").map (·.text) =
      (n'.childInField? "dimensions").map (·.text) := by
    refine map_childInField?_eq numbered children (fun _ _ child => child.1.field?) ?_
    intro c c' parent role child
    exact child.1.text_of_isVerbatim (by simp [isVerbatim, isBrackets, parent, array, role])
  rw [Java.typeName_of_array leaf array, Java.typeName_of_array leaf' (rawKind ▸ array), element,
    dimensions]

end Parts

theorem typeName (related : Reargued n n') (stands : standsForType n) :
    Java.typeName n = Java.typeName n' := by
  induction related with
  | arguments old =>
      rw [old.not_standsForType] at stands
      cases stands
  | @inner n n' kind rawKind field? text? spelled length below ih =>
      have related : Reargued n n' := .inner kind rawKind field? text? spelled length below
      have leaves := related.isLeaf numbered numbered'
      have children : List.Forall₂ (fun c c' => Reargued c c' ∧
          (standsForType c → Java.typeName c = Java.typeName c')) n.children n'.children := by
        refine List.forall₂_iff_get.2 ⟨length, fun i inside inside' => ?_⟩
        have here := List.getElem?_eq_getElem inside
        have here' := List.getElem?_eq_getElem inside'
        exact ⟨below i _ _ here here', ih i _ _ here here'⟩
      cases leaf : n.isLeaf with
      | true =>
          have token := (numbered.token_iff n).1 leaf
          rw [typeName_of_leaf leaf, typeName_of_leaf (leaves ▸ leaf),
            related.text_of_isToken numbered numbered' token]
      | false =>
          have leaf' : n'.isLeaf = false := leaves ▸ leaf
          by_cases generic : n.rawKind = "generic_type"
          · exact typeName_of_generic leaf leaf' rawKind children generic
          by_cases dotted : n.rawKind = "scoped_type_identifier"
          · exact typeName_of_scoped numbered numbered' leaf leaf' rawKind children dotted
          by_cases array : n.rawKind = "array_type"
          · exact typeName_of_array numbered leaf leaf' rawKind children array
          have verbatim : isVerbatim n := by
            simp [isVerbatim, stands, composedTypes, generic, dotted, array]
          rw [typeName_of_others generic dotted array, typeName_of_others (rawKind ▸ generic)
            (rawKind ▸ dotted) (rawKind ▸ array), spelled verbatim]

theorem supertypes (related : Reargued n n') (other : ¬IsArguments n) :
    List.Forall₂ (fun c c' => Java.typeName c = Java.typeName c') (Java.supertypes n)
      (Java.supertypes n') := by
  have named : ∀ c c', Reargued c c' → Java.namesType c →
      Java.typeName c = Java.typeName c' := fun c c' child names =>
    child.typeName numbered numbered' (by simp [standsForType, names])
  refine flatMap_forall₂ (related.children other) fun c c' child => ?_
  rw [← child.namesType, ← child.kind, ← child.rawKind]
  split
  next names => exact .cons (named c c' child names) .nil
  · split
    next list =>
      have isList : c.rawKind = "type_list" := by simp_all
      have notArguments : ¬IsArguments c := fun old => by
        rw [old.rawKind] at isList
        exact absurd isList (by decide)
      have types := filter_forall₂ (child.children notArguments) fun _ _ => Reargued.namesType
      exact ((List.forall₂_and_left _ _).2 ⟨fun d member => (List.mem_filter.1 member).2,
        types⟩).imp fun d d' both => named d d' both.2 both.1
    · exact .nil

omit numbered' in
theorem declaredName (related : Reargued n n')
    (heading : n.kind = .packageDeclaration ∨ n.kind = .importDeclaration) :
    Java.declaredName n = Java.declaredName n' := by
  have other : ¬IsArguments n := fun old => by simp [old.kind] at heading
  refine congrArg String.join (map_filter_eq_of_forall₂ (related.children other) ?_ ?_)
  · intro c c' child
    rw [child.kind, child.rawKind]
  · intro c member c' child part
    have parent := numbered.listed_by_parent c n member
    have part : isNamePart c = true := part
    exact child.text_of_isVerbatim (by simp [isVerbatim, isPartOfName, parent, heading, part])

theorem isStatic (related : Reargued n n') (other : ¬IsArguments n) :
    Header.isStatic n = Header.isStatic n' := by
  refine any_eq_of_forall₂ (related.children other) fun c c' child => ?_
  rw [← child.kind]
  cases kind : c.kind == .keyword with
  | false => rfl
  | true =>
      rw [beq_iff_eq] at kind
      rw [child.text_of_isToken numbered numbered' (by rw [kind]; rfl)]

theorem add (related : Reargued n n') (h : Header) : h.add n = h.add n' := by
  rw [Header.add, Header.add, ← related.kind]
  cases kind : n.kind
  case packageDeclaration =>
    rw [related.declaredName numbered (.inl kind)]
  case importDeclaration =>
    have other : ¬IsArguments n := fun old => by cases kind.symm.trans old.kind
    dsimp only
    rw [Header.addImport, Header.addImport, related.declaredName numbered (.inr kind),
      related.isStatic numbered numbered' other]
  all_goals rfl

theorem map_typeName_type (related : Reargued n n') (other : ¬IsArguments n)
    (holds : [Kind.method, .constructor, .field, .parameter].contains n.kind ||
      n.children.any Resolution.isAnonymous) :
    (n.childInField? "type").map Java.typeName = (n'.childInField? "type").map Java.typeName := by
  refine map_childInField?_eq numbered (related.children other) (fun _ _ child => child.field?) ?_
  intro c c' parent role child
  refine child.typeName numbered numbered' ?_
  rw [standsForType, parent, Option.any_some, standsAsType, role, holds]
  simp

theorem typeBefore (related : Reargued n n')
    (member : [Kind.method, .constructor, .field, .parameter].contains n.kind) (absent : String) :
    Resolution.typeBefore n absent = Resolution.typeBefore n' absent := by
  have other : ¬IsArguments n := fun old => by
    rw [old.kind] at member
    cases member
  rw [Resolution.typeBefore, Resolution.typeBefore,
    related.map_typeName_type numbered numbered' other (by rw [member]; rfl)]

theorem writtenType (related : Reargued n n') (isParameter : n.kind = .parameter)
    (counts : (n.rawKind != "receiver_parameter") = true) :
    Resolution.writtenType n = Resolution.writtenType n' := by
  have other : ¬IsArguments n := fun old => by cases isParameter.symm.trans old.kind
  have written := related.map_typeName_type numbered numbered' other (by rw [isParameter]; rfl)
  rw [Resolution.writtenType, Resolution.writtenType]
  rcases none_or_some_of_map written with ⟨absent, absent'⟩ | ⟨_, _, found, found', written⟩
  · rw [absent, absent']
    have leading : (n.children.find? mayLead).map Java.typeName =
        (n'.children.find? mayLead).map Java.typeName := by
      refine map_find?_eq_of_forall₂ (related.children other) ?_ ?_
      · intro c c' child
        rw [mayLead, mayLead, child.kind]
      · intro c found c' child
        have parent := numbered.listed_by_parent c n (List.mem_of_find?_eq_some found)
        refine child.typeName numbered numbered' ?_
        simp [standsForType, standsAsType, parent, isParameter, bne_iff_ne.1 counts, absent, found]
    exact congrArg (·.getD "" ++ "...") leading
  · rw [found, found']
    exact written

theorem parameterTypes (related : Reargued n n') (other : ¬IsArguments n) :
    Java.parameterTypes n = Java.parameterTypes n' := by
  rw [parameterTypes_eq, parameterTypes_eq, parameters, parameters]
  rcases none_or_some_of_rel (related.childInField? other "parameters") with
    ⟨absent, absent'⟩ | ⟨list, list', found, found', pair⟩
  · rw [absent, absent']
    rfl
  · rw [found, found']
    have own : ¬IsArguments list := fun old => old.ne_childInField? found
    refine map_filter_eq_of_forall₂ (pair.children own) ?_ ?_
    · intro c c' child
      rw [child.kind, child.rawKind]
    · intro c _ c' child counts
      rw [Bool.and_eq_true, beq_iff_eq] at counts
      exact child.writtenType numbered numbered' counts.1 counts.2

omit numbered'

theorem map_text_name (related : Reargued n n') (other : ¬IsArguments n) :
    (n.childInField? "name").map (·.text) = (n'.childInField? "name").map (·.text) := by
  refine map_childInField?_eq numbered (related.children other) (fun _ _ child => child.field?) ?_
  intro c c' parent role child
  exact child.text_of_isVerbatim (by simp [isVerbatim, isPartOfName, parent, role])

theorem declarationName? (related : Reargued n n') (other : ¬IsArguments n) :
    Resolution.declarationName? n = Resolution.declarationName? n' := by
  have name := related.map_text_name numbered other
  rw [Resolution.declarationName?, Resolution.declarationName?, ← related.isAnonymous]
  rcases none_or_some_of_map name with ⟨absent, absent'⟩ | ⟨_, _, found, found', text⟩
  · rw [absent, absent']
  · rw [found, found']
    exact congrArg some text

theorem declares (related : Reargued n n') :
    Resolution.declares n = Resolution.declares n' := by
  by_cases other : IsArguments n
  · cases related with
    | arguments old new =>
        rw [old.not_declares, new.not_declares]
    | inner kind =>
        rw [Resolution.declares, Resolution.declares, ← kind, other.kind]
        rfl
  · rw [Resolution.declares, Resolution.declares, related.declarationName? numbered other,
      related.kind]

end Numbered

end Reargued

end Java

end TreeLint

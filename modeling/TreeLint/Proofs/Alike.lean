import Mathlib.Data.List.Forall2
import TreeLint.Proofs.Entries
import TreeLint.Proofs.TypeNames
import TreeLint.Proofs.Words

namespace TreeLint

universe u v

section Lists

variable {α : Type u} {β : Type v} {R : α → β → Prop} {xs : List α} {ys : List β}

theorem map_eq_of_forall₂ {γ : Type} {f : α → γ} {g : β → γ} (all : List.Forall₂ R xs ys)
    (same : ∀ a b, R a b → f a = g b) : xs.map f = ys.map g := by
  induction all with
  | nil => rfl
  | cons related _ ih => rw [List.map_cons, List.map_cons, ih, same _ _ related]

theorem flatMap_eq_of_forall₂ {γ : Type} {f : α → List γ} {g : β → List γ}
    (all : List.Forall₂ R xs ys) (same : ∀ a b, R a b → f a = g b) :
    xs.flatMap f = ys.flatMap g := by
  rw [List.flatMap_def, List.flatMap_def, map_eq_of_forall₂ all same]

theorem filter_forall₂ {p : α → Bool} {q : β → Bool} (all : List.Forall₂ R xs ys)
    (same : ∀ a b, R a b → p a = q b) : List.Forall₂ R (xs.filter p) (ys.filter q) :=
  List.rel_filter (fun _ _ related => iff_of_eq (congrArg (· = true) (same _ _ related))) all

theorem flatMap_forall₂ {γ δ : Type} {S : γ → δ → Prop} {f : α → List γ} {g : β → List δ}
    (all : List.Forall₂ R xs ys) (each : ∀ a b, R a b → List.Forall₂ S (f a) (g b)) :
    List.Forall₂ S (xs.flatMap f) (ys.flatMap g) :=
  List.rel_flatMap all fun _ _ related => each _ _ related

theorem any_eq_of_forall₂ {p : α → Bool} {q : β → Bool} (all : List.Forall₂ R xs ys)
    (same : ∀ a b, R a b → p a = q b) : xs.any p = ys.any q := by
  induction all with
  | nil => rfl
  | cons related _ ih => rw [List.any_cons, List.any_cons, ih, same _ _ related]

theorem find?_forall₂ {p : α → Bool} {q : β → Bool} (all : List.Forall₂ R xs ys)
    (same : ∀ a b, R a b → p a = q b) : Option.Rel R (xs.find? p) (ys.find? q) := by
  induction all with
  | nil => exact .none
  | @cons a b _ _ related _ ih =>
      cases found : p a with
      | true =>
          rw [List.find?_cons_of_pos found, List.find?_cons_of_pos (same a b related ▸ found)]
          exact .some related
      | false =>
          have passed : ¬q b := by rw [← same a b related, found]; exact Bool.false_ne_true
          rw [List.find?_cons_of_neg (by rw [found]; exact Bool.false_ne_true),
            List.find?_cons_of_neg passed]
          exact ih

theorem map_eq_of_rel {γ : Type} {f : α → γ} {g : β → γ} {x : Option α} {y : Option β}
    (related : Option.Rel R x y) (same : ∀ a b, R a b → f a = g b) : x.map f = y.map g := by
  cases related with
  | none => rfl
  | some one => exact congrArg some (same _ _ one)

theorem none_or_some_of_rel {x : Option α} {y : Option β} (related : Option.Rel R x y) :
    x = none ∧ y = none ∨ ∃ a b, x = some a ∧ y = some b ∧ R a b := by
  cases related with
  | none => exact .inl ⟨rfl, rfl⟩
  | some one => exact .inr ⟨_, _, rfl, rfl, one⟩

theorem none_or_some_of_map {γ : Type} {f : α → γ} {g : β → γ} {x : Option α} {y : Option β}
    (same : x.map f = y.map g) :
    x = none ∧ y = none ∨ ∃ a b, x = some a ∧ y = some b ∧ f a = g b := by
  cases x with
  | none => exact .inl ⟨rfl, Option.map_eq_none_iff.1 same.symm⟩
  | some a =>
      obtain ⟨b, rfl, other⟩ := Option.map_eq_some_iff.1 same.symm
      exact .inr ⟨a, b, rfl, rfl, other.symm⟩

end Lists

namespace Tree

variable {t t' : Tree} {n : t.Node} {n' : t'.Node}

/-- All that can be read off the nodes and those below them agrees, but for where they stand. -/
inductive Alike : t.Node → t'.Node → Prop
  | intro {n : t.Node} {n' : t'.Node} (kind : n.kind = n'.kind) (rawKind : n.rawKind = n'.rawKind)
      (field? : n.field? = n'.field?) (text? : n.token?.map (·.text) = n'.token?.map (·.text))
      (length : n.children.length = n'.children.length)
      (below : ∀ (i : Nat) (c : t.Node) (c' : t'.Node), n.children[i]? = some c →
        n'.children[i]? = some c' → Alike c c') : Alike n n'

namespace Alike

theorem kind (alike : Alike n n') : n.kind = n'.kind := by
  cases alike
  assumption

theorem rawKind (alike : Alike n n') : n.rawKind = n'.rawKind := by
  cases alike
  assumption

theorem field? (alike : Alike n n') : n.field? = n'.field? := by
  cases alike
  assumption

theorem text? (alike : Alike n n') : n.token?.map (·.text) = n'.token?.map (·.text) := by
  cases alike
  assumption

theorem isLeaf (alike : Alike n n') : n.isLeaf = n'.isLeaf := by
  rw [Node.isLeaf, Node.isLeaf, ← Option.isSome_map (f := Token.text), alike.text?,
    Option.isSome_map]

theorem children (alike : Alike n n') : List.Forall₂ Alike n.children n'.children := by
  obtain ⟨_, _, _, _, length, below⟩ := alike
  refine List.forall₂_iff_get.2 ⟨length, fun i inside inside' => ?_⟩
  exact below i _ _ (List.getElem?_eq_getElem inside) (List.getElem?_eq_getElem inside')

theorem rec_below {P : t.Node → t'.Node → Prop}
    (step : ∀ n n', Alike n n' → List.Forall₂ (fun c c' => Alike c c' ∧ P c c') n.children
      n'.children → P n n') (alike : Alike n n') : P n n' := by
  induction alike with
  | @intro n n' kind rawKind field? text? length below ih =>
      refine step n n' (.intro kind rawKind field? text? length below) ?_
      refine List.forall₂_iff_get.2 ⟨length, fun i inside inside' => ?_⟩
      have here := List.getElem?_eq_getElem inside
      have here' := List.getElem?_eq_getElem inside'
      exact ⟨below i _ _ here here', ih i _ _ here here'⟩

theorem childInField? (alike : Alike n n') (name : String) :
    Option.Rel Alike (n.childInField? name) (n'.childInField? name) :=
  find?_forall₂ alike.children fun _ _ child => by rw [child.field?]

theorem childOfKind? (alike : Alike n n') (kind : Kind) :
    Option.Rel Alike (n.childOfKind? kind) (n'.childOfKind? kind) :=
  find?_forall₂ alike.children fun _ _ child => by rw [child.kind]

theorem words (alike : Alike n n') : n.tokens.map (·.text) = n'.tokens.map (·.text) := by
  refine rec_below (P := fun n n' => n.tokens.map (·.text) = n'.tokens.map (·.text))
    (fun n n' alike below => ?_) alike
  have own : n.token?.toList.map (·.text) = n'.token?.toList.map (·.text) := by
    rw [← Option.toList_map, ← Option.toList_map, alike.text?]
  rw [n.tokens_eq, n'.tokens_eq, List.map_append, List.map_append, own, List.map_flatMap,
    List.map_flatMap, flatMap_eq_of_forall₂ below fun _ _ child => child.2]

theorem text (alike : Alike n n') : n.text = n'.text := by
  rw [Node.text, Node.text, alike.words]

end Alike

end Tree

namespace Java

open TreeLint.Tree

variable {t t' : Tree} {n : t.Node} {n' : t'.Node}

theorem typeName_alike (alike : Alike n n') : typeName n = typeName n' := by
  refine Alike.rec_below (P := fun n n' => typeName n = typeName n')
    (fun n n' alike below => ?_) alike
  have leaves := alike.isLeaf
  cases leaf : n.isLeaf with
  | true => rw [typeName_of_leaf leaf, typeName_of_leaf (leaves ▸ leaf), alike.text]
  | false =>
      have leaf' : n'.isLeaf = false := leaves ▸ leaf
      by_cases generic : n.rawKind = "generic_type"
      · have first := find?_forall₂ (p := namesType) (q := namesType) below fun c c' child => by
          rw [namesType, namesType, child.1.kind]
        rw [typeName_of_generic leaf generic, typeName_of_generic leaf' (alike.rawKind ▸ generic),
          map_eq_of_rel first fun _ _ child => child.2]
      · by_cases dotted : n.rawKind = "scoped_type_identifier"
        · have added (c : t.Node) (c' : t'.Node) (child : Alike c c' ∧ typeName c = typeName c') :
              addedName c = addedName c' := by
            rw [addedName, addedName, child.1.kind, child.1.text, child.2]
          rw [typeName_of_scoped leaf dotted, typeName_of_scoped leaf' (alike.rawKind ▸ dotted),
            map_eq_of_forall₂ below added]
        · by_cases array : n.rawKind = "array_type"
          · have element : (n.childInField? "element").map typeName =
                (n'.childInField? "element").map typeName :=
              map_eq_of_rel (find?_forall₂ below fun _ _ child => by rw [child.1.field?])
                fun _ _ child => child.2
            have dimensions : (n.childInField? "dimensions").map (·.text) =
                (n'.childInField? "dimensions").map (·.text) :=
              map_eq_of_rel (alike.childInField? "dimensions") fun _ _ child => child.text
            rw [typeName_of_array leaf array, typeName_of_array leaf' (alike.rawKind ▸ array),
              element, dimensions]
          · rw [typeName_of_others generic dotted array,
              typeName_of_others (alike.rawKind ▸ generic) (alike.rawKind ▸ dotted)
                (alike.rawKind ▸ array),
              alike.text]

theorem namesType_alike (alike : Alike n n') : namesType n = namesType n' := by
  rw [namesType, namesType, alike.kind]

theorem supertypes_alike (alike : Alike n n') :
    List.Forall₂ Alike (supertypes n) (supertypes n') := by
  refine flatMap_forall₂ alike.children fun c c' child => ?_
  rw [namesType_alike child, child.kind, child.rawKind]
  split
  · exact .cons child .nil
  · split
    · exact filter_forall₂ child.children fun _ _ => namesType_alike
    · exact .nil

theorem declaredName_alike (alike : Alike n n') : declaredName n = declaredName n' := by
  rw [declaredName, declaredName]
  refine congrArg String.join (map_eq_of_forall₂ (filter_forall₂ alike.children ?_) ?_)
  · intro c c' child
    rw [child.kind, child.rawKind]
  · exact fun _ _ => Alike.text

namespace Resolution

theorem isAnonymous_alike (alike : Alike n n') : isAnonymous n = isAnonymous n' := by
  rw [isAnonymous, isAnonymous, alike.rawKind]

theorem declarationName?_alike (alike : Alike n n') :
    declarationName? n = declarationName? n' := by
  have name := map_eq_of_rel (alike.childInField? "name") fun _ _ => Alike.text
  rw [declarationName?, declarationName?, isAnonymous_alike alike]
  cases found : n.childInField? "name" <;> cases found' : n'.childInField? "name" <;>
    simp_all

theorem declares_alike (alike : Alike n n') : declares n = declares n' := by
  rw [declares, declares, declarationName?_alike alike, alike.kind]

theorem isStatic_alike (alike : Alike n n') : Header.isStatic n = Header.isStatic n' :=
  any_eq_of_forall₂ alike.children fun _ _ child => by rw [child.kind, child.text]

theorem add_alike (alike : Alike n n') (h : Header) : h.add n = h.add n' := by
  rw [Header.add, Header.add, alike.kind, declaredName_alike alike, Header.addImport,
    Header.addImport, isStatic_alike alike, declaredName_alike alike]

theorem map_typeName_alike (alike : Alike n n') (field : String) :
    (n.childInField? field).map typeName = (n'.childInField? field).map typeName :=
  map_eq_of_rel (alike.childInField? field) fun _ _ => typeName_alike

theorem writtenType_alike (alike : Alike n n') : writtenType n = writtenType n' := by
  have written := map_typeName_alike alike "type"
  have before := find?_forall₂ (p := fun c => !([Kind.modifiers, .operator, .punctuator].contains
    c.kind)) (q := fun c => !([Kind.modifiers, .operator, .punctuator].contains c.kind))
    alike.children fun _ _ child => by rw [child.kind]
  rw [writtenType, writtenType, map_eq_of_rel before fun _ _ => typeName_alike]
  cases found : n.childInField? "type" <;> cases found' : n'.childInField? "type" <;> simp_all

theorem typeBefore_alike (alike : Alike n n') (absent : String) :
    typeBefore n absent = typeBefore n' absent := by
  rw [typeBefore, typeBefore, map_typeName_alike alike]

theorem parameterTypes_alike (alike : Alike n n') : parameterTypes n = parameterTypes n' := by
  have related := alike.childInField? "parameters"
  rw [parameterTypes_eq, parameterTypes_eq]
  have listed : List.Forall₂ Alike (((n.childInField? "parameters").map (·.children)).getD [])
      (((n'.childInField? "parameters").map (·.children)).getD []) := by
    generalize n.childInField? "parameters" = x, n'.childInField? "parameters" = y at related
    cases related with
    | none => exact .nil
    | some one => exact one.children
  refine map_eq_of_forall₂ (filter_forall₂ listed ?_) fun _ _ => writtenType_alike
  intro c c' child
  rw [child.kind, child.rawKind]

/-- What two symbols have in common that differ in their owners and in the nodes that declare
them. -/
inductive Signature where
  | type (name : String)
  | method (name : String) (parameterTypes : List String) (returnType? : Option String)
      (inherited : Bool)
  | value (name typeName : String)
  deriving DecidableEq, Repr

def signature : Symbol → Signature
  | .type s => .type s.name
  | .method s => .method s.name s.parameterTypes s.returnType? s.inherited
  | .value s => .value s.name s.typeName

def signatures (d : Declared t) : List Signature := (bodyEntries d).map fun e => signature e.2

variable {d : Declared t} {d' : Declared t'}

theorem name_signature {symbol symbol' : Symbol} (same : signature symbol = signature symbol') :
    symbol.name = symbol'.name := by
  cases symbol <;> cases symbol' <;> simp_all [signature, Symbol.name]

theorem namedEntries_alike (alike : Alike n n') {symbol : t.Node → Symbol}
    {symbol' : t'.Node → Symbol}
    (same : ∀ c c', Alike c c' → signature (symbol c) = signature (symbol' c')) :
    (namedEntries n symbol).map (fun e => signature e.2) =
      (namedEntries n' symbol').map fun e => signature e.2 := by
  have related := alike.childInField? "name"
  rw [namedEntries, namedEntries]
  generalize n.childInField? "name" = x, n'.childInField? "name" = y at related
  cases related with
  | none => rfl
  | some one => exact congrArg (fun s => [s]) (same _ _ one)

theorem methodEntries_alike (alike : Alike n n') :
    (methodEntries d n).map (fun e => signature e.2) =
      (methodEntries d' n').map fun e => signature e.2 := by
  refine namedEntries_alike alike fun c c' child => ?_
  simp only [signature, child.text, parameterTypes_alike alike, alike.kind,
    typeBefore_alike alike]

theorem variableEntries_alike (alike : Alike n n') (type : String) :
    (variableEntries d type n).map (fun e => signature e.2) =
      (variableEntries d' type n').map fun e => signature e.2 := by
  refine namedEntries_alike alike fun c c' child => ?_
  simp only [signature, child.text]

theorem memberEntries_alike (alike : Alike n n') (name : d.name = d'.name) :
    (memberEntries d n).map (fun e => signature e.2) =
      (memberEntries d' n').map fun e => signature e.2 := by
  rw [memberEntries, memberEntries, alike.kind]
  split
  · exact methodEntries_alike alike
  · exact methodEntries_alike alike
  · have declarators : List.Forall₂ Alike (n.children.filter (·.field? == some "declarator"))
        (n'.children.filter (·.field? == some "declarator")) :=
      filter_forall₂ alike.children fun _ _ child => by rw [child.field?]
    rw [List.map_flatMap, List.map_flatMap, typeBefore_alike alike]
    exact flatMap_eq_of_forall₂ declarators fun _ _ child => variableEntries_alike child _
  · rw [alike.rawKind, name]
    split
    · exact variableEntries_alike alike _
    · rfl

theorem signatures_alike (alike : Alike d.node d'.node) (name : d.name = d'.name) :
    signatures d = signatures d' := by
  have related := alike.childInField? "body"
  rw [signatures, signatures, bodyEntries, bodyEntries]
  generalize d.node.childInField? "body" = x, d'.node.childInField? "body" = y at related
  cases related with
  | none => rfl
  | some one =>
      dsimp only
      rw [List.map_flatMap, List.map_flatMap]
      exact flatMap_eq_of_forall₂ one.children fun _ _ child => memberEntries_alike child name

end Resolution

end Java

end TreeLint

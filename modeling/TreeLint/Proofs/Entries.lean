import TreeLint.Proofs.Blocks
import TreeLint.Proofs.Enrolling
import TreeLint.Proofs.Mentions

/-! The members that bodies add to the symbols of a file, and what their types list of them. -/

namespace TreeLint.Java

open TreeLint.Tree SymbolTable

namespace Resolution

variable {t : Tree} {d d' : Declared t} {n : t.Node} {symbol : Symbol}

def parameters (callable : t.Node) : List t.Node :=
  (((callable.childInField? "parameters").map (·.children)).getD []).filter fun p =>
    p.kind == .parameter && p.rawKind != "receiver_parameter"

/-- A parameter for any number of arguments has no field for its type. -/
def writtenType (p : t.Node) : String :=
  match p.childInField? "type" with
  | some type => typeName type
  | none =>
      ((p.children.find? fun c =>
        !([Kind.modifiers, .operator, .punctuator].contains c.kind)).map typeName).getD "" ++ "..."

theorem parameterTypes_eq (callable : t.Node) :
    parameterTypes callable = (parameters callable).map writtenType :=
  rfl

def typeBefore (declaration : t.Node) (absent : String) : String :=
  ((declaration.childInField? "type").map typeName).getD absent

def namedEntries (n : t.Node) (symbol : t.Node → Symbol) : List (t.Node × Symbol) :=
  ((n.childInField? "name").map fun name => (n, symbol name)).toList

def methodEntries (d : Declared t) (member : t.Node) : List (t.Node × Symbol) :=
  namedEntries member fun name => .method {
    name := name.text, owner := d.id, parameterTypes := parameterTypes member
    returnType? := if member.kind = .method then some (typeBefore member "void") else none
    inherited := false, declaration? := some member.index }

def variableEntries (d : Declared t) (type : String) (n : t.Node) : List (t.Node × Symbol) :=
  namedEntries n fun name => .value {
    name := name.text, owner := d.id, typeName := type, declaration? := some n.index }

def memberEntries (d : Declared t) (member : t.Node) : List (t.Node × Symbol) :=
  match member.kind with
  | .method | .constructor => methodEntries d member
  | .field =>
      (member.children.filter (·.field? == some "declarator")).flatMap
        (variableEntries d (typeBefore member ""))
  | _ => if member.rawKind == "enum_constant" then variableEntries d d.name member else []

/-- The members of the type with their nodes, in source order. -/
def bodyEntries (d : Declared t) : List (t.Node × Symbol) :=
  match d.node.childInField? "body" with
  | none => []
  | some body => body.children.flatMap (memberEntries d)

def enrol : Symbol → Resolve Unit
  | .method s => change fun table => (table.addMethod s).map (·.2)
  | .value s => change fun table => (table.addVariable s).map (·.2)
  | .type _ => pure ()

theorem forM_namedEntries (n : t.Node) (symbol : t.Node → Symbol) :
    (namedEntries n symbol).forM (fun e => enrol e.2) =
      match n.childInField? "name" with
      | none => pure ()
      | some name => enrol (symbol name) := by
  rw [namedEntries]
  cases n.childInField? "name" with
  | none => rfl
  | some name => exact bind_pure_unit

theorem addMethod_eq (d : Declared t) (member : t.Node) :
    addMethod d member = (methodEntries d member).forM fun e => enrol e.2 := by
  rw [methodEntries, forM_namedEntries, addMethod]
  cases member.childInField? "name" <;> rfl

theorem addVariable_eq (d : Declared t) (type : String) (n : t.Node) :
    addVariable d type n = (variableEntries d type n).forM fun e => enrol e.2 := by
  rw [variableEntries, forM_namedEntries, addVariable]
  cases n.childInField? "name" <;> rfl

theorem addMember_eq (d : Declared t) (member : t.Node) :
    addMember d member = (memberEntries d member).forM fun e => enrol e.2 := by
  have method := addMethod_eq d member
  have fields (type : String) (declarators : List t.Node) :
      declarators.forM (addVariable d type) =
        (declarators.flatMap (variableEntries d type)).forM fun e => enrol e.2 := by
    rw [forM_flatMap]
    exact congrArg _ (funext (addVariable_eq d type))
  have constant : (if member.rawKind == "enum_constant" then addVariable d d.name member
      else pure ()) = (if member.rawKind == "enum_constant" then variableEntries d d.name member
      else []).forM fun e => enrol e.2 := by
    split
    · exact addVariable_eq d d.name member
    · rfl
  rw [addMember, memberEntries]
  cases member.kind <;> first | exact method | exact fields _ _ | exact constant

theorem addMembers_eq (d : Declared t) :
    addMembers d = (bodyEntries d).forM fun e => enrol e.2 := by
  rw [addMembers, bodyEntries]
  cases d.node.childInField? "body" with
  | none => rfl
  | some body =>
      dsimp only
      rw [forM_flatMap]
      exact congrArg _ (funext (addMember_eq d))

@[simp] theorem mem_namedEntries {symbol : t.Node → Symbol} {e : t.Node × Symbol} :
    e ∈ namedEntries n symbol ↔
      ∃ name, n.childInField? "name" = some name ∧ e = (n, symbol name) := by
  rw [namedEntries, Option.mem_toList, Option.map_eq_some_iff]
  exact exists_congr fun _ => and_congr_right fun _ => eq_comm

@[simp] theorem mem_methodEntries {member : t.Node} :
    (n, symbol) ∈ methodEntries d member ↔ n = member ∧
      ∃ name, n.childInField? "name" = some name ∧ symbol = .method {
        name := name.text, owner := d.id, parameterTypes := (parameters n).map writtenType
        returnType? := if n.kind = .method then some (typeBefore n "void") else none
        inherited := false, declaration? := some n.index } := by
  rw [methodEntries, mem_namedEntries]
  constructor
  · rintro ⟨name, named, same⟩
    cases same
    exact ⟨rfl, name, named, rfl⟩
  · rintro ⟨rfl, name, named, rfl⟩
    exact ⟨name, named, rfl⟩

@[simp] theorem mem_variableEntries {type : String} {declaration : t.Node} :
    (n, symbol) ∈ variableEntries d type declaration ↔ n = declaration ∧
      ∃ name, n.childInField? "name" = some name ∧ symbol = .value {
        name := name.text, owner := d.id, typeName := type, declaration? := some n.index } := by
  rw [variableEntries, mem_namedEntries]
  constructor
  · rintro ⟨name, named, same⟩
    cases same
    exact ⟨rfl, name, named, rfl⟩
  · rintro ⟨rfl, name, named, rfl⟩
    exact ⟨name, named, rfl⟩

@[simp] theorem mem_bodyEntries : (n, symbol) ∈ bodyEntries d ↔
    ∃ body, d.node.childInField? "body" = some body ∧
      ∃ member ∈ body.children, (n, symbol) ∈ memberEntries d member := by
  rw [bodyEntries]
  cases d.node.childInField? "body" with
  | none => simp
  | some body => simp [List.mem_flatMap]

theorem exists_of_map_snd {α : Type} {call : Except SymbolError (α × SymbolTable)}
    {table : SymbolTable} (made : call.map (·.2) = .ok table) :
    ∃ a, call = .ok (a, table) := by
  cases call with
  | error e => cases made
  | ok both =>
      cases made
      exact ⟨both.1, rfl⟩

theorem enrol_leads {base table : SymbolTable} {entries : List Symbol} {owner : SymbolId}
    (enrolled : Enrolled base entries table) (owned : symbol.owner? = some owner) :
    Leads (enrol symbol) table fun _ table' => Enrolled base (entries ++ [symbol]) table' := by
  cases symbol with
  | type s => cases owned
  | method s =>
      refine .change fun table' made => ?_
      obtain ⟨id, added⟩ := exists_of_map_snd made
      exact enrolled.enrols (addMethod_enrols added) rfl (tree_addMethod added)
  | value s =>
      refine .change fun table' made => ?_
      obtain ⟨id, added⟩ := exists_of_map_snd made
      exact enrolled.enrols (addVariable_enrols added) rfl (tree_addVariable added)

theorem forM_enrol_leads {base table : SymbolTable} {entries : List Symbol}
    (more : List (t.Node × Symbol))
    (owned : ∀ e ∈ more, ∃ owner, e.2.owner? = some owner)
    (enrolled : Enrolled base entries table) :
    Leads (more.forM fun e => enrol e.2) table fun _ table' =>
      Enrolled base (entries ++ more.map (·.2)) table' := by
  induction more generalizing table entries with
  | nil =>
      refine .pure ?_
      rwa [List.map_nil, List.append_nil]
  | cons e rest ih =>
      obtain ⟨owner, owns⟩ := owned e (List.mem_cons_self ..)
      refine (enrol_leads enrolled owns).bind fun _ table' next => ?_
      have later := ih (fun other member => owned other (List.mem_cons_of_mem _ member)) next
      rwa [List.append_assoc] at later

theorem marks_of_mem_bodyEntries (listed : (n, symbol) ∈ bodyEntries d) :
    symbol.owner? = some d.id ∧ symbol.declaration? = some n.index := by
  obtain ⟨_, _, member, _, inside⟩ := mem_bodyEntries.1 listed
  rw [memberEntries] at inside
  split at inside
  · obtain ⟨_, _, _, rfl⟩ := mem_methodEntries.1 inside
    exact ⟨rfl, rfl⟩
  · obtain ⟨_, _, _, rfl⟩ := mem_methodEntries.1 inside
    exact ⟨rfl, rfl⟩
  · obtain ⟨declarator, _, inside⟩ := List.mem_flatMap.1 inside
    obtain ⟨_, _, _, rfl⟩ := mem_variableEntries.1 inside
    exact ⟨rfl, rfl⟩
  · split at inside
    · obtain ⟨_, _, _, rfl⟩ := mem_variableEntries.1 inside
      exact ⟨rfl, rfl⟩
    · cases inside

def memberSymbols (t : Tree) : List Symbol :=
  ((fileScope t).types.toList.flatMap bodyEntries).map (·.2)

variable {table : SymbolTable}

theorem covers_all (t : Tree) : Covers t (fun _ => True) (fun _ => True) :=
  ⟨fun _ _ _ _ => trivial, fun _ _ _ _ => trivial, fun _ _ _ _ _ => trivial⟩

theorem exists_enrolled {asClass asInterface : String → Prop}
    (covers : Covers t asClass asInterface) (ran : resolve t = .ok table) :
    ∃ linked, Traced t asClass asInterface linked ∧ Enrolled linked (memberSymbols t) table := by
  obtain ⟨linked, traced, added⟩ := exists_linked_of_resolve covers ran
  rw [funext addMembers_eq, ← forM_flatMap] at added
  refine ⟨linked, traced, ?_⟩
  refine forM_enrol_leads _ ?_ (.start traced.kept traced.types) _ _ added
  intro e listed
  obtain ⟨d, _, inside⟩ := List.mem_flatMap.1 listed
  exact ⟨d.id, (marks_of_mem_bodyEntries inside).1⟩

theorem eq_of_id (member : d ∈ (fileScope t).types.toList)
    (member' : d' ∈ (fileScope t).types.toList) (same : d.id = d'.id) : d = d' := by
  have distinct : ((fileScope t).types.toList.map (·.id)).Nodup :=
    List.pairwise_map.2 (registered_declarations t).ids_differ
  exact List.inj_on_of_nodup_map distinct member member' same

theorem listed_eq (ran : resolve t = .ok table) (member : d ∈ (fileScope t).types.toList)
    {s : TypeSymbol} (known : table.type? d.id = some s) (name : String) :
    (table.membersNamed s name).map (·.2) =
      ((bodyEntries d).map (·.2)).filter fun symbol => symbol.name == name := by
  obtain ⟨linked, _, enrolled⟩ := exists_enrolled (covers_all t) ran
  have distinct : (fileScope t).types.toList.Nodup :=
    (registered_declarations t).ids_differ.imp fun differ same => differ (congrArg Declared.id same)
  rw [enrolled.listed d.id s known name, memberSymbols, List.map_flatMap, List.filter_flatMap,
    flatMap_eq_of_nodup distinct member]
  · refine List.filter_congr fun symbol listed => ?_
    obtain ⟨e, inside, rfl⟩ := List.mem_map.1 listed
    rw [(marks_of_mem_bodyEntries inside).1, beq_self_eq_true, Bool.true_and]
  · intro d' member' differs
    rw [List.filter_eq_nil_iff]
    intro symbol listed
    obtain ⟨e, inside, rfl⟩ := List.mem_map.1 listed
    rw [(marks_of_mem_bodyEntries inside).1]
    have other : d'.id ≠ d.id := fun same => differs (eq_of_id member' member same)
    simp [other]

end Resolution

end TreeLint.Java

import TreeLint.Tree.Basic

namespace TreeLint.Java

open TreeLint.Tree

variable {t : Tree}

def namesType (n : t.Node) : Bool := n.kind == .identifier || n.kind == .typeRef

/-- The type's name without type arguments, with the brackets of an array. -/
def typeName (n : t.Node) : String :=
  if n.isLeaf then n.text
  else
    match n.rawKind with
    | "generic_type" =>
        match _h : n.children.find? namesType with
        | some c => typeName c
        | none => ""
    | "scoped_type_identifier" =>
        String.join (n.children.attach.map fun c =>
          match c.val.kind with
          | .identifier | .dot => c.val.text
          | .typeRef => typeName c.val
          | _ => "")
    | "array_type" =>
        let element := match _h : n.children.find? (·.field? == some "element") with
          | some c => typeName c
          | none => ""
        element ++ ((n.childInField? "dimensions").map (·.text)).getD ""
    | _ => n.text
termination_by t.nodes.size - n.index
decreasing_by
  · have := Node.index_lt_of_mem_children (List.mem_of_find?_eq_some _h)
    have := c.isLt
    omega
  · have := Node.index_lt_of_mem_children c.property
    have := c.val.isLt
    omega
  · have := Node.index_lt_of_mem_children (List.mem_of_find?_eq_some _h)
    have := c.isLt
    omega

def supertypes (clause : t.Node) : List t.Node :=
  clause.children.flatMap fun c =>
    if namesType c then [c]
    else if c.kind == .other && c.rawKind == "type_list" then c.children.filter namesType
    else []

/-- The types of the parameters.  A parameter for any number of arguments has its type in front
of the dots, without a field. -/
def parameterTypes (callable : t.Node) : List String :=
  let parameters := ((callable.childInField? "parameters").map (·.children)).getD []
  let counted := parameters.filter fun p =>
    p.kind == .parameter && p.rawKind != "receiver_parameter"
  counted.map fun p =>
    match p.childInField? "type" with
    | some type => typeName type
    | none =>
        let element? := p.children.find? fun c =>
          !([Kind.modifiers, .operator, .punctuator].contains c.kind)
        (element?.map typeName).getD "" ++ "..."

def declaredName (declaration : t.Node) : String :=
  let parts := declaration.children.filter fun c =>
    !([Kind.keyword, .semicolon].contains c.kind) && !c.rawKind.endsWith "annotation"
  String.join (parts.map (·.text))

end TreeLint.Java

import TreeLint.Yaml.Scan

namespace TreeLint.Yaml

/-- A part of a document.  Tags are written out in full. -/
inductive Node where
  | scalar (tag? : Option String) (text : String) (style : Style)
  | sequence (tag? : Option String) (items : List Node)
  | mapping (tag? : Option String) (entries : List (Node × Node))

namespace Node

def empty : Node := scalar none "" .plain

end Node

structure Reader where
  tokens : List Token
  anchors : List (String × Node)
  handles : List (String × String)

abbrev Read := StateT Reader (Except Error)

namespace Read

def failing (message : String) : Read α := StateT.lift (fail message)

def peek : Read (Option Token) := return (← get).tokens.head?

def advance : Read Unit := modify fun r => { r with tokens := r.tokens.tail }

def accept (t : Token) : Read Bool := do
  if (← peek) = some t then
    advance
    return true
  else return false

def nextIsAny (ts : List Token) : Read Bool := do
  match ← peek with
  | some t => return ts.contains t
  | none => return true

structure Properties where
  tag? : Option String
  anchor? : Option String

def standardHandles : List (String × String) :=
  [("!", "!"), ("!!", "tag:yaml.org,2002:"), ("", "")]

def expandTag (handle suffix : String) : Read String := do
  match (← get).handles.lookup handle <|> standardHandles.lookup handle with
  | some expansion => return expansion ++ suffix
  | none => failing "found undefined tag handle"

/-- At most one anchor and one tag, in either order. -/
def properties : Nat → Properties → Read Properties
  | 0, p => return p
  | fuel + 1, p => do
      match ← peek, p with
      | some (.anchor name), ⟨tag?, none⟩ =>
          advance
          properties fuel ⟨tag?, some name⟩
      | some (.tag handle suffix), ⟨none, anchor?⟩ =>
          advance
          properties fuel ⟨some (← expandTag handle suffix), anchor?⟩
      | _, _ => return p

def remember (p : Properties) (n : Node) : Read Node := do
  if let some name := p.anchor? then
    modify fun r => { r with anchors := (name, n) :: r.anchors }
  return n

def aliased (name : String) : Read Node := do
  match (← get).anchors.lookup name with
  | some n => return n
  | none => failing "unknown anchor"

def absent (p : Properties) : Read Node := do
  if p.tag?.isSome || p.anchor?.isSome then remember p (.scalar p.tag? "" .plain)
  else failing "did not find expected node content"

def entryEnds : List Token := [.blockEntry, .key, .value, .blockEnd]

mutual
/-- A node.  In a flow collection it is not an indented one; the value of a mapping can be a
sequence that is not indented further. -/
def node (fuel : Nat) (inBlock indentless : Bool) : Read Node := do
  match fuel with
  | 0 => failing "exceeded the depth limit"
  | fuel + 1 =>
      if let some (.alias name) ← peek then
        advance
        aliased name
      else
        let p ← properties 2 ⟨none, none⟩
        let next ← peek
        match next with
        | some (.scalar text style) =>
            advance
            remember p (.scalar p.tag? text style)
        | some .flowSequenceStart =>
            advance
            remember p (.sequence p.tag? (← flowItems fuel true))
        | some .flowMappingStart =>
            advance
            remember p (.mapping p.tag? (← flowEntries fuel true))
        | some .blockEntry =>
            if indentless then remember p (.sequence p.tag? (← indentlessItems fuel))
            else absent p
        | some .sequenceStart =>
            if inBlock then
              advance
              remember p (.sequence p.tag? (← blockItems fuel))
            else absent p
        | some .mappingStart =>
            if inBlock then
              advance
              remember p (.mapping p.tag? (← blockEntries fuel))
            else absent p
        | _ => absent p

def nodeUnless (fuel : Nat) (ends : List Token) (inBlock indentless : Bool) : Read Node := do
  match fuel with
  | 0 => failing "exceeded the depth limit"
  | fuel + 1 =>
      if ← nextIsAny ends then return .empty
      else node fuel inBlock indentless

def blockItems (fuel : Nat) : Read (List Node) := do
  match fuel with
  | 0 => failing "exceeded the depth limit"
  | fuel + 1 =>
      if ← accept .blockEntry then
        let item ← nodeUnless fuel [.blockEntry, .blockEnd] true false
        return item :: (← blockItems fuel)
      else if ← accept .blockEnd then return []
      else failing "did not find expected '-' indicator"

def indentlessItems (fuel : Nat) : Read (List Node) := do
  match fuel with
  | 0 => failing "exceeded the depth limit"
  | fuel + 1 =>
      if ← accept .blockEntry then
        let item ← nodeUnless fuel entryEnds true false
        return item :: (← indentlessItems fuel)
      else return []

def blockEntries (fuel : Nat) : Read (List (Node × Node)) := do
  match fuel with
  | 0 => failing "exceeded the depth limit"
  | fuel + 1 =>
      if ← accept .key then
        let key ← nodeUnless fuel [.key, .value, .blockEnd] true true
        let value ←
          if ← accept .value then nodeUnless fuel [.key, .value, .blockEnd] true true
          else pure .empty
        return (key, value) :: (← blockEntries fuel)
      else if ← accept .blockEnd then return []
      else failing "did not find expected key"

/-- The items of a sequence in brackets; a pair there is a mapping of its own. -/
def flowItems (fuel : Nat) (first : Bool) : Read (List Node) := do
  match fuel with
  | 0 => failing "exceeded the depth limit"
  | fuel + 1 =>
      if ← accept .flowSequenceEnd then return []
      else
        if !first then
          if !(← accept .flowEntry) then failing "did not find expected ',' or ']'"
        if ← accept .flowSequenceEnd then return []
        else
          let item ←
            if ← accept .key then do
              let key ← nodeUnless fuel [.value, .flowEntry, .flowSequenceEnd] false false
              let value ←
                if ← accept .value then nodeUnless fuel [.flowEntry, .flowSequenceEnd] false false
                else pure .empty
              pure (Node.mapping none [(key, value)])
            else node fuel false false
          return item :: (← flowItems fuel false)

/-- The entries of a mapping in braces; one without a colon has no value. -/
def flowEntries (fuel : Nat) (first : Bool) : Read (List (Node × Node)) := do
  match fuel with
  | 0 => failing "exceeded the depth limit"
  | fuel + 1 =>
      if ← accept .flowMappingEnd then return []
      else
        if !first then
          if !(← accept .flowEntry) then failing "did not find expected ',' or '\x7d'"
        if ← accept .flowMappingEnd then return []
        else if ← accept .key then
          let key ← nodeUnless fuel [.value, .flowEntry, .flowMappingEnd] false false
          let value ←
            if ← accept .value then nodeUnless fuel [.flowEntry, .flowMappingEnd] false false
            else pure .empty
          return (key, value) :: (← flowEntries fuel false)
        else
          let key ← node fuel false false
          return (key, .empty) :: (← flowEntries fuel false)
end

def directives (versions : Nat) : Nat → Read Unit
  | 0 => return
  | fuel + 1 => do
      match ← peek with
      | some (.version major minor) =>
          if 0 < versions then failing "found duplicate %YAML directive"
          if major ≠ 1 || (minor ≠ 1 && minor ≠ 2) then failing "found incompatible YAML document"
          advance
          directives (versions + 1) fuel
      | some (.tagHandle handle expansion) =>
          if ((← get).handles.lookup handle).isSome then failing "found duplicate %TAG directive"
          modify fun r => { r with handles := (handle, expansion) :: r.handles }
          advance
          directives versions fuel
      | _ => return

def isDirective : Token → Bool
  | .version .. | .tagHandle .. => true
  | _ => false

def document (fuel : Nat) : Read (Option Node) := do
  match ← peek with
  | none => return none
  | some t =>
      let marked := isDirective t || t = .documentStart
      if marked then
        directives 0 fuel
        if !(← accept .documentStart) then failing "did not find expected <document start>"
      let bare := marked && ((← peek).all fun t =>
        isDirective t || t = .documentStart || t = .documentEnd)
      let n ← if bare then pure .empty else node fuel true false
      modify fun r => { r with tokens := r.tokens.dropWhile (· = .documentEnd) }
      match ← peek with
      | none => return some n
      | some t =>
          if isDirective t || t = .documentStart then
            failing "deserializing from YAML containing more than one document is not supported"
          else failing "did not find expected <document start>"

end Read

/-- The document of a text; none for a text of blanks and comments. -/
def parse (text : String) : Except Error (Option Node) := do
  let tokens ← scan text
  let (n, _) ← (Read.document (3 * tokens.length + 4)).run ⟨tokens, [], []⟩
  return n

end TreeLint.Yaml

namespace TreeLint.Path

def pieces (path : String) : List String :=
  (path.toList.splitOn '/').map String.ofList

def isAbsolute (path : String) : Bool := path.startsWith "/"

def isIdle (piece : String) : Bool := piece == "" || piece == "."

/-- The names on the way.  A slash or a dot at the start counts as a name, elsewhere they lead
nowhere. -/
def names (path : String) : List String :=
  let busy := (pieces path).filter (!isIdle ·)
  if isAbsolute path then "/" :: busy
  else if (pieces path).head? = some "." then "." :: busy
  else busy

def fileName? (path : String) : Option String :=
  match (names path).getLast? with
  | some name => if ["/", ".", ".."].contains name then none else some name
  | none => none

/-- A file's name up to its last dot, and what follows it.  A dot at the start does not count. -/
def splitName (name : String) : String × Option String :=
  let behind := name.toList.reverse.takeWhile (· != '.')
  let front := name.toList.take (name.length - behind.length - 1)
  if behind.length = name.length || front.isEmpty then (name, none)
  else (String.ofList front, some (String.ofList behind.reverse))

def stem (path : String) : String := ((fileName? path).map fun name => (splitName name).1).getD ""

def extension? (path : String) : Option String := (fileName? path).bind fun name =>
  (splitName name).2

def parentNames? (path : String) : Option (List String) :=
  match (names path).getLast? with
  | none | some "/" => none
  | some _ => some (names path).dropLast

def behindNames : List String → List String → Option (List String)
  | [], pieces => some pieces
  | _ :: _, [] => none
  | name :: names, piece :: pieces =>
      if isIdle piece then behindNames (name :: names) pieces
      else if piece = name then behindNames names pieces
      else none

private def dropIdle (pieces : List String) : List String := pieces.dropWhile isIdle

def relativeTo? (base path : String) : Option String :=
  if (names base).isPrefixOf (names path) then
    let onTheWay := (pieces base).filter (!isIdle ·)
    (behindNames onTheWay (pieces path)).map fun rest =>
      String.intercalate "/" (dropIdle (dropIdle rest).reverse).reverse
  else none

def isTest (path : String) : Bool :=
  let onTheWay := names path
  let inTests := (onTheWay.zip onTheWay.tail).contains ("src", "test")
  inTests || ["Test", "Tests", "IT"].any fun ending => (stem path).endsWith ending

end TreeLint.Path

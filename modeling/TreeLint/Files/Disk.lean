import TreeLint.Files.Path

/-! A disk: folders and files in a tree, and a working folder for relative paths. -/

namespace TreeLint

inductive FileTree where
  | file (content : ByteArray)
  | folder (entries : List (String × FileTree))

inductive FileError where
  | notFound
  | exists
  | notAFolder
  | isAFolder
  /-- The content of a file is no text. -/
  | notText
  deriving DecidableEq, Repr

def FileError.message : FileError → String
  | notFound => "No such file or directory (os error 2)"
  | .exists => "File exists (os error 17)"
  | notAFolder => "Not a directory (os error 20)"
  | isAFolder => "Is a directory (os error 21)"
  | notText => "stream did not contain valid UTF-8"

namespace FileTree

def find (t : FileTree) : List String → Except FileError FileTree
  | [] => .ok t
  | name :: rest =>
      match t with
      | file _ => .error .notAFolder
      | folder entries =>
          match entries.lookup name with
          | some below => below.find rest
          | none => .error .notFound

def replaceEntry (name : String) (t : FileTree) :
    List (String × FileTree) → List (String × FileTree)
  | [] => [(name, t)]
  | (key, old) :: rest =>
      if key = name then (name, t) :: rest else (key, old) :: replaceEntry name t rest

/-- The tree with something else at the place, in folders that are there. -/
def put (t new : FileTree) : List String → FileTree
  | [] => new
  | name :: rest =>
      match t with
      | file _ => t
      | folder entries =>
          match entries.lookup name, rest with
          | some below, _ => folder (replaceEntry name (put below new rest) entries)
          | none, [] => folder (replaceEntry name new entries)
          | none, _ :: _ => t

end FileTree

/-- A place on the disk: the names on the way from its root. -/
abbrev Location := List String

structure Disk where
  root : FileTree
  workingFolder : Location

namespace Disk

def pathOf (l : Location) : String := "/" ++ String.intercalate "/" l

def isFolderAt (d : Disk) (l : Location) : Bool :=
  match d.root.find l with
  | .ok (.folder _) => true
  | _ => false

def isFileAt (d : Disk) (l : Location) : Bool :=
  match d.root.find l with
  | .ok (.file _) => true
  | _ => false

/-- Goes on from a place.  Every piece needs a folder to start from. -/
def follow (d : Disk) (l : Location) : List String → Except FileError Location
  | [] => .ok l
  | piece :: rest =>
      match d.root.find l with
      | .error e => .error e
      | .ok (.file _) => .error .notAFolder
      | .ok (.folder entries) =>
          if Path.isIdle piece then d.follow l rest
          else if piece = ".." then d.follow l.dropLast rest
          else if (entries.lookup piece).isSome then d.follow (l ++ [piece]) rest
          else .error .notFound

def startOf (d : Disk) (path : String) : Location :=
  if Path.isAbsolute path then [] else d.workingFolder

def locate (d : Disk) (path : String) : Except FileError Location :=
  if path.isEmpty then .error .notFound else d.follow (d.startOf path) (Path.pieces path)

def exists? (d : Disk) (path : String) : Bool := (d.locate path).isOk

def readAt (d : Disk) (l : Location) : Except FileError String :=
  match d.root.find l with
  | .error e => .error e
  | .ok (.folder _) => .error .isAFolder
  | .ok (.file content) =>
      match String.fromUTF8? content with
      | some text => .ok text
      | none => .error .notText

def read (d : Disk) (path : String) : Except FileError String := do
  d.readAt (← d.locate path)

/-- Writes a text to a file, a new one if need be.  A path with a slash or dots at its end leads
to no file. -/
def write (d : Disk) (path text : String) : Except FileError Disk := do
  let given := (Path.pieces path).reverse
  let pieces := (given.dropWhile (·.isEmpty)).reverse
  let folder ← d.follow (d.startOf path) (pieces.dropLast ++ ["."])
  let name := pieces.getLast?.getD ""
  let namesFolder := Path.isIdle name || name = ".." || given.head? = some ""
  if namesFolder || d.isFolderAt (folder ++ [name]) then .error .isAFolder
  else .ok { d with root := d.root.put (.file text.toUTF8) (folder ++ [name]) }

def makeFolder (d : Disk) (start : Location) (names : List String) : Except FileError Disk := do
  let folder ← d.follow start (names.dropLast ++ ["."])
  let name := names.getLast?.getD ""
  if Path.isIdle name || name = ".." then .error .exists
  else
    match d.root.find (folder ++ [name]) with
    | .ok _ => .error .exists
    | .error _ => .ok { d with root := d.root.put (.folder []) (folder ++ [name]) }

def ensureFolder (d : Disk) (start : Location) (names : List String) : Except FileError Disk :=
  match d.makeFolder start names with
  | .ok d => .ok d
  | .error e => if ((d.follow start names).map d.isFolderAt).toOption = some true then .ok d
    else .error e

/-- Makes a folder and, where they are missing, the folders above it; their names come with the
innermost first.  Folders that were made before something went wrong stay. -/
def makeFolders (d : Disk) (start : Location) : List String → Disk × Option FileError
  | [] => (d, none)
  | name :: above =>
      let make (d : Disk) : Disk × Option FileError :=
        match d.ensureFolder start (name :: above).reverse with
        | .ok d => (d, none)
        | .error e => (d, some e)
      match make d with
      | (d, some .notFound) =>
          match d.makeFolders start above with
          | (d, none) => make d
          | failed => failed
      | result => result

end Disk

end TreeLint

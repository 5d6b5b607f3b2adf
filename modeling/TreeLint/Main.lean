import TreeLint.Cli.Run
import TreeLint.Cli.Usage

/-! The program.  It takes a picture of the part of the disk that a command looks at, carries out
the command on the picture, and then writes what has changed. -/

namespace TreeLint.Program

def folder : FileTree := .folder []

def isRead (name : String) : Bool :=
  FileFilter.isSource name || Config.fileNames.contains name

mutual
/-- What stands below a folder, without what commands never look at. -/
partial def readEntries (entries : List IO.FS.DirEntry) : IO FileTree := do
  return .folder (← entries.filterMapM readEntry)

partial def readEntry (e : IO.FS.DirEntry) : IO (Option (String × FileTree)) := do
  if ← e.path.isDir then
    if isSkipped e.fileName then return none
    else return some (e.fileName, ← readEntries (← e.path.readDir).toList)
  else if isRead e.fileName then
    return some (e.fileName, .file (← IO.FS.readBinFile e.path))
  else return none
end

def addPlace (l : Location) (d : Disk) : IO Disk := do
  let path ← IO.FS.realPath (Disk.pathOf l)
  if (d.root.find l).isOk || !(← path.pathExists) then return d
  let found ← if ← path.isDir then pure folder else FileTree.file <$> IO.FS.readBinFile path
  return { d with root := d.root.put found l }

/-- Adds all on the way of a path.  Answers where the way ends. -/
def addWay (l : Location) (d : Disk) : List String → IO (Location × Disk)
  | [] => return (l, d)
  | piece :: rest => do
      let l := if Path.isIdle piece then l else if piece = ".." then l.dropLast else l ++ [piece]
      addWay l (← addPlace l d) rest

def addPath (path : String) (d : Disk) : IO (Location × Disk) :=
  addWay (d.startOf path) d (Path.pieces path)

def addSettings (l : Location) (d : Disk) : IO Disk := do
  let places := Config.fileNames.map fun name => l ++ [name]
  places.foldlM (fun d place => addPlace place d) d

def addTarget (path : String) (d : Disk) : IO Disk := do
  let (l, d) ← addPath path d
  if d.isFolderAt l then
    let below ← readEntries (← (← IO.FS.realPath (Disk.pathOf l)).readDir).toList
    return { d with root := d.root.put below l }
  else addSettings l.dropLast d

def addGiven (path? : Option String) (d : Disk) : IO Disk := do
  match path? with
  | some path => return (← addPath path d).2
  | none => return d

/-- The part of the disk that a command looks at. -/
def picture (c : Cli.Command) : IO Disk := do
  let here := Path.pieces (← IO.currentDir).toString
  let (l, d) ← addWay [] ⟨folder, []⟩ here
  let d := { d with workingFolder := l }
  match c with
  | .lint o => addGiven o.config? (← addTarget o.target d)
  | .rules o => addGiven o.config? (← addSettings l d)
  | .init o => return (← addPath o.output d).2

def save (c : Cli.Command) (outcome : Cli.Outcome) : IO Unit := do
  match c, outcome.exitCode with
  | .init o, 0 =>
      let parents := String.intercalate "/" (Path.pieces o.output).dropLast
      if !parents.isEmpty then IO.FS.createDirAll parents
      match outcome.disk.read o.output with
      | .ok text => IO.FS.writeFile o.output text
      | .error _ => return
  | _, _ => return

def run (c : Cli.Command) : IO UInt32 := do
  let colored ← (← IO.getStdout).isTty
  let outcome := c.run colored (← picture c)
  save c outcome
  IO.print outcome.output
  IO.eprint outcome.errors
  return outcome.exitCode.toUInt32

def refuse (e : Cli.UsageError) : IO UInt32 := do
  if e.isAnswer then IO.println e.message else IO.eprintln e.message
  return e.exitCode.toUInt32

end TreeLint.Program

def main (arguments : List String) : IO UInt32 := do
  match TreeLint.Cli.Command.ofArguments arguments with
  | .error e => TreeLint.Program.refuse e
  | .ok c =>
      try TreeLint.Program.run c
      catch e =>
        IO.eprintln s!"Error: {e}"
        return 2

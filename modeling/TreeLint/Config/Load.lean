import TreeLint.Config.RuleSet
import TreeLint.Files.Disk

namespace TreeLint.Config

/-- The names of files with settings; an earlier one wins. -/
def fileNames : List String := ["checkwalk.yaml", ".checkwalk.yaml"]

def discover? (d : Disk) (folder : Location) : Option Location :=
  (fileNames.map fun name => folder ++ [name]).find? d.isFileAt

def ofText (path : String) (content : Except FileError String) : Except ConfigError Config := do
  let text ← content.mapError fun e => .unreadable path e.message
  let c ← (ofYaml text).mapError (.malformed path)
  c.validate
  return c

/-- The settings in the given file, else those of the folder, else none. -/
def load (d : Disk) (given? : Option String) (folder : Location) : Except ConfigError Config :=
  match given?, discover? d folder with
  | some path, _ => ofText path (d.read path)
  | none, some l => ofText (Disk.pathOf l) (d.readAt l)
  | none, none => .ok default

end TreeLint.Config

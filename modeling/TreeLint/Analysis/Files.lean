import TreeLint.Analysis.Source
import TreeLint.Files.Disk

namespace TreeLint

def skippedFolders : List String := ["vendor", "node_modules", "build", "target", "out"]

def isSkipped (folder : String) : Bool :=
  folder.startsWith "." || skippedFolders.contains folder

namespace FileTree

mutual
def filesBelow (above : Location) : FileTree → List Location
  | file _ => [above]
  | folder entries => filesOf above entries

def filesOf (above : Location) : List (String × FileTree) → List Location
  | [] => []
  | (name, entry) :: rest =>
      let found := match entry with
        | file _ => [above ++ [name]]
        | folder entries => if isSkipped name then [] else filesOf (above ++ [name]) entries
      found ++ filesOf above rest
end

end FileTree

def compareLocations : Location → Location → Ordering
  | [], [] => .eq
  | [], _ :: _ => .lt
  | _ :: _, [] => .gt
  | a :: as, b :: bs => (compare a b).then (compareLocations as bs)

structure FileFilter where
  /-- Whether a path below the folder is left out. -/
  excludes : String → Bool
  includesTests : Bool

namespace FileFilter

def ofConfig (c : Config) : Except ConfigError FileFilter := do
  let globs ← c.excludedGlobs
  return ⟨fun path => globs.any (·.fits path), c.includesTests⟩

def isSource (path : String) : Bool := Path.extension? path == some "java"

def accepts (f : FileFilter) (path : String) : Bool :=
  isSource path && !f.excludes path && (f.includesTests || !Path.isTest path)

def collect (f : FileFilter) (t : FileTree) : List Location :=
  let found := (t.filesBelow []).filter fun l => f.accepts (String.intercalate "/" l)
  found.mergeSort fun a b => (compareLocations a b).isLE

end FileFilter

/-- Analyzes one file under the name that results use for it.  A file that cannot be read is a
failure of its own. -/
def analyzeFile (p : Java.Parser) (d : Disk) (rules : RuleSet) (name : String) (l : Location) :
    AnalysisResult :=
  let outcome := match d.readAt l with
    | .ok source => (analyzeText p name source rules).mapError SourceError.message
    | .error e => .error e.message
  match outcome with
  | .ok result => result
  | .error message => { AnalysisResult.empty with failures := [⟨name, message⟩] }

def analyzeFiles (p : Java.Parser) (d : Disk) (rules : RuleSet) (folder : Location)
    (files : List Location) : AnalysisResult :=
  let results := files.map fun way =>
    analyzeFile p d rules (String.intercalate "/" way) (folder ++ way)
  (AnalysisResult.mergeAll results).sort

end TreeLint

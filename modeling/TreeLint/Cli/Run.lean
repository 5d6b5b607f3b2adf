import TreeLint.Analysis.Files
import TreeLint.Cli.Arguments
import TreeLint.Config.Load
import TreeLint.Config.Template
import TreeLint.Json.Encode
import TreeLint.Report.Pretty

namespace TreeLint.Cli

open Report Text

/-- What a command writes, and the disk that it leaves behind. -/
structure Outcome where
  exitCode : Nat
  output : String
  errors : String
  disk : Disk

namespace Outcome

def refused (d : Disk) (reason : String) : Outcome := ⟨2, "", s!"Error: {reason}\n", d⟩

def ofExcept (d : Disk) : Except String Outcome → Outcome
  | .ok outcome => outcome
  | .error reason => refused d reason

end Outcome

def loadConfig (d : Disk) (given? : Option String) (folder : Location) : Except String Config :=
  (Config.load d given? folder).mapError fun e => s!"invalid configuration: {e.message}"

structure Selection where
  folder : Location
  files : List Location

/-- The folder of a file is the one that it stands in; a file that is named is always
analyzed. -/
def baseOf (d : Disk) (l : Location) : Location := if d.isFolderAt l then l else l.dropLast

def selectBy (f : FileFilter) (d : Disk) (l : Location) : Selection :=
  if d.isFolderAt l then
    let tree := (d.root.find l).toOption.getD (.folder [])
    ⟨l, f.collect tree⟩
  else ⟨l.dropLast, [l.drop (l.length - 1)]⟩

def select (d : Disk) (c : Config) (l : Location) : Except ConfigError Selection := do
  let filter ← FileFilter.ofConfig c
  return selectBy filter d l

/-- 2 when something could not be analyzed, 1 when there are errors. -/
def exitCodeOf (r : AnalysisResult) : Nat :=
  if r.isIncomplete then 2 else if r.hasErrors then 1 else 0

def configPath? (o : LintOptions) (d : Disk) (folder : Location) : Option String :=
  o.config? <|> (Config.discover? d folder).map Disk.pathOf

def reportText (colored : Bool) (o : LintOptions) (config? : Option String) (folder : Location)
    (rules : RuleSet) (r : AnalysisResult) : String :=
  match o.format with
  | "json" => jsonText o.target config? r
  | "sarif" =>
      (sarif (Disk.pathOf folder) (rules.specs.map (·.metadata)) r).pretty ++ "\n"
  | _ => pretty colored o.target config? o.showsSuppressed r

def plan (o : LintOptions) (d : Disk) : Except String (RuleSet × Selection) := do
  unless ["pretty", "json", "sarif"].contains o.format do
    throw s!"invalid format {quoted o.format}, must be 'pretty', 'json', or 'sarif'"
  let l ← (d.locate o.target).mapError fun e =>
    s!"cannot access path {quotedPath o.target}: {e.message}"
  let config ← loadConfig d o.config? (baseOf d l)
  let rules ← (RuleSet.ofConfig config).mapError fun e => ConfigError.message e
  let selection ← (select d config l).mapError fun e => ConfigError.message e
  return (rules, selection)

def lint (p : Java.Parser) (colored : Bool) (o : LintOptions) (d : Disk) :
    Except String Outcome := do
  let (rules, selection) ← plan o d
  if selection.files.isEmpty then
    return ⟨0, "", "Warning: no Java files to scan\n", d⟩
  let result := analyzeFiles p d rules selection.folder selection.files
  let config? := configPath? o d selection.folder
  return ⟨exitCodeOf result, reportText colored o config? selection.folder rules result, "", d⟩

def specJson (s : RuleSpec) : Json :=
  .object (s.metadata.members ++ [("enabled", .bool s.enabled)])

def specLines (colored : Bool) (s : RuleSpec) : List String :=
  let m := s.metadata
  let state := if s.enabled then paint colored .green "on " else paint colored .dimmed "off"
  let columns := Paint.padRight 26 m.key ++ " " ++ Paint.padRight 8 m.severity.name ++ " " ++ m.name
  let tags := "tags: " ++ String.intercalate ", " m.tags
  ("  " ++ state ++ " " ++ columns) ::
    if m.tags.isEmpty then [] else ["      " ++ paint colored .dimmed tags]

def rules (colored : Bool) (o : RulesOptions) (d : Disk) : Except String Outcome := do
  let config ← loadConfig d o.config? d.workingFolder
  let set ← (RuleSet.ofConfig config).mapError fun e => ConfigError.message e
  match o.format with
  | "json" => return ⟨0, (Json.array (set.specs.map specJson)).pretty ++ "\n", "", d⟩
  | "pretty" =>
      let lines := ["Built-in rules:", ""] ++ set.specs.flatMap (specLines colored)
      return ⟨0, textOf lines, "", d⟩
  | other => throw s!"invalid format {quoted other}, must be 'pretty' or 'json'"

def makeParents (d : Disk) (path : String) : Disk × Option FileError :=
  match Path.parentNames? path with
  | none => (d, none)
  | some names =>
      if names = ["."] then (d, none)
      else if names.head? = some "/" then d.makeFolders [] names.tail.reverse
      else d.makeFolders d.workingFolder names.reverse

def nextSteps (path : String) : List String :=
  [s!"Created {path}", "", "Next steps:", s!"  1. Enable or tune rules in {path}",
    s!"  2. Run: checkwalk lint . --config {path}"]

def init (o : InitOptions) (d : Disk) : Outcome :=
  if d.exists? o.output && !o.force then
    .refused d (s!"file already exists: {o.output}\n" ++
      "Remove it, pass --force, or use --output to specify a different path")
  else
    match makeParents d o.output with
    | (d, some e) => .refused d s!"failed to create directory: {e.message}"
    | (d, none) =>
        match d.write o.output Config.template with
        | .error e => .refused d s!"failed to write configuration: {e.message}"
        | .ok d => ⟨0, textOf (nextSteps o.output), "", d⟩

def Command.run (colored : Bool) (d : Disk) : Command → Outcome
  | lint o => .ofExcept d (Cli.lint Java.reader colored o d)
  | rules o => .ofExcept d (Cli.rules colored o d)
  | init o => Cli.init o d

end TreeLint.Cli

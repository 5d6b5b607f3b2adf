import TreeLint.Report.Sarif
import TreeLint.Text.Quoted

namespace TreeLint.Report

open Text

inductive Paint where
  | red
  | green
  | yellow
  | blue
  | dimmed
  | bold
  | boldCyan
  | boldRed
  deriving DecidableEq, Repr

namespace Paint

def escape : String := (Char.ofNat 27).toString

def codes : Paint → String
  | red => "31"
  | green => "32"
  | yellow => "33"
  | blue => "34"
  | dimmed => "2"
  | bold => "1"
  | boldCyan => "1;36"
  | boldRed => "1;31"

def reset : String := escape ++ "[0m"

/-- Starts the paint again behind each end of a paint inside the text. -/
def resume (start : String) (text : String) : String :=
  String.intercalate (reset ++ start) (text.splitOn reset)

def padRight (width : Nat) (text : String) : String :=
  text ++ String.ofList (List.replicate (width - text.length) ' ')

/-- The text in paint, or as it is when colors are off, at least so wide. -/
def apply (p : Paint) (colored : Bool) (text : String) (width : Nat) : String :=
  if colored then
    let start := escape ++ "[" ++ p.codes ++ "m"
    start ++ padRight width (resume start text) ++ reset
  else padRight width text

end Paint

section

variable (colored : Bool)

def paint (p : Paint) (text : String) : String := p.apply colored text 0

def ruleColumn (rule : String) : String := Paint.dimmed.apply colored rule 26

def detailIndent : String := "            "

def summaryLine (r : AnalysisResult) : String :=
  let verdict :=
    if r.issues.isEmpty then paint colored .green "✓ CLEAN"
    else if r.hasErrors then paint colored .red "✗ FAIL"
    else paint colored .yellow "! ISSUES"
  let unresolved :=
    if r.unresolved = 0 then ""
    else "  " ++ paint colored .dimmed s!"({r.unresolved} without symbols)"
  let suppressed :=
    if r.suppressed.isEmpty then ""
    else "  " ++ paint colored .dimmed s!"({r.suppressed.length} suppressed)"
  "  " ++ verdict ++ s!"  Files: {r.scanned}" ++ unresolved ++ suppressed

def severityTag : Severity → String
  | .error => paint colored .red "ERROR"
  | .warning => paint colored .yellow "WARN "
  | .info => paint colored .blue "INFO "

def issueLines (i : Issue) : List String :=
  let line := if i.line = 0 then "" else paint colored .dimmed s!":{i.line}"
  let column := match i.column? with
    | some column => paint colored .dimmed s!":{column}"
    | none => ""
  ["    " ++ severityTag colored i.severity ++ "    " ++ ruleColumn colored i.rule ++
      paint colored .blue i.file ++ line ++ column,
    detailIndent ++ i.message, ""]

def issueSection (r : AnalysisResult) : List String :=
  if r.issues.isEmpty then []
  else
    ["  " ++ paint colored .bold "Issues" ++ s!" ({r.issues.length}):", ""] ++
      r.issues.flatMap (issueLines colored) ++ [""]

def faultLines (rule file detail : String) : List String :=
  ["    " ++ ruleColumn colored rule ++ paint colored .blue file, detailIndent ++ detail]

def faultSection (r : AnalysisResult) : List String :=
  if !r.isIncomplete then []
  else
    let count := r.faults.length + r.failures.length
    ["  " ++ paint colored .boldRed "Not analyzed" ++ s!" ({count}):", ""] ++
      r.faults.flatMap (fun f => faultLines colored f.rule f.file s!"{f.message} ({f.kind})") ++
      r.failures.flatMap (fun f => faultLines colored "-" f.file f.error) ++ [""]

def suppressedLines (s : SuppressedIssue) : List String :=
  let place :=
    if s.suppression.scope = .file then paint colored .dimmed ":* (file)"
    else if s.issue.line = 0 then ""
    else paint colored .dimmed s!":{s.issue.line}"
  let reason := s.suppression.reason
  ("    " ++ ruleColumn colored s.issue.rule ++ paint colored .blue s.issue.file ++ place) ::
    if reason.isEmpty then []
    else [detailIndent ++ paint colored .dimmed ("reason: " ++ quoted reason)]

def suppressedSection (showsSuppressed : Bool) (r : AnalysisResult) : List String :=
  if r.suppressed.isEmpty then []
  else
    ["  " ++ paint colored .dimmed "Suppressed" ++ s!" ({r.suppressed.length}):"] ++
      (if showsSuppressed then "" :: r.suppressed.flatMap (suppressedLines colored)
        else ["    " ++ paint colored .dimmed "(use --show-suppressed to see details)"]) ++
      [""]

def statusLine (r : AnalysisResult) : String :=
  let counts := s!"{r.count .error} error(s), {r.count .warning} warning(s), " ++
    s!"{r.count .info} info"
  let verdict :=
    if r.isIncomplete then paint colored .red "INCOMPLETE"
    else if r.hasErrors then paint colored .red "FAILED"
    else paint colored .green "PASSED"
  "  " ++ paint colored .dimmed counts ++ "  " ++ verdict

def prettyLines (path : String) (config? : Option String) (showsSuppressed : Bool)
    (r : AnalysisResult) : List String :=
  ["", "  " ++ paint colored .boldCyan toolName ++ " v" ++ version, "",
    "  " ++ paint colored .dimmed "Scanning: " ++ path,
    "  " ++ paint colored .dimmed "Config:   " ++ config?.getD "(defaults)", "",
    summaryLine colored r, ""] ++
    issueSection colored r ++ faultSection colored r ++
    suppressedSection colored showsSuppressed r ++ [statusLine colored r, ""]

end

def textOf (lines : List String) : String := String.join (lines.map (· ++ "\n"))

def pretty (colored : Bool) (path : String) (config? : Option String) (showsSuppressed : Bool)
    (r : AnalysisResult) : String :=
  textOf (prettyLines colored path config? showsSuppressed r)

end TreeLint.Report

import TreeLint.Rule.Issue
import TreeLint.Text.Blank
import TreeLint.Text.Letter
import TreeLint.Text.Lines

/-! Comments in a source text that silence issues. -/

namespace TreeLint

inductive Scope where
  | line
  | nextLine
  | file
  deriving DecidableEq, Repr

namespace Scope

def all : List Scope := [line, nextLine, file]

def name : Scope → String
  | line => "line"
  | nextLine => "next_line"
  | file => "file"

def ofName? (text : String) : Option Scope := all.find? (·.name == text)

end Scope

structure Suppression where
  /-- The key of a rule, or `*` for all rules. -/
  rule : String
  reason : String
  /-- The line of the comment; 0 when it holds for the whole file. -/
  line : Nat
  scope : Scope
  deriving DecidableEq, Repr

namespace Suppression

def silences (s : Suppression) (issue : Issue) : Bool :=
  (s.rule == "*" || s.rule == issue.rule) &&
    match s.scope with
    | .file => true
    | .line => issue.line == s.line
    | .nextLine => issue.line == s.line + 1

end Suppression

namespace Directive

open Text

inductive Command where
  | ignore
  | ignoreFile
  | ignoreNextLine
  deriving DecidableEq, Repr

structure Found where
  before : List Char
  command : Command
  rule : List Char
  reason : List Char
  after : List Char
  deriving DecidableEq, Repr

def commandWord (text : List Char) : Option (Command × List Char) :=
  match dropPrefix? "checkwalk:ignore".toList text with
  | none => none
  | some rest =>
      match dropPrefix? "-file".toList rest, dropPrefix? "-next-line".toList rest with
      | some rest, _ => some (.ignoreFile, rest)
      | none, some rest => some (.ignoreNextLine, rest)
      | none, none => some (.ignore, rest)

/-- The command, and the text from the rule on.  White space has to follow the command. -/
def opening (text : List Char) : Option (Command × List Char) :=
  match commandWord (trimStart text) with
  | some (command, c :: rest) => if isBlank c then some (command, trimStart rest) else none
  | _ => none

def dashed? : List Char → Option (List Char)
  | '-' :: rest => some (trimStart rest)
  | _ => none

def lineBody (text : List Char) : Option (Command × List Char × List Char × List Char) :=
  match opening text with
  | some (command, rest) =>
      let rule := rest.takeWhile (!isBlank ·)
      let rest := trimStart (rest.dropWhile (!isBlank ·))
      if rule.isEmpty then none
      else
        match dashed? rest with
        | some reason => some (command, rule, trimEnd reason, [])
        | none => some (command, rule, [], rest)
  | none => none

def untilClose : List Char → Option (List Char × List Char)
  | [] => none
  | '*' :: '/' :: rest => some ([], rest)
  | c :: rest => (untilClose rest).map fun (inside, after) => (c :: inside, after)

/-- The reason and what follows the comment, once the rule is complete. -/
def blockEnd (text : List Char) : Option (List Char × List Char) :=
  let rest := trimStart text
  match (dashed? rest).bind untilClose with
  | some (reason, after) => some (trimEnd reason, after)
  | none => (dropPrefix? ['*', '/'] rest).map fun after => ([], after)

/-- Takes the shortest rule after which the comment can end. -/
def blockRule (rule : List Char) : List Char → Option (List Char × List Char × List Char)
  | [] => none
  | c :: rest =>
      if isBlank c then none
      else
        match blockEnd rest with
        | some (reason, after) => some ((c :: rule).reverse, reason, after)
        | none => blockRule (c :: rule) rest

def blockBody (text : List Char) : Option (Command × List Char × List Char × List Char) :=
  match opening text with
  | some (command, rest) =>
      (blockRule [] rest).map fun (rule, reason, after) => (command, rule, reason, after)
  | none => none

/-- The first directive in the line that opens with the given mark; what is behind is
reversed. -/
def findFrom (mark : List Char)
    (body : List Char → Option (Command × List Char × List Char × List Char))
    (behind : List Char) (line : List Char) : Option Found :=
  match line with
  | [] => none
  | c :: rest =>
      match (dropPrefix? mark (c :: rest)).bind body with
      | some (command, rule, reason, after) => some ⟨behind.reverse, command, rule, reason, after⟩
      | none => findFrom mark body (c :: behind) rest

/-- Line comments are looked for before block comments. -/
def find (line : List Char) : Option Found :=
  findFrom ['/', '/'] lineBody [] line <|> findFrom ['/', '*'] blockBody [] line

def isBoundary (c? : Option Char) : Bool := !c?.any isWord

def hasMark (previous : Char) (text : List Char) : Bool :=
  match text with
  | [] => false
  | c :: rest =>
      (isBoundary (some previous) &&
        (dropPrefix? "NOSONAR".toList (c :: rest)).any fun after => isBoundary after.head?) ||
        hasMark c rest

def silencesLine : List Char → Bool
  | [] => false
  | '/' :: '/' :: rest => hasMark '/' rest
  | _ :: rest => silencesLine rest

end Directive

namespace Suppression

open Text Directive

/-- Directives for the whole file count in this many lines even after code has begun. -/
def headerLines : Nat := 10

def isCommentOrEmpty (line : List Char) : Bool :=
  match trim line with
  | [] | '*' :: _ | '/' :: '/' :: _ | '/' :: '*' :: _ => true
  | _ => false

/-- A directive that stands alone on its line is for the line below. -/
def scopeOf (found : Found) : Scope :=
  match found.command with
  | .ignoreFile => .file
  | .ignoreNextLine => .nextLine
  | .ignore =>
      if (trim found.before).isEmpty && (trim found.after).isEmpty then .nextLine else .line

def ofLine? (inHeader : Bool) (number : Nat) (line : List Char) : Option Suppression :=
  match find line with
  | some found =>
      let scope := scopeOf found
      if scope = .file && !inHeader && headerLines < number then none
      else
        some ⟨String.ofList found.rule, String.ofList (trim found.reason),
          if scope = .file then 0 else number, scope⟩
  | none => if silencesLine line then some ⟨"*", "NOSONAR", number, .line⟩ else none

/-- Reads lines from the given number on.  The header lasts until the first line that is
neither empty nor a comment. -/
def ofLines (inHeader : Bool) (number : Nat) : List (List Char) → List Suppression
  | [] => []
  | line :: rest =>
      let inHeader := inHeader && isCommentOrEmpty line
      (ofLine? inHeader number line).toList ++ ofLines inHeader (number + 1) rest

def ofSource (source : String) : List Suppression := ofLines true 1 (lines source)

end Suppression

structure SuppressedIssue where
  issue : Issue
  suppression : Suppression
  deriving DecidableEq, Repr

namespace Suppression

/-- Splits the issues into active and silenced ones.  The first directive that fits an issue
is the one that silences it. -/
def separate (suppressions : List Suppression) : List Issue → List Issue × List SuppressedIssue
  | [] => ([], [])
  | issue :: rest =>
      let (active, suppressed) := separate suppressions rest
      match suppressions.find? (·.silences issue) with
      | some suppression => (active, ⟨issue, suppression⟩ :: suppressed)
      | none => (issue :: active, suppressed)

def filter (issues : List Issue) (suppressions : List Suppression) :
    List Issue × List SuppressedIssue :=
  if suppressions.isEmpty then (issues, []) else separate suppressions issues

end Suppression

end TreeLint

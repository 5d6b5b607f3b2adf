import TreeLint.Text.Blank
import TreeLint.Text.Letter
import TreeLint.Tree.Span

/-! The lexemes of a Java source.  Each `>` is a lexeme of its own, since two of them can close
two lists of type arguments; lexemes that follow each other without a gap are marked. -/

namespace TreeLint.Java

open Text

inductive LexemeSort where
  | word
  | symbol
  /-- A number or a character, under the grammar's name for it. -/
  | literal (raw : String)
  | comment (raw : String)
  /-- A part of a string. -/
  | content (raw : String)
  /-- An escape in a text block that the tree does not show. -/
  | hidden
  | blank
  /-- A character that starts no lexeme. -/
  | stray
  deriving DecidableEq, Repr

structure Lexeme where
  sort : LexemeSort
  text : String
  span : Span
  /-- Whether nothing stands between this lexeme and the one before. -/
  glued : Bool
  deriving DecidableEq, Repr

namespace Lexeme

def isComment (x : Lexeme) : Bool :=
  match x.sort with
  | .comment _ => true
  | _ => false

end Lexeme

namespace Lexer

/-- What a scan finds next: its sort, and how many characters follow the first one. -/
abbrev Extent := LexemeSort × Nat

/-- The white space between tokens, which is that of ASCII. -/
def isGap (c : Char) : Bool := c == ' ' || (9 ≤ c.toNat && c.toNat ≤ 13)

def isWordStart (c : Char) : Bool := c == '_' || c == '$' || isIdentifierStart c

def isWordContinue (c : Char) : Bool :=
  c == '_' || c == '$' || c.toNat == 0xa2 || isIdentifierContinue c

def isHexDigit (c : Char) : Bool :=
  c.isDigit || ('a' ≤ c && c ≤ 'f') || ('A' ≤ c && c ≤ 'F')

def digitsLength (isDigit : Char → Bool) (text : List Char) : Nat :=
  let run := text.takeWhile fun c => isDigit c || c == '_'
  match run with
  | '_' :: _ => 0
  | _ => (run.reverse.dropWhile (· == '_')).length

def oneOf (options : List Char) : List Char → Nat
  | c :: _ => if options.contains c then 1 else 0
  | [] => 0

def exponentLength (marks : List Char) (text : List Char) : Nat :=
  match text with
  | c :: rest =>
      if marks.contains c then
        let sign := oneOf ['+', '-'] rest
        match digitsLength Char.isDigit (rest.drop sign) with
        | 0 => 0
        | n => 1 + sign + n
      else 0
  | [] => 0

def integerSuffix (text : List Char) : Nat := oneOf ['l', 'L'] text

def floatSuffix (text : List Char) : Nat := oneOf ['f', 'F', 'd', 'D'] text

def hexExtent (text : List Char) : Option Extent :=
  let whole := digitsLength isHexDigit text
  let rest := text.drop whole
  let fraction := match rest with
    | '.' :: more => 1 + digitsLength isHexDigit more
    | _ => 0
  let exponent := exponentLength ['p', 'P'] (rest.drop fraction)
  if whole = 0 && fraction ≤ 1 then none
  else if fraction = 0 && exponent = 0 then
    some (.literal "hex_integer_literal", whole + integerSuffix rest)
  else
    let suffix := if exponent = 0 then 0 else floatSuffix (rest.drop (fraction + exponent))
    some (.literal "hex_floating_point_literal", whole + fraction + exponent + suffix)

def wholeExtent (raw : String) (isDigit : Char → Bool) (text : List Char) : Option Extent :=
  match digitsLength isDigit text with
  | 0 => none
  | n => some (.literal raw, n + integerSuffix (text.drop n))

def decimalExtent (text : List Char) : Extent :=
  let whole := digitsLength Char.isDigit text
  let rest := text.drop whole
  let fraction := match rest with
    | '.' :: more => 1 + digitsLength Char.isDigit more
    | _ => 0
  let exponent := exponentLength ['e', 'E'] (rest.drop fraction)
  let suffix := floatSuffix (rest.drop (fraction + exponent))
  if fraction + exponent + suffix = 0 then
    let digits := text.take whole
    let raw :=
      if digits.head? = some '0' && 1 < whole then
        if digits.all fun c => c < '8' || c == '_' then .literal "octal_integer_literal"
        else .stray
      else .literal "decimal_integer_literal"
    (raw, whole + integerSuffix rest)
  else (.literal "decimal_floating_point_literal", whole + fraction + exponent + suffix)

def markedExtent (text : List Char) : Option Extent :=
  match text with
  | '0' :: 'x' :: rest | '0' :: 'X' :: rest => hexExtent rest
  | '0' :: 'b' :: rest | '0' :: 'B' :: rest =>
      wholeExtent "binary_integer_literal" (fun c => c == '0' || c == '1') rest
  | '0' :: 'o' :: rest | '0' :: 'O' :: rest =>
      wholeExtent "octal_integer_literal" (fun c => '0' ≤ c && c < '8') rest
  | _ => none

def numberExtent (text : List Char) : Extent :=
  match markedExtent text with
  | some (sort, n) => (sort, 2 + n)
  | none => decimalExtent text

def blockCommentLength : List Char → Option Nat
  | [] => none
  | '*' :: '/' :: _ => some 2
  | _ :: rest => (blockCommentLength rest).map (· + 1)

def characterLength : List Char → Option Nat
  | [] | '\n' :: _ => none
  | '\'' :: _ => some 1
  | '\\' :: _ :: rest => (characterLength rest).map (· + 2)
  | _ :: rest => (characterLength rest).map (· + 1)

def hexDigits? (count : Nat) (text : List Char) : Option Nat :=
  if count ≤ ((text.take count).takeWhile isHexDigit).length then some count else none

def escapeLength? (text : List Char) : Option Nat :=
  match text with
  | 'u' :: rest => (hexDigits? 4 rest).map (· + 1)
  | 'x' :: rest => (hexDigits? 2 rest).map (· + 1)
  | c :: _ =>
      if '0' ≤ c && c ≤ '7' then
        some ((text.take 3).takeWhile fun d => '0' ≤ d && d ≤ '7').length
      else some 1
  | [] => none

/-- The characters whose escapes show in a text block even if they have no other character. -/
def shownEscapes : List Char := "bfnrts'\"\\".toList

def isPlain (c : Char) : Bool := c != '"' && c != '\\'

inductive Frame where
  | string
  | textBlock
  /-- Code in a string, with the number of braces open in it. -/
  | code (braces : Nat)
  deriving DecidableEq, Repr

/-- Symbols of more than one character, the longest first. -/
def longSymbols : List (List Char) :=
  ["<<=", "...", "->", "::", "++", "--", "&&", "||", "==", "!=", "<=", "<<", "+=", "-=", "*=",
    "/=", "&=", "|=", "^=", "%="].map String.toList

def symbolChars : List Char := "(){}[];,.@=<>!~?:+-*/&|^%".toList

def symbolLength (text : List Char) : Option Nat :=
  match longSymbols.find? fun s => (dropPrefix? s text).isSome with
  | some s => some s.length
  | none => match text with
    | c :: _ => if symbolChars.contains c then some 1 else none
    | [] => none

def codeExtent (c : Char) (rest : List Char) : Extent :=
  if isGap c then (.blank, (rest.takeWhile isGap).length)
  else if isWordStart c then (.word, (rest.takeWhile isWordContinue).length)
  else if c.isDigit || (c == '.' && rest.head?.any Char.isDigit) then
    let (sort, n) := numberExtent (c :: rest)
    (sort, n - 1)
  else
    match c, rest with
    | '/', '/' :: _ => (.comment "line_comment", (rest.takeWhile (· != '\n')).length)
    | '/', '*' :: more =>
        match blockCommentLength more with
        | some n => (.comment "block_comment", n + 1)
        | none => (.symbol, 0)
    | '"', '"' :: '"' :: _ => (.symbol, 2)
    | '"', _ => (.symbol, 0)
    | '\'', _ =>
        match characterLength rest with
        | some n => (if n = 1 then .stray else .literal "character_literal", n)
        | none => (.stray, 0)
    | _, _ =>
        match dropPrefix? "@interface".toList (c :: rest), symbolLength (c :: rest) with
        | some _, _ => (.symbol, 9)
        | none, some n => (.symbol, n - 1)
        | none, none => (.stray, 0)

def stringExtent (c : Char) (rest : List Char) : Extent :=
  match c, rest with
  | '"', _ => (.symbol, 0)
  | '\\', '{' :: _ => (.symbol, 1)
  | '\\', _ =>
      match escapeLength? rest with
      | some n => (.content "escape_sequence", n)
      | none => (.stray, 0)
  | _, _ => (.content "string_fragment", (rest.takeWhile isPlain).length)

/-- Length of a part of a text block behind a quote; escaped quotes belong to it. -/
def quotedLength : List Char → Nat
  | '\\' :: '"' :: rest => 2 + quotedLength rest
  | c :: rest => if isPlain c then 1 + quotedLength rest else 0
  | [] => 0

def textBlockExtent (c : Char) (rest : List Char) : Extent :=
  match c, rest with
  | '"', '"' :: '"' :: _ => (.symbol, 2)
  | '"', _ => (.content "multiline_string_fragment", quotedLength rest)
  | '\\', '{' :: _ => (.symbol, 1)
  | '\\', d :: _ =>
      match escapeLength? rest with
      | some n =>
          if 1 < n || shownEscapes.contains d then (.content "escape_sequence", n) else (.hidden, n)
      | none => (.hidden, 1)
  | _, _ => (.content "multiline_string_fragment", (rest.takeWhile isPlain).length)

def extent (frames : List Frame) (c : Char) (rest : List Char) : Extent :=
  match frames with
  | .string :: _ => stringExtent c rest
  | .textBlock :: _ => textBlockExtent c rest
  | _ => codeExtent c rest

def passSymbol (frames : List Frame) (text : List Char) : List Frame :=
  match frames, text with
  | .string :: outer, ['"'] => outer
  | .textBlock :: outer, ['"', '"', '"'] => outer
  | _, ['\\', '{'] => .code 0 :: frames
  | _, ['"'] => .string :: frames
  | _, ['"', '"', '"'] => .textBlock :: frames
  | .code n :: outer, ['{'] => .code (n + 1) :: outer
  | .code n :: outer, ['}'] => if n = 0 then outer else .code (n - 1) :: outer
  | _, _ => frames

structure Place where
  byte : Nat
  point : Point
  deriving DecidableEq, Repr

namespace Place

def start : Place := ⟨0, 0, 0⟩

def pass (p : Place) (c : Char) : Place :=
  if c = '\n' then ⟨p.byte + c.utf8Size, p.point.row + 1, 0⟩
  else ⟨p.byte + c.utf8Size, p.point.row, p.point.column + c.utf8Size⟩

def passAll (p : Place) (text : List Char) : Place := text.foldl pass p

def spanTo (p q : Place) : Span := .ofPoints p.byte q.byte p.point q.point

end Place

def scan (frames : List Frame) (place : Place) (glued : Bool) (text : List Char) :
    List Lexeme × Place :=
  match text with
  | [] => ([], place)
  | c :: rest =>
      let (sort, n) := extent frames c rest
      let spelled := c :: rest.take n
      let stop := place.passAll spelled
      match sort with
      | .blank => scan frames stop false (rest.drop n)
      | _ =>
          let frames := if sort = .symbol then passSymbol frames spelled else frames
          let (more, last) := scan frames stop true (rest.drop n)
          (⟨sort, String.ofList spelled, place.spanTo stop, glued⟩ :: more, last)
termination_by text.length

end Lexer

/-- The lexemes of a source and the place where it ends.  A byte order mark in front is passed
over. -/
def lexemes (source : String) : List Lexeme × Lexer.Place :=
  match source.toList with
  | c :: rest =>
      if c.toNat = 0xfeff then Lexer.scan [] (Lexer.Place.start.pass c) false rest
      else Lexer.scan [] .start false (c :: rest)
  | [] => ([], .start)

end TreeLint.Java

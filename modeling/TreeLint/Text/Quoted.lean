import TreeLint.Text.Hex
import TreeLint.Text.Hidden

namespace TreeLint.Text

/-- A character inside quotes; a backslash goes in front of the given marks. -/
def quotedChar (marks : List Char) (c : Char) : List Char :=
  if marks.contains c then ['\\', c]
  else if c = '\n' then ['\\', 'n']
  else if c = '\r' then ['\\', 'r']
  else if c = '\t' then ['\\', 't']
  else if c.toNat = 0 then ['\\', '0']
  else if isHidden c then ['\\', 'u', '\x7b'] ++ hexText c.toNat ++ ['\x7d']
  else [c]

def quotedWith (marks : List Char) (s : String) : String :=
  String.ofList ('"' :: s.toList.flatMap (quotedChar marks) ++ ['"'])

def quoted (s : String) : String := quotedWith ['"', '\\'] s

def quotedPath (s : String) : String := quotedWith ['"', '\'', '\\'] s

end TreeLint.Text

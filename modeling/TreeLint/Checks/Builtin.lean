import TreeLint.Checks.EmptyStatement
import TreeLint.Checks.InheritanceDepth
import TreeLint.Checks.ThreadRun

namespace TreeLint

/-- What a rule was set to, beyond its severity and whether it is on. -/
inductive Params where
  | none
  | inheritanceDepth (max : Nat)
  deriving DecidableEq, Repr

inductive Builtin where
  | inheritanceDepth
  | emptyStatement
  | threadRun
  deriving DecidableEq, Repr

namespace Builtin

def all : List Builtin := [inheritanceDepth, emptyStatement, threadRun]

def metadata : Builtin → Metadata
  | inheritanceDepth => Checks.InheritanceDepth.metadata
  | emptyStatement => Checks.EmptyStatement.metadata
  | threadRun => Checks.ThreadRun.metadata

def key (b : Builtin) : String := b.metadata.key

def parameters : Builtin → List String
  | inheritanceDepth => ["max"]
  | emptyStatement | threadRun => []

def defaultParams : Builtin → Params
  | inheritanceDepth => .inheritanceDepth Checks.InheritanceDepth.defaultMax
  | emptyStatement | threadRun => .none

def behavior {σ : Type} (params : Params) : Builtin → Behavior σ
  | inheritanceDepth =>
      match params with
      | .inheritanceDepth max => Checks.InheritanceDepth.behavior max
      | .none => Checks.InheritanceDepth.behavior Checks.InheritanceDepth.defaultMax
  | emptyStatement => Checks.EmptyStatement.behavior
  | threadRun => Checks.ThreadRun.behavior

def isKnown (key : String) : Bool := all.any fun b => b.key == key

def allMetadata : List Metadata := all.map metadata

end Builtin

end TreeLint

import QueryLint.Finding.Severity
import QueryLint.Text.Basic

/-! Findings: what one check says about a query, and the laws of lists of them: one finding for a
rule, counts by severity, and whether any is severe enough. -/
namespace QueryLint
set_option autoImplicit false

/-- A range of characters as a finding records it. It may lie outside any text at hand. -/
structure TextRange where
  start : Int
  stop : Int
deriving DecidableEq, Repr

def Span.toRange (s : Span) : TextRange := ⟨s.start, s.stop⟩

/-- One issue: the rule that found it, how much it matters, what it is and what to do about it. The
fragment is a text that recurs wherever the issue does; the offset is where it was found first. -/
structure Finding where
  rule : String
  severity : Severity
  title : String
  message : String
  suggestion : String
  category : String
  fragment : Option Text
  offset : Option TextRange
deriving DecidableEq, Repr

namespace Finding

/-- The first finding of each rule, in the order given; the rules in `seen` are left out. -/
def firstOfEach (seen : List String) : List Finding → List Finding
  | [] => []
  | f :: rest =>
    if seen.contains f.rule then firstOfEach seen rest
    else f :: firstOfEach (f.rule :: seen) rest

def distinct (findings : List Finding) : List Finding := firstOfEach [] findings

/-! ## Severities of a list of findings -/

/-- A severity that has no rank was compared. -/
structure UnknownSeverity where
  name : String
deriving DecidableEq, Repr

def countOf (s : Severity) (findings : List Finding) : Nat :=
  (findings.filter fun f => f.severity == s).length

/-- The severities to be counted: the three levels, then the others in order of appearance. -/
def countedSeverities (findings : List Finding) : List Severity :=
  (Severity.levels ++ findings.map Finding.severity).eraseDups

/-- The number of findings for each level, then for each other severity that appears. -/
def counts (findings : List Finding) : List (Severity × Nat) :=
  (countedSeverities findings).map fun s => (s, countOf s findings)

/-- Whether one of the findings has at least the rank; those after the first such are not read. -/
def anyRanked (threshold : Nat) : List Finding → Except UnknownSeverity Bool
  | [] => .ok false
  | f :: rest =>
    match f.severity.rank? with
    | none => .error ⟨f.severity.name⟩
    | some r => if threshold ≤ r then .ok true else anyRanked threshold rest

def anyAtLeast (level : Severity) (findings : List Finding) : Except UnknownSeverity Bool :=
  match level.rank? with
  | none => .error ⟨level.name⟩
  | some threshold => anyRanked threshold findings

end Finding
end QueryLint

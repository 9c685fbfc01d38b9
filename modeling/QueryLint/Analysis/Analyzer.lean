import QueryLint.Analysis.Config
import QueryLint.Analysis.Parsing
import QueryLint.Checks.Registry

/-! The analysis of a query: parse it as well as it goes, run every check, keep one finding for each
rule. -/
namespace QueryLint
set_option autoImplicit false

/-- The findings of a query, and why it was not parsed if it was not. -/
structure AnalysisResult where
  findings : List Finding
  parseError : Option String

/-- A result with the requests made to the grammar and the events on the way. -/
structure Analysis where
  result : AnalysisResult
  requests : List Request
  events : List Event

namespace Analysis

def treeFindings (statements : List Query) (sql : Text) : List Finding :=
  statements.flatMap fun statement => Checks.treeChecks.flatMap fun check => check.run statement sql

/-- Every check of the text by its name, with what it answers. -/
def textOutcomes (sql : Text) : List (String × Except Fault (List Finding)) :=
  Checks.textChecks.map fun check => (check.name, check.run sql)

/-- What was found; a check that failed found nothing. -/
def found (outcomes : List (String × Except Fault (List Finding))) : List Finding :=
  outcomes.flatMap fun (_, outcome) =>
    match outcome with
    | .ok findings => findings
    | .error _ => []

def failures (outcomes : List (String × Except Fault (List Finding))) : List Event :=
  outcomes.filterMap fun (name, outcome) =>
    match outcome with
    | .ok _ => none
    | .error _ => some (.checkFailed name)

def enabled (disabled : List String) (findings : List Finding) : List Finding :=
  findings.filter fun f => !disabled.contains f.rule

/-- One finding for each rule that is not disabled, those about trees before those about the text.
-/
def conclude (config : Config) (trees texts : List Finding) : List Finding :=
  enabled config.disabledRules (Finding.distinct (trees ++ texts))

/-- The part of a query that is analyzed: trimmed, and no longer than the limit. -/
def scope (config : Config) (sql : Text) : Text := (Text.trim sql).take config.maxLength.toNat

/-- The analysis of a query by a parser, if there is one, that was asked a number of times before. A
blank query has no findings, and the parser is not asked. -/
def byParser (config : Config) (parser : Option Parser) (asked : Nat) (sql : Text) : Analysis :=
  let trimmed := Text.trim sql
  if trimmed.isEmpty then ⟨⟨[], none⟩, [], []⟩
  else
    let text := scope config sql
    let p := Parsing.byParser parser asked config.dialect config.rawFirst text
    let outcomes := textOutcomes text
    let findings := conclude config (treeFindings p.outcome.statements text) (found outcomes)
    let shortened :=
      if trimmed.length > text.length then [Event.shortened trimmed.length text.length] else []
    ⟨⟨findings, p.outcome.error⟩, p.requests,
      shortened ++ [.started text.length] ++ p.events
        ++ (if p.outcome.isPlain then [.plainFormUsed] else []) ++ failures outcomes
        ++ [.finished findings.length p.outcome.error.isSome]⟩

def run (config : Config) (g : Option Grammar) (asked : Nat) (sql : Text) : Analysis :=
  byParser config (g.map Grammar.queries) asked sql

/-- The analyses of several queries, one grammar answering all of them in turn. -/
def runAll (config : Config) (g : Option Grammar) (asked : Nat) : List Text → List Analysis
  | [] => []
  | sql :: rest =>
    let first := run config g asked sql
    first :: runAll config g (asked + first.requests.length) rest

end Analysis

namespace AnalysisResult

def rules (r : AnalysisResult) : List String := r.findings.map Finding.rule

end AnalysisResult
end QueryLint

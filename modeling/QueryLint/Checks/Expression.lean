import QueryLint.Checks.Basic
import QueryLint.Sql.Vocabulary.Condition

/-! Checks of expressions: casts, types of time, long CASE expressions and concatenation. -/
namespace QueryLint.Checks
set_option autoImplicit false
open Sql

/-! ## Casts and types -/

def castThreshold : Nat := 8

def castsAdvice (count : Nat) : Advice where
  rule := "excessive-casts"
  severity := .info
  title := s!"{count} type cast operations"
  message := s!"This query has {count} explicit type casts. That usually means data is stored as "
    ++ "JSON or VARCHAR and cast at query time, which adds CPU work and hides the real types from "
    ++ "the optimizer."
  suggestion := "Store data in native types (BOOLEAN, INTEGER, TIMESTAMP, ...) at ingest time. For "
    ++ "JSON payloads, extract frequently used fields into typed columns."
  category := "schema"

/-- Casts of both forms, counted together. -/
def manyCasts (sql : Text) : List Finding :=
  let count := castOperator.count sql + castCall.count sql
  if count < castThreshold then [] else [(castsAdvice count).overall]

def mixedTimestampAdvice : Advice where
  rule := "timestamp-vs-timestamptz"
  severity := .warning
  title := "TIMESTAMP mixed with TIMESTAMPTZ"
  message := "The query uses both TIMESTAMP and TIMESTAMP WITH TIME ZONE. Comparing or joining "
    ++ "them applies an implicit conversion through the session TimeZone setting, so results can "
    ++ "change between environments."
  suggestion := "Pick one type. Store instants as TIMESTAMPTZ and convert explicitly with AT TIME "
    ++ "ZONE where a local time is needed."
  category := "schema"

/-- Timestamps with and without a time zone in one text. -/
def mixedTimestamps (sql : Text) : List Finding :=
  if zonedTimestamp.occursIn sql then adviseFirst unzonedTimestamp mixedTimestampAdvice sql else []

/-! ## Branches -/

def caseBranchThreshold : Nat := 10

def caseChainAdvice (branches : Nat) : Advice where
  rule := "large-case-chain"
  severity := .info
  title := s!"CASE expression with {branches} branches"
  message := s!"A CASE expression with {branches} WHEN branches is a lookup table written as code. "
    ++ "Each row is tested against the branches in order."
  suggestion := "Move the mapping into a table (or a VALUES list / MAP literal) and join against "
    ++ "it."
  category := "best-practice"

/-- A CASE expression that is not ended yet. -/
structure OpenCase where
  start : Nat
  branches : Nat

/-- A CASE expression: where it stands and its own branches. -/
structure CaseChain where
  span : Span
  branches : Nat

/-- An expression that is never ended is reported at its first word. -/
def OpenCase.unended (c : OpenCase) : CaseChain := ⟨⟨c.start, c.start + 4⟩, c.branches⟩

/-- The CASE expressions from here on, given those that are open, the innermost first. A WHEN or END
outside of them all means nothing. -/
def caseChainsFrom (sql : Text) (stack : List OpenCase) : List Match → List CaseChain
  | [] => stack.reverse.map OpenCase.unended
  | m :: rest =>
    let word := Text.lower (m.groupText sql 1)
    if word == "case".toList then caseChainsFrom sql (⟨m.span.start, 0⟩ :: stack) rest
    else if word == "when".toList then
      match stack with
      | [] => caseChainsFrom sql [] rest
      | inner :: outer => caseChainsFrom sql (⟨inner.start, inner.branches + 1⟩ :: outer) rest
    else
      match stack with
      | [] => caseChainsFrom sql [] rest
      | inner :: outer =>
        ⟨⟨inner.start, m.span.stop⟩, inner.branches⟩ :: caseChainsFrom sql outer rest

def caseChains (sql : Text) : List CaseChain := caseChainsFrom sql [] (caseToken.all sql)

def largeCaseChain (sql : Text) : List Finding :=
  let sorted := (caseChains sql).mergeSort fun a b => a.span.start ≤ b.span.start
  ((sorted.find? fun c => c.branches ≥ caseBranchThreshold).map fun c =>
    (caseChainAdvice c.branches).located c.span).toList

/-! ## Concatenation -/

def stringConcatAdvice : Advice where
  rule := "string-concat-null"
  severity := .info
  title := "|| propagates NULL"
  message := "If any operand of || is NULL the whole result is NULL, which often drops values "
    ++ "silently from labels and keys."
  suggestion := "Use concat(), which treats NULL as an empty string, or concat_ws() with a "
    ++ "separator."
  category := "best-practice"

def stringConcat (sql : Text) : List Finding := quoteFirst concatOperator stringConcatAdvice sql

end QueryLint.Checks

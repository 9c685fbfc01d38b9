import QueryLint.Checks.Basic
import QueryLint.Sql.Clause
import QueryLint.Sql.Vocabulary.Call
import QueryLint.Sql.Vocabulary.Condition

/-! Checks of window functions: windows without partitions, and rankings that are filtered or joined
in a roundabout way. -/
namespace QueryLint.Checks
set_option autoImplicit false
open Sql

/-! ## Partitions -/

def windowPartitionAdvice : Advice where
  rule := "window-no-partition"
  severity := .warning
  title := "Window function without PARTITION BY"
  message := "A window without PARTITION BY treats the whole result as one partition. The window "
    ++ "operator must buffer and sort every row in a single partition, which cannot be "
    ++ "parallelized and can exhaust memory."
  suggestion := "Add a PARTITION BY clause if the computation is per group. For a global rank or "
    ++ "running total, reduce the input first."
  category := "memory"

/-- The whole of a window whose parentheses hold no PARTITION BY; one that is not closed is no
window. -/
def unpartitioned? (sql : Text) (head : Match) : Option Span :=
  match closingParen? sql (head.span.stop - 1) with
  | none => none
  | some stop =>
    if (partitionBy.firstWithin? sql ⟨head.span.stop, stop⟩).isSome then none
    else some ⟨head.span.start, stop⟩

def windowPartition (sql : Text) : List Finding :=
  (((overClause.all sql).findSome? (unpartitioned? sql)).map windowPartitionAdvice.located).toList

/-! ## Rankings -/

def rowNumberAdvice : Advice where
  rule := "use-arg-max"
  severity := .info
  title := "Consider arg_max() instead of ROW_NUMBER() window"
  message := "ROW_NUMBER() OVER (... ORDER BY ...) filtered to = 1 to get the latest or best row "
    ++ "per group requires a full window sort. DuckDB's arg_max()/arg_min() gives the same result "
    ++ "with a streaming aggregate."
  suggestion := "Replace with: SELECT key, arg_max(value_col, order_col) FROM ... GROUP BY key. "
    ++ "For several columns use arg_max(struct_pack(col1, col2), order_col)."
  category := "performance"

/-- A row number over an ordered window that is filtered to the first rows. -/
def rowNumberFilter (sql : Text) : List Finding :=
  match rowNumberWindow.first? sql with
  | none => []
  | some window =>
    if rankFilter.occursIn sql then
      [rowNumberAdvice.finding none (window.group? 1)]
    else []

def filteredWindowAdvice : Advice where
  rule := "window-without-qualify"
  severity := .info
  title := "Window function filtered in WHERE instead of QUALIFY"
  message := "DuckDB supports QUALIFY, which filters on window function results directly. "
    ++ "Filtering a window result in WHERE needs an extra subquery around the window."
  suggestion := "Use QUALIFY instead: SELECT ... FROM ... QUALIFY row_number() OVER (...) <= N"
  category := "best-practice"

def rankingAliases (sql : Text) : List Text :=
  (rankingAlias.all sql).map fun m => Text.lower (m.groupText sql 1)

/-- The first mention of a ranking in a condition: by its function, or else by its name where it is
compared to a number. -/
def rankingIn? (aliases : List Text) (body : Text) : Option Match :=
  match rankingName.first? body with
  | some m => some m
  | none => (numericComparison.all body).find? fun m =>
      aliases.contains (Text.lower (m.groupText body 1))

/-- A ranking that is filtered in a WHERE clause of a query without QUALIFY. -/
def windowFilteredInWhere (sql : Text) : List Finding :=
  if rankingFunction.occursIn sql && !qualifyKeyword.occursIn sql then
    let aliases := rankingAliases sql
    ((whereClauses sql).findSome? fun c => (rankingIn? aliases c.body).map fun m =>
      filteredWindowAdvice.located (m.span.shift c.start)).toList
  else []

/-! ## Nearest rows -/

def temporalWindowJoinAdvice : Advice where
  rule := "temporal-join-via-window"
  severity := .info
  title := "Inequality join with window function"
  message := "Joining on an inequality and then ranking the matches to keep the closest row "
    ++ "produces every matching pair before the window filters them. For time-series lookups this "
    ++ "is what ASOF JOIN does directly."
  suggestion := "Use ASOF JOIN: FROM trades t ASOF JOIN prices p ON t.symbol = p.symbol AND t.ts "
    ++ ">= p.ts"
  category := "performance"

/-- An inequality in a join condition of a query that has a window and no ASOF. -/
def temporalWindowJoin (sql : Text) : List Finding :=
  if !asofKeyword.occursIn sql && rankingOrWindow.occursIn sql then
    ((joinConditions sql).findSome? fun c => (inequality.first? c.body).map fun m =>
      temporalWindowJoinAdvice.located (m.span.shift c.start)).toList
  else []

end QueryLint.Checks

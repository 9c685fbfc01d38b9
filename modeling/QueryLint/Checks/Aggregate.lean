import QueryLint.Checks.Basic
import QueryLint.Sql.Vocabulary.Call

/-! Checks of aggregates: those whose state cannot leave memory, and counts that mislead. -/
namespace QueryLint.Checks
set_option autoImplicit false
open Sql

/-! ## Aggregates that build lists -/

def listAggregateAdvice (count : Nat) : Advice where
  rule := "non-spillable-list"
  severity := .error
  title := s!"list() aggregate cannot spill to disk ({count}x)"
  message := s!"The list() aggregate function is used {count} time(s) in this query. list() cannot "
    ++ "offload intermediate state to disk. On large datasets this will cause out-of-memory "
    ++ "crashes, especially on MotherDuck Ducklings with fixed memory limits."
  suggestion := "Pre-filter data before aggregating with list(), add a WHERE or LIMIT to reduce "
    ++ "input rows, or break the query into smaller batches."
  category := "memory"

/-- Calls of the list aggregate, reported once with their number. -/
def listAggregate (sql : Text) : List Finding :=
  quoteCounted listCall listAggregateAdvice sql

def listDistinctAdvice : Advice where
  rule := "non-spillable-list-distinct"
  severity := .error
  title := "LIST(DISTINCT ...) doubles memory pressure"
  message := "LIST(DISTINCT ...) combines two non-spillable operations: the DISTINCT needs a hash "
    ++ "set in memory and the resulting list is accumulated in memory. Neither can spill to disk."
  suggestion := "Reduce the input first with a GROUP BY in a prior CTE, then build the list from "
    ++ "the already distinct values."
  category := "memory"

def distinctList (sql : Text) : List Finding := quoteFirst listDistinct listDistinctAdvice sql

def stringAggAdvice : Advice where
  rule := "non-spillable-string-agg"
  severity := .warning
  title := "string_agg() cannot spill to disk"
  message := "The string_agg() function cannot offload intermediate state to disk. With many "
    ++ "groups or large string values this can exhaust memory."
  suggestion := "Pre-filter or limit the input before applying string_agg(), or return a list only "
    ++ "if the consumer really needs one string."
  category := "memory"

def stringAgg (sql : Text) : List Finding := quoteFirst stringAggCall stringAggAdvice sql

def orderedAggregateAdvice : Advice where
  rule := "non-spillable-ordered-agg"
  severity := .warning
  title := "Ordered aggregate (ORDER BY inside aggregate)"
  message := "Aggregate functions with an ORDER BY clause, such as LIST(... ORDER BY ...), are "
    ++ "holistic: they must see all input before producing output, and DuckDB cannot spill their "
    ++ "intermediate state to disk."
  suggestion := "Remove the ORDER BY if ordering within the aggregate is not needed. Otherwise "
    ++ "keep the aggregated input small."
  category := "memory"

def orderInAggregate (sql : Text) : List Finding :=
  adviseFirst orderedAggregate orderedAggregateAdvice sql

/-! ## Aggregates that see every value -/

def holisticAggregateAdvice : Advice where
  rule := "non-spillable-median"
  severity := .warning
  title := "Holistic aggregate cannot spill to disk"
  message := "median(), quantile(), percentile_cont/disc() and mode() keep every input value of a "
    ++ "group in memory until the group is complete. Their state cannot be offloaded to disk."
  suggestion := "Use approx_quantile() or reservoir_quantile() when an approximate answer is "
    ++ "acceptable, or aggregate fewer rows per group."
  category := "memory"

def wholeGroup (sql : Text) : List Finding :=
  quoteFirst holisticAggregate holisticAggregateAdvice sql

def countDistinctAdvice (count : Nat) : Advice where
  rule := "count-distinct"
  severity := .info
  title := s!"COUNT(DISTINCT ...) detected ({count}x)"
  message := s!"COUNT(DISTINCT) appears {count} time(s). Each builds a hash set of all unique "
    ++ "values in memory. On high-cardinality columns this is very memory-intensive."
  suggestion := "If an approximate count is acceptable, use approx_count_distinct(), which uses "
    ++ "HyperLogLog and far less memory."
  category := "memory"

/-- Counts of distinct values, reported once with their number. -/
def distinctCount (sql : Text) : List Finding :=
  quoteCounted countDistinct countDistinctAdvice sql

/-! ## Counts -/

def conditionalAggregateAdvice : Advice where
  rule := "case-when-instead-of-filter"
  severity := .info
  title := "CASE WHEN inside an aggregate"
  message := "Aggregating a CASE expression to count or sum a subset of rows works, but the "
    ++ "condition is buried inside the expression."
  suggestion := "Use the FILTER clause: count(*) FILTER (WHERE status = 'done')."
  category := "best-practice"

def caseInAggregate (sql : Text) : List Finding :=
  adviseFirst conditionalAggregate conditionalAggregateAdvice sql

def countColumnAdvice : Advice where
  rule := "count-col-vs-count-star"
  severity := .info
  title := "count(column) skips NULLs"
  message := "count(column) counts only rows where the column is not NULL. That is correct when "
    ++ "intended, but it is often written where count(*) was meant."
  suggestion := "Use count(*) to count rows. Keep count(column) only when excluding NULLs is the "
    ++ "point."
  category := "best-practice"

def columnCount (sql : Text) : List Finding := adviseFirst countColumn countColumnAdvice sql

end QueryLint.Checks

import QueryLint.Checks.Basic
import QueryLint.Sql.NamedQuery

/-! Checks of sorting and grouping: work that blocks the pipeline, sorts that are lost or repeated,
pages far down, and lists of grouping columns. -/
namespace QueryLint.Checks
set_option autoImplicit false
open Sql

/-! ## Blocking operators -/

/-- How often a query sorts, opens a window and groups. -/
structure BlockingCounts where
  orderBy : Nat
  windows : Nat
  groupBy : Nat

def BlockingCounts.total (c : BlockingCounts) : Nat := c.orderBy + c.windows + c.groupBy

def blockingCounts (sql : Text) : BlockingCounts :=
  ⟨orderBy.count sql, overClause.count sql, groupBy.count sql⟩

def severeBlockingAdvice (total orders windows groups : Nat) : Advice where
  rule := "many-blocking-operators"
  severity := .error
  title := s!"{total} blocking operators detected"
  message := s!"This query contains {orders} ORDER BY, {windows} window function (OVER) and "
    ++ s!"{groups} GROUP BY operations. Each is a pipeline-breaking operator that buffers data in "
    ++ "memory. When several appear in the same query DuckDB may still run out of memory even "
    ++ "though each one can spill on its own."
  suggestion := "Break the query into sequential steps and materialize intermediate results into "
    ++ "temp tables so memory is released between them."
  category := "memory"

def blockingAdvice (total orders windows groups : Nat) : Advice where
  rule := "many-blocking-operators"
  severity := .warning
  title := s!"{total} blocking operators in one query"
  message := s!"This query has {orders} ORDER BY, {windows} window functions and {groups} GROUP BY "
    ++ "operations. Each is a pipeline breaker that buffers data in memory. Combined, they raise "
    ++ "the risk of out-of-memory errors."
  suggestion := "Materialize intermediate CTEs into temp tables to reduce peak memory usage, or "
    ++ "break the query into sequential steps."
  category := "memory"

/-- Five operators that block the pipeline are too many, and eight are an error. -/
def blockingOperators (sql : Text) : List Finding :=
  let c := blockingCounts sql
  if c.total ≥ 8 then [(severeBlockingAdvice c.total c.orderBy c.windows c.groupBy).overall]
  else if c.total ≥ 5 then [(blockingAdvice c.total c.orderBy c.windows c.groupBy).overall]
  else []

/-! ## Sorts -/

def repeatedOrderAdvice (count : Nat) : Advice where
  rule := "repeated-order-limit-1"
  severity := .warning
  title := s!"ORDER BY ... DESC LIMIT 1 repeated {count}x"
  message := s!"This query uses the ORDER BY ... DESC LIMIT 1 pattern {count} times to get the "
    ++ "latest row. Each instance sorts its whole input, which is especially costly inside CTEs."
  suggestion := "Replace with arg_max(): SELECT arg_max(col, observed_at) FROM table. For several "
    ++ "columns use arg_max(struct_pack(col1, col2), observed_at)."
  category := "performance"

/-- The latest row looked up by a sort more than once. -/
def repeatedOrderLimitOne (sql : Text) : List Finding :=
  adviseRepeated orderDescLimitOne repeatedOrderAdvice (fun first _ => first) sql

def intermediateOrderAdvice (name : String) : Advice where
  rule := "intermediate-order-by"
  severity := .info
  title := "ORDER BY inside a CTE"
  message := s!"The CTE '{name}' sorts its rows. The order of an intermediate result is not "
    ++ "guaranteed to survive into the outer query, and the sort buffers the whole CTE in memory."
  suggestion := "Move the ORDER BY to the final SELECT. For a top-N CTE, check whether "
    ++ "arg_max/arg_min or QUALIFY can replace the sort."
  category := "performance"

/-- An ORDER BY at the top level of the body of a named query. -/
def orderInBlock? (block : NamedQuery) : Option Finding :=
  (orderBy.first? (topLevel block.body)).map fun m =>
    (intermediateOrderAdvice block.name.shown).located (m.span.shift block.span.start)

def intermediateOrderBy (sql : Text) : List Finding :=
  ((namedQueries sql).findSome? orderInBlock?).toList

/-! ## Pages -/

def largeOffsetThreshold : Nat := 10000

def maxNumberDigits : Nat := 4300

/-- The value of a number, or a fault if it has too many digits, zeros in front included. -/
def readNumber (digits : Text) : Except Fault Nat :=
  if digits.length > maxNumberDigits then .error (.tooManyDigits digits.length)
  else .ok (Text.decimalValue digits)

def largeOffsetAdvice (value : Nat) : Advice where
  rule := "large-offset-pagination"
  severity := .warning
  title := "Large OFFSET pagination"
  message := s!"OFFSET {value} still produces and discards the first {value} rows, so every later "
    ++ "page gets slower."
  suggestion := "Use keyset pagination: remember the last key of the previous page and filter "
    ++ "WHERE key > :last_key ORDER BY key LIMIT n."
  category := "performance"

/-- The first of the matches with a large number; all numbers before it are read. -/
def largeOffsetAmong (sql : Text) : List Match → Except Fault (List Finding)
  | [] => .ok []
  | m :: rest =>
    match readNumber (m.groupText sql 1) with
    | .error fault => .error fault
    | .ok value =>
      if value ≥ largeOffsetThreshold then .ok [(largeOffsetAdvice value).located m.span]
      else largeOffsetAmong sql rest

def largeOffsets (sql : Text) : Except Fault (List Finding) :=
  largeOffsetAmong sql (largeOffset.all sql)

/-! ## Grouping -/

def verboseGroupByAdvice : Advice where
  rule := "group-by-verbose"
  severity := .info
  title := "Verbose GROUP BY"
  message := "DuckDB supports GROUP BY ALL, which groups by every non-aggregated column of the "
    ++ "SELECT list. This avoids mismatches when the SELECT list changes."
  suggestion := "Replace the explicit column list with GROUP BY ALL."
  category := "best-practice"

def longGroupBy (sql : Text) : List Finding := adviseFirst verboseGroupBy verboseGroupByAdvice sql

def groupByOrdinalAdvice : Advice where
  rule := "group-by-ordinal"
  severity := .info
  title := "GROUP BY column position"
  message := "Grouping by column position silently changes meaning when the SELECT list is "
    ++ "reordered."
  suggestion := "Use GROUP BY ALL or name the columns."
  category := "best-practice"

def groupByPosition (sql : Text) : List Finding :=
  adviseFirst groupByOrdinal groupByOrdinalAdvice sql

end QueryLint.Checks

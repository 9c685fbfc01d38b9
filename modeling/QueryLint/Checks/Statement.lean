import QueryLint.Checks.Basic
import QueryLint.Sql.Vocabulary.Clause

/-! Checks of whole statements: what they create, insert, reshape and combine. -/
namespace QueryLint.Checks
set_option autoImplicit false
open Sql

/-! ## Reshaping -/

def pivotAdvice : Advice where
  rule := "non-spillable-pivot"
  severity := .error
  title := "PIVOT uses list() internally and cannot spill to disk"
  message := "DuckDB's PIVOT internally uses the list() aggregate to collect values before "
    ++ "spreading them into columns. Since list() cannot spill to disk, PIVOT on large datasets or "
    ++ "high-cardinality pivot columns can cause out-of-memory crashes."
  suggestion := "Pre-filter or pre-aggregate before pivoting, restrict the pivot values with an IN "
    ++ "list, or spell the pivot out with SUM(CASE WHEN ...) which only uses spillable operators."
  category := "memory"

/-- A PIVOT. Where the text has an UNPIVOT as well, only a PIVOT that USING follows counts. -/
def pivot (sql : Text) : List Finding :=
  match pivotKeyword.first? sql with
  | none => []
  | some m =>
    if unpivotKeyword.occursIn sql && (usingKeyword.firstFrom? sql m.span.stop).isNone then []
    else [pivotAdvice.finding (some "pivot".toList) (some m.span)]

/-! ## Creating and inserting -/

def createTableAsAdvice : Advice where
  rule := "ctas-memory"
  severity := .info
  title := "CREATE TABLE AS SELECT"
  message := "CREATE TABLE ... AS SELECT preserves insertion order by default, which forces DuckDB "
    ++ "to buffer the result of the query in order."
  suggestion := "Run SET preserve_insertion_order = false; before large CTAS statements when row "
    ++ "order does not matter."
  category := "memory"

def tableFromQuery (sql : Text) : List Finding := adviseFirst createTableAs createTableAsAdvice sql

def insertSelectStarAdvice : Advice where
  rule := "insert-select-star"
  severity := .info
  title := "INSERT INTO ... SELECT *"
  message := "Large INSERT ... SELECT operations preserve insertion order by default, which "
    ++ "requires buffering the entire result. A wildcard source also breaks silently when either "
    ++ "table's columns change."
  suggestion := "Run SET preserve_insertion_order = false; before the insert if row order does not "
    ++ "matter, and list the columns explicitly."
  category := "memory"

def insertSelectStar (sql : Text) : List Finding :=
  match insertInto.first? sql with
  | none => []
  | some insert =>
    if (selectStar.firstFrom? sql insert.span.stop).isSome then
      [insertSelectStarAdvice.located insert.span]
    else []

/-! ## Duplicates -/

def distinctStarAdvice : Advice where
  rule := "distinct-star"
  severity := .warning
  title := "SELECT DISTINCT *"
  message := "DISTINCT * forces DuckDB to hash every column to find unique rows. This is very "
    ++ "memory-intensive and rarely intentional."
  suggestion := "Select only the columns uniqueness matters for, or check whether GROUP BY is what "
    ++ "you actually need."
  category := "memory"

def distinctEverything (sql : Text) : List Finding := quoteFirst distinctStar distinctStarAdvice sql

def unionWithoutAllAdvice : Advice where
  rule := "union-without-all"
  severity := .info
  title := "UNION without ALL"
  message := "UNION (without ALL) removes duplicate rows by hashing the entire result set. If "
    ++ "duplicates are acceptable or impossible, this is wasted work."
  suggestion := "Use UNION ALL if you don't need deduplication. UNION BY NAME also helps for "
    ++ "tables with different column orders."
  category := "performance"

def plainUnion (sql : Text) : List Finding := adviseFirst unionWithoutAll unionWithoutAllAdvice sql

/-! ## Memory -/

def outOfMemoryAdvice : Advice where
  rule := "md-duckling-size"
  severity := .info
  title := "Consider a larger Duckling size"
  message := "If this query runs out of memory on MotherDuck, a larger Duckling (Standard, Jumbo, "
    ++ "Mega or Giga instead of Pulse) provides more memory."
  suggestion := "Change the Duckling size in MotherDuck settings. Also try SET "
    ++ "preserve_insertion_order = false; and SET temp_directory to enable spilling."
  category := "memory"

def outOfMemoryHint (sql : Text) : List Finding := adviseFirst outOfMemory outOfMemoryAdvice sql

end QueryLint.Checks

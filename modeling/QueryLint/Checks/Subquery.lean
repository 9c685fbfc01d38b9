import QueryLint.Checks.Basic
import QueryLint.Sql.NamedQuery
import QueryLint.Sql.Vocabulary.Condition

/-! Checks of subqueries and named queries. -/
namespace QueryLint.Checks
set_option autoImplicit false
open Sql

/-! ## Named queries -/

def recursiveQueryAdvice : Advice where
  rule := "recursive-cte-no-limit"
  severity := .warning
  title := "Recursive CTE without a termination guard"
  message := "This recursive CTE has no LIMIT, no depth counter comparison and no USING KEY "
    ++ "clause. If the data contains a cycle the recursion never ends, and every iteration's rows "
    ++ "are kept in memory."
  suggestion := "Track the depth in a column and stop at a maximum (WHERE depth < 100), add a "
    ++ "LIMIT, or use WITH RECURSIVE ... USING KEY so only the latest row per key is kept."
  category := "memory"

/-- A recursive query without a limit, a bound on its depth or a key. -/
def recursiveQuery (sql : Text) : List Finding :=
  if rowLimit.occursIn sql || depthGuard.occursIn sql || usingKey.occursIn sql then []
  else adviseFirst recursiveWith recursiveQueryAdvice sql

def tooManyQueriesAdvice (count : Nat) : Advice where
  rule := "many-ctes"
  severity := .warning
  title := s!"{count} CTEs detected"
  message := s!"This query has {count} CTEs. DuckDB may materialize each CTE, so all intermediate "
    ++ "results can be held in memory at the same time. With this many stages, each possibly "
    ++ "containing ORDER BY or GROUP BY, the combined footprint can be substantial."
  suggestion := "Break the query into sequential CREATE TEMP TABLE steps so DuckDB can release "
    ++ "memory between stages."
  category := "memory"

def manyQueriesAdvice (count : Nat) : Advice where
  rule := "many-ctes"
  severity := .info
  title := s!"{count} CTEs detected"
  message := s!"This query has {count} CTEs. While CTEs improve readability, many materialized "
    ++ "CTEs may increase peak memory usage."
  suggestion := "Check whether some CTEs can be inlined, merged or removed."
  category := "memory"

/-- More than five named queries are many, and more than ten too many. -/
def namedQueryCount (sql : Text) : List Finding :=
  let count := namedQueryOpen.count sql
  if count > 10 then [(tooManyQueriesAdvice count).overall]
  else if count > 5 then [(manyQueriesAdvice count).overall]
  else []

def chainedStarAdvice (count : Nat) : Advice where
  rule := "chained-select-star"
  severity := .info
  title := "SELECT * chained through CTEs"
  message := s!"{count} CTEs and the final SELECT all use SELECT *. Every column of the source "
    ++ "flows through each stage, so it is hard to see which columns the result actually depends "
    ++ "on, and upstream schema changes propagate silently."
  suggestion := "Name the needed columns once in the first CTE, or use SELECT * EXCLUDE (...) to "
    ++ "make the dropped columns explicit."
  category := "best-practice"

def isStarred (block : NamedQuery) : Bool := selectStar.occursIn block.body

/-- A star in at least two named queries and in the query that follows them. -/
def chainedSelectStar (sql : Text) : List Finding :=
  let blocks := namedQueries sql
  let starred := blocks.filter isStarred
  if starred.length < 2 then []
  else
    let last := (blocks.map fun block => block.span.stop).foldl max 0
    ((selectStar.firstFrom? sql last).map fun m =>
      (chainedStarAdvice starred.length).located m.span).toList

/-! ## Subqueries in conditions -/

def notInSubqueryAdvice : Advice where
  rule := "not-in-subquery"
  severity := .warning
  title := "NOT IN with subquery"
  message := "NOT IN with a subquery has surprising NULL semantics: if the subquery returns any "
    ++ "NULL, the whole NOT IN evaluates to NULL and no rows match. It can also keep the optimizer "
    ++ "from planning an anti-join."
  suggestion := "Use NOT EXISTS (SELECT 1 FROM ... WHERE ...) or an ANTI JOIN instead."
  category := "performance"

def notInQuery (sql : Text) : List Finding := adviseFirst notInSubquery notInSubqueryAdvice sql

def correlatedSubqueryAdvice : Advice where
  rule := "correlated-subquery"
  severity := .error
  title := "Possible correlated subquery"
  message := "A subquery in the SELECT list or WHERE clause references a column of the outer "
    ++ "query. If DuckDB cannot decorrelate it, it is re-evaluated for every outer row."
  suggestion := "Rewrite as a JOIN against a pre-aggregated CTE: WITH sub AS (SELECT key, ... "
    ++ "GROUP BY key) SELECT ... FROM main JOIN sub USING (key)."
  category := "performance"

def derivedTableReach : Nat := 20

/-- The tables that a subquery reads: their own names and their aliases. -/
def definedNames (body : Text) : List Text :=
  (tableRefs body).flatMap fun r => r.parts.getLast?.toList ++ r.givenName.toList

/-- Whether an equation names a table that is not among the names. -/
def isOuterEquation (body : Text) (names : List Text) (m : Match) : Bool :=
  [1, 3].any fun number => !names.contains (Text.lower (m.groupText body number))

/-- Whether the text before a position makes a subquery there a derived table. -/
def opensDerivedTable (sql : Text) (start : Nat) : Bool :=
  derivedTablePrefix.occursIn (sql.slice ⟨start - derivedTableReach, start⟩)

/-- Whether a subquery compares with a table that it does not read itself. -/
def isCorrelated (body : Text) : Bool :=
  match whereKeyword.first? body with
  | none => false
  | some m =>
    (qualifiedEquality.allFrom body m.span.stop).any (isOuterEquation body (definedNames body))

/-- The whole of a subquery that is correlated and no derived table. -/
def correlated? (sql : Text) (head : Match) : Option Span :=
  if opensDerivedTable sql head.span.start then none
  else match closingParen? sql head.span.start with
    | none => none
    | some stop =>
      if isCorrelated (sql.slice ⟨head.span.start + 1, stop - 1⟩) then some ⟨head.span.start, stop⟩
      else none

/-- The first subquery outside FROM that compares with a table of the query around it. -/
def correlatedSubquery (sql : Text) : List Finding :=
  (((subqueryOpen.all sql).findSome? (correlated? sql)).map correlatedSubqueryAdvice.located).toList

end QueryLint.Checks

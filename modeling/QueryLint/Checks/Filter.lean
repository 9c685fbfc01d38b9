import QueryLint.Checks.Basic
import QueryLint.Sql.Clause
import QueryLint.Sql.Vocabulary.Condition

/-! Checks of conditions: patterns, functions around columns, long lists of values, chains of OR,
and ranges of time. -/
namespace QueryLint.Checks
set_option autoImplicit false
open Sql

/-! ## Patterns -/

def leadingWildcardAdvice : Advice where
  rule := "leading-wildcard-like"
  severity := .warning
  title := "LIKE with leading wildcard"
  message := "A LIKE pattern starting with '%' prevents DuckDB from using zone maps or min/max "
    ++ "statistics for filtering, forcing a full column scan."
  suggestion := "Use a trailing-only wildcard (LIKE 'prefix%') where possible, contains() for "
    ++ "clarity, or the full-text search extension for word lookups."
  category := "performance"

def leadingWildcard (sql : Text) : List Finding :=
  quoteFirst leadingWildcardLike leadingWildcardAdvice sql

def likePrefixAdvice : Advice where
  rule := "like-prefix-use-starts-with"
  severity := .info
  title := "LIKE prefix match"
  message := "A LIKE pattern with only a trailing % is a prefix test."
  suggestion := "Use starts_with(col, 'prefix'), which states the intent and avoids escaping "
    ++ "issues with % and _ in the prefix."
  category := "best-practice"

def prefixPattern (sql : Text) : List Finding := quoteFirst likePrefix likePrefixAdvice sql

def simpleRegexpAdvice : Advice where
  rule := "regexp-for-simple-pattern"
  severity := .info
  title := "Regular expression for a simple prefix/suffix test"
  message := "An anchored regular expression with no metacharacters only tests a prefix or suffix. "
    ++ "Running the regex engine for that is slower than a string function."
  suggestion := "Use starts_with(col, 'prefix') / prefix(col, 'x') or suffix(col, 'x') / "
    ++ "ends_with(col, 'x')."
  category := "performance"

def plainRegexp (sql : Text) : List Finding := adviseFirst simpleRegexp simpleRegexpAdvice sql

/-! ## Functions around columns -/

def functionOnFilterAdvice : Advice where
  rule := "function-on-filter-column"
  severity := .warning
  title := "Function applied to column in WHERE clause"
  message := "Wrapping a column in a function (UPPER(name) = ..., YEAR(created_at) = ...) prevents "
    ++ "filter pushdown and forces DuckDB to evaluate every row."
  suggestion := "Keep the column bare and move the work to the constant side. For example, instead "
    ++ "of YEAR(dt) = 2024 use dt >= '2024-01-01' AND dt < '2025-01-01'."
  category := "performance"

/-- The first comparison in a WHERE clause whose left side is a call. -/
def functionOnFilterColumn (sql : Text) : List Finding :=
  ((whereClauses sql).findSome? fun c => (functionComparison.first? c.body).map fun m =>
    functionOnFilterAdvice.located (m.span.shift c.start)).toList

/-! ## Lists of values -/

def largeListThreshold : Nat := 50

def largeInListAdvice (literals : Nat) : Advice where
  rule := "large-in-list"
  severity := .warning
  title := s!"Large IN list ({literals} values)"
  message := s!"An IN list with {literals} literal values is expanded into a long chain of "
    ++ "comparisons, and the query text itself becomes hard to maintain."
  suggestion := "Put the values in a table (or a VALUES list / unnest of a list) and join or "
    ++ "semi-join against it."
  category := "performance"

def literalCount (items : Text) : Nat :=
  ((splitTopLevel (· == ',') items).filter literalItem.fits).length

/-- The finding for a list that is closed and has many literals. -/
def largeList? (sql : Text) (head : Match) : Option Finding :=
  match closingParen? sql (head.span.stop - 1) with
  | none => none
  | some stop =>
    let literals := literalCount (sql.slice ⟨head.span.stop, stop - 1⟩)
    if literals ≥ largeListThreshold then
      some ((largeInListAdvice literals).located ⟨head.span.start, stop⟩)
    else none

def largeInList (sql : Text) : List Finding :=
  ((inListOpen.all sql).findSome? (largeList? sql)).toList

/-! ## Chains of OR -/

def orChainThreshold : Nat := 4

def orChainAdvice (column : String) (length : Nat) : Advice where
  rule := "or-chain-instead-of-in"
  severity := .info
  title := "OR chain on one column"
  message := s!"'{column}' is compared to {length} or more values joined by OR. An IN list says "
    ++ "the same thing and is easier to read and extend."
  suggestion := s!"Rewrite as {column} IN (...)."
  category := "best-practice"

/-- Tests of one column joined by OR: the column, how many they are, and where they stand. -/
structure OrChain where
  column : Text
  length : Nat
  span : Span

/-- The chain after one more test: longer if only OR stands between and the column is the same,
else begun anew. -/
def OrChain.extend (sql : Text) (chain : Option OrChain) (m : Match) : OrChain :=
  let column := Text.lower (m.groupText sql 1)
  match chain with
  | none => ⟨column, 1, m.span⟩
  | some c =>
    if c.column == column && orSeparator.fits (sql.slice ⟨c.span.stop, m.span.start⟩) then
      ⟨column, c.length + 1, ⟨c.span.start, m.span.stop⟩⟩
    else ⟨column, 1, m.span⟩

/-- The finding for the first chain that gets long enough among the tests that follow. -/
def orChainFrom (sql : Text) (chain : Option OrChain) : List Match → Option Finding
  | [] => none
  | m :: rest =>
    let longer := OrChain.extend sql chain m
    if longer.length ≥ orChainThreshold then
      some ((orChainAdvice (m.groupText sql 1).shown longer.length).located longer.span)
    else orChainFrom sql (some longer) rest

def orChain (sql : Text) : List Finding := (orChainFrom sql none (equalityTerm.all sql)).toList

/-! ## Ranges of time -/

def operandReach : Nat := 64

def boundReach : Nat := 60

def betweenTimestampAdvice : Advice where
  rule := "between-timestamp"
  severity := .info
  title := "BETWEEN on a timestamp range"
  message := "BETWEEN includes both ends. With timestamps the upper bound '2024-01-31' means "
    ++ "midnight at the start of that day, so most of the last day is excluded, while adjacent "
    ++ "ranges overlap at the boundary."
  suggestion := "Use a half-open range: ts >= '2024-01-01' AND ts < '2024-02-01'."
  category := "best-practice"

def lastPart (name : Text) : Text := (name.reverse.takeWhile (· ≠ '.')).reverse

/-- Whether the operand in front of BETWEEN has the name of a point in time. -/
def hasTemporalOperand (sql : Text) (start : Nat) : Bool :=
  match precedingOperand.firstWithin? sql ⟨start - operandReach, start⟩ with
  | none => false
  | some m => temporalColumn.occursIn (lastPart (m.groupText sql 1))

def isTemporalRange (sql : Text) (m : Match) : Bool :=
  hasTemporalOperand sql m.span.start
    || (temporalValue.firstWithin? sql ⟨m.span.stop, m.span.stop + boundReach⟩).isSome

def betweenTimestamp (sql : Text) : List Finding :=
  advisePassing betweenKeyword (isTemporalRange sql) betweenTimestampAdvice sql

end QueryLint.Checks

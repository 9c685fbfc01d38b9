import QueryLint.Checks.Basic
import QueryLint.Sql.Clause
import QueryLint.Sql.NamedQuery
import QueryLint.Sql.Vocabulary.Condition

/-! Checks of joins and of tables that a query reads more than once. -/
namespace QueryLint.Checks
set_option autoImplicit false
open Sql

/-! ## Join conditions -/

def castInJoinKeyAdvice : Advice where
  rule := "cast-in-join-key"
  severity := .warning
  title := "Type cast in join condition"
  message := "Casting a join key means the two sides are stored with different types. The cast "
    ++ "runs for every row on the probe side and can stop DuckDB from using statistics on the key."
  suggestion := "Store the join keys with the same type in both tables, or cast once in a CTE "
    ++ "before the join."
  category := "schema"

def castInJoinKey (sql : Text) : List Finding :=
  ((joinConditions sql).findSome? fun c => (castExpression.first? c.body).map fun m =>
    castInJoinKeyAdvice.located (m.span.shift c.start)).toList

def joinOnTrueThreshold : Nat := 5

def joinOnTrueAdvice (count : Nat) : Advice where
  rule := "many-left-join-on-true"
  severity := .info
  title := s!"{count} LEFT JOIN ... ON TRUE"
  message := s!"This query uses LEFT JOIN ... ON TRUE {count} times to combine CTE results. That "
    ++ "works while every CTE returns a single row, but if one unexpectedly returns several, the "
    ++ "result silently multiplies."
  suggestion := "Add LIMIT 1 to CTEs that must return one row, or use scalar subqueries in the "
    ++ "final SELECT."
  category := "best-practice"

def joinsOnTrue (sql : Text) : List Finding :=
  let count := leftJoinOnTrue.count sql
  if count < joinOnTrueThreshold then [] else [(joinOnTrueAdvice count).overall]

/-! ## Tables read again -/

def selfJoinAdvice (table : String) : Advice where
  rule := "self-join-as-window"
  severity := .info
  title := "Self-join to reach a neighboring row"
  message := s!"'{table}' is joined to itself on an offset condition to look at the previous or "
    ++ "next row. This scans the table twice and builds a hash table over one copy."
  suggestion := "Use LAG() or LEAD() over a window ordered by the same key."
  category := "performance"

/-- The first reference to a table that was referenced before; the names in `seen` count as such. -/
def firstRepeated? (seen : List Text) : List TableRef → Option TableRef
  | [] => none
  | r :: rest => if seen.contains r.name then some r else firstRepeated? (r.name :: seen) rest

def selfJoinNeighbor (sql : Text) : List Finding :=
  match firstRepeated? [] (tableRefs sql) with
  | none => []
  | some r =>
    if (joinConditions sql).any fun c => neighborOffset.occursIn c.body then
      [(selfJoinAdvice r.name.shown).located r.span]
    else []

def repeatedScanThreshold : Nat := 3

def repeatedScanAdvice (table : String) (count : Nat) : Advice where
  rule := "repeated-table-scan"
  severity := .info
  title := s!"Table '{table}' scanned {count} times"
  message := s!"'{table}' is referenced {count} times in this query. Each reference is a separate "
    ++ "scan unless the optimizer can share it."
  suggestion := "Read the table once in a CTE (optionally AS MATERIALIZED) with the union of "
    ++ "needed columns and filters, then reference the CTE."
  category := "performance"

/-- The references to tables that are no named queries. -/
def storedTables (sql : Text) : List TableRef :=
  let names := queryNames sql
  (tableRefs sql).filter fun r => !names.contains r.name

def referenceCount (refs : List TableRef) (name : Text) : Nat :=
  (refs.filter fun r => r.name == name).length

/-- The first reference to a table that is referenced often enough. -/
def repeatedScan? (refs : List TableRef) : Option TableRef :=
  refs.find? fun r => referenceCount refs r.name ≥ repeatedScanThreshold

/-- A table that is read at least three times, the one that is named first. -/
def repeatedTableScan (sql : Text) : List Finding :=
  let refs := storedTables sql
  ((repeatedScan? refs).map fun r =>
    (repeatedScanAdvice r.name.shown (referenceCount refs r.name)).located r.span).toList

/-! ## Databases -/

def crossDatabaseAdvice (count : Nat) (databases : String) : Advice where
  rule := "md-cross-database-join"
  severity := .info
  title := "Query spans multiple databases"
  message := s!"This query combines tables from {count} databases ({databases}). If they live in "
    ++ "different places (local and MotherDuck, or two attached files) rows are moved between them "
    ++ "during execution."
  suggestion := "Keep the joined tables in the same database, or copy the smaller side over before "
    ++ "joining."
  category := "network"

/-- The databases of the references, in the order in which they are first named. -/
def databases (refs : List TableRef) : List Text := (refs.filterMap TableRef.database?).eraseDups

/-- Tables of more than one database; the first one of the second database is reported. -/
def crossDatabaseJoin (sql : Text) : List Finding :=
  let refs := tableRefs sql
  match databases refs with
  | first :: second :: rest =>
    let names := (first :: second :: rest).map Text.shown
    ((refs.find? fun r => r.database? == some second).map fun r =>
      (crossDatabaseAdvice names.length (Text.joinStrings ", " names)).located r.span).toList
  | _ => []

end QueryLint.Checks

import QueryLint.Checks.Basic
import QueryLint.Finding.Place
import QueryLint.Query.Walk

/-! Checks of the parsed query. Each walks through every query nested in a statement; the text only
tells where a finding stands and which word joined two sources. -/
namespace QueryLint.Checks
set_option autoImplicit false
open Shape Pattern

/-! ## Stars -/

def selectStarAdvice : Advice where
  rule := "select-star"
  severity := .warning
  title := "SELECT * detected"
  message := "SELECT * reads every column from the table. In a columnar engine like DuckDB this "
    ++ "defeats column pruning and transfers unnecessary data, which is especially costly when "
    ++ "reading remote Parquet files."
  suggestion := "List only the columns you need: SELECT col1, col2 FROM ... You can also use "
    ++ "SELECT * EXCLUDE (col) to drop specific columns."
  category := "performance"

def starColumnAdvice : Advice where
  rule := "select-star"
  severity := .warning
  title := "SELECT * detected"
  message := "SELECT * reads every column. In a columnar engine, select only the columns you need "
    ++ "to take advantage of column pruning."
  suggestion := "List only the columns you need, or use EXCLUDE to drop unneeded columns."
  category := "performance"

def isStar : Expr → Bool
  | .column _ _ isStar => isStar
  | _ => false

/-- A select of everything, and each star in a list of columns. -/
def starsOf (sql : Text) (s : Select) : List Finding :=
  match s.columns with
  | none => [selectStarAdvice.finding (some "SELECT *".toList) (occurrence? sql "select *".toList)]
  | some columns =>
    (columns.filter isStar).map fun _ => starColumnAdvice.finding (some "*".toList) none

def selectStars (q : Query) (sql : Text) : List Finding :=
  q.selects.flatMap fun (s, _) => starsOf sql s

/-! ## Sorting -/

def orderWithoutLimitAdvice : Advice where
  rule := "order-without-limit"
  severity := .warning
  title := "ORDER BY without LIMIT"
  message := "Sorting the entire result set requires materializing all rows before returning any. "
    ++ "This is a pipeline breaker that can cause out-of-memory errors on large datasets."
  suggestion := "Add a LIMIT clause if you only need a subset, or remove ORDER BY if the order "
    ++ "does not matter. For \"top N\" queries use LIMIT N."
  category := "memory"

def sortsAll (q : Query) : Bool :=
  match q.ordering? with
  | none => false
  | some (order, limit) => !order.isEmpty && limit.isNone

def ordersWithoutLimit (q : Query) (sql : Text) : List Finding :=
  (q.walk.filter fun (inner, _) => sortsAll inner).map fun _ =>
    orderWithoutLimitAdvice.finding (some "ORDER BY".toList) (occurrence? sql "order by".toList)

/-! ## Nesting -/

def nestingThreshold : Nat := 3

def nestedSubqueryAdvice (depth : Nat) : Advice where
  rule := "deeply-nested-subquery"
  severity := .warning
  title := "Deeply nested subquery"
  message := s!"Subqueries are nested {depth} levels deep. Deep nesting is hard to read and the "
    ++ "planner may not be able to flatten it, leading to repeated scans."
  suggestion := "Refactor using CTEs (WITH clauses). DuckDB can materialize a CTE once and reuse "
    ++ "it."
  category := "performance"

def nestedSubqueries (q : Query) (_sql : Text) : List Finding :=
  ((q.selects.find? fun (_, depth) => depth ≥ nestingThreshold).map fun (_, depth) =>
    (nestedSubqueryAdvice depth).overall).toList

/-! ## Cross joins -/

def crossJoinAdvice : Advice where
  rule := "cross-join"
  severity := .warning
  title := "CROSS JOIN detected"
  message := "A CROSS JOIN produces the Cartesian product of both sides (rows_a x rows_b). This is "
    ++ "safe when one side is a single row, such as a scalar CTE, but can explode memory on large "
    ++ "tables."
  suggestion := "Verify that one side of the CROSS JOIN returns a single row. Otherwise use an "
    ++ "INNER or LEFT JOIN with an ON condition."
  category := "memory"

def crossJoinLabel : String := "CROSS JOIN"

def crossJoins (q : Query) (sql : Text) : List Finding :=
  q.selects.flatMap fun (s, _) =>
    (s.sources.filter fun f => f.join == some crossJoinLabel).map fun _ =>
      crossJoinAdvice.finding (some crossJoinLabel.toList) (occurrence? sql "cross join".toList)

/-! ## Joins without a condition -/

def implicitCrossJoinAdvice : Advice where
  rule := "implicit-cross-join"
  severity := .error
  title := "Implicit cross join (comma join without WHERE)"
  message := "Listing tables separated by commas without a WHERE clause creates a Cartesian "
    ++ "product. This is equivalent to CROSS JOIN and can be extremely expensive."
  suggestion := "Use explicit JOIN syntax with ON conditions: FROM a JOIN b ON a.id = b.id"
  category := "memory"

def joinWithoutOnAdvice (label : String) : Advice where
  rule := "join-without-on"
  severity := .warning
  title := "JOIN without ON condition"
  message := s!"{label} has no ON or USING condition. It may produce a Cartesian product or rely "
    ++ "on implicit behavior."
  suggestion := "Always specify an explicit ON condition for joins."
  category := "performance"

/-- A possibly quoted name. -/
def looseName (part : Text) : Shape := optional (char '"') ++ chars part ++ optional (char '"')

/-- The parts of a name with points and white space between them. -/
def looseNames : List Text → Shape
  | [] => nothing
  | [part] => looseName part
  | part :: rest => looseName part ++ gap ++ char '.' ++ gap ++ looseNames rest

/-- The pieces of a text between its points. -/
def pointPieces (piece : Text) : Text → List Text
  | [] => [piece.reverse]
  | c :: rest =>
    if c = '.' then piece.reverse :: pointPieces [] rest else pointPieces (c :: piece) rest

def joinOf (table : Text) : Pattern :=
  .anyCase (edge ++ lit "join" ++ space ++ looseNames (pointPieces [] table)
    ++ notHere (of [.word, .char '.']))

/-- Where JOIN is written in front of a source that the grammar takes for one after a comma. -/
def bareJoin? (sql : Text) (f : Source) : Option Span :=
  if f.join.isNone && !f.hasCondition then
    (nonempty f.table).bind fun table => ((joinOf table.toList).first? sql).map Match.span
  else none

/-- How a source is joined: its label, and where a bare JOIN was found for it. -/
structure Joined where
  source : Source
  label : Option String
  bare : Option Span

/-- A label is as the grammar has it, but JOIN where the text shows a bare one. -/
def Joined.ofSource (sql : Text) (f : Source) : Joined :=
  match bareJoin? sql f with
  | some s => ⟨f, some "JOIN", some s⟩
  | none => ⟨f, f.join, none⟩

/-- The sources with their labels; a bare JOIN is never looked for in front of the first. -/
def joinedSources (sql : Text) : List Source → List Joined
  | [] => []
  | first :: rest => ⟨first, first.join, none⟩ :: rest.map (Joined.ofSource sql)

def shownName (f : Source) : Option String := (nonempty f.table).or (nonempty f.givenName)

/-- Several sources with no label and no filter. -/
def commaJoin (s : Select) (joined : List Joined) : List Finding :=
  if joined.length > 1 && joined.all (fun j => (nonempty j.label).isNone) && s.filter.isNone then
    let names := s.sources.filterMap shownName
    [implicitCrossJoinAdvice.finding
      ((nonempty (some (Text.joinStrings ", " names))).map String.toList) none]
  else []

/-- A source that is joined, though not by CROSS JOIN, and has no condition. -/
def joinWithoutOn (sql : Text) (j : Joined) : Option Finding :=
  match nonempty j.label with
  | none => none
  | some label =>
    if label == crossJoinLabel || j.source.hasCondition then none
    else
      let place := match j.bare with
        | some s => some ⟨s.start, s.start + 4⟩
        | none => occurrence? sql label.toList
      some ((joinWithoutOnAdvice label).finding (some label.toList) place)

def conditionsOf (sql : Text) (s : Select) : List Finding :=
  let joined := joinedSources sql s.sources
  commaJoin s joined ++ joined.filterMap (joinWithoutOn sql)

def joinsWithoutCondition (q : Query) (sql : Text) : List Finding :=
  q.selects.flatMap fun (s, _) => conditionsOf sql s

end QueryLint.Checks

import QueryLint.Pattern.Search

/-! The words that begin, end and qualify the clauses of a query. -/
namespace QueryLint.Sql
set_option autoImplicit false
open Shape Pattern

/-! ## Parts of which the vocabulary is made -/

def pair (first second : String) : Shape := lit first ++ space ++ lit second

/-- The head of a call to one of the functions, up to its opening parenthesis. -/
def callOf (name : Shape) : Shape := edge ++ name ++ gap ++ char '('

/-- Word characters and points, at least one: a column with or without its table. -/
def dotted : Shape := many1 (of [.word, .char '.'])

/-- A name of letters, digits and underscores that does not begin with a digit. -/
def plainName : Shape := of [.letter, .char '_'] ++ many0 word

/-- The end of a call's head: an optional list bracket, then the quote of a file name. -/
def quotedArgument : Shape := gap ++ optional (char '[') ++ gap

/-! ## Clauses -/

def selectStar : Pattern := .anyCase (edge ++ lit "select" ++ space ++ char '*')
def whereKeyword : Pattern := .anyCase (keyword "where")
def onKeyword : Pattern := .anyCase (keyword "on")
def joinKeyword : Pattern := .anyCase (keyword "join")
def orderBy : Pattern := .anyCase (edge ++ pair "order" "by" ++ edge)
def groupBy : Pattern := .anyCase (edge ++ pair "group" "by" ++ edge)
def overClause : Pattern := .anyCase (callOf (lit "over"))
def partitionBy : Pattern := .anyCase (edge ++ pair "partition" "by" ++ edge)
def limitKeyword : Pattern := .anyCase (keyword "limit")
def qualifyKeyword : Pattern := .anyCase (keyword "qualify")
def asofKeyword : Pattern := .anyCase (keyword "asof")
def usingKeyword : Pattern := .anyCase (keyword "using")
def pivotKeyword : Pattern := .anyCase (keyword "pivot")
def unpivotKeyword : Pattern := .anyCase (keyword "unpivot")
def betweenKeyword : Pattern := .anyCase (keyword "between")

/-- The clauses that come after the filter of a query; matched where a word begins. -/
def whereTerminator : Pattern :=
  .anyCase (oneOf [pair "group" "by", pair "order" "by", lit "having", lit "qualify", lit "window",
    lit "limit", lit "offset", lit "union", lit "intersect", lit "except", lit "returning"] ++ edge)

/-- The joins and clauses that come after a join condition; matched where a word begins. -/
def onTerminator : Pattern :=
  .anyCase (oneOf [lit "join", lit "inner", lit "left", lit "right", lit "full", lit "cross",
    lit "natural", lit "positional", lit "asof", lit "anti", lit "semi", lit "where",
    pair "group" "by", pair "order" "by", lit "having", lit "qualify", lit "window", lit "limit",
    lit "offset", lit "union", lit "intersect", lit "except"] ++ edge)

/-! ## Ordering, grouping and limits -/

def rowLimit : Pattern := .anyCase (edge ++ lit "limit" ++ space ++ many1 digit)

def largeOffset : Pattern :=
  .anyCase (edge ++ lit "offset" ++ space ++ group 1 (many1 digit))

def orderDescLimitOne : Pattern :=
  .anyCase (edge ++ pair "order" "by" ++ space ++ dotted ++ space ++ lit "desc"
    ++ optional (space ++ lit "nulls" ++ space ++ anyOf ["first", "last"])
    ++ space ++ lit "limit" ++ space ++ char '1' ++ edge)

def verboseGroupBy : Pattern :=
  .anyCase (edge ++ pair "group" "by" ++ space ++ notHere (lit "all" ++ edge) ++ dotted
    ++ times 3 (gap ++ char ',' ++ gap ++ dotted) ++ many0 (gap ++ char ',' ++ gap ++ dotted))

def groupByOrdinal : Pattern :=
  .anyCase (edge ++ pair "group" "by" ++ space ++ many1 digit ++ edge)

def unionWithoutAll : Pattern :=
  .anyCase (keyword "union" ++ notHere (space ++ lit "all" ++ edge))

/-! ## Named queries and subqueries -/

/-- What may stand between AS and the parenthesis of a named query. -/
def materialization : Shape := optional (optional (lit "not" ++ space) ++ lit "materialized" ++ gap)

def recursiveWith : Pattern := .anyCase (edge ++ pair "with" "recursive" ++ edge)

def namedQueryOpen : Pattern :=
  .anyCase (edge ++ lit "as" ++ gap ++ materialization ++ char '(')

def depthGuard : Pattern :=
  .anyCase (edge ++ oneOf [lit "depth", lit "level", lit "lvl", lit "iteration", lit "n", lit "i",
      lit "hop" ++ optional (char 's')]
    ++ gap ++ char '<' ++ optional (char '=') ++ gap ++ many1 digit)

def usingKey : Pattern := .anyCase (edge ++ pair "using" "key" ++ edge)

def notInSubquery : Pattern :=
  .anyCase (edge ++ pair "not" "in" ++ gap ++ char '(' ++ gap ++ lit "select" ++ edge)

def subqueryOpen : Pattern := .anyCase (char '(' ++ gap ++ lit "select" ++ edge)

/-- The words after which a parenthesis opens a derived table. -/
def derivedTablePrefix : Pattern :=
  .anyCase (edge ++ anyOf ["from", "join", "as", "lateral", "materialized"] ++ gap ++ finish)

/-! ## Statements -/

def createTableAs : Pattern :=
  .anyCase (edge ++ lit "create" ++ space ++ optional (pair "or" "replace" ++ space)
    ++ optional (lit "temp" ++ optional (lit "orary") ++ space) ++ lit "table" ++ space
    ++ optional (lit "if" ++ space ++ pair "not" "exists" ++ space)
    ++ many1 (of [.word, .char '.', .char '"']) ++ space ++ lit "as" ++ gap ++ optional (char '(')
    ++ gap ++ anyOf ["select", "with", "from"] ++ edge)

def distinctStar : Pattern :=
  .anyCase (edge ++ pair "select" "distinct" ++ space ++ char '*')

def insertInto : Pattern :=
  .anyCase (edge ++ lit "insert" ++ space ++ optional (lit "or" ++ space ++ many1 word ++ space)
    ++ lit "into" ++ edge)

def leftJoinOnTrue : Pattern :=
  .anyCase (edge ++ lit "left" ++ space ++ optional (lit "outer" ++ space) ++ lit "join" ++ space
    ++ many1 (of [.word, .char '.', .char '"'])
    ++ optional (space ++ optional (lit "as" ++ space) ++ many1 word)
    ++ space ++ lit "on" ++ space ++ lit "true" ++ edge)

def copyKeyword : Pattern := .anyCase (keyword "copy")

def outOfMemory : Pattern :=
  .anyCase (either (edge ++ pair "out" "of" ++ space ++ lit "memory" ++ edge) (keyword "oom"))

end QueryLint.Sql

import QueryLint.Sql.Vocabulary.Clause

/-! Calls of aggregates, window functions and functions on lists and documents. -/
namespace QueryLint.Sql
set_option autoImplicit false
open Shape Pattern

/-! ## Aggregates -/

def listCall : Pattern := .anyCase (callOf (lit "list"))

def listDistinct : Pattern := .anyCase (callOf (lit "list") ++ gap ++ lit "distinct" ++ edge)

def stringAggCall : Pattern := .anyCase (callOf (lit "string_agg"))

/-- An ordering inside the first parentheses after the name of an aggregate that builds a list. -/
def orderedAggregate : Pattern :=
  .anyCase (callOf (anyOf ["list", "string_agg", "array_agg", "group_concat", "listagg"])
    ++ many0 (except ")") ++ edge ++ pair "order" "by" ++ edge)

def holisticAggregate : Pattern :=
  .anyCase (callOf (oneOf [lit "median", lit "quantile" ++ optional (anyOf ["_cont", "_disc"]),
    lit "percentile_" ++ anyOf ["cont", "disc"], lit "mode"]))

def countDistinct : Pattern := .anyCase (callOf (lit "count") ++ gap ++ lit "distinct" ++ edge)

def conditionalAggregate : Pattern :=
  .anyCase (callOf (anyOf ["sum", "count", "avg", "min", "max"]) ++ gap ++ pair "case" "when"
    ++ edge)

/-- A count of a column: of neither a star, nor distinct values, nor 1, nor nothing. -/
def countColumn : Pattern :=
  .anyCase (callOf (lit "count") ++ gap
    ++ notHere (oneOf [char '*', lit "distinct" ++ edge, char '1' ++ gap ++ char ')', char ')'])
    ++ dotted ++ gap ++ char ')')

/-! ## Windows -/

def rankingNames : List String := ["row_number", "rank", "dense_rank", "ntile"]

def rankingFunction : Pattern := .anyCase (callOf (anyOf rankingNames))

def rankingName : Pattern := .anyCase (edge ++ anyOf rankingNames ++ edge)

/-- A ranking with its window, and in group 1 the name given to it. -/
def rankingAlias : Pattern :=
  .anyCase (callOf (anyOf rankingNames) ++ many0 (except "()") ++ char ')' ++ gap
    ++ lit "over" ++ gap ++ char '(' ++ many0 (except "()") ++ char ')' ++ space ++ lit "as"
    ++ space ++ group 1 (many1 word))

def rankingOrWindow : Pattern :=
  .anyCase (either (callOf (anyOf ["row_number", "rank", "dense_rank", "lag", "lead", "first_value",
    "last_value"])) (callOf (lit "over")))

/-- A row number over an ordered window, the call itself in group 1. -/
def rowNumberWindow : Pattern :=
  .anyCase (edge ++ group 1 (lit "row_number" ++ gap ++ char '(' ++ gap ++ char ')') ++ gap
    ++ lit "over" ++ gap ++ char '(' ++ many0 (except ")") ++ edge ++ pair "order" "by" ++ edge)

/-- A row number, under one of its usual names, kept to the first one or two rows. -/
def rankFilter : Pattern :=
  .anyCase (edge ++ optional (many0 word ++ char '_')
    ++ anyOf ["row_number", "rn", "row_num", "rownum"] ++ gap ++ anyOf ["<=", "=", "<"] ++ gap
    ++ among "12" ++ edge)

/-! ## Lists and documents -/

/-- A list column that is made rows, its name in group 1. -/
def unnestColumn : Pattern :=
  .anyCase (callOf (lit "unnest") ++ gap
    ++ group 1 (of [.letter, .char '_'] ++ many0 (of [.word, .char '.'])) ++ gap ++ among "),")

def listLambdaCall : Pattern :=
  .anyCase (callOf (anyOf ["list_transform", "list_apply", "array_transform", "array_apply"]))

/-- An extraction arrow that a path or an index follows; the arrow of a lambda is none. -/
def jsonArrow : Pattern :=
  .anyCase (lit "->" ++ optional (char '>') ++ gap ++ either (char '\'') digit)

def jsonEachCall : Pattern := .anyCase (callOf (lit "json_" ++ anyOf ["each", "tree"]))

def jsonArrayWildcard : Pattern := .anyCase (lit "'$" ++ many0 (except "'") ++ lit "[*]")

end QueryLint.Sql

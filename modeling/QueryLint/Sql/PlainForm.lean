import QueryLint.Sql.Call

/-! The plain form of a query: constructs that only one dialect has give way to others that a
general grammar accepts. Only a grammar ever sees it; positions in it mean nothing outside. -/
namespace QueryLint.Sql
set_option autoImplicit false
open Shape Pattern

/-- A cast after its operand, with an optional array marker and an optional precision. -/
def castSuffix : Pattern :=
  .exactCase (lit "::" ++ of [.letter, .char '_'] ++ many0 (of [.letter, .digit, .char '_'])
    ++ optional (lit "[]")
    ++ optional (gap ++ char '(' ++ gap ++ many1 digit
      ++ optional (gap ++ char ',' ++ gap ++ many1 digit) ++ gap ++ char ')'))

/-- Functions and what takes the place of their calls, in the order in which they are replaced. What
takes their place keeps the form of the clause: a value, a derived table, an aggregate or a row. -/
def placeholders : List (String × String) :=
  [("list_transform", "NULL"), ("json_extract_string", "NULL"), ("json_each", "(SELECT 1)"),
    ("LIST", "ARRAY_AGG(1)"), ("struct_pack", "ROW(1)")]

def looseName : Shape := optional (char '"') ++ many1 word ++ optional (char '"')

/-- The table that is reshaped, in group 1. -/
def reshapedTable : Shape := group 1 (many0 (looseName ++ char '.') ++ looseName)

/-- A call without parentheses in its arguments. -/
def flatCall : Shape := many1 word ++ gap ++ char '(' ++ many0 (except ")") ++ char ')'

def pivotClause : Pattern :=
  .anyCase (edge ++ lit "PIVOT" ++ space ++ reshapedTable ++ space ++ lit "ON" ++ space
    ++ many false any ++ edge ++ lit "USING" ++ space ++ flatCall
    ++ many0 (gap ++ char ',' ++ gap ++ flatCall))

def unpivotClause : Pattern :=
  .anyCase (edge ++ lit "UNPIVOT" ++ space ++ reshapedTable ++ space ++ lit "ON" ++ space
    ++ many false any
    ++ either (callOf (lit "IN") ++ many0 (except ")") ++ char ')')
      (edge ++ pair "INTO" "NAME" ++ space ++ many1 word ++ space ++ lit "VALUE" ++ space
        ++ many1 word ++ many0 (gap ++ char ',' ++ gap ++ many1 word)))

/-- A query over the whole of the table that a match reshapes. -/
def wholeTable (t : Text) (m : Match) : Text := "SELECT * FROM ".toList ++ m.groupText t 1

/-- The query without casts, then without the calls that have placeholders, then without PIVOT and
UNPIVOT; each step reads what the one before has left. -/
def plainForm (sql : Text) : Text :=
  let uncast := castSuffix.replaceAll sql fun _ => []
  let called := placeholders.foldl
    (fun t (name, placeholder) => replaceCalls name.toList placeholder.toList t) uncast
  let unpivoted := pivotClause.replaceAll called (wholeTable called)
  unpivotClause.replaceAll unpivoted (wholeTable unpivoted)

end QueryLint.Sql

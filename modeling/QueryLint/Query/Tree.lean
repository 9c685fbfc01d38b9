/-! Parsed queries. Only what the checks look at has a form of its own; every other expression keeps
its parts, so that the queries nested in it can still be reached. A name can be absent, which is not
the same as an empty one. -/
namespace QueryLint
set_option autoImplicit false

/-- A name, unless it is empty. -/
def nonempty (name : Option String) : Option String := name.filter (· ≠ "")

mutual

inductive Expr where
  /-- A column with its table, or a star. -/
  | column (name : Option String) (table : Option String) (isStar : Bool)
  | literal (value : String)
  | binary (op : String) (left right : Option Expr)
  | call (name : String) (args : List Expr)
  | subquery (query : Option Query)
  /-- An expression of any other kind. -/
  | other (kind : String) (parts : List Expr)

/-- One source of a FROM clause. The join is absent for the first source and for one that is listed
with a comma; a natural or positional join needs no condition. -/
structure Source where
  table : Option String
  givenName : Option String
  join : Option String
  condition : Option Expr
  usingColumns : List (Option String)
  subquery : Option Query
  expression : Option Expr
  isNatural : Bool

structure Definition where
  name : Option String
  query : Option Query

/-- A SELECT block. The columns are absent if it selects everything by a star alone. -/
structure Select where
  columns : Option (List Expr)
  sources : List Source
  filter : Option Expr
  having : Option Expr
  qualify : Option Expr
  groupBy : List Expr
  orderBy : List Expr
  limit : Option Expr
  definitions : List Definition
  distinct : Bool

structure Combination where
  op : String
  left : Option Query
  right : Option Query
  orderBy : List Expr
  limit : Option Expr
  definitions : List Definition

inductive Query where
  | select (block : Select)
  | combination (parts : Combination)
  /-- A statement that is no query, with the queries that stand in it. -/
  | other (kind : String) (queries : List Query)
  /-- A statement about which nothing is known. -/
  | unknown

end

/-- Whether the source says how it is joined: by a condition, by columns, or by itself. -/
def Source.hasCondition (s : Source) : Bool :=
  s.condition.isSome || !s.usingColumns.isEmpty || s.isNatural

namespace Query

def select? : Query → Option Select
  | select block => some block
  | _ => none

/-- The ordering and the limit of a query; other statements have neither. -/
def ordering? : Query → Option (List Expr × Option Expr)
  | select block => some (block.orderBy, block.limit)
  | combination parts => some (parts.orderBy, parts.limit)
  | _ => none

end Query
end QueryLint

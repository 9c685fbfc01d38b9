import QueryLint.Grammar.Name
import QueryLint.Query.Tree

/-! From nodes to queries. An expression below the limit of depth becomes a leaf; the limit is a
parameter, so that the conversion with it can be compared to the one without. -/
namespace QueryLint
set_option autoImplicit false

def maxConvertDepth : Nat := 200

namespace Grammar

/-! ## Kinds of nodes -/

def isCombination (kind : String) : Bool :=
  kind == "Union" || kind == "Intersect" || kind == "Except"

def isQuery (kind : String) : Bool := kind == "Select" || isCombination kind

def isConstant (kind : String) : Bool := kind == "Literal" || kind == "Boolean" || kind == "Null"

/-- A node that is a query, with or without parentheses around it. -/
def isNestedQuery : Arg → Bool
  | .node n => isQuery n.kind || n.kind == "Subquery"
  | _ => false

/-- The arguments of a star that make it name columns. -/
def starChanges : List String :=
  ["except", "except_", "replace", "replace_", "rename", "rename_"]

/-- A star that neither leaves out, replaces nor renames columns. -/
def isBareStar : Arg → Bool
  | .node n => n.kind == "Star" && starChanges.all fun key => !(n.get key).isSet
  | _ => false

def isStarAlone : List Arg → Bool
  | [column] => isBareStar column
  | _ => false

/-! ## Names -/

def capital (s : String) : String := String.ofList (Text.upper s.toList)

/-- The name of a table with the schema and the catalog in front of it. -/
def tableName (n : Node) (name : Option String) : String :=
  Text.joinStrings "." ([n.text "catalog", n.text "db", name].filterMap nonempty)

/-- The name of a combination; it keeps all rows unless it is marked as distinct. -/
def combinationName (n : Node) : String :=
  if (n.get "distinct").isSet then capital n.kind else capital n.kind ++ " ALL"

/-- The label of a join: its words, which are method, side and kind, or JOIN alone if there is only a
condition. Without any of these the source is listed with a comma. -/
def joinLabel (n : Node) (words : List String) : Option String :=
  match words.filter (· ≠ "") with
  | [] => if !(n.get "on").isAbsent || (n.get "using").isSet then some "JOIN" else none
  | labels => some (Text.joinStrings " " labels ++ " JOIN")

def isConditionFree (method : String) : Bool := method == "NATURAL" || method == "POSITIONAL"

/-- The names of the nodes among the columns of a join. -/
def columnNames : List Arg → Except Failure (List (Option String))
  | [] => .ok []
  | a :: rest => do
    let names ← if a.isNode then (fun name => [name]) <$> a.name else .ok []
    let others ← columnNames rest
    return names ++ others

/-- The limit of a select, which may also be given as a fetch. -/
def limitOf (n : Node) : Arg := if (n.get "limit").isSet then n.get "limit" else n.get "fetch"

theorem sizeOf_limitOf_lt (n : Node) : sizeOf (limitOf n) < sizeOf n := by
  unfold limitOf
  split
  · exact n.sizeOf_get_lt "limit"
  · exact n.sizeOf_get_lt "fetch"

/-! ## Conversion -/

/-- Whether a depth is beyond the limit, if there is one. -/
def isBeyond (limit : Option Nat) (depth : Nat) : Bool := limit.any (· < depth)

/-- A source that has nothing but an alias. -/
def bareSource (name : Option String) : Source := ⟨none, name, none, none, [], none, none, false⟩

/-- The leaf that stands for an expression beyond the limit. -/
def truncated : Expr := .other "truncated" []

mutual

/-- The query that a node is; something that is no node is none. -/
def toQuery? (limit : Option Nat) (a : Arg) (depth : Nat) : Except Failure (Option Query) :=
  match a with
  | .node n =>
    if n.kind == "Subquery" && (n.get "this").isNode then toQuery? limit (n.get "this") depth
    else if n.kind == "Select" then do
      let block ← toSelect limit n depth
      return some (.select block)
    else if isCombination n.kind then do
      let parts ← toCombination limit n depth
      return some (.combination parts)
    else do
      let queries ← toQueries limit n.children depth
      return some (.other (capital n.key) queries)
  | _ => .ok none
termination_by 8 * sizeOf a
decreasing_by all_goals
  have h := n.sizeOf_get_lt "this"
  have c := n.sizeOf_children_lt
  simp only [Arg.node.sizeOf_spec]
  omega

def toQueries (limit : Option Nat) (args : List Arg) (depth : Nat) : Except Failure (List Query) :=
  match args with
  | [] => .ok []
  | a :: rest =>
    if isNestedQuery a then do
      let query ← toQuery? limit a depth
      let others ← toQueries limit rest depth
      return query.toList ++ others
    else toQueries limit rest depth
termination_by 8 * sizeOf args
decreasing_by all_goals
  simp only [List.cons.sizeOf_spec]
  omega

def toDefinitions (limit : Option Nat) (args : List Arg) (depth : Nat) :
    Except Failure (List Definition) :=
  match args with
  | [] => .ok []
  | .node n :: rest => do
    let name ← n.givenName
    let query ← toQuery? limit (n.get "this") depth
    let others ← toDefinitions limit rest depth
    return ⟨name, query⟩ :: others
  | other :: _ => .error (.lacks other.shape "this")
termination_by 8 * sizeOf args
decreasing_by all_goals
  have h := n.sizeOf_get_lt "this"
  simp only [List.cons.sizeOf_spec, Arg.node.sizeOf_spec]
  omega

def toWith (limit : Option Nat) (a : Arg) (depth : Nat) : Except Failure (List Definition) :=
  if a.isAbsent then .ok []
  else do
    a.require "expressions"
    let found := a.get "expressions"
    found.requireList
    found.requireNoLetters "this"
    toDefinitions limit found.items depth
termination_by 8 * sizeOf a + 1
decreasing_by all_goals
  have h := a.sizeOf_get_le "expressions"
  have i := (a.get "expressions").sizeOf_items_le
  omega

def toSelect (limit : Option Nat) (n : Node) (depth : Nat) : Except Failure Select := do
  let projections := n.get "expressions"
  projections.requireCount
  let columns ←
    if isStarAlone projections.items then .ok none
    else some <$> toItems limit projections (depth + 1)
  let listed ← toFrom limit (n.getEither "from" "from_") depth
  (n.get "joins").requireList
  (n.get "joins").requireNoLetters "this"
  let joined ← toJoins limit (n.get "joins").items depth
  let filter ← toClause limit (n.get "where") (depth + 1)
  let having ← toClause limit (n.get "having") (depth + 1)
  let qualify ← toClause limit (n.get "qualify") (depth + 1)
  let groupBy ← toList limit (n.get "group") (depth + 1)
  let orderBy ← toList limit (n.get "order") (depth + 1)
  let rows ← toExpr? limit (limitOf n) (depth + 1)
  let definitions ← toWith limit (n.getEither "with" "with_") depth
  return ⟨columns, listed ++ joined, filter, having, qualify, groupBy, orderBy, rows, definitions,
    (n.get "distinct").isSet⟩
termination_by 8 * sizeOf n + 4
decreasing_by all_goals
  have e := n.sizeOf_get_lt "expressions"
  have f := n.sizeOf_getEither_lt "from" "from_"
  have j := (n.get "joins").sizeOf_items_le
  have j' := n.sizeOf_get_lt "joins"
  have w := n.sizeOf_get_lt "where"
  have h := n.sizeOf_get_lt "having"
  have q := n.sizeOf_get_lt "qualify"
  have g := n.sizeOf_get_lt "group"
  have o := n.sizeOf_get_lt "order"
  have l := sizeOf_limitOf_lt n
  have d := n.sizeOf_getEither_lt "with" "with_"
  omega

def toCombination (limit : Option Nat) (n : Node) (depth : Nat) : Except Failure Combination := do
  let left ← toQuery? limit (n.get "this") depth
  let right ← toQuery? limit (n.get "expression") depth
  let orderBy ← toList limit (n.get "order") (depth + 1)
  let rows ← toExpr? limit (n.get "limit") (depth + 1)
  let definitions ← toWith limit (n.getEither "with" "with_") depth
  return ⟨combinationName n, left, right, orderBy, rows, definitions⟩
termination_by 8 * sizeOf n + 4
decreasing_by all_goals
  have t := n.sizeOf_get_lt "this"
  have e := n.sizeOf_get_lt "expression"
  have o := n.sizeOf_get_lt "order"
  have l := n.sizeOf_get_lt "limit"
  have d := n.sizeOf_getEither_lt "with" "with_"
  omega

def toFrom (limit : Option Nat) (a : Arg) (depth : Nat) : Except Failure (List Source) :=
  if a.isAbsent then .ok []
  else do
    a.require "this"
    let listed := a.get "expressions"
    listed.requireList
    let first ←
      if (a.get "this").isAbsent then .ok []
      else (fun source => [source]) <$> toSource limit (a.get "this") depth
    listed.requireNoLetters "alias"
    let others ← toSources limit listed.items depth
    return first ++ others
termination_by 8 * sizeOf a + 4
decreasing_by all_goals
  have t := a.sizeOf_get_le "this"
  have e := a.sizeOf_get_le "expressions"
  have i := (a.get "expressions").sizeOf_items_le
  omega

def toSources (limit : Option Nat) (args : List Arg) (depth : Nat) :
    Except Failure (List Source) :=
  match args with
  | [] => .ok []
  | a :: rest => do
    let source ← toSource limit a depth
    let others ← toSources limit rest depth
    return source :: others
termination_by 8 * sizeOf args
decreasing_by all_goals
  simp only [List.cons.sizeOf_spec]
  omega

def toSource (limit : Option Nat) (a : Arg) (depth : Nat) : Except Failure Source :=
  match a with
  | .node n => do
    let given ← n.givenName
    let source := bareSource (nonempty given)
    if n.kind == "Subquery" then
      let query ← toQuery? limit (n.get "this") (depth + 1)
      return { source with subquery := query }
    else if isQuery n.kind then
      let query ← toQuery? limit (.node n) (depth + 1)
      return { source with subquery := query }
    else if n.kind == "Table" then
      match n.get "this" with
      | .node inner =>
        if inner.kind == "Identifier" then
          let name ← n.name
          return { source with table := some (tableName n name) }
        else
          let e ← toExpr limit (n.get "this") (depth + 1)
          return { source with expression := some e }
      | _ => return source
    else
      let e ← toExpr limit (.node n) (depth + 1)
      return { source with expression := some e }
  | other => .error (.lacks other.shape "alias")
termination_by 8 * sizeOf a + 2
decreasing_by all_goals
  have t := n.sizeOf_get_lt "this"
  simp only [Arg.node.sizeOf_spec]
  omega

def toJoins (limit : Option Nat) (args : List Arg) (depth : Nat) : Except Failure (List Source) :=
  match args with
  | [] => .ok []
  | .node n :: rest => do
    let source ← toSource limit (n.get "this") depth
    let method ← n.capitals "method"
    let side ← n.capitals "side"
    let kind ← n.capitals "kind"
    let condition ← toExpr? limit (n.get "on") (depth + 1)
    (n.get "using").requireList
    let columns ← columnNames (n.get "using").items
    let others ← toJoins limit rest depth
    return { source with
      join := joinLabel n [method, side, kind]
      condition := condition
      usingColumns := columns
      isNatural := isConditionFree method } :: others
  | other :: _ => .error (.lacks other.shape "this")
termination_by 8 * sizeOf args
decreasing_by all_goals
  have t := n.sizeOf_get_lt "this"
  have c := n.sizeOf_get_lt "on"
  simp only [List.cons.sizeOf_spec, Arg.node.sizeOf_spec]
  omega

def toClause (limit : Option Nat) (a : Arg) (depth : Nat) : Except Failure (Option Expr) :=
  if a.isAbsent then .ok none
  else do
    a.require "this"
    some <$> toExpr limit (a.get "this") depth
termination_by 8 * sizeOf a + 2
decreasing_by all_goals
  have h := a.sizeOf_get_le "this"
  omega

def toList (limit : Option Nat) (a : Arg) (depth : Nat) : Except Failure (List Expr) :=
  if a.isAbsent then .ok []
  else do
    a.require "expressions"
    (a.get "expressions").requireList
    toItems limit (a.get "expressions") depth
termination_by 8 * sizeOf a + 2
decreasing_by all_goals
  have h := a.sizeOf_get_le "expressions"
  omega

/-- The expressions of an argument that can be gone through. Beyond the limit a letter of a text is
cut off as any other expression is; elsewhere it is none. -/
def toItems (limit : Option Nat) (a : Arg) (depth : Nat) : Except Failure (List Expr) :=
  if isBeyond limit depth then
    .ok ((a.items.map fun _ => truncated) ++ a.letters.map fun _ => truncated)
  else do
    a.requireNoLetters "key"
    toExprs limit a.items depth
termination_by 8 * sizeOf a + 1
decreasing_by all_goals
  have h := a.sizeOf_items_le
  omega

def toExpr? (limit : Option Nat) (a : Arg) (depth : Nat) : Except Failure (Option Expr) :=
  if a.isAbsent then .ok none else some <$> toExpr limit a depth
termination_by 8 * sizeOf a + 2
decreasing_by all_goals
  omega

def toExprs (limit : Option Nat) (args : List Arg) (depth : Nat) : Except Failure (List Expr) :=
  match args with
  | [] => .ok []
  | a :: rest => do
    let e ← toExpr limit a depth
    let others ← toExprs limit rest depth
    return e :: others
termination_by 8 * sizeOf args
decreasing_by all_goals
  simp only [List.cons.sizeOf_spec]
  omega

/-- The two sides of an operator; each has to be given, though it may be given as absent. -/
def toSides (limit : Option Nat) (n : Node) (depth : Nat) : Except Failure Expr := do
  if (n.field? "this").isNone then throw (.missingSide "this")
  if (n.field? "expression").isNone then throw (.missingSide "expression")
  let left ← toExpr? limit (n.get "this") depth
  let right ← toExpr? limit (n.get "expression") depth
  return .binary (capital n.key) left right
termination_by 8 * sizeOf n + 4
decreasing_by all_goals
  have t := n.sizeOf_get_lt "this"
  have e := n.sizeOf_get_lt "expression"
  omega

def toExpr (limit : Option Nat) (a : Arg) (depth : Nat) : Except Failure Expr :=
  if isBeyond limit depth then .ok truncated
  else match a with
    | .node n =>
      if n.kind == "Subquery" then do
        let query ← toQuery? limit (n.get "this") (depth + 1)
        return .subquery query
      else if isQuery n.kind then do
        let query ← toQuery? limit (.node n) (depth + 1)
        return .subquery query
      else if n.kind == "Star" then .ok (.column (some "*") none (isBareStar (.node n)))
      else if n.kind == "Column" then do
        let name ← n.name
        return .column name (nonempty (n.text "table")) ((n.get "this").kindIs "Star")
      else if isConstant n.kind then .ok (.literal n.constant)
      else if n.isOperator then toSides limit n (depth + 1)
      else if n.isCall then do
        let name ← match n.function with
          | some name => .ok (some name)
          | none => n.name
        let capitals ← capitalsOf name
        let args ← toExprs limit n.children (depth + 1)
        return .call capitals args
      else do
        let parts ← toExprs limit n.children (depth + 1)
        return .other n.key parts
    | other => .error (.lacks other.shape "key")
termination_by 8 * sizeOf a + 1
decreasing_by all_goals
  have t := n.sizeOf_get_lt "this"
  have c := n.sizeOf_children_lt
  simp only [Arg.node.sizeOf_spec]
  omega

end

end Grammar
end QueryLint

import QueryLint.Query.Tree

/-! Where a query stands inside another one: a route takes one hop after the other, each through one
field of the query it comes from. This is a spec of what can be reached, beside the walks that stop
at a limit. -/
namespace QueryLint
set_option autoImplicit false

/-! ## Places in an expression -/

namespace Expr

/-- One of the expressions of which an expression consists, by its place among them. -/
def child? : Expr → Nat → Option Expr
  | binary _ left _, 0 => left
  | binary _ _ right, 1 => right
  | call _ args, i => args[i]?
  | other _ parts, i => parts[i]?
  | _, _ => none

/-- What stands at the end of a path into an expression. -/
def at? (e : Expr) : List Nat → Option Expr
  | [] => some e
  | i :: path => (e.child? i).bind fun child => child.at? path

end Expr

/-! ## Places in a query -/

/-- A field of a query that holds an expression. -/
inductive Slot where
  | column (i : Nat)
  | sourceExpression (i : Nat)
  | condition (i : Nat)
  | filter
  | having
  | qualify
  | groupBy (i : Nat)
  | orderBy (i : Nat)
  | limit
deriving DecidableEq

/-- A way from a query to one that stands in it, with no other query between them. -/
inductive Hop where
  | definition (i : Nat)
  | source (i : Nat)
  | left
  | right
  | statement (i : Nat)
  /-- To a query in an expression, by a path into it. -/
  | inside (slot : Slot) (path : List Nat)
deriving DecidableEq

namespace Hop

/-- How much deeper a hop leads: a query in a FROM clause or in an expression is one deeper. -/
def cost : Hop → Nat
  | source _ | inside .. => 1
  | _ => 0

def level : Hop → Nat
  | inside _ path => path.length
  | _ => 0

def intoLimit : Hop → Bool
  | inside .limit _ => true
  | _ => false

end Hop

namespace Query

def expr? : Query → Slot → Option Expr
  | select s, .column i => s.columns.bind fun columns => columns[i]?
  | select s, .sourceExpression i => s.sources[i]?.bind Source.expression
  | select s, .condition i => s.sources[i]?.bind Source.condition
  | select s, .filter => s.filter
  | select s, .having => s.having
  | select s, .qualify => s.qualify
  | select s, .groupBy i => s.groupBy[i]?
  | select s, .orderBy i => s.orderBy[i]?
  | select s, .limit => s.limit
  | combination c, .orderBy i => c.orderBy[i]?
  | combination c, .limit => c.limit
  | _, _ => none

def hop? : Query → Hop → Option Query
  | select s, .definition i => s.definitions[i]?.bind Definition.query
  | select s, .source i => s.sources[i]?.bind Source.subquery
  | combination c, .definition i => c.definitions[i]?.bind Definition.query
  | combination c, .left => c.left
  | combination c, .right => c.right
  | other _ queries, .statement i => queries[i]?
  | q, .inside slot path =>
    (q.expr? slot).bind fun e => (e.at? path).bind fun
      | .subquery query => query
      | _ => none
  | _, _ => none

end Query

/-! ## Routes -/

abbrev Route := List Hop

namespace Route

def depth : Route → Nat
  | [] => 0
  | hop :: rest => hop.cost + depth rest

/-- Every query on the way has a depth below a limit, and no hop goes deeper into an expression than
the limit. -/
structure Within (limit : Nat) (r : Route) : Prop where
  depth_lt : ∀ n < r.length, depth (r.take n) < limit
  level_le : ∀ hop ∈ r, hop.level ≤ limit

def AvoidsLimits (r : Route) : Prop := ∀ hop ∈ r, hop.intoLimit = false

instance (r : Route) : Decidable r.AvoidsLimits :=
  inferInstanceAs (Decidable (∀ hop ∈ r, hop.intoLimit = false))

end Route

def Query.at? (q : Query) : Route → Option Query
  | [] => some q
  | hop :: rest => (q.hop? hop).bind fun next => next.at? rest

end QueryLint

import QueryLint.Query.Size
import QueryLint.Query.Tree

/-! Walking through a query and all queries nested in it. Both walks keep a stack of what is still
to be visited; they end because every item is replaced by parts that are smaller in sum. -/
namespace QueryLint
set_option autoImplicit false

/-- What lies deeper than this is not walked. -/
def maxWalkDepth : Nat := 64

/-! ## Queries inside an expression -/

namespace Expr

/-- The expressions of which an expression consists, from left to right. -/
def parts : Expr → List Expr
  | binary _ left right => left.toList ++ right.toList
  | call _ args => args
  | other _ parts => parts
  | column .. | literal _ | subquery _ => []

def query? : Expr → Option Query
  | subquery query => query
  | _ => none

end Expr

theorem map_fst_atLevel {α : Type} (items : List α) (level : Nat) :
    (items.map fun item => (item, level)).map Prod.fst = items := by
  simp [Function.comp_def]

theorem Expr.sizeOf_parts_le (e : Expr) : sizeOf e.parts ≤ sizeOf e := by
  cases e with
  | binary op left right =>
    have hl := sizeOf_toList_le left
    have hr := sizeOf_toList_le right
    simp only [Expr.parts, sizeOf_append, Expr.binary.sizeOf_spec]
    omega
  | _ =>
    simp only [Expr.parts, Expr.call.sizeOf_spec, Expr.other.sizeOf_spec, Expr.column.sizeOf_spec,
      Expr.literal.sizeOf_spec, Expr.subquery.sizeOf_spec, List.nil.sizeOf_spec]
    omega

/-- The queries in the expressions on a stack, each with its level; those inside these queries are
left to `walk`. -/
def subqueriesFrom (stack : List (Expr × Nat)) : List Query :=
  match stack with
  | [] => []
  | (e, level) :: rest =>
    if level > maxWalkDepth then subqueriesFrom rest
    else e.query?.toList ++ subqueriesFrom (e.parts.map (fun part => (part, level + 1)) ++ rest)
termination_by sizeOf (stack.map Prod.fst)
decreasing_by
  · simp only [List.map_cons, List.cons.sizeOf_spec]
    omega
  · have hparts := e.sizeOf_parts_le
    simp only [List.map_append, map_fst_atLevel, sizeOf_append, List.map_cons,
      List.cons.sizeOf_spec]
    omega

def Expr.subqueries (e : Expr) : List Query := subqueriesFrom [(e, 0)]

theorem sizeOf_subqueriesFrom_le (stack : List (Expr × Nat)) :
    sizeOf (subqueriesFrom stack) ≤ sizeOf (stack.map Prod.fst) := by
  fun_induction subqueriesFrom stack with
  | case1 => simp
  | case2 e level rest h ih =>
    simp only [List.map_cons, List.cons.sizeOf_spec]
    omega
  | case3 e level rest h ih =>
    rw [List.map_append, map_fst_atLevel, sizeOf_append] at ih
    have hquery := sizeOf_toList_le e.query?
    have hparts := e.sizeOf_parts_le
    simp only [sizeOf_append, List.map_cons, List.cons.sizeOf_spec]
    -- an expression is a query or has parts, not both
    cases e with
    | subquery query =>
      simp only [Expr.query?, Expr.parts, Expr.subquery.sizeOf_spec, List.nil.sizeOf_spec] at *
      omega
    | _ => simp only [Expr.query?, Option.none.sizeOf_spec] at *; omega

theorem Expr.sizeOf_subqueries_le (e : Expr) : sizeOf e.subqueries ≤ sizeOf e + 2 := by
  have h := sizeOf_subqueriesFrom_le [(e, 0)]
  simp only [List.map_cons, List.map_nil, List.cons.sizeOf_spec, List.nil.sizeOf_spec] at h
  rw [Expr.subqueries]
  omega

/-! ## Queries inside a query -/

/-- The expressions of a select, in the order in which they are walked. -/
def Select.expressions (s : Select) : List Expr :=
  s.columns.getD [] ++ s.sources.flatMap (fun f => f.expression.toList ++ f.condition.toList)
    ++ s.filter.toList ++ s.having.toList ++ s.qualify.toList ++ s.groupBy ++ s.orderBy

/-- The queries directly inside a query, with their depths: those of a WITH clause, the arms of a
combination and the queries of a statement stay at the same depth, all others are one deeper. -/
def Query.nested (depth : Nat) : Query → List (Query × Nat)
  | select s =>
    (s.definitions.filterMap Definition.query).map (fun q => (q, depth))
      ++ (s.sources.filterMap Source.subquery).map (fun q => (q, depth + 1))
      ++ (s.expressions.flatMap Expr.subqueries).map (fun q => (q, depth + 1))
  | combination c =>
    (c.definitions.filterMap Definition.query).map (fun q => (q, depth))
      ++ (c.left.toList ++ c.right.toList).map (fun q => (q, depth))
      ++ (c.orderBy.flatMap Expr.subqueries).map (fun q => (q, depth + 1))
  | other _ queries => queries.map (fun q => (q, depth))
  | unknown => []

theorem sizeOf_definitions_le (l : List Definition) :
    sizeOf (l.filterMap Definition.query) ≤ sizeOf l := by
  refine sizeOf_filterMap_le (fun d => ?_) l
  cases d
  simp only [Definition.mk.sizeOf_spec]
  omega

/-- The queries and the expressions of the sources together are no larger than the sources. -/
theorem sizeOf_sources_le (l : List Source) :
    sizeOf (l.filterMap Source.subquery)
      + sizeOf (l.flatMap fun f => f.expression.toList ++ f.condition.toList) ≤ sizeOf l + 1 := by
  induction l with
  | nil => simp
  | cons f l ih =>
    obtain ⟨table, givenName, join, condition, usingColumns, subquery, expression, isNatural⟩ := f
    have he := sizeOf_toList_le expression
    have hc := sizeOf_toList_le condition
    rw [List.flatMap_cons, List.filterMap_cons, sizeOf_append, sizeOf_append]
    cases subquery <;>
      simp only [List.cons.sizeOf_spec, Source.mk.sizeOf_spec, Option.some.sizeOf_spec,
        Option.none.sizeOf_spec] at * <;>
      omega

theorem Select.sizeOf_expressions_le (s : Select) :
    sizeOf s.expressions + sizeOf (s.sources.filterMap Source.subquery) + sizeOf s.definitions
      ≤ sizeOf s := by
  obtain ⟨columns, sources, filter, having, qualify, groupBy, orderBy, limit, definitions,
    distinct⟩ := s
  have hs := sizeOf_sources_le sources
  have hw := sizeOf_toList_le filter
  have hh := sizeOf_toList_le having
  have hq := sizeOf_toList_le qualify
  have hc : sizeOf (columns.getD []) ≤ sizeOf columns := by
    cases columns <;> simp
  simp only [Select.expressions, Select.mk.sizeOf_spec, sizeOf_append]
  omega

theorem Query.sizeOf_nested_le (q : Query) (depth : Nat) :
    sizeOf ((q.nested depth).map Prod.fst) ≤ sizeOf q := by
  cases q with
  | select s =>
    have hd := sizeOf_definitions_le s.definitions
    have hs := s.sizeOf_expressions_le
    have he := sizeOf_flatMap_le Expr.sizeOf_subqueries_le s.expressions
    simp only [Query.nested, List.map_append, map_fst_atLevel, sizeOf_append, Query.select.sizeOf_spec]
    omega
  | combination c =>
    obtain ⟨op, left, right, orderBy, limit, definitions⟩ := c
    have hd := sizeOf_definitions_le definitions
    have hl := sizeOf_toList_le left
    have hr := sizeOf_toList_le right
    have he := sizeOf_flatMap_le Expr.sizeOf_subqueries_le orderBy
    simp only [Query.nested, List.map_append, map_fst_atLevel, sizeOf_append,
      Query.combination.sizeOf_spec, Combination.mk.sizeOf_spec]
    omega
  | other kind queries =>
    simp only [Query.nested, map_fst_atLevel, Query.other.sizeOf_spec]
    omega
  | unknown => simp [Query.nested]

/-- The queries on a stack and all queries nested in them, each before what is inside it. -/
def walkFrom (stack : List (Query × Nat)) : List (Query × Nat) :=
  match stack with
  | [] => []
  | (q, depth) :: rest =>
    (q, depth) :: walkFrom ((if depth ≥ maxWalkDepth then [] else q.nested depth) ++ rest)
termination_by sizeOf (stack.map Prod.fst)
decreasing_by
  have hnested := q.sizeOf_nested_le depth
  simp only [List.map_append, sizeOf_append, List.map_cons, List.cons.sizeOf_spec]
  split
  · simp only [List.map_nil, List.nil.sizeOf_spec]; omega
  · omega

/-- The query and all queries nested in it, with their depths, the outermost at depth 0. -/
def Query.walk (q : Query) : List (Query × Nat) := walkFrom [(q, 0)]

def Query.selects (q : Query) : List (Select × Nat) :=
  q.walk.filterMap fun (q, depth) => q.select?.map fun s => (s, depth)

end QueryLint

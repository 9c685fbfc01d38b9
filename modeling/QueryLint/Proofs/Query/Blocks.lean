import QueryLint.Query.Tree

/-! The SELECT blocks that a query contains, through whatever field and however deep: a spec of what
can be found in a query, beside the walks that stop at a limit. -/
namespace QueryLint
set_option autoImplicit false

mutual

/-- The query itself if it is a block, and every block that is nested in it. -/
def Query.blocks : Query → List Select
  | .select s => s :: s.inner
  | .combination c => c.inner
  | .other _ queries => blocksOfQueries queries
  | .unknown => []

def Select.inner : Select → List Select
  | ⟨columns, sources, filter, having, qualify, groupBy, orderBy, limit, definitions, _⟩ =>
    blocksOfColumns columns ++ blocksOfSources sources ++ blocksOfExpr? filter
      ++ blocksOfExpr? having ++ blocksOfExpr? qualify ++ blocksOfExprs groupBy
      ++ blocksOfExprs orderBy ++ blocksOfExpr? limit ++ blocksOfDefinitions definitions

def Combination.inner : Combination → List Select
  | ⟨_, left, right, orderBy, limit, definitions⟩ =>
    blocksOfQuery? left ++ blocksOfQuery? right ++ blocksOfExprs orderBy ++ blocksOfExpr? limit
      ++ blocksOfDefinitions definitions

def Source.inner : Source → List Select
  | ⟨_, _, _, condition, _, subquery, expression, _⟩ =>
    blocksOfQuery? subquery ++ blocksOfExpr? expression ++ blocksOfExpr? condition

def Definition.inner : Definition → List Select
  | ⟨_, query⟩ => blocksOfQuery? query

def Expr.inner : Expr → List Select
  | .binary _ left right => blocksOfExpr? left ++ blocksOfExpr? right
  | .call _ args => blocksOfExprs args
  | .other _ parts => blocksOfExprs parts
  | .subquery query => blocksOfQuery? query
  | .column .. | .literal _ => []

def blocksOfColumns : Option (List Expr) → List Select
  | none => []
  | some columns => blocksOfExprs columns

def blocksOfExprs : List Expr → List Select
  | [] => []
  | e :: rest => e.inner ++ blocksOfExprs rest

def blocksOfExpr? : Option Expr → List Select
  | none => []
  | some e => e.inner

def blocksOfSources : List Source → List Select
  | [] => []
  | s :: rest => s.inner ++ blocksOfSources rest

def blocksOfDefinitions : List Definition → List Select
  | [] => []
  | d :: rest => d.inner ++ blocksOfDefinitions rest

def blocksOfQueries : List Query → List Select
  | [] => []
  | q :: rest => q.blocks ++ blocksOfQueries rest

def blocksOfQuery? : Option Query → List Select
  | none => []
  | some q => q.blocks

end

/-! ## Blocks of parts, one after the other -/

theorem blocksOfExprs_eq (es : List Expr) : blocksOfExprs es = es.flatMap Expr.inner := by
  induction es with
  | nil => rfl
  | cons e es ih => rw [blocksOfExprs, ih, List.flatMap_cons]

theorem blocksOfExpr?_eq (e : Option Expr) : blocksOfExpr? e = blocksOfExprs e.toList := by
  cases e <;> simp [blocksOfExpr?, blocksOfExprs]

theorem blocksOfSources_eq (fs : List Source) : blocksOfSources fs = fs.flatMap Source.inner := by
  induction fs with
  | nil => rfl
  | cons f fs ih => rw [blocksOfSources, ih, List.flatMap_cons]

theorem blocksOfQueries_eq (qs : List Query) : blocksOfQueries qs = qs.flatMap Query.blocks := by
  induction qs with
  | nil => rfl
  | cons q qs ih => rw [blocksOfQueries, ih, List.flatMap_cons]

theorem blocksOfDefinitions_eq (ds : List Definition) :
    blocksOfDefinitions ds = (ds.filterMap Definition.query).flatMap Query.blocks := by
  induction ds with
  | nil => rfl
  | cons d ds ih =>
    obtain ⟨name, query⟩ := d
    cases query <;> simp [blocksOfDefinitions, ih, Definition.inner, blocksOfQuery?]

theorem blocksOfQueries_append (s t : List Query) :
    blocksOfQueries (s ++ t) = blocksOfQueries s ++ blocksOfQueries t := by
  simp only [blocksOfQueries_eq, List.flatMap_append]

theorem blocksOfQueries_toList (q : Option Query) : blocksOfQueries q.toList = blocksOfQuery? q := by
  cases q <;> simp [blocksOfQueries_eq, blocksOfQuery?]

theorem blocksOfSources_append (s t : List Source) :
    blocksOfSources (s ++ t) = blocksOfSources s ++ blocksOfSources t := by
  simp only [blocksOfSources_eq, List.flatMap_append]

theorem Source.inner_eq (s : Source) :
    s.inner = blocksOfQuery? s.subquery ++ blocksOfExpr? s.expression
      ++ blocksOfExpr? s.condition := by
  cases s
  rfl

theorem Select.inner_eq (s : Select) :
    s.inner = (s.columns.getD []).flatMap Expr.inner ++ s.sources.flatMap Source.inner
      ++ s.filter.toList.flatMap Expr.inner ++ s.having.toList.flatMap Expr.inner
      ++ s.qualify.toList.flatMap Expr.inner ++ s.groupBy.flatMap Expr.inner
      ++ s.orderBy.flatMap Expr.inner ++ s.limit.toList.flatMap Expr.inner
      ++ (s.definitions.filterMap Definition.query).flatMap Query.blocks := by
  obtain ⟨columns, sources, filter, having, qualify, groupBy, orderBy, limit, definitions,
    distinct⟩ := s
  have hcolumns : blocksOfColumns columns = blocksOfExprs (columns.getD []) := by
    cases columns <;> rfl
  simp only [Select.inner, hcolumns, blocksOfSources_eq, blocksOfExpr?_eq, blocksOfExprs_eq,
    blocksOfDefinitions_eq]

theorem Combination.inner_eq (c : Combination) :
    c.inner = (c.left.toList ++ c.right.toList).flatMap Query.blocks ++ c.orderBy.flatMap Expr.inner
      ++ c.limit.toList.flatMap Expr.inner
      ++ (c.definitions.filterMap Definition.query).flatMap Query.blocks := by
  obtain ⟨op, left, right, orderBy, limit, definitions⟩ := c
  simp only [Combination.inner, blocksOfExpr?_eq, blocksOfExprs_eq, blocksOfDefinitions_eq,
    ← blocksOfQueries_toList, blocksOfQueries_eq, List.flatMap_append]

theorem blocksOfExprs_eq_nil {es : List Expr} (h : ∀ e ∈ es, e.inner = []) :
    blocksOfExprs es = [] := by
  rw [blocksOfExprs_eq, List.flatMap_eq_nil_iff]
  exact h

end QueryLint

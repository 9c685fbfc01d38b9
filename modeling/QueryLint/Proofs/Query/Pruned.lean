import QueryLint.Grammar.Conversion

/-! Cutting a query off below a level. The depth of an expression counts one level for itself and one
for each expression, each query of a FROM clause and each query in an expression that it stands in;
queries of a WITH clause, arms of a combination and queries of a statement add none. Main statement:
`Query.pruned_eq_self`, nothing is cut off a query whose deepest expression is within the limit. -/
namespace QueryLint
set_option autoImplicit false

/-! ## Pruning -/

section Pruned

variable (limit : Nat)

mutual

/-- The expression at a depth, with a leaf for each expression in it that is beyond the limit. -/
def Expr.pruned (depth : Nat) (e : Expr) : Expr :=
  if limit < depth then Grammar.truncated
  else match e with
    | .binary op left right =>
      .binary op (prunedExpr? (depth + 1) left) (prunedExpr? (depth + 1) right)
    | .call name args => .call name (prunedExprs (depth + 1) args)
    | .other kind parts => .other kind (prunedExprs (depth + 1) parts)
    | .subquery query => .subquery (prunedQuery? (depth + 1) query)
    | .column name table isStar => .column name table isStar
    | .literal value => .literal value

def prunedExpr? (depth : Nat) : Option Expr → Option Expr
  | none => none
  | some e => some (e.pruned depth)

def prunedExprs (depth : Nat) : List Expr → List Expr
  | [] => []
  | e :: rest => e.pruned depth :: prunedExprs depth rest

def prunedColumns (depth : Nat) : Option (List Expr) → Option (List Expr)
  | none => none
  | some columns => some (prunedExprs depth columns)

def Source.pruned (depth : Nat) : Source → Source
  | ⟨table, givenName, join, condition, usingColumns, subquery, expression, isNatural⟩ =>
    ⟨table, givenName, join, prunedExpr? (depth + 1) condition, usingColumns,
      prunedQuery? (depth + 1) subquery, prunedExpr? (depth + 1) expression, isNatural⟩

def prunedSources (depth : Nat) : List Source → List Source
  | [] => []
  | s :: rest => s.pruned depth :: prunedSources depth rest

def Definition.pruned (depth : Nat) : Definition → Definition
  | ⟨name, query⟩ => ⟨name, prunedQuery? depth query⟩

def prunedDefinitions (depth : Nat) : List Definition → List Definition
  | [] => []
  | d :: rest => d.pruned depth :: prunedDefinitions depth rest

def Select.pruned (depth : Nat) : Select → Select
  | ⟨columns, sources, filter, having, qualify, groupBy, orderBy, rows, definitions, distinct⟩ =>
    ⟨prunedColumns (depth + 1) columns, prunedSources depth sources,
      prunedExpr? (depth + 1) filter, prunedExpr? (depth + 1) having,
      prunedExpr? (depth + 1) qualify, prunedExprs (depth + 1) groupBy,
      prunedExprs (depth + 1) orderBy, prunedExpr? (depth + 1) rows,
      prunedDefinitions depth definitions, distinct⟩

def Combination.pruned (depth : Nat) : Combination → Combination
  | ⟨op, left, right, orderBy, rows, definitions⟩ =>
    ⟨op, prunedQuery? depth left, prunedQuery? depth right, prunedExprs (depth + 1) orderBy,
      prunedExpr? (depth + 1) rows, prunedDefinitions depth definitions⟩

def Query.pruned (depth : Nat) : Query → Query
  | .select block => .select (block.pruned depth)
  | .combination parts => .combination (parts.pruned depth)
  | .other kind queries => .other kind (prunedQueries depth queries)
  | .unknown => .unknown

def prunedQuery? (depth : Nat) : Option Query → Option Query
  | none => none
  | some q => some (q.pruned depth)

def prunedQueries (depth : Nat) : List Query → List Query
  | [] => []
  | q :: rest => q.pruned depth :: prunedQueries depth rest

end

end Pruned

/-! ## The deepest expression -/

mutual

/-- The depth of the deepest expression in an expression at a depth. -/
def Expr.deepest (depth : Nat) : Expr → Nat
  | .binary _ left right =>
    max depth (max (deepestExpr? (depth + 1) left) (deepestExpr? (depth + 1) right))
  | .call _ args => max depth (deepestExprs (depth + 1) args)
  | .other _ parts => max depth (deepestExprs (depth + 1) parts)
  | .subquery query => max depth (deepestQuery? (depth + 1) query)
  | .column .. | .literal _ => depth

def deepestExpr? (depth : Nat) : Option Expr → Nat
  | none => 0
  | some e => e.deepest depth

def deepestExprs (depth : Nat) : List Expr → Nat
  | [] => 0
  | e :: rest => max (e.deepest depth) (deepestExprs depth rest)

def deepestColumns (depth : Nat) : Option (List Expr) → Nat
  | none => 0
  | some columns => deepestExprs depth columns

def Source.deepest (depth : Nat) : Source → Nat
  | ⟨_, _, _, condition, _, subquery, expression, _⟩ =>
    max (deepestExpr? (depth + 1) condition)
      (max (deepestQuery? (depth + 1) subquery) (deepestExpr? (depth + 1) expression))

def deepestSources (depth : Nat) : List Source → Nat
  | [] => 0
  | s :: rest => max (s.deepest depth) (deepestSources depth rest)

def Definition.deepest (depth : Nat) : Definition → Nat
  | ⟨_, query⟩ => deepestQuery? depth query

def deepestDefinitions (depth : Nat) : List Definition → Nat
  | [] => 0
  | d :: rest => max (d.deepest depth) (deepestDefinitions depth rest)

def Select.deepest (depth : Nat) : Select → Nat
  | ⟨columns, sources, filter, having, qualify, groupBy, orderBy, rows, definitions, _⟩ =>
    [deepestColumns (depth + 1) columns, deepestSources depth sources,
      deepestExpr? (depth + 1) filter, deepestExpr? (depth + 1) having,
      deepestExpr? (depth + 1) qualify, deepestExprs (depth + 1) groupBy,
      deepestExprs (depth + 1) orderBy, deepestExpr? (depth + 1) rows,
      deepestDefinitions depth definitions].foldr max 0

def Combination.deepest (depth : Nat) : Combination → Nat
  | ⟨_, left, right, orderBy, rows, definitions⟩ =>
    [deepestQuery? depth left, deepestQuery? depth right, deepestExprs (depth + 1) orderBy,
      deepestExpr? (depth + 1) rows, deepestDefinitions depth definitions].foldr max 0

/-- The depth of the deepest expression in a query at a depth, zero if there is none. -/
def Query.deepest (depth : Nat) : Query → Nat
  | .select block => block.deepest depth
  | .combination parts => parts.deepest depth
  | .other _ queries => deepestQueries depth queries
  | .unknown => 0

def deepestQuery? (depth : Nat) : Option Query → Nat
  | none => 0
  | some q => q.deepest depth

def deepestQueries (depth : Nat) : List Query → Nat
  | [] => 0
  | q :: rest => max (q.deepest depth) (deepestQueries depth rest)

end

/-! ## Lists -/

theorem eq_map_of_cons {α β : Type} {all : List α → List β} {each : α → β} (hnil : all [] = [])
    (hcons : ∀ a rest, all (a :: rest) = each a :: all rest) (l : List α) : all l = l.map each := by
  induction l with
  | nil => rw [hnil, List.map_nil]
  | cons a rest ih => rw [hcons, List.map_cons, ih]

theorem prunedSources_eq_map (limit depth : Nat) (l : List Source) :
    prunedSources limit depth l = l.map (Source.pruned limit depth) :=
  eq_map_of_cons (by rw [prunedSources]) (fun _ _ => by rw [prunedSources]) l

theorem Expr.pruned_beyond {limit depth : Nat} (h : limit < depth) (e : Expr) :
    e.pruned limit depth = Grammar.truncated := by
  rw [Expr.pruned.eq_def, if_pos h]

/-! ## Within the limit nothing is cut off -/

variable {limit : Nat}

mutual

theorem Expr.pruned_eq_self {depth : Nat} (e : Expr) (h : e.deepest depth ≤ limit) :
    e.pruned limit depth = e := by
  match e with
  | .binary op left right =>
    rw [Expr.deepest] at h
    rw [Expr.pruned, if_neg (by omega), prunedExpr?_eq_self left (by omega),
      prunedExpr?_eq_self right (by omega)]
  | .call name args =>
    rw [Expr.deepest] at h
    rw [Expr.pruned, if_neg (by omega), prunedExprs_eq_self args (by omega)]
  | .other kind parts =>
    rw [Expr.deepest] at h
    rw [Expr.pruned, if_neg (by omega), prunedExprs_eq_self parts (by omega)]
  | .subquery query =>
    rw [Expr.deepest] at h
    rw [Expr.pruned, if_neg (by omega), prunedQuery?_eq_self query (by omega)]
  | .column name table isStar =>
    rw [Expr.deepest] at h
    rw [Expr.pruned, if_neg (by omega)]
  | .literal value =>
    rw [Expr.deepest] at h
    rw [Expr.pruned, if_neg (by omega)]

theorem prunedExpr?_eq_self {depth : Nat} (e : Option Expr) (h : deepestExpr? depth e ≤ limit) :
    prunedExpr? limit depth e = e := by
  match e with
  | none => rfl
  | some e =>
    rw [deepestExpr?] at h
    rw [prunedExpr?, e.pruned_eq_self h]

theorem prunedExprs_eq_self {depth : Nat} (es : List Expr) (h : deepestExprs depth es ≤ limit) :
    prunedExprs limit depth es = es := by
  match es with
  | [] => rfl
  | e :: rest =>
    rw [deepestExprs] at h
    rw [prunedExprs, e.pruned_eq_self (by omega), prunedExprs_eq_self rest (by omega)]

theorem prunedColumns_eq_self {depth : Nat} (columns : Option (List Expr))
    (h : deepestColumns depth columns ≤ limit) : prunedColumns limit depth columns = columns := by
  match columns with
  | none => rfl
  | some columns =>
    rw [deepestColumns] at h
    rw [prunedColumns, prunedExprs_eq_self columns h]

theorem Source.pruned_eq_self {depth : Nat} (s : Source) (h : s.deepest depth ≤ limit) :
    s.pruned limit depth = s := by
  match s with
  | ⟨table, givenName, join, condition, usingColumns, subquery, expression, isNatural⟩ =>
    rw [Source.deepest] at h
    rw [Source.pruned, prunedExpr?_eq_self condition (by omega),
      prunedQuery?_eq_self subquery (by omega), prunedExpr?_eq_self expression (by omega)]

theorem prunedSources_eq_self {depth : Nat} (l : List Source)
    (h : deepestSources depth l ≤ limit) : prunedSources limit depth l = l := by
  match l with
  | [] => rfl
  | s :: rest =>
    rw [deepestSources] at h
    rw [prunedSources, s.pruned_eq_self (by omega), prunedSources_eq_self rest (by omega)]

theorem Definition.pruned_eq_self {depth : Nat} (d : Definition) (h : d.deepest depth ≤ limit) :
    d.pruned limit depth = d := by
  match d with
  | ⟨name, query⟩ =>
    rw [Definition.deepest] at h
    rw [Definition.pruned, prunedQuery?_eq_self query h]

theorem prunedDefinitions_eq_self {depth : Nat} (l : List Definition)
    (h : deepestDefinitions depth l ≤ limit) : prunedDefinitions limit depth l = l := by
  match l with
  | [] => rfl
  | d :: rest =>
    rw [deepestDefinitions] at h
    rw [prunedDefinitions, d.pruned_eq_self (by omega), prunedDefinitions_eq_self rest (by omega)]

theorem Select.pruned_eq_self {depth : Nat} (s : Select) (h : s.deepest depth ≤ limit) :
    s.pruned limit depth = s := by
  match s with
  | ⟨columns, sources, filter, having, qualify, groupBy, orderBy, rows, definitions, distinct⟩ =>
    simp only [Select.deepest, List.foldr_cons, List.foldr_nil, Nat.max_le] at h
    obtain ⟨hcolumns, hsources, hfilter, hhaving, hqualify, hgroupBy, horderBy, hrows,
      hdefinitions, -⟩ := h
    rw [Select.pruned, prunedColumns_eq_self columns hcolumns,
      prunedSources_eq_self sources hsources, prunedExpr?_eq_self filter hfilter,
      prunedExpr?_eq_self having hhaving, prunedExpr?_eq_self qualify hqualify,
      prunedExprs_eq_self groupBy hgroupBy, prunedExprs_eq_self orderBy horderBy,
      prunedExpr?_eq_self rows hrows, prunedDefinitions_eq_self definitions hdefinitions]

theorem Combination.pruned_eq_self {depth : Nat} (c : Combination)
    (h : c.deepest depth ≤ limit) : c.pruned limit depth = c := by
  match c with
  | ⟨op, left, right, orderBy, rows, definitions⟩ =>
    simp only [Combination.deepest, List.foldr_cons, List.foldr_nil, Nat.max_le] at h
    obtain ⟨hleft, hright, horderBy, hrows, hdefinitions, -⟩ := h
    rw [Combination.pruned, prunedQuery?_eq_self left hleft, prunedQuery?_eq_self right hright,
      prunedExprs_eq_self orderBy horderBy, prunedExpr?_eq_self rows hrows,
      prunedDefinitions_eq_self definitions hdefinitions]

theorem Query.pruned_eq_self {depth : Nat} (q : Query) (h : q.deepest depth ≤ limit) :
    q.pruned limit depth = q := by
  match q with
  | .select block => rw [Query.pruned, block.pruned_eq_self h]
  | .combination parts => rw [Query.pruned, parts.pruned_eq_self h]
  | .other kind queries => rw [Query.pruned, prunedQueries_eq_self queries h]
  | .unknown => rfl

theorem prunedQuery?_eq_self {depth : Nat} (q : Option Query) (h : deepestQuery? depth q ≤ limit) :
    prunedQuery? limit depth q = q := by
  match q with
  | none => rfl
  | some q =>
    rw [deepestQuery?] at h
    rw [prunedQuery?, q.pruned_eq_self h]

theorem prunedQueries_eq_self {depth : Nat} (l : List Query)
    (h : deepestQueries depth l ≤ limit) : prunedQueries limit depth l = l := by
  match l with
  | [] => rfl
  | q :: rest =>
    rw [deepestQueries] at h
    rw [prunedQueries, q.pruned_eq_self (by omega), prunedQueries_eq_self rest (by omega)]

end

end QueryLint

import QueryLint.Proofs.Grammar.Limit
import QueryLint.Proofs.Query.Reached

/-! How deep a converted query can be. On a way down from a query each expression is a level and each
query of a FROM clause is one. The limit stops the way at an expression; from one query of a FROM
clause to the next there is none, so these go on without end. Main statement: `levels_bounded_iff`,
below the limit every expression is cut off, and the levels are bounded just if the queries of FROM
clauses on the way are. -/
namespace QueryLint
set_option autoImplicit false

/-! ## Levels on a way -/

namespace Hop

/-- The levels that a hop passes: a query of a FROM clause, or the expressions down to a query. -/
def levels : Hop → Nat
  | source _ => 1
  | inside _ path => path.length + 1
  | _ => 0

/-- Whether a hop leads into a FROM clause, as a number. -/
def derived : Hop → Nat
  | source _ => 1
  | _ => 0

theorem derived_le_levels (hop : Hop) : hop.derived ≤ hop.levels := by
  cases hop <;> simp [derived, levels]

end Hop

namespace Route

def levels : Route → Nat
  | [] => 0
  | hop :: rest => hop.levels + levels rest

def derived : Route → Nat
  | [] => 0
  | hop :: rest => hop.derived + derived rest

theorem derived_le_levels (r : Route) : r.derived ≤ r.levels := by
  induction r with
  | nil => exact Nat.le_refl 0
  | cons hop rest ih => exact Nat.add_le_add hop.derived_le_levels ih

end Route

namespace Query

/-- The expression at the end of a path into a field of the query at the end of a route. -/
def expressionAt? (q : Query) (r : Route) (slot : Slot) (path : List Nat) : Option Expr :=
  (q.at? r).bind fun inner => (inner.expr? slot).bind fun e => e.at? path

/-- Every way from a query to a query or an expression in it passes a number of levels at most. -/
structure LevelsWithin (q : Query) (bound : Nat) : Prop where
  query_le : ∀ r inner, q.at? r = some inner → r.levels ≤ bound
  expression_le : ∀ r slot path e, q.expressionAt? r slot path = some e →
    r.levels + path.length + 1 ≤ bound

/-- No way passes more queries of FROM clauses than a number. -/
def DerivedWithin (q : Query) (bound : Nat) : Prop :=
  ∀ r inner, q.at? r = some inner → r.derived ≤ bound

theorem LevelsWithin.derivedWithin {q : Query} {bound : Nat} (h : q.LevelsWithin bound) :
    q.DerivedWithin bound :=
  fun r inner hr => Nat.le_trans r.derived_le_levels (h.query_le r inner hr)

end Query

/-! ## Parts of what is not changed by pruning -/

section Parts

variable {limit : Nat}

theorem prunedExprs_eq_map (depth : Nat) (l : List Expr) :
    prunedExprs limit depth l = l.map (Expr.pruned limit depth) :=
  eq_map_of_cons (by rw [prunedExprs]) (fun _ _ => by rw [prunedExprs]) l

theorem prunedQueries_eq_map (depth : Nat) (l : List Query) :
    prunedQueries limit depth l = l.map (Query.pruned limit depth) :=
  eq_map_of_cons (by rw [prunedQueries]) (fun _ _ => by rw [prunedQueries]) l

theorem prunedDefinitions_eq_map (depth : Nat) (l : List Definition) :
    prunedDefinitions limit depth l = l.map (Definition.pruned limit depth) :=
  eq_map_of_cons (by rw [prunedDefinitions]) (fun _ _ => by rw [prunedDefinitions]) l

theorem eq_self_of_getElem? {α : Type} {f : α → α} {l : List α} (h : l.map f = l) {i : Nat} {a : α}
    (ha : l[i]? = some a) : f a = a := by
  have hget := congrArg (·[i]?) h
  simpa [ha] using hget

variable {depth : Nat}

theorem Expr.pruned_of_getElem? {l : List Expr} (h : prunedExprs limit depth l = l) {i : Nat} {e : Expr}
    (he : l[i]? = some e) : e.pruned limit depth = e := by
  rw [prunedExprs_eq_map] at h
  exact eq_self_of_getElem? h he

theorem Expr.pruned_of_some {o : Option Expr} (h : prunedExpr? limit depth o = o) {e : Expr}
    (he : o = some e) : e.pruned limit depth = e := by
  subst he
  exact Option.some.inj h

theorem Query.pruned_of_some {o : Option Query} (h : prunedQuery? limit depth o = o) {q : Query}
    (hq : o = some q) : q.pruned limit depth = q := by
  subst hq
  exact Option.some.inj h

theorem Source.pruned_of_getElem? {l : List Source} (h : prunedSources limit depth l = l) {i : Nat}
    {s : Source} (hs : l[i]? = some s) :
    prunedExpr? limit (depth + 1) s.condition = s.condition ∧
      prunedQuery? limit (depth + 1) s.subquery = s.subquery ∧
      prunedExpr? limit (depth + 1) s.expression = s.expression := by
  rw [prunedSources_eq_map] at h
  have hpruned := eq_self_of_getElem? h hs
  cases s
  rw [Source.pruned] at hpruned
  obtain ⟨-, -, -, hcondition, -, hsubquery, hexpression, -⟩ := Source.mk.inj hpruned
  exact ⟨hcondition, hsubquery, hexpression⟩

theorem Definition.pruned_of_getElem? {l : List Definition} (h : prunedDefinitions limit depth l = l)
    {i : Nat} {d : Definition} (hd : l[i]? = some d) : prunedQuery? limit depth d.query = d.query := by
  rw [prunedDefinitions_eq_map] at h
  have hpruned := eq_self_of_getElem? h hd
  cases d
  rw [Definition.pruned] at hpruned
  exact (Definition.mk.inj hpruned).2

/-! ## One step down -/

/-- An expression that is not cut off is within the limit, unless it is the leaf that stands for one that is. -/
theorem Expr.eq_truncated {e : Expr} (h : e.pruned limit depth = e) (hbeyond : limit < depth) :
    e = Grammar.truncated := by
  rw [← h, e.pruned_beyond hbeyond]

theorem Expr.pruned_child {e child : Expr} (h : e.pruned limit depth = e) {i : Nat}
    (hchild : e.child? i = some child) : depth ≤ limit ∧ child.pruned limit (depth + 1) = child := by
  by_cases hbeyond : limit < depth
  · rw [Expr.eq_truncated h hbeyond] at hchild
    exact nomatch hchild
  · refine ⟨Nat.le_of_not_lt hbeyond, ?_⟩
    rw [Expr.pruned.eq_def, if_neg hbeyond] at h
    cases e with
    | binary op left right =>
      obtain ⟨-, hleft, hright⟩ := Expr.binary.inj h
      match i with
      | 0 => exact Expr.pruned_of_some hleft hchild
      | 1 => exact Expr.pruned_of_some hright hchild
      | _ + 2 => exact nomatch hchild
    | call name args => exact Expr.pruned_of_getElem? (Expr.call.inj h).2 hchild
    | other kind parts => exact Expr.pruned_of_getElem? (Expr.other.inj h).2 hchild
    | column | literal | subquery => exact nomatch hchild

theorem Expr.pruned_at {e inner : Expr} (h : e.pruned limit depth = e) {path : List Nat}
    (hat : e.at? path = some inner) :
    inner.pruned limit (depth + path.length) = inner ∧ (path = [] ∨ depth + path.length ≤ limit + 1) := by
  induction path generalizing e depth with
  | nil =>
    obtain rfl := Option.some.inj hat
    exact ⟨h, .inl rfl⟩
  | cons i path ih =>
    obtain ⟨child, hchild, hat⟩ := Option.bind_eq_some_iff.mp hat
    obtain ⟨hwithin, hpruned⟩ := Expr.pruned_child h hchild
    obtain ⟨hinner, hpath⟩ := ih hpruned hat
    rw [List.length_cons, ← Nat.add_assoc, Nat.add_right_comm]
    refine ⟨hinner, .inr ?_⟩
    rcases hpath with rfl | hpath
    · exact Nat.add_le_add_right hwithin 1
    · exact hpath

theorem Select.pruned_parts {s : Select} (h : s.pruned limit depth = s) :
    (prunedColumns limit (depth + 1) s.columns = s.columns ∧
      prunedExprs limit (depth + 1) s.groupBy = s.groupBy ∧
      prunedExprs limit (depth + 1) s.orderBy = s.orderBy) ∧
    (∀ e, s.filter = some e ∨ s.having = some e ∨ s.qualify = some e ∨ s.limit = some e →
      e.pruned limit (depth + 1) = e) ∧
    prunedSources limit depth s.sources = s.sources ∧
    prunedDefinitions limit depth s.definitions = s.definitions := by
  cases s
  rw [Select.pruned] at h
  obtain ⟨hcolumns, hsources, hfilter, hhaving, hqualify, hgroupBy, horderBy, hrows, hdefinitions, -⟩ :=
    Select.mk.inj h
  refine ⟨⟨hcolumns, hgroupBy, horderBy⟩, ?_, hsources, hdefinitions⟩
  rintro e (he | he | he | he)
  · exact Expr.pruned_of_some hfilter he
  · exact Expr.pruned_of_some hhaving he
  · exact Expr.pruned_of_some hqualify he
  · exact Expr.pruned_of_some hrows he

theorem Combination.pruned_parts {c : Combination} (h : c.pruned limit depth = c) :
    (prunedQuery? limit depth c.left = c.left ∧ prunedQuery? limit depth c.right = c.right) ∧
    (prunedExprs limit (depth + 1) c.orderBy = c.orderBy ∧
      prunedExpr? limit (depth + 1) c.limit = c.limit) ∧
    prunedDefinitions limit depth c.definitions = c.definitions := by
  cases c
  rw [Combination.pruned] at h
  obtain ⟨-, hleft, hright, horderBy, hrows, hdefinitions⟩ := Combination.mk.inj h
  exact ⟨⟨hleft, hright⟩, ⟨horderBy, hrows⟩, hdefinitions⟩

theorem Query.pruned_expr {q : Query} (h : q.pruned limit depth = q) {slot : Slot} {e : Expr}
    (he : q.expr? slot = some e) : e.pruned limit (depth + 1) = e := by
  cases q with
  | select s =>
    rw [Query.pruned] at h
    obtain ⟨⟨hcolumns, hgroupBy, horderBy⟩, hsingle, hsources, -⟩ := Select.pruned_parts (Query.select.inj h)
    cases slot with
    | column i =>
      obtain ⟨columns, hsome, he⟩ := Option.bind_eq_some_iff.mp he
      rw [hsome] at hcolumns
      exact Expr.pruned_of_getElem? (Option.some.inj hcolumns) he
    | sourceExpression i =>
      obtain ⟨source, hsource, he⟩ := Option.bind_eq_some_iff.mp he
      exact Expr.pruned_of_some (Source.pruned_of_getElem? hsources hsource).2.2 he
    | condition i =>
      obtain ⟨source, hsource, he⟩ := Option.bind_eq_some_iff.mp he
      exact Expr.pruned_of_some (Source.pruned_of_getElem? hsources hsource).1 he
    | filter => exact hsingle e (.inl he)
    | having => exact hsingle e (.inr (.inl he))
    | qualify => exact hsingle e (.inr (.inr (.inl he)))
    | groupBy i => exact Expr.pruned_of_getElem? hgroupBy he
    | orderBy i => exact Expr.pruned_of_getElem? horderBy he
    | limit => exact hsingle e (.inr (.inr (.inr he)))
  | combination c =>
    rw [Query.pruned] at h
    obtain ⟨-, ⟨horderBy, hrows⟩, -⟩ := Combination.pruned_parts (Query.combination.inj h)
    cases slot with
    | orderBy i => exact Expr.pruned_of_getElem? horderBy he
    | limit => exact Expr.pruned_of_some hrows he
    | _ => exact nomatch he
  | other | unknown => cases slot <;> exact nomatch he

/-- A query that stands in another one directly, at the same depth or one deeper in a FROM clause. -/
theorem Query.pruned_direct {q inner : Query} (h : q.pruned limit depth = q) {hop : Hop}
    (hhop : q.hop? hop = some inner) (hdirect : hop.levels = hop.derived) :
    inner.pruned limit (depth + hop.levels) = inner := by
  cases q with
  | select s =>
    rw [Query.pruned] at h
    obtain ⟨-, -, hsources, hdefinitions⟩ := Select.pruned_parts (Query.select.inj h)
    cases hop with
    | definition i =>
      obtain ⟨d, hd, hquery⟩ := Option.bind_eq_some_iff.mp hhop
      exact Query.pruned_of_some (Definition.pruned_of_getElem? hdefinitions hd) hquery
    | source i =>
      obtain ⟨source, hsource, hquery⟩ := Option.bind_eq_some_iff.mp hhop
      exact Query.pruned_of_some (Source.pruned_of_getElem? hsources hsource).2.1 hquery
    | inside => exact nomatch hdirect
    | _ => exact nomatch hhop
  | combination c =>
    rw [Query.pruned] at h
    obtain ⟨⟨hleft, hright⟩, -, hdefinitions⟩ := Combination.pruned_parts (Query.combination.inj h)
    cases hop with
    | definition i =>
      obtain ⟨d, hd, hquery⟩ := Option.bind_eq_some_iff.mp hhop
      exact Query.pruned_of_some (Definition.pruned_of_getElem? hdefinitions hd) hquery
    | left => exact Query.pruned_of_some hleft hhop
    | right => exact Query.pruned_of_some hright hhop
    | inside => exact nomatch hdirect
    | _ => exact nomatch hhop
  | other kind queries =>
    rw [Query.pruned, prunedQueries_eq_map] at h
    cases hop with
    | statement i => exact eq_self_of_getElem? (Query.other.inj h).2 hhop
    | inside => exact nomatch hdirect
    | _ => exact nomatch hhop
  | unknown =>
    cases hop with
    | inside => exact nomatch hdirect
    | _ => exact nomatch hhop

/-- Where a hop leads, and how deep. A hop into an expression passes no more levels than the limit. -/
theorem Query.pruned_hop {q inner : Query} (h : q.pruned limit depth = q) {hop : Hop}
    (hhop : q.hop? hop = some inner) :
    ∃ depth', depth + hop.levels ≤ depth' ∧ inner.pruned limit depth' = inner ∧
      (hop.levels = hop.derived ∨ depth + hop.levels ≤ limit) := by
  cases hop with
  | inside slot path =>
    rw [Query.hop?_inside] at hhop
    obtain ⟨e, he, hhop⟩ := Option.bind_eq_some_iff.mp hhop
    obtain ⟨wrapper, hwrapper, hquery⟩ := Option.bind_eq_some_iff.mp hhop
    have hpruned := (Expr.pruned_at (Query.pruned_expr h he) hwrapper).1
    cases wrapper with
    | subquery query =>
      have hwithin : ¬limit < depth + 1 + path.length := fun hbeyond =>
        nomatch Expr.eq_truncated hpruned hbeyond
      rw [Expr.pruned, if_neg hwithin] at hpruned
      have hinner := Query.pruned_of_some (Expr.subquery.inj hpruned) hquery
      refine ⟨_, ?_, hinner, .inr ?_⟩ <;> simp only [Hop.levels] <;> omega
    | _ => exact nomatch hquery
  | definition | source | left | right | statement =>
    exact ⟨_, Nat.le_refl _, Query.pruned_direct h hhop rfl, .inl rfl⟩

/-! ## The whole way down -/

theorem Query.pruned_route {q inner : Query} (h : q.pruned limit depth = q) {r : Route}
    (hr : q.at? r = some inner) {passed derived : Nat} (hpassed : passed ≤ depth)
    (hderived : passed ≤ limit + derived) :
    ∃ depth', passed + r.levels ≤ depth' ∧ inner.pruned limit depth' = inner ∧
      passed + r.levels ≤ limit + (derived + r.derived) := by
  -- The depth is never less than the levels passed, and all but the queries of FROM clauses among these are
  -- within the limit.
  induction r generalizing q depth passed derived with
  | nil =>
    obtain rfl := Option.some.inj hr
    exact ⟨depth, hpassed, h, hderived⟩
  | cons hop rest ih =>
    obtain ⟨next, hnext, hrest⟩ := Option.bind_eq_some_iff.mp hr
    obtain ⟨deeper, hdeeper, hpruned, hlevels⟩ := Query.pruned_hop h hnext
    have hwithin : passed + hop.levels ≤ limit + (derived + hop.derived) := by
      rcases hlevels with heq | hle <;> omega
    have hfurther := ih hpruned hrest (Nat.le_trans (Nat.add_le_add_right hpassed _) hdeeper) hwithin
    simpa only [Route.levels, Route.derived, Nat.add_assoc] using hfurther

variable {q : Query}

theorem Query.levels_le (h : q.pruned limit 0 = q) {r : Route} {inner : Query} (hr : q.at? r = some inner) :
    r.levels ≤ limit + r.derived := by
  obtain ⟨-, -, -, hlevels⟩ := Query.pruned_route h hr (Nat.le_refl 0) (Nat.zero_le (limit + 0))
  simpa using hlevels

/-- An expression that more levels lead to than the limit is the leaf of what is cut off, and what stands
above it in the same field is within the limit. -/
theorem Query.expressionAt?_cases (h : q.pruned limit 0 = q) {r : Route} {slot : Slot} {path : List Nat}
    {e : Expr} (he : q.expressionAt? r slot path = some e) :
    (limit < r.levels + path.length + 1 → e = Grammar.truncated) ∧
      r.levels + path.length ≤ limit + r.derived := by
  obtain ⟨inner, hr, he⟩ := Option.bind_eq_some_iff.mp he
  obtain ⟨top, htop, he⟩ := Option.bind_eq_some_iff.mp he
  obtain ⟨depth, hdepth, hpruned, hlevels⟩ :=
    Query.pruned_route h hr (Nat.le_refl 0) (Nat.zero_le (limit + 0))
  obtain ⟨hinner, hpath⟩ := Expr.pruned_at (Query.pruned_expr hpruned htop) he
  refine ⟨fun hbeyond => Expr.eq_truncated hinner (by omega), ?_⟩
  rcases hpath with rfl | hpath
  · simpa using hlevels
  · omega

theorem Query.levelsWithin_of_derivedWithin (h : q.pruned limit 0 = q) {bound : Nat}
    (hderived : q.DerivedWithin bound) : q.LevelsWithin (limit + 1 + bound) where
  query_le r inner hr := by
    have hlevels := Query.levels_le h hr
    have hbound := hderived r inner hr
    omega
  expression_le r slot path e he := by
    have hlevels := (Query.expressionAt?_cases h he).2
    obtain ⟨inner, hr, -⟩ := Option.bind_eq_some_iff.mp he
    have hbound := hderived r inner hr
    omega

end Parts

namespace Grammar

/-! ## What is converted with the limit -/

def Converts (reply : Reply) (q : Query) : Prop :=
  ∃ queries, queriesOf (some maxConvertDepth) reply = .ok queries ∧ q ∈ queries

theorem Converts.pruned {reply : Reply} {q : Query} (h : Converts reply q) :
    q.pruned maxConvertDepth 0 = q := by
  obtain ⟨queries, hqueries, hq⟩ := h
  exact pruned_of_mem_queriesOf hqueries hq

/-- Below the limit every expression is cut off, and there are no more levels than the limit, the
queries of FROM clauses on the way and the leaf. So among replies of any kind the levels are bounded
just if these queries are. -/
theorem levels_bounded_iff (among : Reply → Prop) :
    (∀ reply q, Converts reply q →
      (∀ r slot path e, q.expressionAt? r slot path = some e →
        maxConvertDepth < r.levels + path.length + 1 → e = truncated) ∧
      ∀ bound, q.DerivedWithin bound → q.LevelsWithin (maxConvertDepth + 1 + bound)) ∧
    ((∃ bound, ∀ reply q, among reply → Converts reply q → q.LevelsWithin bound) ↔
      ∃ bound, ∀ reply q, among reply → Converts reply q → q.DerivedWithin bound) := by
  have hwithin : ∀ {reply q}, Converts reply q →
      ∀ bound, q.DerivedWithin bound → q.LevelsWithin (maxConvertDepth + 1 + bound) :=
    fun h bound => Query.levelsWithin_of_derivedWithin h.pruned
  refine ⟨fun reply q h => ⟨fun r slot path e he => (Query.expressionAt?_cases h.pruned he).1, hwithin h⟩,
    ?_, ?_⟩
  · rintro ⟨bound, hbound⟩
    exact ⟨bound, fun reply q hamong h => (hbound reply q hamong h).derivedWithin⟩
  · rintro ⟨bound, hbound⟩
    exact ⟨maxConvertDepth + 1 + bound, fun reply q hamong h => hwithin h bound (hbound reply q hamong h)⟩

/-! ### Queries of FROM clauses in each other -/

def starNode : Node := ⟨"Star", [], false, none⟩

def fromNested (n : Node) : Node :=
  ⟨"From", [⟨"this", .node ⟨"Subquery", [⟨"this", .node n⟩], false, none⟩⟩], false, none⟩

/-- Selects of everything, each but the innermost from the next. -/
def derivedTables : Nat → Node
  | 0 => ⟨"Select", [⟨"expressions", .list [.node starNode]⟩], false, none⟩
  | k + 1 =>
    ⟨"Select", [⟨"expressions", .list [.node starNode]⟩, ⟨"from_", .node (fromNested (derivedTables k))⟩],
      false, none⟩

def derivedSource (q : Query) : Source := { bareSource none with subquery := some q }

/-- What they are converted to. -/
def derivedQuery : Nat → Query
  | 0 => .select ⟨none, [], none, none, none, [], [], none, [], false⟩
  | k + 1 => .select ⟨none, [derivedSource (derivedQuery k)], none, none, none, [], [], none, [], false⟩

variable {limit : Option Nat} {n : Node} {q : Query} {depth : Nat}

theorem toFrom_nested (h : toQuery? limit (.node n) (depth + 1) = .ok (some q)) :
    toFrom limit (.node (fromNested n)) depth = .ok [derivedSource q] := by
  have hquery : Node.get ⟨"Subquery", [⟨"this", .node n⟩], false, none⟩ "this" = .node n := rfl
  have hsource : toSource limit (.node ⟨"Subquery", [⟨"this", .node n⟩], false, none⟩) depth
      = .ok (derivedSource q) := by
    rw [toSource, hquery, h]
    cbv
  have hthis : (Arg.node (fromNested n)).get "this"
      = .node ⟨"Subquery", [⟨"this", .node n⟩], false, none⟩ := rfl
  have hlisted : ((Arg.node (fromNested n)).get "expressions").items = [] := rfl
  rw [toFrom, hthis, hsource]
  dsimp only
  rw [hlisted, toSources]
  cbv

theorem toQuery?_derivedTables (limit : Option Nat) (k depth : Nat) :
    toQuery? limit (.node (derivedTables k)) depth = .ok (some (derivedQuery k)) := by
  induction k generalizing depth with
  | zero =>
    rw [toQuery?, toSelect]
    cbv
  | succ k ih =>
    have hfrom : (derivedTables (k + 1)).getEither "from" "from_"
        = .node (fromNested (derivedTables k)) := rfl
    have hselect : toSelect limit (derivedTables (k + 1)) depth
        = .ok ⟨none, [derivedSource (derivedQuery k)], none, none, none, [], [], none, [], false⟩ := by
      rw [toSelect, hfrom, toFrom_nested (ih (depth + 1))]
      cbv
    rw [toQuery?, hselect]
    rfl

theorem converts_derivedTables (k : Nat) :
    Converts (.parsed [some (derivedTables k)]) (derivedQuery k) := by
  refine ⟨[derivedQuery k], ?_, List.mem_singleton_self _⟩
  rw [queriesOf, toStatements, toQuery?_derivedTables]
  rfl

theorem at?_derivedQuery (k : Nat) :
    (derivedQuery k).at? (List.replicate k (.source 0)) = some (derivedQuery 0) := by
  induction k with
  | zero => rfl
  | succ k ih => exact ih

theorem levels_replicate (k : Nat) : Route.levels (List.replicate k (.source 0)) = k := by
  induction k with
  | zero => rfl
  | succ k ih => rw [List.replicate_succ, Route.levels, ih, Hop.levels, Nat.add_comm]

/-- No number of levels is enough for all replies. -/
theorem derivedTables_not_levelsWithin :
    ¬∃ bound, ∀ reply q, Converts reply q → q.LevelsWithin bound := by
  rintro ⟨bound, hbound⟩
  have hlevels := (hbound _ _ (converts_derivedTables (bound + 1))).query_le _ _ (at?_derivedQuery (bound + 1))
  rw [levels_replicate] at hlevels
  exact Nat.not_succ_le_self bound hlevels

end Grammar
end QueryLint

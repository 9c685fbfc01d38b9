import QueryLint.Proofs.Query.Reached
import Mathlib.Data.List.Forall2

/-! The walks as plain recursions. Through an expression one goes from left to right, down to each
query that stands in it; through a query one takes the query itself and then each child with all that
is below it. Main statement: `walk_eq_preorder`, the walks with a stack come by the same things in the
same order, each at the depth of the route that leads to it. -/
namespace QueryLint
set_option autoImplicit false

/-! ## The recursions -/

mutual

/-- The queries in an expression that stands at a level, from left to right. -/
def Expr.gather (level : Nat) (e : Expr) : List Query :=
  if level > maxWalkDepth then []
  else match e with
    | .subquery query => query.toList
    | .binary _ left right => gather? (level + 1) left ++ gather? (level + 1) right
    | .call _ args => gatherAll (level + 1) args
    | .other _ parts => gatherAll (level + 1) parts
    | .column .. | .literal _ => []

def gather? (level : Nat) : Option Expr → List Query
  | none => []
  | some e => e.gather level

def gatherAll (level : Nat) : List Expr → List Query
  | [] => []
  | e :: rest => e.gather level ++ gatherAll level rest

end

namespace Query

/-- The children of a query at some depth, each with its own depth. -/
def children (depth : Nat) : Query → List (Query × Nat)
  | select s =>
    (s.definitions.filterMap Definition.query).map (·, depth)
      ++ (s.sources.filterMap Source.subquery).map (·, depth + 1)
      ++ (gatherAll 0 s.expressions).map (·, depth + 1)
  | combination c =>
    (c.definitions.filterMap Definition.query).map (·, depth)
      ++ (c.left.toList ++ c.right.toList).map (·, depth)
      ++ (gatherAll 0 c.orderBy).map (·, depth + 1)
  | other _ queries => queries.map (·, depth)
  | unknown => []

end Query

theorem gather?_eq (level : Nat) (e : Option Expr) :
    gather? level e = e.toList.flatMap (Expr.gather level) := by
  cases e with
  | none => rfl
  | some e => rw [gather?, Option.toList_some, List.flatMap_singleton]

theorem gatherAll_eq (level : Nat) (es : List Expr) :
    gatherAll level es = es.flatMap (Expr.gather level) := by
  induction es with
  | nil => rfl
  | cons e rest ih => rw [gatherAll, List.flatMap_cons, ih]

theorem Expr.gather_eq (level : Nat) (e : Expr) :
    e.gather level = if level > maxWalkDepth then []
      else e.query?.toList ++ e.parts.flatMap (Expr.gather (level + 1)) := by
  rw [Expr.gather.eq_def]
  split
  · rfl
  · cases e with
    | binary op left right =>
      simp only [gather?_eq, query?, parts, Option.toList_none, List.nil_append, List.flatMap_append]
    | subquery query => simp only [query?, parts, List.flatMap_nil, List.append_nil]
    | call name args => simp only [gatherAll_eq, query?, parts, Option.toList_none, List.nil_append]
    | other kind parts =>
      simp only [gatherAll_eq, query?, Expr.parts, Option.toList_none, List.nil_append]
    | column | literal => rfl

/-! ## The walk through an expression -/

theorem subqueriesFrom_eq_gather (e : Expr) (level : Nat) :
    subqueriesFrom [(e, level)] = e.gather level := by
  induction h : sizeOf e using Nat.strongRecOn generalizing e level with
  | ind size ih =>
    rw [subqueriesFrom_single, Expr.gather_eq]
    have hparts : (e.parts.flatMap fun part => subqueriesFrom [(part, level + 1)])
        = e.parts.flatMap (Expr.gather (level + 1)) := by
      refine List.flatMap_congr fun part hpart => ?_
      exact ih (sizeOf part) (h ▸ Expr.sizeOf_part_lt hpart) part (level + 1) rfl
    rw [hparts]

theorem flatMap_subqueries (es : List Expr) : es.flatMap Expr.subqueries = gatherAll 0 es := by
  rw [gatherAll_eq]
  exact List.flatMap_congr fun e _ => subqueriesFrom_eq_gather e 0

/-! ## The walk through a query -/

namespace Query

theorem nested_eq_children (q : Query) (depth : Nat) : q.nested depth = q.children depth := by
  cases q with
  | select s => rw [nested, children, flatMap_subqueries]
  | combination c => rw [nested, children, flatMap_subqueries]
  | other kind queries => rfl
  | unknown => rfl

theorem sizeOf_child_lt {q : Query} {depth : Nat} {child : Query × Nat}
    (h : child ∈ q.children depth) : sizeOf child.1 < sizeOf q :=
  sizeOf_nested_lt (nested_eq_children q depth ▸ h)

/-- A query at some depth, followed by each child with all that is below it. Below a query at the
limit there is nothing. -/
def preorder (q : Query) (depth : Nat) : List (Query × Nat) :=
  (q, depth) ::
    if depth < maxWalkDepth then
      (q.children depth).attach.flatMap fun child => child.1.1.preorder child.1.2
    else []
termination_by sizeOf q
decreasing_by exact sizeOf_child_lt child.2

theorem preorder_eq (q : Query) (depth : Nat) :
    q.preorder depth = (q, depth) ::
      if depth < maxWalkDepth then
        (q.children depth).flatMap fun child => child.1.preorder child.2
      else [] := by
  rw [preorder]
  simp only [List.flatMap_subtype, List.unattach_attach]

theorem walkFrom_eq_preorder (q : Query) (depth : Nat) :
    walkFrom [(q, depth)] = q.preorder depth := by
  induction h : sizeOf q using Nat.strongRecOn generalizing q depth with
  | ind size ih =>
    rw [walkFrom_single, preorder_eq, nested_eq_children]
    congr 1
    by_cases hdepth : depth < maxWalkDepth
    · rw [if_neg (Nat.not_le_of_lt hdepth), if_pos hdepth]
      refine List.flatMap_congr fun child hchild => ?_
      exact ih (sizeOf child.1) (h ▸ sizeOf_child_lt hchild) child.1 child.2 rfl
    · rw [if_pos (Nat.le_of_not_lt hdepth), if_neg hdepth, List.flatMap_nil]

end Query

/-! ## Depths -/

theorem Route.depth_append (r s : Route) : depth (r ++ s) = r.depth + s.depth := by
  induction r with
  | nil => rw [List.nil_append, depth, Nat.zero_add]
  | cons hop rest ih => rw [List.cons_append, depth_cons, depth_cons, ih, Nat.add_assoc]

theorem Hop.cost_le_one (hop : Hop) : hop.cost ≤ 1 := by
  cases hop <;> simp [cost]

/-- Only the last hop of a route within a limit may lead to the limit itself. -/
theorem Route.Within.depth_le {limit : Nat} {r : Route} (h : r.Within limit) : r.depth ≤ limit := by
  rcases List.eq_nil_or_concat' r with rfl | ⟨front, last, rfl⟩
  · exact Nat.zero_le _
  · have hfront := h.depth_lt front.length (by simp)
    rw [List.take_left] at hfront
    have hlast := last.cost_le_one
    rw [depth_append, depth_cons, depth]
    omega

namespace Query

/-- Each query that the walk comes by stands at the end of a route of its own, of which it has the
depth. -/
theorem walk_forall₂_routes (q : Query) : ∃ routes : List Route, routes.Nodup ∧
    List.Forall₂ (fun r item => r.depth ≤ maxWalkDepth ∧ q.at? r = some item.1 ∧ r.depth = item.2)
      routes q.walk := by
  obtain ⟨routes, hnodup, hmem, hmap⟩ := q.visits_outOfLimits
  have hwithin : ∀ r ∈ routes, r.depth ≤ maxWalkDepth := fun r hr =>
    ((hmem r).mp hr).1.1.depth_le
  have hplaces : List.Forall₂ (fun r item => q.at? r = some item.1 ∧ r.depth = item.2) routes
      q.walk := by
    rw [← List.forall₂_eq_eq_eq, List.forall₂_map_left_iff, List.forall₂_map_right_iff] at hmap
    exact hmap.flip.imp fun _ _ h => ⟨(Prod.mk.inj h).1.symm, (Prod.mk.inj h).2.symm⟩
  exact ⟨routes, hnodup, (List.forall₂_and_left _ _).mpr ⟨hwithin, hplaces⟩⟩

/-- The walks give what the recursions give, in the same order. Each depth is the number of hops into
a FROM clause or an expression on a route of its own, and none is beyond the limit. -/
theorem walk_eq_preorder :
    (∀ e : Expr, e.subqueries = e.gather 0) ∧
    ∀ q : Query, q.walk = q.preorder 0 ∧ ∃ routes : List Route, routes.Nodup ∧
      List.Forall₂ (fun r item =>
        r.depth ≤ maxWalkDepth ∧ q.at? r = some item.1 ∧ r.depth = item.2) routes q.walk :=
  ⟨fun e => subqueriesFrom_eq_gather e 0,
    fun q => ⟨walkFrom_eq_preorder q 0, q.walk_forall₂_routes⟩⟩

end Query
end QueryLint

import Mathlib.Data.List.Perm.Subperm
import QueryLint.Proofs.Query.Listing
import QueryLint.Proofs.Query.Route
import QueryLint.Query.Walk

/-! What the walk through a query reaches. Main statement: `walk_reaches`, it comes once by the end of
every route within the limit that keeps out of LIMIT, and by nothing else. -/
namespace QueryLint
set_option autoImplicit false

/-! ## Walks with a stack -/

/-- A walk that takes the items of its stack one after the other takes each as if it stood alone. -/
theorem eq_flatMap_of_append {α β : Type} {walk : List α → List β} (hnil : walk [] = [])
    (happend : ∀ s t, walk (s ++ t) = walk s ++ walk t) (stack : List α) :
    walk stack = stack.flatMap fun item => walk [item] := by
  induction stack with
  | nil => rw [hnil, List.flatMap_nil]
  | cons item stack ih =>
    rw [List.flatMap_cons, ← ih, ← happend, List.singleton_append]

theorem Expr.sizeOf_part_lt {e part : Expr} (h : part ∈ e.parts) : sizeOf part < sizeOf e :=
  Nat.lt_of_lt_of_le (List.sizeOf_lt_of_mem h) e.sizeOf_parts_le

theorem Query.sizeOf_nested_lt {q : Query} {depth : Nat} {item : Query × Nat}
    (h : item ∈ q.nested depth) : sizeOf item.1 < sizeOf q :=
  Nat.lt_of_lt_of_le (List.sizeOf_lt_of_mem (List.mem_map_of_mem h)) (q.sizeOf_nested_le depth)

/-! ## Queries in an expression -/

theorem subqueriesFrom_append (s t : List (Expr × Nat)) :
    subqueriesFrom (s ++ t) = subqueriesFrom s ++ subqueriesFrom t := by
  fun_induction subqueriesFrom s with
  | case1 => rfl
  | case2 e level rest h ih =>
    rw [List.cons_append, subqueriesFrom, if_pos h, ih]
  | case3 e level rest h ih =>
    rw [List.cons_append, subqueriesFrom, if_neg h, ← List.append_assoc, ih, List.append_assoc]

theorem subqueriesFrom_single (e : Expr) (level : Nat) :
    subqueriesFrom [(e, level)] = if level > maxWalkDepth then []
      else e.query?.toList ++ e.parts.flatMap fun part => subqueriesFrom [(part, level + 1)] := by
  rw [subqueriesFrom, subqueriesFrom, List.append_nil]
  congr 2
  have hstack := eq_flatMap_of_append (by rw [subqueriesFrom]) subqueriesFrom_append
    (e.parts.map (·, level + 1))
  rw [hstack, List.flatMap_map]

theorem Expr.lists_parts (e : Expr) : Lists e.child? e.parts := by
  cases e with
  | binary op left right =>
    refine ((lists_toList left).sum (lists_toList right)).rekey
      (Sum.elim (fun _ => 0) fun _ => 1) ?_ ?_ ?_
    · rintro (_ | _) (_ | _) heq <;> simp_all
    · rintro (_ | _) <;> rfl
    · rintro (_ | _ | i) h
      · exact ⟨.inl (), rfl⟩
      · exact ⟨.inr (), rfl⟩
      · exact nomatch h
  | call name args => exact lists_getElem? args
  | other kind parts => exact lists_getElem? parts
  | column | literal | subquery => exact lists_nil fun _ => rfl

/-- The query at the end of a path into an expression at some level, if the path stays within the
limit. -/
def Expr.queryWithin? (e : Expr) (level : Nat) (path : List Nat) : Option Query :=
  if level + path.length ≤ maxWalkDepth then (e.at? path).bind Expr.query? else none

theorem Expr.queryWithin?_cons (e : Expr) (level i : Nat) (path : List Nat) :
    e.queryWithin? level (i :: path)
      = (e.child? i).bind fun part => part.queryWithin? (level + 1) path := by
  have hlength : level + (i :: path).length = level + 1 + path.length := by
    rw [List.length_cons]
    omega
  unfold Expr.queryWithin?
  rw [hlength, Expr.at?, Option.bind_assoc]
  split
  · rfl
  · rw [Option.bind_fun_none]

/-- The walk through an expression comes once by the end of every path within the limit. -/
theorem Expr.lists_subqueriesFrom (e : Expr) (level : Nat) :
    Lists (e.queryWithin? level) (subqueriesFrom [(e, level)]) := by
  induction h : sizeOf e using Nat.strongRecOn generalizing e level with
  | ind size ih =>
    rw [subqueriesFrom_single]
    split
    · rename_i hlevel
      refine lists_nil fun path => if_neg ?_
      omega
    · rename_i hlevel
      have hnil : e.queryWithin? level [] = e.query? := if_pos (by simpa using hlevel)
      rw [← hnil]
      refine (Expr.lists_parts e).paths (fun part hpart => ?_) (e.queryWithin?_cons level)
      exact ih (sizeOf part) (h ▸ Expr.sizeOf_part_lt hpart) part (level + 1) rfl

/-! ## Queries directly inside a query -/

namespace Query

/-- The expression in a field that is not a LIMIT. -/
def walkedExpr? (q : Query) (slot : Slot) : Option Expr :=
  if slot = .limit then none else q.expr? slot

/-- What a hop leads to, with its depth, if the hop stays within the limit and out of LIMIT. -/
def next? (q : Query) (depth : Nat) (hop : Hop) : Option (Query × Nat) :=
  if hop.level ≤ maxWalkDepth ∧ hop.intoLimit = false then
    (q.hop? hop).map fun next => (next, depth + hop.cost)
  else none

theorem hop?_inside (q : Query) (slot : Slot) (path : List Nat) :
    q.hop? (.inside slot path) = (q.expr? slot).bind fun e => (e.at? path).bind Expr.query? := by
  cases q <;> rfl

theorem next?_inside (q : Query) (depth : Nat) (slot : Slot) (path : List Nat) :
    q.next? depth (.inside slot path)
      = ((q.walkedExpr? slot).bind fun e => e.queryWithin? 0 path).map
          fun next => (next, depth + 1) := by
  unfold next? walkedExpr?
  rw [hop?_inside]
  by_cases hslot : slot = .limit
  · subst hslot
    simp [Hop.intoLimit]
  · have hout : Hop.intoLimit (.inside slot path) = false := by
      cases slot <;> first | rfl | exact absurd rfl hslot
    simp only [hout, hslot, Hop.level, Hop.cost, and_true, if_false, Expr.queryWithin?, Nat.zero_add]
    split
    · rfl
    · simp

theorem lists_inside {q : Query} {es : List Expr} (h : Lists q.walkedExpr? es) (depth : Nat) :
    Lists (fun k : Slot × List Nat => q.next? depth (.inside k.1 k.2))
      ((es.flatMap Expr.subqueries).map fun next => (next, depth + 1)) := by
  have hfound := (h.flatMap fun e _ => e.lists_subqueriesFrom 0).map fun next => (next, depth + 1)
  simp only [next?_inside]
  exact hfound

end Query

/-- The field of a select that holds an expression, by the list in which `Select.expressions` has it
and its place there. -/
def Select.slotOf :
    (((((Nat ⊕ Nat × (Unit ⊕ Unit)) ⊕ Unit) ⊕ Unit) ⊕ Unit) ⊕ Nat) ⊕ Nat → Slot
  | .inl (.inl (.inl (.inl (.inl (.inl i))))) => .column i
  | .inl (.inl (.inl (.inl (.inl (.inr (i, .inl _)))))) => .sourceExpression i
  | .inl (.inl (.inl (.inl (.inl (.inr (i, .inr _)))))) => .condition i
  | .inl (.inl (.inl (.inl (.inr _)))) => .filter
  | .inl (.inl (.inl (.inr _))) => .having
  | .inl (.inl (.inr _)) => .qualify
  | .inl (.inr i) => .groupBy i
  | .inr i => .orderBy i

theorem Select.slotOf_injective : Function.Injective Select.slotOf := by
  rintro ((((((_ | ⟨_, _ | _⟩) | _) | _) | _) | _) | _) ((((((_ | ⟨_, _ | _⟩) | _) | _) | _) | _) | _) h <;>
    simp_all [Select.slotOf]

/-- All expressions of a select but that of LIMIT are walked. -/
theorem Select.lists_expressions (s : Select) :
    Lists (Query.select s).walkedExpr? s.expressions := by
  have hcolumns := lists_getElem? (s.columns.getD [])
  have hsources := (lists_getElem? s.sources).flatMap fun source _ =>
    (lists_toList source.expression).sum (lists_toList source.condition)
  refine ((((((hcolumns.sum hsources).sum (lists_toList s.filter)).sum (lists_toList s.having)).sum
    (lists_toList s.qualify)).sum (lists_getElem? s.groupBy)).sum
    (lists_getElem? s.orderBy)).rekey slotOf slotOf_injective ?_ ?_
  · rintro ((((((i | ⟨i, _ | _⟩) | _) | _) | _) | _) | _)
    · cases h : s.columns <;> simp [slotOf, Query.walkedExpr?, Query.expr?, h]
    all_goals rfl
  · rintro (i | i | i | _ | _ | _ | i | i | _) h
    · exact ⟨.inl (.inl (.inl (.inl (.inl (.inl i))))), rfl⟩
    · exact ⟨.inl (.inl (.inl (.inl (.inl (.inr (i, .inl ())))))), rfl⟩
    · exact ⟨.inl (.inl (.inl (.inl (.inl (.inr (i, .inr ())))))), rfl⟩
    · exact ⟨.inl (.inl (.inl (.inl (.inr ())))), rfl⟩
    · exact ⟨.inl (.inl (.inl (.inr ()))), rfl⟩
    · exact ⟨.inl (.inl (.inr ())), rfl⟩
    · exact ⟨.inl (.inr i), rfl⟩
    · exact ⟨.inr i, rfl⟩
    · exact nomatch h

/-- Of a combination the ordering is walked. -/
theorem Combination.lists_orderBy (c : Combination) :
    Lists (Query.combination c).walkedExpr? c.orderBy := by
  refine (lists_getElem? c.orderBy).rekey Slot.orderBy (fun _ _ => Slot.orderBy.inj) ?_ ?_
  · intro i
    rfl
  · rintro (i | i | i | _ | _ | _ | i | i | _) h
    case orderBy => exact ⟨i, rfl⟩
    all_goals exact nomatch h

/-- What the walk takes to lie directly inside a query is what a hop leads to, each once. -/
theorem Query.lists_nested (q : Query) (depth : Nat) : Lists (q.next? depth) (q.nested depth) := by
  cases q with
  | select s =>
    have hdefinitions := ((lists_getElem? s.definitions).filterMap Definition.query).map
      fun next => (next, depth)
    have hsources := ((lists_getElem? s.sources).filterMap Source.subquery).map
      fun next => (next, depth + 1)
    refine ((hdefinitions.sum hsources).sum (lists_inside s.lists_expressions depth)).rekey
      (Sum.elim (Sum.elim Hop.definition Hop.source) fun k => .inside k.1 k.2) ?_ ?_ ?_
    · rintro ((_ | _) | _) ((_ | _) | _) h <;> simp_all [Prod.ext_iff]
    · rintro ((_ | _) | _) <;> rfl
    · rintro (i | i | _ | _ | i | ⟨slot, path⟩) h
      · exact ⟨.inl (.inl i), rfl⟩
      · exact ⟨.inl (.inr i), rfl⟩
      · exact nomatch h
      · exact nomatch h
      · exact nomatch h
      · exact ⟨.inr (slot, path), rfl⟩
  | combination c =>
    have hdefinitions := ((lists_getElem? c.definitions).filterMap Definition.query).map
      fun next => (next, depth)
    have harms := ((lists_toList c.left).sum (lists_toList c.right)).map fun next => (next, depth)
    refine ((hdefinitions.sum harms).sum (lists_inside c.lists_orderBy depth)).rekey
      (Sum.elim (Sum.elim Hop.definition (Sum.elim (fun _ => .left) fun _ => .right))
        fun k => .inside k.1 k.2) ?_ ?_ ?_
    · rintro ((_ | _ | _) | _) ((_ | _ | _) | _) h <;> simp_all [Prod.ext_iff]
    · rintro ((_ | _ | _) | _) <;> rfl
    · rintro (i | i | _ | _ | i | ⟨slot, path⟩) h
      · exact ⟨.inl (.inl i), rfl⟩
      · exact nomatch h
      · exact ⟨.inl (.inr (.inl ())), rfl⟩
      · exact ⟨.inl (.inr (.inr ())), rfl⟩
      · exact nomatch h
      · exact ⟨.inr (slot, path), rfl⟩
  | other kind queries =>
    refine ((lists_getElem? queries).map fun next => (next, depth)).rekey Hop.statement
      (fun _ _ => Hop.statement.inj) (fun _ => rfl) ?_
    rintro (i | i | _ | _ | i | ⟨slot, path⟩) h
    case statement => exact ⟨i, rfl⟩
    case inside => simp [next?_inside, walkedExpr?, expr?] at h
    all_goals exact nomatch h
  | unknown =>
    refine lists_nil fun hop => ?_
    cases hop with
    | inside slot path => simp [next?_inside, walkedExpr?, expr?]
    | _ => rfl

/-! ## All queries of a query -/

theorem walkFrom_append (s t : List (Query × Nat)) :
    walkFrom (s ++ t) = walkFrom s ++ walkFrom t := by
  fun_induction walkFrom s with
  | case1 => rfl
  | case2 q depth rest ih =>
    simp only [dite_eq_ite] at ih
    rw [List.cons_append, walkFrom, ← List.append_assoc, ih, List.cons_append]

theorem walkFrom_single (q : Query) (depth : Nat) :
    walkFrom [(q, depth)] = (q, depth) ::
      (if depth ≥ maxWalkDepth then [] else q.nested depth).flatMap fun item => walkFrom [item] := by
  have hstack := eq_flatMap_of_append (by rw [walkFrom]) walkFrom_append
    (if depth ≥ maxWalkDepth then [] else q.nested depth)
  rw [walkFrom, List.append_nil, ← hstack]

/-- What the walk finds at the end of a route from a query at some depth. -/
def Query.walkAt? (q : Query) (depth : Nat) : Route → Option (Query × Nat)
  | [] => some (q, depth)
  | hop :: rest =>
    (if depth ≥ maxWalkDepth then none else q.next? depth hop).bind
      fun item => item.1.walkAt? item.2 rest

theorem Query.lists_walkFrom (q : Query) (depth : Nat) :
    Lists (q.walkAt? depth) (walkFrom [(q, depth)]) := by
  -- By induction on the size of the query, as not every hop leads deeper.
  induction h : sizeOf q using Nat.strongRecOn generalizing q depth with
  | ind size ih =>
    have hchildren : Lists (fun hop => if depth ≥ maxWalkDepth then none else q.next? depth hop)
        (if depth ≥ maxWalkDepth then [] else q.nested depth) := by
      split
      · exact lists_nil fun _ => rfl
      · exact q.lists_nested depth
    rw [walkFrom_single]
    have hcons : ∀ hop rest, q.walkAt? depth (hop :: rest)
        = (if depth ≥ maxWalkDepth then none else q.next? depth hop).bind
            fun item => item.1.walkAt? item.2 rest := fun _ _ => rfl
    refine hchildren.paths (fun item hitem => ?_) hcons
    have hnested : item ∈ q.nested depth := by
      split at hitem
      · exact absurd hitem List.not_mem_nil
      · exact hitem
    exact ih (sizeOf item.1) (h ▸ q.sizeOf_nested_lt hnested) item.1 item.2 rfl

/-! ## Routes -/

namespace Route

theorem depth_cons (hop : Hop) (rest : Route) : depth (hop :: rest) = hop.cost + rest.depth := rfl

/-- A route stays within the limit, from a query at some depth, and keeps out of LIMIT. -/
def WalkedFrom (depth : Nat) : Route → Prop
  | [] => True
  | hop :: rest => depth < maxWalkDepth ∧ hop.level ≤ maxWalkDepth ∧ hop.intoLimit = false ∧
      WalkedFrom (depth + hop.cost) rest

theorem walkedFrom_iff (r : Route) (start : Nat) : r.WalkedFrom start ↔
    (∀ n < r.length, start + depth (r.take n) < maxWalkDepth) ∧
      (∀ hop ∈ r, hop.level ≤ maxWalkDepth) ∧ r.AvoidsLimits := by
  induction r generalizing start with
  | nil => simp [WalkedFrom, AvoidsLimits]
  | cons hop rest ih =>
    have hdepth : (∀ n < (hop :: rest).length, start + depth ((hop :: rest).take n) < maxWalkDepth) ↔
        start < maxWalkDepth ∧
          ∀ n < rest.length, start + hop.cost + depth (rest.take n) < maxWalkDepth := by
      rw [List.length_cons, Nat.forall_lt_succ_left]
      simp only [List.take_zero, List.take_succ_cons, depth_cons, Nat.add_assoc]
      rfl
    rw [WalkedFrom, ih, hdepth]
    simp only [AvoidsLimits, List.forall_mem_cons]
    tauto

theorem walkedFrom_zero (r : Route) :
    r.WalkedFrom 0 ↔ r.Within maxWalkDepth ∧ r.AvoidsLimits := by
  rw [walkedFrom_iff]
  simp only [Nat.zero_add]
  exact ⟨fun ⟨hdepth, hlevel, hout⟩ => ⟨⟨hdepth, hlevel⟩, hout⟩,
    fun ⟨⟨hdepth, hlevel⟩, hout⟩ => ⟨hdepth, hlevel, hout⟩⟩

end Route

namespace Query

theorem walkAt?_of_walkedFrom {q : Query} {depth : Nat} {r : Route} (h : r.WalkedFrom depth) :
    q.walkAt? depth r = (q.at? r).map fun next => (next, depth + r.depth) := by
  induction r generalizing q depth with
  | nil => rfl
  | cons hop rest ih =>
    obtain ⟨hdepth, hlevel, hout, hrest⟩ := h
    rw [walkAt?, at?, if_neg (Nat.not_le_of_lt hdepth), next?, if_pos ⟨hlevel, hout⟩,
      Option.bind_map, Option.map_bind, Route.depth_cons, ← Nat.add_assoc]
    exact Option.bind_congr fun next _ => ih hrest

theorem walkedFrom_of_walkAt? {q : Query} {depth : Nat} {r : Route} {item : Query × Nat}
    (h : q.walkAt? depth r = some item) : r.WalkedFrom depth := by
  induction r generalizing q depth with
  | nil => trivial
  | cons hop rest ih =>
    obtain ⟨next, hnext, hrest⟩ := Option.bind_eq_some_iff.mp h
    split at hnext
    · exact nomatch hnext
    · rename_i hdepth
      rw [next?] at hnext
      split at hnext
      · rename_i hhop
        obtain ⟨_, -, rfl⟩ := Option.map_eq_some_iff.mp hnext
        exact ⟨Nat.lt_of_not_le hdepth, hhop.1, hhop.2, ih hrest⟩
      · exact nomatch hnext

theorem walkAt?_eq_some {q : Query} {r : Route} {item : Query × Nat} :
    q.walkAt? 0 r = some item ↔
      (r.Within maxWalkDepth ∧ r.AvoidsLimits) ∧ q.at? r = some item.1 ∧ r.depth = item.2 := by
  rw [← Route.walkedFrom_zero]
  constructor
  · intro h
    have hwalked := walkedFrom_of_walkAt? h
    rw [walkAt?_of_walkedFrom hwalked, Nat.zero_add] at h
    obtain ⟨next, hnext, rfl⟩ := Option.map_eq_some_iff.mp h
    exact ⟨hwalked, hnext, rfl⟩
  · rintro ⟨hwalked, hnext, hdepth⟩
    rw [walkAt?_of_walkedFrom hwalked, hnext, Nat.zero_add, hdepth]
    rfl

/-- The walk comes once by the end of every route that is allowed, at the depth of the route, and by
nothing else. -/
def Visits (q : Query) (allowed : Route → Prop) : Prop :=
  ∃ routes : List Route, routes.Nodup ∧
    (∀ r, r ∈ routes ↔ allowed r ∧ (q.at? r).isSome = true) ∧
    (q.walk.map fun item => (some item.1, item.2)) = routes.map fun r => (q.at? r, r.depth)

theorem visits_outOfLimits (q : Query) :
    q.Visits fun r => r.Within maxWalkDepth ∧ r.AvoidsLimits := by
  obtain ⟨routes, hnodup, hmem, hmap⟩ := q.lists_walkFrom 0
  refine ⟨routes, hnodup, fun r => ?_, ?_⟩
  · rw [hmem, Option.isSome_iff_exists, Option.isSome_iff_exists]
    constructor
    · rintro ⟨item, hitem⟩
      obtain ⟨hallowed, hat, -⟩ := walkAt?_eq_some.mp hitem
      exact ⟨hallowed, item.1, hat⟩
    · rintro ⟨hallowed, next, hnext⟩
      exact ⟨(next, r.depth), walkAt?_eq_some.mpr ⟨hallowed, hnext, rfl⟩⟩
  · refine (map_eq_map_of_some hmap fun r item hitem => ?_).symm
    obtain ⟨-, hat, hdepth⟩ := walkAt?_eq_some.mp hitem
    rw [hat, hdepth]

/-- Two walks that come by the same places have taken the same routes. -/
theorem mem_of_visits {q : Query} {allowed allowed' : Route → Prop} (h : q.Visits allowed)
    (h' : q.Visits allowed') (himp : ∀ r, allowed r → allowed' r) {r : Route} (hr : allowed' r)
    (hat : (q.at? r).isSome = true) : allowed r := by
  obtain ⟨routes, hnodup, hmem, hmap⟩ := h
  obtain ⟨routes', hnodup', hmem', hmap'⟩ := h'
  -- Both lists of routes are as long as the walk, and one is part of the other.
  have hsub : routes ⊆ routes' := fun r hr =>
    (hmem' r).mpr ((hmem r).mp hr |>.imp_left (himp r))
  have hlength : routes'.length ≤ routes.length := by
    have h := congrArg List.length (hmap.symm.trans hmap')
    rw [List.length_map, List.length_map] at h
    exact Nat.le_of_eq h.symm
  have hperm := (hnodup.subperm hsub).perm_of_length_le hlength
  exact ((hmem r).mp (hperm.mem_iff.mpr ((hmem' r).mpr ⟨hr, hat⟩))).1

theorem visits_iff (q : Query) : q.Visits (Route.Within maxWalkDepth) ↔
    ∀ r : Route, r.Within maxWalkDepth → (q.at? r).isSome = true → r.AvoidsLimits := by
  constructor
  · intro h r hwithin hat
    exact (mem_of_visits q.visits_outOfLimits h (fun _ h => h.1) hwithin hat).2
  · intro h
    obtain ⟨routes, hnodup, hmem, hmap⟩ := q.visits_outOfLimits
    refine ⟨routes, hnodup, fun r => ?_, hmap⟩
    rw [hmem]
    exact ⟨fun ⟨hallowed, hat⟩ => ⟨hallowed.1, hat⟩,
      fun ⟨hwithin, hat⟩ => ⟨⟨hwithin, h r hwithin hat⟩, hat⟩⟩

/-- The walk comes once by every query within the limit that stands in no LIMIT. It comes by all
queries within the limit just where there are none in a LIMIT. -/
theorem walk_reaches (q : Query) :
    q.Visits (fun r => r.Within maxWalkDepth ∧ r.AvoidsLimits) ∧
      (q.Visits (Route.Within maxWalkDepth) ↔
        ∀ r : Route, r.Within maxWalkDepth → (q.at? r).isSome = true → r.AvoidsLimits) :=
  ⟨q.visits_outOfLimits, q.visits_iff⟩

/-- A star under a limit that is the result of a query. -/
def starLimitedByStar : Query :=
  .select ⟨none, [], none, none, none, [], [],
    some (.subquery (some (.select ⟨none, [], none, none, none, [], [], none, [], false⟩))), [],
    false⟩

theorem starLimitedByStar_not_visits :
    ¬starLimitedByStar.Visits (Route.Within maxWalkDepth) := by
  rw [visits_iff]
  intro h
  have hwithin : Route.Within maxWalkDepth [.inside .limit []] := ⟨by decide, by decide⟩
  exact absurd (h _ hwithin rfl) (by decide)

end Query
end QueryLint

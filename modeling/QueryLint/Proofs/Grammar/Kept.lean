import QueryLint.Proofs.Grammar.Followed
import QueryLint.Proofs.Query.Blocks

/-! What is kept of a parsed text by its conversion. Main statement: `toQuery?_conversions`, the SELECT
blocks of a converted query are the conversions of the SELECT nodes that the table of followed parts
comes upon, one for each and in the same order. -/
namespace QueryLint.Grammar
set_option autoImplicit false

def Found.conversion (limit : Option Nat) (f : Found) : Except Failure Select :=
  toSelect limit f.node f.depth

/-- The conversions of the SELECT nodes among a part and all that is followed from it. -/
def conversions (limit : Option Nat) (role : Role) (a : Arg) : List (Except Failure Select) :=
  (selects limit role a).map (Found.conversion limit)

def conversionsOf (limit : Option Nat) (ps : List Part) : List (Except Failure Select) :=
  ps.flatMap fun p => conversions limit p.role p.arg

variable {limit : Option Nat}

theorem conversions_eq (role : Role) (a : Arg) :
    conversions limit role a
      = (itself role a).map (Found.conversion limit) ++ conversionsOf limit (parts limit role a) := by
  rw [conversions, selects_eq, List.map_append, List.map_flatMap, conversionsOf]
  congr 2
  funext p
  rw [List.map_map]
  rfl

/-! ## Kinds of parts -/

theorem conversionsOf_named (n : Node) (keys : List (String × Role)) :
    conversionsOf limit (named n keys)
      = keys.flatMap fun (key, role) => conversions limit role (n.get key) := by
  rw [conversionsOf, named, List.flatMap_map]

theorem conversionsOf_itemsFrom (address : Address) (role : Role) (start : Nat) (items : List Arg) :
    conversionsOf limit (itemsFrom address role start items)
      = items.flatMap (conversions limit role) := by
  induction items generalizing start with
  | nil => rfl
  | cons a rest ih =>
    rw [itemsFrom, conversionsOf, List.flatMap_cons, List.flatMap_cons]
    exact congrArg _ (ih (start + 1))

theorem conversionsOf_itemParts (a : Arg) (role : Role) :
    conversionsOf limit (itemParts a role) = a.items.flatMap (conversions limit role) := by
  cases a with
  | list items => exact conversionsOf_itemsFrom _ _ _ _
  | node n =>
    simp only [itemParts, Arg.items]
    cases n.get "expressions" with
    | list items => exact conversionsOf_itemsFrom _ _ _ _
    | _ => rfl
  | _ => rfl

theorem conversionsOf_filter_itemsFrom (keep : Arg → Bool) (address : Address) (role : Role)
    (start : Nat) (items : List Arg) :
    conversionsOf limit ((itemsFrom address role start items).filter fun p => keep p.arg)
      = (items.filter keep).flatMap (conversions limit role) := by
  induction items generalizing start with
  | nil => rfl
  | cons a rest ih =>
    rw [itemsFrom, List.filter_cons, List.filter_cons]
    split
    · rw [conversionsOf, List.flatMap_cons, List.flatMap_cons]
      exact congrArg _ (ih (start + 1))
    · exact ih (start + 1)

theorem conversionsOf_childrenFrom (keep : Arg → Bool) (role : Role) (start : Nat)
    (fields : List Field) :
    conversionsOf limit ((childrenFrom role start fields).filter fun p => keep p.arg)
      = ((fields.flatMap fun f =>
          match f.value with
          | .node m => [Arg.node m]
          | .list items => items.filter Arg.isNode
          | _ => []).filter keep).flatMap (conversions limit role) := by
  induction fields generalizing start with
  | nil => rfl
  | cons f rest ih =>
    rw [childrenFrom, List.filter_append, conversionsOf, List.flatMap_append, List.flatMap_cons,
      List.filter_append, List.flatMap_append]
    refine congr (congrArg _ ?_) (ih (start + 1))
    cases f.value with
    | node m =>
      simp only [List.filter_cons, List.filter_nil]
      split <;> rfl
    | list items =>
      simp only [List.filter_filter]
      exact conversionsOf_filter_itemsFrom (fun a => keep a && a.isNode) _ role 0 items
    | _ => rfl

theorem conversionsOf_children (n : Node) (role : Role) :
    conversionsOf limit (childrenFrom role 0 n.fields)
      = n.children.flatMap (conversions limit role) := by
  have h : conversionsOf limit ((childrenFrom role 0 n.fields).filter fun _ => true)
      = (n.children.filter fun _ => true).flatMap (conversions limit role) :=
    conversionsOf_childrenFrom (fun _ => true) role 0 n.fields
  rwa [List.filter_eq_self.mpr fun _ _ => rfl, List.filter_eq_self.mpr fun _ _ => rfl] at h

theorem conversionsOf_nestedChildren (n : Node) (role : Role) :
    conversionsOf limit ((childrenFrom role 0 n.fields).filter fun p => isNestedQuery p.arg)
      = (n.children.filter isNestedQuery).flatMap (conversions limit role) :=
  conversionsOf_childrenFrom isNestedQuery role 0 n.fields

/-! ## Roles -/

theorem conversions_absent (role : Role) : conversions limit role .absent = [] := by
  rw [conversions_eq, parts_absent]
  cases role <;> rfl

theorem conversions_via (key : String) (role : Role) (a : Arg) :
    conversions limit (.via key role) a = conversions limit role (a.get key) := by
  cases a with
  | node n =>
    rw [conversions_eq, parts, conversionsOf_named, List.flatMap_singleton]
    rfl
  | _ =>
    rw [conversions_eq]
    exact (conversions_absent role).symm

theorem conversions_each (role : Role) (a : Arg) :
    conversions limit (.each role) a = a.items.flatMap (conversions limit role) := by
  rw [conversions_eq, ← conversionsOf_itemParts]
  rfl

theorem eq_absent {a : Arg} (h : a.isAbsent = true) : a = .absent := by
  cases a with
  | absent => rfl
  | _ => exact absurd h Bool.false_ne_true

/-! ## Nodes in their roles -/

section Nodes

variable {n : Node} {depth : Nat}

theorem conversions_query (n : Node) (depth : Nat) :
    conversions limit (.query depth) (.node n)
      = (if n.kind == "Select" then [toSelect limit n depth] else [])
        ++ conversionsOf limit (queryParts n depth) := by
  rw [conversions_eq, parts, itself]
  split <;> rfl

theorem conversions_parentheses (h : (n.kind == "Subquery" && (n.get "this").isNode) = true) :
    conversions limit (.query depth) (.node n) = conversions limit (.query depth) (n.get "this") := by
  have hkind : n.kind = "Subquery" := eq_of_beq (Bool.and_eq_true _ _ ▸ h).1
  rw [conversions_query, queryParts, if_pos h, conversionsOf_named, List.flatMap_singleton, hkind]
  rfl

theorem conversions_select (h : (n.kind == "Select") = true) :
    conversions limit (.query depth) (.node n) = toSelect limit n depth ::
      (selectKeys n depth).flatMap fun (key, role) => conversions limit role (n.get key) := by
  have hnot : ¬(n.kind == "Subquery" && (n.get "this").isNode) = true := by
    rw [eq_of_beq h]
    simp
  rw [conversions_query, queryParts, if_pos h, if_neg hnot, if_pos h, conversionsOf_named]
  rfl

theorem conversions_combination (hnot : ¬(n.kind == "Subquery" && (n.get "this").isNode) = true)
    (hselect : ¬(n.kind == "Select") = true) (h : isCombination n.kind = true) :
    conversions limit (.query depth) (.node n)
      = (combinationKeys n depth).flatMap fun (key, role) => conversions limit role (n.get key) := by
  rw [conversions_query, queryParts, if_neg hselect, if_neg hnot, if_neg hselect, if_pos h,
    conversionsOf_named]
  rfl

/-- Of a statement that is no query, only the queries directly below it are come upon. -/
theorem conversions_statement (hnot : ¬(n.kind == "Subquery" && (n.get "this").isNode) = true)
    (hselect : ¬(n.kind == "Select") = true) (hcombination : ¬isCombination n.kind = true) :
    conversions limit (.query depth) (.node n)
      = (n.children.filter isNestedQuery).flatMap (conversions limit (.query depth)) := by
  rw [conversions_query, queryParts, if_neg hselect, if_neg hnot, if_neg hselect,
    if_neg hcombination, conversionsOf_nestedChildren]
  rfl

theorem conversions_source (n : Node) (depth : Nat) :
    conversions limit (.source depth) (.node n) = conversionsOf limit (sourceParts n depth) := by
  rw [conversions_eq]
  rfl

theorem conversions_expr (n : Node) (depth : Nat) (h : ¬isBeyond limit depth = true) :
    conversions limit (.expr depth) (.node n) = conversionsOf limit (expressionParts n depth) := by
  rw [conversions_eq, parts, if_neg h]
  rfl

theorem conversions_beyond {depth : Nat} (h : isBeyond limit depth = true) (a : Arg) :
    conversions limit (.expr depth) a = [] := by
  cases a with
  | node n =>
    rw [conversions_eq, parts, if_pos h]
    rfl
  | _ =>
    rw [conversions_eq]
    rfl

theorem conversions_join (n : Node) (depth : Nat) :
    conversions limit (.join depth) (.node n)
      = conversions limit (.source depth) (n.get "this")
        ++ conversions limit (.expr (depth + 1)) (n.get "on") := by
  rw [conversions_eq, parts, conversionsOf_named]
  simp only [joinKeys, List.flatMap_cons, List.flatMap_nil, List.append_nil]
  rfl

theorem conversions_fromClause (a : Arg) (depth : Nat) :
    conversions limit (.fromClause depth) a
      = conversions limit (.source depth) (a.get "this")
        ++ (a.get "expressions").items.flatMap (conversions limit (.source depth)) := by
  cases a with
  | node n =>
    rw [conversions_eq, parts, conversionsOf_named]
    simp only [fromKeys, List.flatMap_cons, List.flatMap_nil, List.append_nil, conversions_each]
    rfl
  | _ =>
    rw [conversions_eq]
    simp only [Arg.get, conversions_absent, Arg.items, List.flatMap_nil, List.append_nil]
    rfl

theorem conversions_withClause (a : Arg) (depth : Nat) :
    conversions limit (.withClause depth) a
      = (a.get "expressions").items.flatMap (conversions limit (.via "this" (.query depth))) := by
  rw [Role.withClause, conversions_via, conversions_each]

theorem conversions_clause (a : Arg) (depth : Nat) :
    conversions limit (.clause depth) a = conversions limit (.expr depth) (a.get "this") := by
  rw [Role.clause, conversions_via]

theorem conversions_listing (a : Arg) (depth : Nat) :
    conversions limit (.listing depth) a
      = conversions limit (.each (.expr depth)) (a.get "expressions") := by
  rw [Role.listing, conversions_via]

end Nodes

/-! ## Failures -/

/-- What comes after another step is reached only if that step answers. -/
theorem ok_of_bind {α β : Type} {x : Except Failure α} {f : α → Except Failure β} {b : β}
    (h : (x >>= f) = .ok b) : ∃ a, x = .ok a ∧ f a = .ok b := by
  cases x with
  | error failure => exact absurd h (by simp [bind, Except.bind])
  | ok a => exact ⟨a, rfl, h⟩

theorem ok_of_map {α β : Type} {x : Except Failure α} {f : α → β} {b : β}
    (h : f <$> x = .ok b) : ∃ a, x = .ok a ∧ f a = b := by
  cases x with
  | error failure => exact absurd h (by simp [Functor.map, Except.map])
  | ok a => exact ⟨a, rfl, Except.ok.inj h⟩

/-- The same when the first step is one of two. -/
theorem ok_of_branches {α β : Type} {c : Prop} [Decidable c] {x y : Except Failure α}
    {f : α → Except Failure β} {b : β} (h : (if c then x >>= f else y >>= f) = .ok b) :
    ∃ a, (if c then x else y) = .ok a ∧ f a = .ok b := by
  rw [← apply_ite (· >>= f)] at h
  exact ok_of_bind h

/-! ## What a source and an expression become -/

/-- All that a source can become: it has no part, or one that is taken for a query or for an
expression. -/
inductive SourceCase (limit : Option Nat) (n : Node) (depth : Nat) (source : Source) : Prop where
  | plain (hparts : sourceParts n depth = []) (hsubquery : source.subquery = none)
      (hexpression : source.expression = none) (hcondition : source.condition = none)
  | query (p : Part) (hparts : sourceParts n depth = [p]) (hrole : p.role = .query (depth + 1))
      (hsubquery : toQuery? limit p.arg (depth + 1) = .ok source.subquery)
      (hexpression : source.expression = none) (hcondition : source.condition = none)
  | expr (p : Part) (e : Expr) (hparts : sourceParts n depth = [p])
      (hrole : p.role = .expr (depth + 1)) (hsubquery : source.subquery = none)
      (hexpression : source.expression = some e) (he : toExpr limit p.arg (depth + 1) = .ok e)
      (hcondition : source.condition = none)

theorem sourceCase_of_toSource {n : Node} {depth : Nat} {source : Source}
    (h : toSource limit (.node n) depth = .ok source) : SourceCase limit n depth source := by
  rw [toSource] at h
  obtain ⟨given, -, h⟩ := ok_of_bind h
  by_cases hsubquery : (n.kind == "Subquery") = true
  · rw [if_pos hsubquery] at h
    obtain ⟨query, hquery, h⟩ := ok_of_bind h
    obtain rfl := Except.ok.inj h
    exact .query _ (by rw [sourceParts, if_pos hsubquery]; rfl) rfl hquery rfl rfl
  rw [if_neg hsubquery] at h
  by_cases hisQuery : isQuery n.kind = true
  · rw [if_pos hisQuery] at h
    obtain ⟨query, hquery, h⟩ := ok_of_bind h
    obtain rfl := Except.ok.inj h
    exact .query _ (by rw [sourceParts, if_neg hsubquery, if_pos hisQuery]) rfl hquery rfl rfl
  rw [if_neg hisQuery] at h
  have hparts := sourceParts.eq_1 n depth
  rw [if_neg hsubquery, if_neg hisQuery] at hparts
  by_cases htable : (n.kind == "Table") = true
  · rw [if_pos htable] at h hparts
    split at h
    · rename_i inner hinner
      by_cases hidentifier : (inner.kind == "Identifier") = true
      · rw [if_pos hidentifier] at h
        obtain ⟨name, -, h⟩ := ok_of_bind h
        obtain rfl := Except.ok.inj h
        rw [hinner, if_neg (by simp [Arg.kindIs, hidentifier])] at hparts
        exact .plain hparts rfl rfl rfl
      · rw [if_neg hidentifier] at h
        obtain ⟨e, he, h⟩ := ok_of_bind h
        obtain rfl := Except.ok.inj h
        rw [hinner, if_pos (by simpa [Arg.isNode, Arg.kindIs] using hidentifier)] at hparts
        exact .expr _ e hparts rfl rfl rfl he rfl
    · rename_i hnone
      obtain rfl := Except.ok.inj h
      have hnot : (n.get "this").isNode = false := by
        cases hthis : n.get "this" with
        | node inner => exact absurd hthis (hnone inner)
        | _ => rfl
      rw [hnot, Bool.false_and, if_neg Bool.false_ne_true] at hparts
      exact .plain hparts rfl rfl rfl
  · rw [if_neg htable] at h hparts
    obtain ⟨e, he, h⟩ := ok_of_bind h
    obtain rfl := Except.ok.inj h
    exact .expr _ e hparts rfl rfl rfl he rfl

/-- A source by itself has no condition; a join sets it. -/
theorem condition_of_toSource {a : Arg} {depth : Nat} {source : Source}
    (h : toSource limit a depth = .ok source) : source.condition = none := by
  cases a with
  | node n => cases sourceCase_of_toSource h with
    | plain _ _ _ hcondition => exact hcondition
    | query _ _ _ _ _ hcondition => exact hcondition
    | expr _ _ _ _ _ _ _ hcondition => exact hcondition
  | _ => exact absurd h (by simp [toSource])

/-- All that an expression can become: it has no part, or one that is taken for a query, or two
sides, or its children. -/
inductive ExprCase (limit : Option Nat) (n : Node) (depth : Nat) (e : Expr) : Prop where
  | plain (hparts : expressionParts n depth = []) (he : e.inner = [])
  | query (p : Part) (q : Option Query) (hparts : expressionParts n depth = [p])
      (hrole : p.role = .query (depth + 1)) (hq : toQuery? limit p.arg (depth + 1) = .ok q)
      (he : e.inner = blocksOfQuery? q)
  | sides (hparts : expressionParts n depth = named n (operatorKeys (depth + 1)))
      (he : toSides limit n (depth + 1) = .ok e)
  | children (es : List Expr)
      (hparts : expressionParts n depth = childrenFrom (.expr (depth + 1)) 0 n.fields)
      (hes : toExprs limit n.children (depth + 1) = .ok es) (he : e.inner = blocksOfExprs es)

theorem exprCase_of_toExpr {n : Node} {depth : Nat} {e : Expr}
    (hbeyond : ¬isBeyond limit depth = true) (h : toExpr limit (.node n) depth = .ok e) :
    ExprCase limit n depth e := by
  rw [toExpr, if_neg hbeyond] at h
  by_cases hsubquery : (n.kind == "Subquery") = true
  · rw [if_pos hsubquery] at h
    obtain ⟨query, hquery, h⟩ := ok_of_bind h
    obtain rfl := Except.ok.inj h
    exact .query _ query (by rw [expressionParts, if_pos hsubquery]; rfl) rfl hquery rfl
  rw [if_neg hsubquery] at h
  by_cases hisQuery : isQuery n.kind = true
  · rw [if_pos hisQuery] at h
    obtain ⟨query, hquery, h⟩ := ok_of_bind h
    obtain rfl := Except.ok.inj h
    exact .query _ query (by rw [expressionParts, if_neg hsubquery, if_pos hisQuery]) rfl hquery rfl
  rw [if_neg hisQuery] at h
  have hparts := expressionParts.eq_1 n depth
  rw [if_neg hsubquery, if_neg hisQuery] at hparts
  by_cases hstar : (n.kind == "Star") = true
  · rw [if_pos hstar] at h
    obtain rfl := Except.ok.inj h
    rw [hstar, Bool.true_or, Bool.true_or, if_pos rfl] at hparts
    exact .plain hparts rfl
  rw [if_neg hstar] at h
  by_cases hcolumn : (n.kind == "Column") = true
  · rw [if_pos hcolumn] at h
    obtain ⟨name, -, h⟩ := ok_of_bind h
    obtain rfl := Except.ok.inj h
    rw [hcolumn, Bool.or_true, Bool.true_or, if_pos rfl] at hparts
    exact .plain hparts rfl
  rw [if_neg hcolumn] at h
  by_cases hconstant : isConstant n.kind = true
  · rw [if_pos hconstant] at h
    obtain rfl := Except.ok.inj h
    rw [hconstant, Bool.or_true, if_pos rfl] at hparts
    exact .plain hparts rfl
  rw [if_neg hconstant] at h
  rw [if_neg (by simp [hstar, hcolumn, hconstant])] at hparts
  by_cases hoperator : n.isOperator = true
  · rw [if_pos hoperator] at h hparts
    exact .sides hparts h
  rw [if_neg hoperator] at h hparts
  split at h
  · -- The name is given in one of two ways; the arguments are the same.
    split at h
    all_goals
      obtain ⟨name, -, h⟩ := ok_of_bind h
      obtain ⟨capitals, -, h⟩ := ok_of_bind h
      obtain ⟨args, hargs, h⟩ := ok_of_bind h
      obtain rfl := Except.ok.inj h
      exact .children args hparts hargs rfl
  · obtain ⟨parts, hchildren, h⟩ := ok_of_bind h
    obtain rfl := Except.ok.inj h
    exact .children parts hparts hchildren rfl

theorem blocksOfExprs_truncated {α β : Type} (s : List α) (t : List β) :
    blocksOfExprs ((s.map fun _ => truncated) ++ t.map fun _ => truncated) = [] := by
  apply blocksOfExprs_eq_nil
  intro e he
  rcases List.mem_append.mp he with he | he
  all_goals
    obtain ⟨_, -, rfl⟩ := List.mem_map.mp he
    rfl

/-! ## Blocks are conversions -/

mutual

theorem toQuery?_conversions {a : Arg} {depth : Nat} {query : Option Query}
    (h : toQuery? limit a depth = .ok query) :
    conversions limit (.query depth) a = (blocksOfQuery? query).map .ok := by
  match a with
  | .node n =>
    rw [toQuery?] at h
    split at h
    · rename_i hparentheses
      rw [conversions_parentheses hparentheses]
      exact toQuery?_conversions h
    · rename_i hnot
      split at h
      · rename_i hselect
        obtain ⟨block, hblock, h⟩ := ok_of_bind h
        obtain rfl := Except.ok.inj h
        rw [conversions_select hselect, hblock, toSelect_conversions hblock]
        rfl
      · rename_i hselect
        split at h
        · rename_i hcombination
          obtain ⟨parts, hparts, h⟩ := ok_of_bind h
          obtain rfl := Except.ok.inj h
          rw [conversions_combination hnot hselect hcombination]
          exact toCombination_conversions hparts
        · rename_i hcombination
          obtain ⟨queries, hqueries, h⟩ := ok_of_bind h
          obtain rfl := Except.ok.inj h
          rw [conversions_statement hnot hselect hcombination]
          exact toQueries_conversions hqueries
  | .absent | .list _ | .text _ | .flag _ | .number _ =>
    rw [toQuery?] at h
    · obtain rfl := Except.ok.inj h
      rw [conversions_eq]
      rfl
    · exact fun _ hn => Arg.noConfusion hn
termination_by 8 * sizeOf a
decreasing_by all_goals
  have h := n.sizeOf_get_lt "this"
  have c := n.sizeOf_children_lt
  simp only [Arg.node.sizeOf_spec]
  omega

theorem toQueries_conversions {args : List Arg} {depth : Nat} {queries : List Query}
    (h : toQueries limit args depth = .ok queries) :
    (args.filter isNestedQuery).flatMap (conversions limit (.query depth))
      = (blocksOfQueries queries).map .ok := by
  match args with
  | [] =>
    rw [toQueries] at h
    obtain rfl := Except.ok.inj h
    rfl
  | a :: rest =>
    rw [toQueries] at h
    split at h
    · rename_i hnested
      obtain ⟨query, hquery, h⟩ := ok_of_bind h
      obtain ⟨others, hothers, h⟩ := ok_of_bind h
      obtain rfl := Except.ok.inj h
      rw [List.filter_cons_of_pos hnested, List.flatMap_cons, toQuery?_conversions hquery,
        toQueries_conversions hothers, blocksOfQueries_append, blocksOfQueries_toList,
        List.map_append]
    · rename_i hnested
      rw [List.filter_cons_of_neg hnested]
      exact toQueries_conversions h
termination_by 8 * sizeOf args
decreasing_by all_goals
  simp only [List.cons.sizeOf_spec]
  omega

theorem toDefinitions_conversions {args : List Arg} {depth : Nat} {definitions : List Definition}
    (h : toDefinitions limit args depth = .ok definitions) :
    args.flatMap (conversions limit (.via "this" (.query depth)))
      = (blocksOfDefinitions definitions).map .ok := by
  match args with
  | [] =>
    rw [toDefinitions] at h
    obtain rfl := Except.ok.inj h
    rfl
  | .node n :: rest =>
    rw [toDefinitions] at h
    obtain ⟨name, -, h⟩ := ok_of_bind h
    obtain ⟨query, hquery, h⟩ := ok_of_bind h
    obtain ⟨others, hothers, h⟩ := ok_of_bind h
    obtain rfl := Except.ok.inj h
    rw [List.flatMap_cons, conversions_via, Arg.get, toQuery?_conversions hquery,
      toDefinitions_conversions hothers, blocksOfDefinitions, Definition.inner, List.map_append]
  | .absent :: _ | .list _ :: _ | .text _ :: _ | .flag _ :: _ | .number _ :: _ =>
    exact absurd h (by simp [toDefinitions])
termination_by 8 * sizeOf args
decreasing_by all_goals
  have h := n.sizeOf_get_lt "this"
  simp only [List.cons.sizeOf_spec, Arg.node.sizeOf_spec]
  omega

theorem toWith_conversions {a : Arg} {depth : Nat} {definitions : List Definition}
    (h : toWith limit a depth = .ok definitions) :
    conversions limit (.withClause depth) a = (blocksOfDefinitions definitions).map .ok := by
  rw [toWith] at h
  rw [conversions_withClause]
  split at h
  · rename_i habsent
    obtain rfl := Except.ok.inj h
    rw [eq_absent habsent]
    rfl
  · obtain ⟨_, -, h⟩ := ok_of_bind h
    obtain ⟨_, -, h⟩ := ok_of_bind h
    obtain ⟨_, -, h⟩ := ok_of_bind h
    exact toDefinitions_conversions h
termination_by 8 * sizeOf a + 1
decreasing_by all_goals
  have h := a.sizeOf_get_le "expressions"
  have i := (a.get "expressions").sizeOf_items_le
  omega

theorem toSelect_conversions {n : Node} {depth : Nat} {block : Select}
    (h : toSelect limit n depth = .ok block) :
    ((selectKeys n depth).flatMap fun (key, role) => conversions limit role (n.get key))
      = block.inner.map .ok := by
  rw [toSelect] at h
  obtain ⟨_, -, h⟩ := ok_of_bind h
  obtain ⟨columns, hcolumns, h⟩ := ok_of_branches h
  obtain ⟨listed, hlisted, h⟩ := ok_of_bind h
  obtain ⟨_, -, h⟩ := ok_of_bind h
  obtain ⟨_, -, h⟩ := ok_of_bind h
  obtain ⟨joined, hjoined, h⟩ := ok_of_bind h
  obtain ⟨filter, hfilter, h⟩ := ok_of_bind h
  obtain ⟨having, hhaving, h⟩ := ok_of_bind h
  obtain ⟨qualify, hqualify, h⟩ := ok_of_bind h
  obtain ⟨groupBy, hgroupBy, h⟩ := ok_of_bind h
  obtain ⟨orderBy, horderBy, h⟩ := ok_of_bind h
  obtain ⟨rows, hrows, h⟩ := ok_of_bind h
  obtain ⟨definitions, hdefinitions, h⟩ := ok_of_bind h
  obtain rfl := Except.ok.inj h
  have hlist : ((if isStarAlone (n.get "expressions").items then []
      else [("expressions", Role.each (.expr (depth + 1)))]).flatMap
        fun (key, role) => conversions limit role (n.get key)) = (blocksOfColumns columns).map .ok := by
    split at hcolumns
    · rename_i hstar
      obtain rfl := Except.ok.inj hcolumns
      rw [if_pos hstar]
      rfl
    · rename_i hstar
      obtain ⟨items, hitems, rfl⟩ := ok_of_map hcolumns
      rw [if_neg hstar, List.flatMap_singleton]
      exact toItems_conversions hitems
  rw [selectKeys, List.flatMap_append, hlist]
  simp only [List.flatMap_cons, List.flatMap_nil, List.append_nil, get_givenKey, get_limitKey,
    conversions_each, toFrom_conversions hlisted, toJoins_conversions hjoined,
    toClause_conversions hfilter, toClause_conversions hhaving, toClause_conversions hqualify,
    toList_conversions hgroupBy, toList_conversions horderBy, toExpr?_conversions hrows,
    toWith_conversions hdefinitions, Select.inner, blocksOfSources_append, List.map_append,
    List.append_assoc]
termination_by 8 * sizeOf n + 4
decreasing_by all_goals
  have e := n.sizeOf_get_lt "expressions"
  have f := n.sizeOf_getEither_lt "from" "from_"
  have j := (n.get "joins").sizeOf_items_le
  have j' := n.sizeOf_get_lt "joins"
  have w := n.sizeOf_get_lt "where"
  have h := n.sizeOf_get_lt "having"
  have q := n.sizeOf_get_lt "qualify"
  have g := n.sizeOf_get_lt "group"
  have o := n.sizeOf_get_lt "order"
  have l := sizeOf_limitOf_lt n
  have d := n.sizeOf_getEither_lt "with" "with_"
  omega

theorem toCombination_conversions {n : Node} {depth : Nat} {parts : Combination}
    (h : toCombination limit n depth = .ok parts) :
    ((combinationKeys n depth).flatMap fun (key, role) => conversions limit role (n.get key))
      = parts.inner.map .ok := by
  rw [toCombination] at h
  obtain ⟨left, hleft, h⟩ := ok_of_bind h
  obtain ⟨right, hright, h⟩ := ok_of_bind h
  obtain ⟨orderBy, horderBy, h⟩ := ok_of_bind h
  obtain ⟨rows, hrows, h⟩ := ok_of_bind h
  obtain ⟨definitions, hdefinitions, h⟩ := ok_of_bind h
  obtain rfl := Except.ok.inj h
  simp only [combinationKeys, List.flatMap_cons, List.flatMap_nil, List.append_nil, get_givenKey,
    toQuery?_conversions hleft, toQuery?_conversions hright, toList_conversions horderBy,
    toExpr?_conversions hrows, toWith_conversions hdefinitions, Combination.inner,
    List.map_append, List.append_assoc]
termination_by 8 * sizeOf n + 4
decreasing_by all_goals
  have t := n.sizeOf_get_lt "this"
  have e := n.sizeOf_get_lt "expression"
  have o := n.sizeOf_get_lt "order"
  have l := n.sizeOf_get_lt "limit"
  have d := n.sizeOf_getEither_lt "with" "with_"
  omega

theorem toFrom_conversions {a : Arg} {depth : Nat} {sources : List Source}
    (h : toFrom limit a depth = .ok sources) :
    conversions limit (.fromClause depth) a = (blocksOfSources sources).map .ok := by
  rw [toFrom] at h
  rw [conversions_fromClause]
  split at h
  · rename_i habsent
    obtain rfl := Except.ok.inj h
    simp only [eq_absent habsent, Arg.get, conversions_absent, Arg.items, List.flatMap_nil]
    rfl
  · obtain ⟨_, -, h⟩ := ok_of_bind h
    obtain ⟨_, -, h⟩ := ok_of_bind h
    obtain ⟨first, hfirst, h⟩ := ok_of_branches h
    obtain ⟨_, -, h⟩ := ok_of_bind h
    obtain ⟨others, hothers, h⟩ := ok_of_bind h
    obtain rfl := Except.ok.inj h
    have hone : conversions limit (.source depth) (a.get "this")
        = (blocksOfSources first).map .ok := by
      split at hfirst
      · rename_i habsent
        obtain rfl := Except.ok.inj hfirst
        rw [eq_absent habsent, conversions_absent]
        rfl
      · obtain ⟨source, hsource, rfl⟩ := ok_of_map hfirst
        rw [toSource_conversions hsource, blocksOfSources, blocksOfSources, List.append_nil]
    rw [hone, toSources_conversions hothers, blocksOfSources_append, List.map_append]
termination_by 8 * sizeOf a + 4
decreasing_by all_goals
  have t := a.sizeOf_get_le "this"
  have e := a.sizeOf_get_le "expressions"
  have i := (a.get "expressions").sizeOf_items_le
  omega

theorem toSources_conversions {args : List Arg} {depth : Nat} {sources : List Source}
    (h : toSources limit args depth = .ok sources) :
    args.flatMap (conversions limit (.source depth)) = (blocksOfSources sources).map .ok := by
  match args with
  | [] =>
    rw [toSources] at h
    obtain rfl := Except.ok.inj h
    rfl
  | a :: rest =>
    rw [toSources] at h
    obtain ⟨source, hsource, h⟩ := ok_of_bind h
    obtain ⟨others, hothers, h⟩ := ok_of_bind h
    obtain rfl := Except.ok.inj h
    rw [List.flatMap_cons, toSource_conversions hsource, toSources_conversions hothers,
      blocksOfSources, List.map_append]
termination_by 8 * sizeOf args
decreasing_by all_goals
  simp only [List.cons.sizeOf_spec]
  omega

theorem toSource_conversions {a : Arg} {depth : Nat} {source : Source}
    (h : toSource limit a depth = .ok source) :
    conversions limit (.source depth) a = source.inner.map .ok := by
  match a with
  | .node n =>
    rw [conversions_source, Source.inner_eq, condition_of_toSource h]
    cases sourceCase_of_toSource h with
    | plain hparts hsubquery hexpression _ =>
      rw [hparts, hsubquery, hexpression]
      rfl
    | query p hparts hrole hsubquery hexpression _ =>
      have hle := (entry_of_mem_sourceParts (hparts ▸ List.mem_singleton_self p)).sizeOf_le
      rw [hparts, conversionsOf, List.flatMap_singleton, hrole, toQuery?_conversions hsubquery,
        hexpression]
      simp only [blocksOfExpr?, List.append_nil]
    | expr p e hparts hrole hsubquery hexpression he _ =>
      have hle := (entry_of_mem_sourceParts (hparts ▸ List.mem_singleton_self p)).sizeOf_le
      rw [hparts, conversionsOf, List.flatMap_singleton, hrole, toExpr_conversions he, hsubquery,
        hexpression]
      simp only [blocksOfExpr?, blocksOfQuery?, List.append_nil, List.nil_append]
  | .absent | .list _ | .text _ | .flag _ | .number _ => exact absurd h (by simp [toSource])
termination_by 8 * sizeOf a + 2
decreasing_by all_goals omega

theorem toJoins_conversions {args : List Arg} {depth : Nat} {sources : List Source}
    (h : toJoins limit args depth = .ok sources) :
    args.flatMap (conversions limit (.join depth)) = (blocksOfSources sources).map .ok := by
  match args with
  | [] =>
    rw [toJoins] at h
    obtain rfl := Except.ok.inj h
    rfl
  | .node n :: rest =>
    rw [toJoins] at h
    obtain ⟨source, hsource, h⟩ := ok_of_bind h
    obtain ⟨_, -, h⟩ := ok_of_bind h
    obtain ⟨_, -, h⟩ := ok_of_bind h
    obtain ⟨_, -, h⟩ := ok_of_bind h
    obtain ⟨condition, hcondition, h⟩ := ok_of_bind h
    obtain ⟨_, -, h⟩ := ok_of_bind h
    obtain ⟨_, -, h⟩ := ok_of_bind h
    obtain ⟨others, hothers, h⟩ := ok_of_bind h
    obtain rfl := Except.ok.inj h
    rw [List.flatMap_cons, conversions_join, toSource_conversions hsource,
      toExpr?_conversions hcondition, toJoins_conversions hothers, blocksOfSources]
    simp only [Source.inner_eq, condition_of_toSource hsource, blocksOfExpr?, List.append_nil,
      List.map_append]
  | .absent :: _ | .list _ :: _ | .text _ :: _ | .flag _ :: _ | .number _ :: _ =>
    exact absurd h (by simp [toJoins])
termination_by 8 * sizeOf args
decreasing_by all_goals
  have t := n.sizeOf_get_lt "this"
  have c := n.sizeOf_get_lt "on"
  simp only [List.cons.sizeOf_spec, Arg.node.sizeOf_spec]
  omega

theorem toClause_conversions {a : Arg} {depth : Nat} {e : Option Expr}
    (h : toClause limit a depth = .ok e) :
    conversions limit (.clause depth) a = (blocksOfExpr? e).map .ok := by
  rw [toClause] at h
  rw [conversions_clause]
  split at h
  · rename_i habsent
    obtain rfl := Except.ok.inj h
    rw [eq_absent habsent]
    exact conversions_absent _
  · obtain ⟨_, -, h⟩ := ok_of_bind h
    obtain ⟨e, he, rfl⟩ := ok_of_map h
    exact toExpr_conversions he
termination_by 8 * sizeOf a + 2
decreasing_by all_goals
  have h := a.sizeOf_get_le "this"
  omega

theorem toList_conversions {a : Arg} {depth : Nat} {es : List Expr}
    (h : toList limit a depth = .ok es) :
    conversions limit (.listing depth) a = (blocksOfExprs es).map .ok := by
  rw [toList] at h
  rw [conversions_listing]
  split at h
  · rename_i habsent
    obtain rfl := Except.ok.inj h
    rw [eq_absent habsent]
    exact conversions_absent _
  · obtain ⟨_, -, h⟩ := ok_of_bind h
    obtain ⟨_, -, h⟩ := ok_of_bind h
    exact toItems_conversions h
termination_by 8 * sizeOf a + 2
decreasing_by all_goals
  have h := a.sizeOf_get_le "expressions"
  omega

theorem toItems_conversions {a : Arg} {depth : Nat} {es : List Expr}
    (h : toItems limit a depth = .ok es) :
    conversions limit (.each (.expr depth)) a = (blocksOfExprs es).map .ok := by
  rw [toItems] at h
  rw [conversions_each]
  split at h
  · rename_i hbeyond
    obtain rfl := Except.ok.inj h
    rw [List.flatMap_eq_nil_iff.mpr fun b _ => conversions_beyond hbeyond b,
      blocksOfExprs_truncated]
    rfl
  · obtain ⟨_, -, h⟩ := ok_of_bind h
    exact toExprs_conversions h
termination_by 8 * sizeOf a + 1
decreasing_by all_goals
  have h := a.sizeOf_items_le
  omega

theorem toExpr?_conversions {a : Arg} {depth : Nat} {e : Option Expr}
    (h : toExpr? limit a depth = .ok e) :
    conversions limit (.expr depth) a = (blocksOfExpr? e).map .ok := by
  rw [toExpr?] at h
  split at h
  · rename_i habsent
    obtain rfl := Except.ok.inj h
    rw [eq_absent habsent]
    exact conversions_absent _
  · obtain ⟨e, he, rfl⟩ := ok_of_map h
    exact toExpr_conversions he
termination_by 8 * sizeOf a + 2
decreasing_by all_goals
  omega

theorem toExprs_conversions {args : List Arg} {depth : Nat} {es : List Expr}
    (h : toExprs limit args depth = .ok es) :
    args.flatMap (conversions limit (.expr depth)) = (blocksOfExprs es).map .ok := by
  match args with
  | [] =>
    rw [toExprs] at h
    obtain rfl := Except.ok.inj h
    rfl
  | a :: rest =>
    rw [toExprs] at h
    obtain ⟨e, he, h⟩ := ok_of_bind h
    obtain ⟨others, hothers, h⟩ := ok_of_bind h
    obtain rfl := Except.ok.inj h
    rw [List.flatMap_cons, toExpr_conversions he, toExprs_conversions hothers, blocksOfExprs,
      List.map_append]
termination_by 8 * sizeOf args
decreasing_by all_goals
  simp only [List.cons.sizeOf_spec]
  omega

theorem toSides_conversions {n : Node} {depth : Nat} {e : Expr}
    (h : toSides limit n depth = .ok e) :
    ((operatorKeys depth).flatMap fun (key, role) => conversions limit role (n.get key))
      = e.inner.map .ok := by
  rw [toSides] at h
  split at h
  · exact absurd h (by simp [throw, throwThe, MonadExceptOf.throw, bind, Except.bind])
  · split at h
    · exact absurd h (by simp [throw, throwThe, MonadExceptOf.throw, bind, Except.bind])
    · obtain ⟨left, hleft, h⟩ := ok_of_bind h
      obtain ⟨right, hright, h⟩ := ok_of_bind h
      obtain rfl := Except.ok.inj h
      simp only [operatorKeys, List.flatMap_cons, List.flatMap_nil, List.append_nil,
        toExpr?_conversions hleft, toExpr?_conversions hright, Expr.inner, List.map_append]
termination_by 8 * sizeOf n + 4
decreasing_by all_goals
  have t := n.sizeOf_get_lt "this"
  have e := n.sizeOf_get_lt "expression"
  omega

theorem toExpr_conversions {a : Arg} {depth : Nat} {e : Expr}
    (h : toExpr limit a depth = .ok e) :
    conversions limit (.expr depth) a = e.inner.map .ok := by
  by_cases hbeyond : isBeyond limit depth = true
  · rw [toExpr.eq_def, if_pos hbeyond] at h
    obtain rfl := Except.ok.inj h
    exact conversions_beyond hbeyond a
  · match a with
    | .node n =>
      rw [conversions_expr n depth hbeyond]
      cases exprCase_of_toExpr hbeyond h with
      | plain hparts he =>
        rw [hparts, he]
        rfl
      | query p q hparts hrole hq he =>
        have hle := (entry_of_mem_expressionParts (hparts ▸ List.mem_singleton_self p)).sizeOf_le
        rw [hparts, conversionsOf, List.flatMap_singleton, hrole, toQuery?_conversions hq, he]
      | sides hparts he =>
        rw [hparts, conversionsOf_named]
        exact toSides_conversions he
      | children es hparts hes he =>
        rw [hparts, conversionsOf_children, toExprs_conversions hes, he]
    | .absent | .list _ | .text _ | .flag _ | .number _ =>
      exact absurd h (by simp [toExpr, hbeyond])
termination_by 8 * sizeOf a + 1
decreasing_by all_goals
  have s := Arg.node.sizeOf_spec n
  have c := n.sizeOf_children_lt
  omega

end

end QueryLint.Grammar

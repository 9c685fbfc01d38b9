import QueryLint.Grammar.Reply
import QueryLint.Proofs.Grammar.Kept
import QueryLint.Proofs.Query.Pruned
import Mathlib

/-! What the limit of depth does to a converted query: the conversion with a limit gives what the one
with a wider limit gives, with all that is beyond the narrower limit cut off. Main statements:
`queries_pruned`, where the conversion without a limit answers, the one with the limit gives the same
queries with all that is beyond the limit cut off, and the very same queries if nothing is beyond it;
`pruned_of_mem_queriesOf`, from what is converted with a limit nothing is left to be cut off. -/
namespace QueryLint.Grammar
set_option autoImplicit false

/-! ## Two runs -/

/-- What the first of two runs answers, the second answers after a change. -/
def Answers {α β : Type} (change : α → β) (x : Except Failure α) (y : Except Failure β) : Prop :=
  ∀ a, x = .ok a → y = .ok (change a)

namespace Answers

variable {α β γ δ : Type} {change : α → β} {x : Except Failure α} {y : Except Failure β}

theorem ok {a : α} {b : β} (h : change a = b) : Answers change (.ok a) (.ok b) := by
  intro a' ha'
  obtain rfl := Except.ok.inj ha'
  rw [h]

theorem error {failure : Failure} : Answers change (.error failure) y :=
  fun _ h => nomatch h

theorem same (x : Except Failure α) : Answers id x x := fun _ h => h

theorem bind {next : γ → δ} {f : α → Except Failure γ} {g : β → Except Failure δ}
    (h : Answers change x y) (hnext : ∀ a, Answers next (f a) (g (change a))) :
    Answers next (x >>= f) (y >>= g) := by
  intro c hc
  obtain ⟨a, ha, hc⟩ := ok_of_bind hc
  rw [h a ha]
  exact hnext a c hc

/-- A step that both runs take alike. -/
theorem step {next : γ → δ} {x : Except Failure α} {f : α → Except Failure γ}
    {g : α → Except Failure δ} (h : ∀ a, Answers next (f a) (g a)) :
    Answers next (x >>= f) (x >>= g) := (same x).bind h

theorem map {next : γ → δ} {f : α → γ} {g : β → δ} (h : Answers change x y)
    (hnext : ∀ a, next (f a) = g (change a)) : Answers next (f <$> x) (g <$> y) := by
  intro c hc
  obtain ⟨a, ha, rfl⟩ := ok_of_map hc
  rw [h a ha, hnext]
  rfl

theorem ite {c : Prop} [Decidable c] {x' : Except Failure α} {y' : Except Failure β}
    (h : c → Answers change x y) (h' : ¬c → Answers change x' y') :
    Answers change (if c then x else x') (if c then y else y') := by
  split
  · exact h ‹c›
  · exact h' ‹¬c›

/-- The same when the first step is one of two. -/
theorem branches (change : α → β) {c : Prop} [Decidable c] {x x' : Except Failure α}
    {y y' : Except Failure β} {next : γ → δ} {f : α → Except Failure γ} {g : β → Except Failure δ}
    (h : c → Answers change x y) (h' : ¬c → Answers change x' y')
    (hnext : ∀ a, Answers next (f a) (g (change a))) :
    Answers next (if c then x >>= f else x' >>= f) (if c then y >>= g else y' >>= g) :=
  ite (fun hc => (h hc).bind hnext) fun hc => (h' hc).bind hnext

end Answers

/-! ## Beyond the limit -/

variable {limit : Nat} {wider : Option Nat}

theorem not_isBeyond_none (depth : Nat) : ¬isBeyond none depth = true := Bool.false_ne_true

theorem isBeyond_some {depth : Nat} : isBeyond (some limit) depth = true ↔ limit < depth :=
  decide_eq_true_iff

theorem not_isBeyond_wider (hwider : ∀ l ∈ wider, limit ≤ l) {depth : Nat} (h : ¬limit < depth) :
    ¬isBeyond wider depth = true := by
  cases wider with
  | none => exact not_isBeyond_none depth
  | some l =>
    have hle := hwider l rfl
    rw [isBeyond_some]
    omega

theorem toExprs_beyond {depth : Nat} (h : limit < depth) (args : List Arg) :
    toExprs (some limit) args depth = .ok (args.map fun _ => truncated) := by
  induction args with
  | nil => rw [toExprs, List.map_nil]
  | cons a rest ih =>
    have ha : toExpr (some limit) a depth = .ok truncated := by
      rw [toExpr.eq_def, if_pos (isBeyond_some.mpr h)]
    rw [toExprs, ha, ih, List.map_cons]
    rfl

theorem prunedExprs_beyond {depth : Nat} (h : limit < depth) (es : List Expr) :
    prunedExprs limit depth es = es.map fun _ => truncated := by
  induction es with
  | nil => rfl
  | cons e rest ih => rw [prunedExprs, e.pruned_beyond h, ih, List.map_cons]

theorem letters_eq_nil {a : Arg} {part : String} (h : a.requireNoLetters part = .ok ()) :
    a.letters = [] := by
  rw [Arg.requireNoLetters] at h
  split at h
  · rename_i hempty
    exact List.isEmpty_iff.mp hempty
  · exact nomatch h

/-- Beyond the limit the items of a list are leaves, whether they are cut off one by one or together. -/
theorem answers_toItems (hwider : ∀ l ∈ wider, limit ≤ l) {a : Arg} {depth : Nat}
    (h : Answers (prunedExprs limit depth) (toExprs wider a.items depth)
      (toExprs (some limit) a.items depth)) :
    Answers (prunedExprs limit depth) (toItems wider a depth) (toItems (some limit) a depth) := by
  rw [toItems, toItems]
  by_cases hbeyond : limit < depth
  · rw [if_pos (isBeyond_some.mpr hbeyond)]
    intro es hes
    split at hes
    · obtain rfl := Except.ok.inj hes
      rw [prunedExprs_beyond hbeyond]
      simp only [List.map_append, List.map_map, Function.comp_def]
    · obtain ⟨_, hletters, hes⟩ := ok_of_bind hes
      have hleaves := h es hes
      rw [toExprs_beyond hbeyond] at hleaves
      rw [letters_eq_nil hletters, List.map_nil, List.append_nil]
      exact hleaves
  · rw [if_neg (not_isBeyond_wider hwider hbeyond), if_neg (mt isBeyond_some.mp hbeyond)]
    exact .step fun _ => h

/-! ## The conversion with the limit and with a wider one -/

section Limited

-- Most of the theorems use the variable only through the ones that they are proved with.
set_option linter.unusedSectionVars false

variable (hwider : ∀ l ∈ wider, limit ≤ l)

include hwider

mutual

theorem toQuery?_limited (a : Arg) (depth : Nat) :
    Answers (prunedQuery? limit depth) (toQuery? wider a depth) (toQuery? (some limit) a depth) := by
  match a with
  | .node n =>
    rw [toQuery?, toQuery?]
    refine .ite (fun _ => toQuery?_limited (n.get "this") depth) fun _ => .ite (fun _ => ?_)
      fun _ => .ite (fun _ => ?_) fun _ => ?_
    · exact (toSelect_limited n depth).bind fun block => .ok rfl
    · exact (toCombination_limited n depth).bind fun parts => .ok rfl
    · exact (toQueries_limited n.children depth).bind fun queries => .ok rfl
  | .absent | .list _ | .text _ | .flag _ | .number _ =>
    rw [toQuery?, toQuery?]
    · exact .ok rfl
    all_goals exact fun _ hn => Arg.noConfusion hn
termination_by 8 * sizeOf a
decreasing_by all_goals
  have h := n.sizeOf_get_lt "this"
  have c := n.sizeOf_children_lt
  simp only [Arg.node.sizeOf_spec]
  omega

theorem toQueries_limited (args : List Arg) (depth : Nat) :
    Answers (prunedQueries limit depth) (toQueries wider args depth)
      (toQueries (some limit) args depth) := by
  match args with
  | [] =>
    rw [toQueries, toQueries]
    exact .ok rfl
  | a :: rest =>
    rw [toQueries, toQueries]
    refine .ite (fun _ => ?_) fun _ => toQueries_limited rest depth
    refine (toQuery?_limited a depth).bind fun query => ?_
    refine (toQueries_limited rest depth).bind fun others => .ok ?_
    cases query with
    | none => rfl
    | some q => rfl
termination_by 8 * sizeOf args
decreasing_by all_goals
  simp only [List.cons.sizeOf_spec]
  omega

theorem toDefinitions_limited (args : List Arg) (depth : Nat) :
    Answers (prunedDefinitions limit depth) (toDefinitions wider args depth)
      (toDefinitions (some limit) args depth) := by
  match args with
  | [] =>
    rw [toDefinitions, toDefinitions]
    exact .ok rfl
  | .node n :: rest =>
    rw [toDefinitions, toDefinitions]
    refine .step fun name => (toQuery?_limited (n.get "this") depth).bind fun query => ?_
    exact (toDefinitions_limited rest depth).bind fun others => .ok rfl
  | .absent :: _ | .list _ :: _ | .text _ :: _ | .flag _ :: _ | .number _ :: _ =>
    rw [toDefinitions]
    · exact .error
    · exact fun _ hn => Arg.noConfusion hn
termination_by 8 * sizeOf args
decreasing_by all_goals
  have h := n.sizeOf_get_lt "this"
  simp only [List.cons.sizeOf_spec, Arg.node.sizeOf_spec]
  omega

theorem toWith_limited (a : Arg) (depth : Nat) :
    Answers (prunedDefinitions limit depth) (toWith wider a depth) (toWith (some limit) a depth) := by
  rw [toWith, toWith]
  refine .ite (fun _ => .ok rfl) fun _ => .step fun _ => .step fun _ => .step fun _ => ?_
  exact toDefinitions_limited (a.get "expressions").items depth
termination_by 8 * sizeOf a + 1
decreasing_by all_goals
  have h := a.sizeOf_get_le "expressions"
  have i := (a.get "expressions").sizeOf_items_le
  omega

theorem toSelect_limited (n : Node) (depth : Nat) :
    Answers (Select.pruned limit depth) (toSelect wider n depth) (toSelect (some limit) n depth) := by
  rw [toSelect, toSelect]
  refine .step fun _ => .branches (prunedColumns limit (depth + 1)) (fun _ => .ok rfl)
    (fun _ => (toItems_limited (n.get "expressions") (depth + 1)).map fun _ => rfl) fun columns => ?_
  refine (toFrom_limited (n.getEither "from" "from_") depth).bind fun listed => ?_
  refine .step fun _ => .step fun _ => ?_
  refine (toJoins_limited (n.get "joins").items depth).bind fun joined => ?_
  refine (toClause_limited (n.get "where") (depth + 1)).bind fun filter => ?_
  refine (toClause_limited (n.get "having") (depth + 1)).bind fun having => ?_
  refine (toClause_limited (n.get "qualify") (depth + 1)).bind fun qualify => ?_
  refine (toList_limited (n.get "group") (depth + 1)).bind fun groupBy => ?_
  refine (toList_limited (n.get "order") (depth + 1)).bind fun orderBy => ?_
  refine (toExpr?_limited (limitOf n) (depth + 1)).bind fun rows => ?_
  refine (toWith_limited (n.getEither "with" "with_") depth).bind fun definitions => .ok ?_
  rw [Select.pruned, prunedSources_eq_map, List.map_append, ← prunedSources_eq_map,
    ← prunedSources_eq_map]
termination_by 8 * sizeOf n + 4
decreasing_by all_goals
  have e := n.sizeOf_get_lt "expressions"
  have f := n.sizeOf_getEither_lt "from" "from_"
  have j := (n.get "joins").sizeOf_items_le
  have j' := n.sizeOf_get_lt "joins"
  have w := n.sizeOf_get_lt "where"
  have h := n.sizeOf_get_lt "having"
  have q := n.sizeOf_get_lt "qualify"
  have g := n.sizeOf_get_lt "group"
  have o := n.sizeOf_get_lt "order"
  have l := sizeOf_limitOf_lt n
  have d := n.sizeOf_getEither_lt "with" "with_"
  omega

theorem toCombination_limited (n : Node) (depth : Nat) :
    Answers (Combination.pruned limit depth) (toCombination wider n depth)
      (toCombination (some limit) n depth) := by
  rw [toCombination, toCombination]
  refine (toQuery?_limited (n.get "this") depth).bind fun left => ?_
  refine (toQuery?_limited (n.get "expression") depth).bind fun right => ?_
  refine (toList_limited (n.get "order") (depth + 1)).bind fun orderBy => ?_
  refine (toExpr?_limited (n.get "limit") (depth + 1)).bind fun rows => ?_
  exact (toWith_limited (n.getEither "with" "with_") depth).bind fun definitions => .ok rfl
termination_by 8 * sizeOf n + 4
decreasing_by all_goals
  have t := n.sizeOf_get_lt "this"
  have e := n.sizeOf_get_lt "expression"
  have o := n.sizeOf_get_lt "order"
  have l := n.sizeOf_get_lt "limit"
  have d := n.sizeOf_getEither_lt "with" "with_"
  omega

theorem toFrom_limited (a : Arg) (depth : Nat) :
    Answers (prunedSources limit depth) (toFrom wider a depth) (toFrom (some limit) a depth) := by
  rw [toFrom, toFrom]
  refine .ite (fun _ => .ok rfl) fun _ => .step fun _ => .step fun _ => ?_
  refine .branches (prunedSources limit depth) (fun _ => .ok rfl)
    (fun _ => (toSource_limited (a.get "this") depth).map fun _ => rfl) fun first => .step fun _ => ?_
  refine (toSources_limited (a.get "expressions").items depth).bind fun others => .ok ?_
  rw [prunedSources_eq_map, List.map_append, ← prunedSources_eq_map, ← prunedSources_eq_map]
termination_by 8 * sizeOf a + 4
decreasing_by all_goals
  have t := a.sizeOf_get_le "this"
  have e := a.sizeOf_get_le "expressions"
  have i := (a.get "expressions").sizeOf_items_le
  omega

theorem toSources_limited (args : List Arg) (depth : Nat) :
    Answers (prunedSources limit depth) (toSources wider args depth)
      (toSources (some limit) args depth) := by
  match args with
  | [] =>
    rw [toSources, toSources]
    exact .ok rfl
  | a :: rest =>
    rw [toSources, toSources]
    refine (toSource_limited a depth).bind fun source => ?_
    exact (toSources_limited rest depth).bind fun others => .ok rfl
termination_by 8 * sizeOf args
decreasing_by all_goals
  simp only [List.cons.sizeOf_spec]
  omega

theorem toSource_limited (a : Arg) (depth : Nat) :
    Answers (Source.pruned limit depth) (toSource wider a depth) (toSource (some limit) a depth) := by
  match a with
  | .node n =>
    rw [toSource, toSource]
    refine .step fun given => .ite (fun _ => ?_) fun _ => .ite (fun _ => ?_) fun _ =>
      .ite (fun _ => ?_) fun _ => ?_
    · exact (toQuery?_limited (n.get "this") (depth + 1)).bind fun query => .ok rfl
    · exact (toQuery?_limited (.node n) (depth + 1)).bind fun query => .ok rfl
    · split
      · refine .ite (fun _ => .step fun name => .ok rfl) fun _ => ?_
        exact (toExpr_limited (n.get "this") (depth + 1)).bind fun e => .ok rfl
      · exact .ok rfl
    · exact (toExpr_limited (.node n) (depth + 1)).bind fun e => .ok rfl
  | .absent | .list _ | .text _ | .flag _ | .number _ =>
    rw [toSource]
    · exact .error
    · exact fun _ hn => Arg.noConfusion hn
termination_by 8 * sizeOf a + 2
decreasing_by all_goals
  have t := n.sizeOf_get_lt "this"
  simp only [Arg.node.sizeOf_spec]
  omega

theorem toJoins_limited (args : List Arg) (depth : Nat) :
    Answers (prunedSources limit depth) (toJoins wider args depth)
      (toJoins (some limit) args depth) := by
  match args with
  | [] =>
    rw [toJoins, toJoins]
    exact .ok rfl
  | .node n :: rest =>
    rw [toJoins, toJoins]
    refine (toSource_limited (n.get "this") depth).bind fun source => ?_
    refine .step fun method => .step fun side => .step fun kind => ?_
    refine (toExpr?_limited (n.get "on") (depth + 1)).bind fun condition => ?_
    refine .step fun _ => .step fun columns => ?_
    refine (toJoins_limited rest depth).bind fun others => .ok ?_
    cases source
    rfl
  | .absent :: _ | .list _ :: _ | .text _ :: _ | .flag _ :: _ | .number _ :: _ =>
    rw [toJoins]
    · exact .error
    · exact fun _ hn => Arg.noConfusion hn
termination_by 8 * sizeOf args
decreasing_by all_goals
  have t := n.sizeOf_get_lt "this"
  have c := n.sizeOf_get_lt "on"
  simp only [List.cons.sizeOf_spec, Arg.node.sizeOf_spec]
  omega

theorem toClause_limited (a : Arg) (depth : Nat) :
    Answers (prunedExpr? limit depth) (toClause wider a depth) (toClause (some limit) a depth) := by
  rw [toClause, toClause]
  refine .ite (fun _ => .ok rfl) fun _ => .step fun _ => ?_
  exact (toExpr_limited (a.get "this") depth).map fun _ => rfl
termination_by 8 * sizeOf a + 2
decreasing_by all_goals
  have h := a.sizeOf_get_le "this"
  omega

theorem toList_limited (a : Arg) (depth : Nat) :
    Answers (prunedExprs limit depth) (toList wider a depth) (toList (some limit) a depth) := by
  rw [toList, toList]
  refine .ite (fun _ => .ok rfl) fun _ => .step fun _ => .step fun _ => ?_
  exact toItems_limited (a.get "expressions") depth
termination_by 8 * sizeOf a + 2
decreasing_by all_goals
  have h := a.sizeOf_get_le "expressions"
  omega

theorem toItems_limited (a : Arg) (depth : Nat) :
    Answers (prunedExprs limit depth) (toItems wider a depth) (toItems (some limit) a depth) :=
  answers_toItems hwider (toExprs_limited a.items depth)
termination_by 8 * sizeOf a + 1
decreasing_by all_goals
  have h := a.sizeOf_items_le
  omega

theorem toExpr?_limited (a : Arg) (depth : Nat) :
    Answers (prunedExpr? limit depth) (toExpr? wider a depth) (toExpr? (some limit) a depth) := by
  rw [toExpr?, toExpr?]
  exact .ite (fun _ => .ok rfl) fun _ => (toExpr_limited a depth).map fun _ => rfl
termination_by 8 * sizeOf a + 2
decreasing_by all_goals
  omega

theorem toExprs_limited (args : List Arg) (depth : Nat) :
    Answers (prunedExprs limit depth) (toExprs wider args depth)
      (toExprs (some limit) args depth) := by
  match args with
  | [] =>
    rw [toExprs, toExprs]
    exact .ok rfl
  | a :: rest =>
    rw [toExprs, toExprs]
    refine (toExpr_limited a depth).bind fun e => ?_
    exact (toExprs_limited rest depth).bind fun others => .ok rfl
termination_by 8 * sizeOf args
decreasing_by all_goals
  simp only [List.cons.sizeOf_spec]
  omega

/-- The sides of an operator within the limit stand one level below it. -/
theorem toSides_limited (n : Node) {depth : Nat} (hwithin : ¬limit < depth) :
    Answers (Expr.pruned limit depth) (toSides wider n (depth + 1))
      (toSides (some limit) n (depth + 1)) := by
  rw [toSides, toSides]
  refine .ite (fun _ => .error) fun _ => .ite (fun _ => .error) fun _ => ?_
  refine (toExpr?_limited (n.get "this") (depth + 1)).bind fun left => ?_
  refine (toExpr?_limited (n.get "expression") (depth + 1)).bind fun right => .ok ?_
  rw [Expr.pruned, if_neg hwithin]
termination_by 8 * sizeOf n + 4
decreasing_by all_goals
  have t := n.sizeOf_get_lt "this"
  have e := n.sizeOf_get_lt "expression"
  omega

theorem toExpr_limited (a : Arg) (depth : Nat) :
    Answers (Expr.pruned limit depth) (toExpr wider a depth) (toExpr (some limit) a depth) := by
  by_cases hbeyond : limit < depth
  · intro e _
    rw [toExpr.eq_def, if_pos (isBeyond_some.mpr hbeyond), Expr.pruned_beyond hbeyond]
  · match a with
    | .node n =>
      rw [toExpr, toExpr, if_neg (not_isBeyond_wider hwider hbeyond),
        if_neg (mt isBeyond_some.mp hbeyond)]
      refine .ite (fun _ => ?_) fun _ => .ite (fun _ => ?_) fun _ => .ite (fun _ => ?_) fun _ =>
        .ite (fun _ => ?_) fun _ => .ite (fun _ => ?_) fun _ => .ite (fun _ => ?_) fun _ =>
        .ite (fun _ => ?_) fun _ => ?_
      · refine (toQuery?_limited (n.get "this") (depth + 1)).bind fun query => .ok ?_
        rw [Expr.pruned, if_neg hbeyond]
      · refine (toQuery?_limited (.node n) (depth + 1)).bind fun query => .ok ?_
        rw [Expr.pruned, if_neg hbeyond]
      · refine .ok ?_
        rw [Expr.pruned, if_neg hbeyond]
      · refine .step fun name => .ok ?_
        rw [Expr.pruned, if_neg hbeyond]
      · refine .ok ?_
        rw [Expr.pruned, if_neg hbeyond]
      · exact toSides_limited n hbeyond
      · -- The name is given in one of two ways; the arguments are the same.
        split
        all_goals
          refine .step fun name => .step fun capitals => ?_
          refine (toExprs_limited n.children (depth + 1)).bind fun args => .ok ?_
          rw [Expr.pruned, if_neg hbeyond]
      · refine (toExprs_limited n.children (depth + 1)).bind fun parts => .ok ?_
        rw [Expr.pruned, if_neg hbeyond]
    | .absent | .list _ | .text _ | .flag _ | .number _ =>
      rw [toExpr.eq_def, if_neg (not_isBeyond_wider hwider hbeyond)]
      exact .error
termination_by 8 * sizeOf a + 1
decreasing_by all_goals
  have t := n.sizeOf_get_lt "this"
  have c := n.sizeOf_children_lt
  simp only [Arg.node.sizeOf_spec]
  omega

end

/-! ## All statements of a text -/

theorem toStatements_limited (statements : List (Option Node)) :
    Answers (List.map (Query.pruned limit 0)) (toStatements wider statements)
      (toStatements (some limit) statements) := by
  induction statements with
  | nil => exact .ok rfl
  | cons statement rest ih =>
    cases statement with
    | none => exact ih
    | some n =>
      refine (toQuery?_limited hwider (.node n) 0).bind fun query => ih.bind fun others => .ok ?_
      cases query <;> rfl

theorem queriesOf_limited (reply : Reply) :
    Answers (List.map (Query.pruned limit 0)) (queriesOf wider reply)
      (queriesOf (some limit) reply) := by
  cases reply with
  | parsed statements => exact toStatements_limited hwider statements
  | _ => exact .error

end Limited

/-- What the conversion with a limit gives holds nothing beyond it. -/
theorem pruned_of_mem_queriesOf {reply : Reply} {queries : List Query}
    (h : queriesOf (some limit) reply = .ok queries) {q : Query} (hq : q ∈ queries) :
    q.pruned limit 0 = q := by
  have hwider : ∀ l ∈ some limit, limit ≤ l := by simp
  have hpruned := queriesOf_limited hwider reply queries h
  rw [h] at hpruned
  have hmap : queries.map id = queries.map (Query.pruned limit 0) := by
    rw [List.map_id]
    exact Except.ok.inj hpruned
  exact (List.map_inj_left.mp hmap q hq).symm

/-- Where the conversion without a limit answers, the one with the limit gives the same queries with
a leaf for each expression that is beyond it, and the very same queries if none is. -/
theorem queries_pruned {g : Grammar} {asked : Nat} {r : Request} {whole : List Query}
    (h : queriesOf none (g asked r) = .ok whole) :
    queries g asked r = .ok (whole.map (Query.pruned maxConvertDepth 0)) ∧
      ((∀ q ∈ whole, q.deepest 0 ≤ maxConvertDepth) → queries g asked r = .ok whole) := by
  have hpruned : queries g asked r = .ok (whole.map (Query.pruned maxConvertDepth 0)) :=
    queriesOf_limited (by simp) (g asked r) whole h
  refine ⟨hpruned, fun hwithin => ?_⟩
  have hself : whole.map (Query.pruned maxConvertDepth 0) = whole.map id :=
    List.map_congr_left fun q hq => q.pruned_eq_self (hwithin q hq)
  rw [hpruned, hself, List.map_id]

/-! ### A chain of negations at the limit -/

def negations : Nat → Node
  | 0 => ⟨"Star", [], false, none⟩
  | k + 1 => ⟨"Not", [⟨"this", .node (negations k)⟩], false, none⟩

def negated (e : Expr) : Nat → Expr
  | 0 => e
  | k + 1 => .other "not" [negated e k]

def star : Expr := .column (some "*") none true

def selection (n : Node) : Node := ⟨"Select", [⟨"expressions", .list [.node n]⟩], false, none⟩

def selected (e : Expr) : Query :=
  .select ⟨some [e], [], none, none, none, [], [], none, [], false⟩

theorem toExpr_negations (k depth : Nat) :
    toExpr none (.node (negations k)) depth = .ok (negated star k) := by
  induction k generalizing depth with
  | zero =>
    rw [toExpr, if_neg (not_isBeyond_none depth)]
    rfl
  | succ k ih =>
    have hchildren : (negations (k + 1)).children = [.node (negations k)] := rfl
    have hkey : (negations (k + 1)).key = "not" := by
      rw [negations, Node.key]
      cbv
    rw [toExpr, if_neg (not_isBeyond_none depth), hchildren, toExprs, toExprs, ih, hkey]
    rfl

theorem toQuery?_selection (k : Nat) :
    toQuery? none (.node (selection (negations (k + 1)))) 0
      = .ok (some (selected (negated star (k + 1)))) := by
  have hitems : ((selection (negations (k + 1))).get "expressions").items
      = [.node (negations (k + 1))] := rfl
  have hcolumns : toItems none ((selection (negations (k + 1))).get "expressions") 1
      = .ok [negated star (k + 1)] := by
    rw [toItems, if_neg (not_isBeyond_none 1), hitems, toExprs, toExprs, toExpr_negations]
    rfl
  have hselect : toSelect none (selection (negations (k + 1))) 0
      = .ok ⟨some [negated star (k + 1)], [], none, none, none, [], [], none, [], false⟩ := by
    rw [toSelect, hitems, hcolumns]
    cbv
  rw [toQuery?, hselect]
  rfl

theorem deepest_negated (k depth : Nat) : (negated star k).deepest depth = depth + k := by
  induction k generalizing depth with
  | zero => rfl
  | succ k ih =>
    rw [negated, Expr.deepest, deepestExprs, deepestExprs, ih]
    omega

theorem pruned_negated {e : Expr} {k depth : Nat} (h : depth + k ≤ limit + 1) :
    (negated e k).pruned limit depth = negated (e.pruned limit (depth + k)) k := by
  induction k generalizing depth with
  | zero => rfl
  | succ k ih =>
    rw [negated, Expr.pruned, if_neg (by omega), prunedExprs, prunedExprs, ih (by omega), negated,
      Nat.add_right_comm, Nat.add_assoc]

/-- A grammar that takes every text for the selection of a star that is negated once more than a
number of times. -/
def negating (k : Nat) : Grammar := fun _ _ => .parsed [some (selection (negations (k + 1)))]

theorem queriesOf_negating (k asked : Nat) (r : Request) :
    queriesOf none (negating k asked r) = .ok [selected (negated star (k + 1))] := by
  rw [negating, queriesOf, toStatements, toQuery?_selection]
  rfl

theorem deepest_selected (e : Expr) : (selected e).deepest 0 = e.deepest 1 := by
  simp only [selected, Query.deepest, Select.deepest, deepestColumns, deepestExprs, deepestSources,
    deepestExpr?, deepestDefinitions, List.foldr_cons, List.foldr_nil, Nat.max_zero]

/-- With 199 negations the star is just within the limit, with 200 it is cut off. -/
theorem negating_pruned :
    queriesOf none (negating 198 0 ⟨[], none⟩) = .ok [selected (negated star 199)] ∧
      (selected (negated star 199)).deepest 0 ≤ maxConvertDepth ∧
      queries (negating 198) 0 ⟨[], none⟩ = .ok [selected (negated star 199)] ∧
      queriesOf none (negating 199 0 ⟨[], none⟩) = .ok [selected (negated star 200)] ∧
      queries (negating 199) 0 ⟨[], none⟩ = .ok [selected (negated truncated 200)] := by
  have hwithin : (selected (negated star 199)).deepest 0 ≤ maxConvertDepth := by
    have hdepth := (deepest_selected (negated star 199)).trans (deepest_negated 199 1)
    exact Nat.le_of_eq hdepth
  have hcut : (selected (negated star 200)).pruned maxConvertDepth 0
      = selected (negated truncated 200) := by
    have hnegated : (negated star 200).pruned maxConvertDepth 1 = negated truncated 200 :=
      pruned_negated (by decide)
    exact congrArg selected hnegated
  have hwhole := queriesOf_negating 198 0 ⟨[], none⟩
  have hdeeper := queriesOf_negating 199 0 ⟨[], none⟩
  have hpruned := (queries_pruned hdeeper).1
  rw [List.map_singleton, hcut] at hpruned
  exact ⟨hwhole, hwithin, (queries_pruned hwhole).2 (by simpa using hwithin), hdeeper, hpruned⟩

end QueryLint.Grammar

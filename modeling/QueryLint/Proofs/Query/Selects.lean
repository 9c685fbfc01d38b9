import QueryLint.Proofs.Query.Blocks
import QueryLint.Proofs.Query.Preorder

/-! The select blocks that the walk comes by. Each is a block of the query: a child has no blocks that
its parent does not have. Main statement: `mem_blocks_of_mem_selects`. -/
namespace QueryLint
set_option autoImplicit false

namespace Query

theorem self_mem_walk (q : Query) : (q, 0) ∈ q.walk := by
  rw [walk, walkFrom_eq_preorder, preorder_eq]
  exact List.mem_cons_self

theorem mem_selects {q : Query} {s : Select} {depth : Nat} :
    (s, depth) ∈ q.selects ↔ (Query.select s, depth) ∈ q.walk := by
  unfold selects
  rw [List.mem_filterMap]
  constructor
  · rintro ⟨⟨inner, depth'⟩, hmem, hs⟩
    cases inner <;> simp_all [select?]
  · intro hmem
    exact ⟨_, hmem, rfl⟩

end Query

/-! ## Blocks on the way -/

theorem Expr.inner_eq (e : Expr) :
    e.inner = e.query?.toList.flatMap Query.blocks ++ e.parts.flatMap Expr.inner := by
  cases e with
  | binary op left right => simp [Expr.inner, query?, parts, blocksOfExpr?_eq, blocksOfExprs_eq]
  | subquery query => cases query <;> simp [Expr.inner, query?, parts, blocksOfQuery?]
  | call name args => simp [Expr.inner, query?, parts, blocksOfExprs_eq]
  | other kind parts => simp [Expr.inner, query?, Expr.parts, blocksOfExprs_eq]
  | column | literal => simp [Expr.inner, query?, parts]

/-- By induction on the size, since a part of an expression is smaller. -/
theorem Expr.blocks_subset_inner {e : Expr} {level : Nat} {q : Query} (h : q ∈ e.gather level) :
    q.blocks ⊆ e.inner := by
  intro b hb
  induction hsize : sizeOf e using Nat.strongRecOn generalizing e level with
  | ind size ih =>
    rw [Expr.gather_eq] at h
    split at h
    · exact absurd h List.not_mem_nil
    · rw [Expr.inner_eq, List.mem_append, List.mem_flatMap, List.mem_flatMap]
      rcases List.mem_append.mp h with hhere | hbelow
      · exact .inl ⟨q, hhere, hb⟩
      · obtain ⟨part, hpart, hq⟩ := List.mem_flatMap.mp hbelow
        exact .inr ⟨part, hpart, ih (sizeOf part) (hsize ▸ Expr.sizeOf_part_lt hpart) hq rfl⟩

theorem exists_inner_of_mem_gatherAll {es : List Expr} {q : Query} (h : q ∈ gatherAll 0 es) :
    ∃ e ∈ es, q.blocks ⊆ e.inner := by
  rw [gatherAll_eq, List.mem_flatMap] at h
  obtain ⟨e, he, hq⟩ := h
  exact ⟨e, he, Expr.blocks_subset_inner hq⟩

theorem Source.subquery_subset_inner {f : Source} {q : Query} (h : f.subquery = some q) :
    q.blocks ⊆ f.inner := by
  rw [Source.inner_eq, h, blocksOfQuery?]
  intro b hb
  simp [hb]

theorem Select.expression_subset_inner {s : Select} {e : Expr} (h : e ∈ s.expressions) :
    e.inner ⊆ s.inner := by
  intro b hb
  rw [Select.inner_eq]
  simp only [Source.inner_eq, blocksOfExpr?_eq, blocksOfExprs_eq, Select.expressions,
    List.mem_append, List.mem_flatMap] at h ⊢
  grind

namespace Query

theorem blocks_child_subset {q : Query} {depth : Nat} {child : Query × Nat}
    (h : child ∈ q.children depth) : child.1.blocks ⊆ q.blocks := by
  intro b hb
  cases q with
  | select s =>
    simp only [children, List.mem_append, List.mem_map] at h
    apply List.mem_cons_of_mem
    rcases h with (⟨q, hq, rfl⟩ | ⟨q, hq, rfl⟩) | ⟨q, hq, rfl⟩
    · rw [Select.inner_eq]
      exact List.mem_append_right _ (List.mem_flatMap.mpr ⟨q, hq, hb⟩)
    · obtain ⟨f, hf, hsubquery⟩ := List.mem_filterMap.mp hq
      have hinner := Source.subquery_subset_inner hsubquery hb
      rw [Select.inner_eq]
      simp only [List.mem_append, List.mem_flatMap]
      grind
    · obtain ⟨e, he, hinner⟩ := exists_inner_of_mem_gatherAll hq
      exact Select.expression_subset_inner he (hinner hb)
  | combination c =>
    simp only [children, List.mem_append, List.mem_map] at h
    rw [blocks, Combination.inner_eq]
    simp only [List.mem_append, List.mem_flatMap]
    rcases h with (⟨q, hq, rfl⟩ | ⟨q, hq, rfl⟩) | ⟨q, hq, rfl⟩
    · exact .inr ⟨q, hq, hb⟩
    · exact .inl (.inl (.inl ⟨q, hq, hb⟩))
    · obtain ⟨e, he, hinner⟩ := exists_inner_of_mem_gatherAll hq
      exact .inl (.inl (.inr ⟨e, he, hinner hb⟩))
  | other kind queries =>
    obtain ⟨q, hq, rfl⟩ := List.mem_map.mp h
    rw [blocks, blocksOfQueries_eq, List.mem_flatMap]
    exact ⟨q, hq, hb⟩
  | unknown => exact absurd h List.not_mem_nil

/-- By induction on the size: what is below a child has no blocks that the child does not have. -/
theorem blocks_subset_of_mem_preorder {q : Query} {depth : Nat} {item : Query × Nat}
    (h : item ∈ q.preorder depth) : item.1.blocks ⊆ q.blocks := by
  induction hsize : sizeOf q using Nat.strongRecOn generalizing q depth with
  | ind size ih =>
    rw [preorder_eq] at h
    rcases List.mem_cons.mp h with rfl | h
    · exact List.Subset.refl _
    · split at h
      · obtain ⟨child, hchild, hitem⟩ := List.mem_flatMap.mp h
        have hbelow := ih (sizeOf child.1) (hsize ▸ sizeOf_child_lt hchild) hitem rfl
        exact List.Subset.trans hbelow (blocks_child_subset hchild)
      · exact absurd h List.not_mem_nil

theorem mem_blocks_of_mem_selects {q : Query} {item : Select × Nat} (h : item ∈ q.selects) :
    item.1 ∈ q.blocks := by
  have hwalk : (Query.select item.1, item.2) ∈ q.walk := mem_selects.mp h
  rw [walk, walkFrom_eq_preorder] at hwalk
  exact blocks_subset_of_mem_preorder hwalk List.mem_cons_self

end Query
end QueryLint

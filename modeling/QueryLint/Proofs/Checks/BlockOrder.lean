import QueryLint.Checks.Ordering
import QueryLint.Proofs.Sql.NamedQuery
import QueryLint.Proofs.Sql.TopLevel

/-! An ORDER BY in the body of a named query. The body is searched with what is nested in parentheses
blanked, and the place that is found is one of the body, which is a stretch of the query. Main statement:
`intermediateOrderBy_first`, which ORDER BY is reported, and where. -/
namespace QueryLint
set_option autoImplicit false
open Sql

/-! ## Bodies of blocks -/

namespace Sql

/-- The body of a block is what stands between the parentheses of a group. -/
theorem NamedQuery.Enclosed.items_body {sql : Text} {b : NamedQuery} (h : b.Enclosed sql) : Items b.body := by
  obtain ⟨group, ⟨body, hbody, rfl⟩, ⟨rest, hrest⟩, hstop⟩ := group_of_closingParen? h.opened h.closed
  have hpos := h.start_pos
  have hbegins : body <+: sql.drop b.span.start := by
    refine ⟨')' :: rest, ?_⟩
    have hdrop := congrArg (List.drop 1) hrest
    rw [List.drop_drop, Nat.sub_add_cancel hpos] at hdrop
    simpa using hdrop
  have hspan : b.span = ⟨b.span.start, b.span.start + body.length⟩ := by
    simp only [List.length_cons, List.length_append, List.length_nil] at hstop
    have hlast : b.span.stop = b.span.start + body.length := by omega
    rw [← hlast]
  rw [← h.body_eq, hspan, Text.slice_of_begins hbegins]
  exact hbody

theorem NamedQuery.Enclosed.body_begins {sql : Text} {b : NamedQuery} (h : b.Enclosed sql) :
    b.body <+: sql.drop b.span.start := by
  rw [← h.body_eq, Text.slice_eq_take_drop]
  exact List.take_prefix _ _

theorem enclosed_of_mem {sql : Text} {b : NamedQuery} (h : b ∈ namedQueries sql) : b.Enclosed sql := by
  obtain ⟨place, hblock⟩ := exists_blockAt_of_mem h
  exact hblock.enclosed

end Sql

namespace Checks

/-! ## ORDER BY outside parentheses -/

/-- ORDER, white space and BY stand in a stretch of the text, and none of it lies in a group. -/
def OrdersAt (t : Text) (s : Span) : Prop :=
  PairAt "order".toList "by".toList t s ∧ ∀ i, s.start ≤ i → i < s.stop → ¬Inside t i

theorem areNames_orderBy : AreNames "order" "by" := ⟨isWordName "order", isWordName "by"⟩

/-- In a body the search of the blanked text comes up with the leftmost ORDER BY outside parentheses. -/
theorem ordersAt_of_first? {t : Text} (ht : Items t) {m : Match} (h : orderBy.first? (topLevel t) = some m) :
    OrdersAt t m.span ∧ ∀ s, OrdersAt t s → m.span.start ≤ s.start := by
  obtain ⟨hpair, hleft⟩ := pairAt_of_first? areNames_orderBy h
  exact ⟨(pairAt_topLevel_iff areNames_orderBy ht).mp hpair,
    fun s hs => hleft s ((pairAt_topLevel_iff areNames_orderBy ht).mpr hs)⟩

theorem not_ordersAt_of_first? {t : Text} (ht : Items t) (h : orderBy.first? (topLevel t) = none) (s : Span) :
    ¬OrdersAt t s := fun hs =>
  not_pairAt_of_first? areNames_orderBy h s ((pairAt_topLevel_iff areNames_orderBy ht).mpr hs)

/-- The check reports just if the body of a block has an ORDER BY outside parentheses. It reports the first
of these in the first such block, at its place in the query, which reads ORDER, white space and BY there. -/
theorem intermediateOrderBy_first (sql : Text) :
    (intermediateOrderBy sql ≠ [] ↔ ∃ b ∈ namedQueries sql, ∃ s, OrdersAt b.body s) ∧
    ∀ f ∈ intermediateOrderBy sql, intermediateOrderBy sql = [f] ∧ ∃ before b after s,
      namedQueries sql = before ++ b :: after ∧ (∀ a ∈ before, ∀ s', ¬OrdersAt a.body s') ∧
      OrdersAt b.body s ∧ (∀ s', OrdersAt b.body s' → s.start ≤ s'.start) ∧
      f = (intermediateOrderAdvice b.name.shown).located (s.shift b.span.start) ∧
      f.offset = some ⟨b.span.start + s.start, b.span.start + s.stop⟩ ∧
      IsPair "order".toList "by".toList (sql.slice (s.shift b.span.start)) := by
  have hmissed : ∀ b ∈ namedQueries sql, orderInBlock? b = none → ∀ s, ¬OrdersAt b.body s :=
    fun b hb hnone => not_ordersAt_of_first? (enclosed_of_mem hb).items_body (Option.map_eq_none_iff.mp hnone)
  rw [intermediateOrderBy]
  cases hfound : (namedQueries sql).findSome? orderInBlock? with
  | none =>
    refine ⟨⟨fun h => absurd rfl h, ?_⟩, fun f hf => absurd hf List.not_mem_nil⟩
    rintro ⟨b, hb, s, hs⟩
    exact absurd hs (hmissed b hb (List.findSome?_eq_none_iff.mp hfound b hb) s)
  | some found =>
    obtain ⟨before, b, after, hsplit, hb, hbefore⟩ := List.findSome?_eq_some_iff.mp hfound
    obtain ⟨m, hm, rfl⟩ := Option.map_eq_some_iff.mp hb
    have hmem : b ∈ namedQueries sql := by simp [hsplit]
    have henclosed := enclosed_of_mem hmem
    obtain ⟨horders, hleft⟩ := ordersAt_of_first? henclosed.items_body hm
    refine ⟨iff_of_true (List.cons_ne_nil _ _) ⟨b, hmem, m.span, horders⟩, fun f hf => ?_⟩
    obtain rfl := List.mem_singleton.mp hf
    refine ⟨rfl, before, b, after, m.span, hsplit, fun a ha => ?_, horders, hleft, rfl, rfl, ?_⟩
    · exact hmissed a (by simp [hsplit, ha]) (hbefore a ha)
    · rw [Text.slice_shift henclosed.body_begins horders.1.stop_le]
      exact horders.1.words

end Checks
end QueryLint

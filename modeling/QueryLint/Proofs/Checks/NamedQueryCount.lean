import Mathlib.Data.List.Perm.Subperm
import QueryLint.Checks.Subquery
import QueryLint.Proofs.Checks.Nesting
import QueryLint.Proofs.Sql.BodyOpening

/-! The number of named queries. The check counts the openings of bodies wherever they stand, and not the
blocks of WITH clauses. Each block has an opening of its own, so the check never counts too few; it counts
too many just where an opening is no block's. Main statement: `namedQueryCount_agrees_iff`. -/
namespace QueryLint.Checks
set_option autoImplicit false
open Text Sql

/-! ## Openings and blocks -/

def openingStops (sql : Text) : List Nat := (namedQueryOpen.all sql).map fun m => m.span.stop

def blockStarts (sql : Text) : List Nat := (namedQueries sql).map fun b => b.span.start

/-- Every opening is that of a block. -/
def OpensBlocksOnly (sql : Text) : Prop :=
  ∀ m ∈ namedQueryOpen.all sql, ∃ b ∈ namedQueries sql, b.span.start = m.span.stop

theorem openingStops_nodup (sql : Text) : (openingStops sql).Nodup :=
  List.pairwise_map.mpr ((namedQueryOpen.all_stops_pairwise (by decide) sql).imp Nat.ne_of_lt)

theorem blockStarts_subset (sql : Text) : blockStarts sql ⊆ openingStops sql := by
  intro start hstart
  obtain ⟨b, hb, rfl⟩ := List.mem_map.mp hstart
  obtain ⟨m, hm, hstop⟩ := exists_opening_of_mem hb
  exact List.mem_map.mpr ⟨m, hm, hstop⟩

theorem blockStarts_subperm (sql : Text) : (blockStarts sql).Subperm (openingStops sql) :=
  List.subperm_of_subset (start_nodup sql) (blockStarts_subset sql)

theorem length_le_count (sql : Text) : (namedQueries sql).length ≤ namedQueryOpen.count sql := by
  simpa [blockStarts, openingStops, Pattern.count] using (blockStarts_subperm sql).length_le

theorem opensBlocksOnly_iff_subset {sql : Text} :
    OpensBlocksOnly sql ↔ openingStops sql ⊆ blockStarts sql := by
  simp [OpensBlocksOnly, openingStops, blockStarts, List.subset_def]

/-- The numbers agree just if no opening is left over. -/
theorem count_eq_length_iff (sql : Text) :
    namedQueryOpen.count sql = (namedQueries sql).length ↔ OpensBlocksOnly sql := by
  rw [opensBlocksOnly_iff_subset]
  constructor
  · intro heq
    have hperm := (blockStarts_subperm sql).perm_of_length_le
      (by simp [blockStarts, openingStops, ← heq, Pattern.count])
    exact hperm.symm.subset
  · intro hsubset
    have hle := (List.subperm_of_subset (openingStops_nodup sql) hsubset).length_le
    have hge := length_le_count sql
    simp only [blockStarts, openingStops, List.length_map] at hle
    exact Nat.le_antisymm hle hge

/-! ## What is said of a number -/

def countAdvice (n : Nat) : List Finding :=
  if n > 10 then [(tooManyQueriesAdvice n).overall]
  else if n > 5 then [(manyQueriesAdvice n).overall]
  else []

theorem countAdvice_of_le {n : Nat} (h : n ≤ 5) : countAdvice n = [] := by
  rw [countAdvice, if_neg (by omega), if_neg (by omega)]

theorem title_countAdvice {n : Nat} (h : 5 < n) :
    (countAdvice n).map Finding.title = [s!"{n} CTEs detected"] := by
  by_cases hmany : n > 10
  · rw [countAdvice, if_pos hmany]
    rfl
  · rw [countAdvice, if_neg hmany, if_pos h]
    rfl

theorem eq_of_titles {m n : Nat} (h : s!"{m} CTEs detected" = s!"{n} CTEs detected") : m = n := by
  have htext : ∀ k : Nat, (s!"{k} CTEs detected").toList
      = Nat.toDigits 10 k ++ " CTEs detected".toList := by
    intro k
    show (toString k ++ " CTEs detected").toList = _
    rw [String.toList_append, Nat.toString_eq_repr, Nat.toList_repr]
  have hlists := congrArg String.toList h
  rw [htext, htext] at hlists
  exact eq_of_toDigits_append rfl rfl hlists

/-- Beyond five, what is said tells the number. -/
theorem eq_of_countAdvice {m n : Nat} (hm : 5 < m) (h : countAdvice m = countAdvice n) : m = n := by
  have htitles := title_countAdvice hm
  by_cases hn : 5 < n
  · rw [h, title_countAdvice hn] at htitles
    exact (eq_of_titles (List.cons.inj htitles).1).symm
  · rw [h, countAdvice_of_le (by omega)] at htitles
    cases htitles

/-- The check counts no fewer openings than there are blocks, and as many just if every opening is that
of a block. What it says is what the number of blocks calls for just in that case, or where it counts
five openings at most. -/
theorem namedQueryCount_agrees_iff (sql : Text) :
    (namedQueries sql).length ≤ namedQueryOpen.count sql ∧
    (namedQueryOpen.count sql = (namedQueries sql).length ↔ OpensBlocksOnly sql) ∧
    (namedQueryCount sql = countAdvice (namedQueries sql).length ↔
      namedQueryOpen.count sql ≤ 5 ∨ OpensBlocksOnly sql) := by
  have hcheck : namedQueryCount sql = countAdvice (namedQueryOpen.count sql) := rfl
  have hle := length_le_count sql
  refine ⟨hle, count_eq_length_iff sql, ?_⟩
  rw [hcheck, ← count_eq_length_iff]
  constructor
  · intro heq
    by_cases hfew : namedQueryOpen.count sql ≤ 5
    · exact .inl hfew
    · exact .inr (eq_of_countAdvice (by omega) heq)
  · rintro (hfew | heq)
    · rw [countAdvice_of_le hfew, countAdvice_of_le (by omega)]
    · rw [heq]

def sixWindows : Text :=
  ("SELECT x FROM t WINDOW a AS (ORDER BY x), b AS (ORDER BY x), c AS (ORDER BY x), ".toList ++
    "d AS (ORDER BY x), e AS (ORDER BY x), f AS (ORDER BY x)".toList)

theorem sixWindows_counted : (namedQueries sixWindows).length = 0 ∧ namedQueryOpen.count sixWindows = 6 ∧
    namedQueryCount sixWindows ≠ countAdvice (namedQueries sixWindows).length := by
  have hcount : namedQueryOpen.count sixWindows = 6 := by decide +kernel
  have hblocks : (namedQueries sixWindows).length = 0 := by decide +kernel
  refine ⟨hblocks, hcount, ?_⟩
  rw [namedQueryCount, hcount, hblocks]
  simp [countAdvice]

end QueryLint.Checks

import QueryLint.Checks.Document
import QueryLint.Checks.Expression
import QueryLint.Checks.File
import QueryLint.Checks.Join
import QueryLint.Checks.Ordering
import QueryLint.Checks.Subquery
import QueryLint.Checks.Aggregate
import QueryLint.Proofs.Pattern.Separated

/-! Checks that count. A statement adds what it has of a pattern to what the other statements of a text
have, since no match goes over the semicolon between them; what is reported depends on the sum alone. Main
statement: `counting_separated`. -/
namespace QueryLint.Checks
set_option autoImplicit false
open Sql

/-! ## What is counted -/

def countedPatterns : List Pattern :=
  [listCall, countDistinct, orderBy, overClause, groupBy, namedQueryOpen, leftJoinOnTrue, castOperator,
    castCall, jsonArrow, remoteSource, orderDescLimitOne]

theorem stopsAt_semicolon : ∀ p ∈ countedPatterns, p.shape.stopsAt p.ignoreCase ';' = true := by
  decide +kernel

theorem count_semicolon {p : Pattern} (hp : p ∈ countedPatterns) (a b : Text) :
    p.count (a ++ ';' :: b) = p.count a + p.count b :=
  Pattern.count_separated (stopsAt_semicolon p hp) (by decide) a b

/-! ## What is reported of a count -/

/-- How much a finding matters, and its title. -/
def verdictOf (f : Finding) : Severity × String := (f.severity, f.title)

/-- A check that adds up the matches of some patterns, and what it says of each total. -/
structure CountingRule where
  run : Text → List Finding
  patterns : List Pattern
  verdict : Nat → Option (Severity × String)

namespace CountingRule

def total (r : CountingRule) (sql : Text) : Nat := (r.patterns.flatMap fun p => p.all sql).length

/-- What the check reports is what it says of the total. -/
def Holds (r : CountingRule) : Prop := ∀ sql, (r.run sql).map verdictOf = (r.verdict (r.total sql)).toList

theorem total_semicolon {r : CountingRule} (h : ∀ p ∈ r.patterns, p ∈ countedPatterns) (a b : Text) :
    r.total (a ++ ';' :: b) = r.total a + r.total b := by
  obtain ⟨_, patterns, _⟩ := r
  simp only [total]
  induction patterns with
  | nil => rfl
  | cons p patterns ih =>
    obtain ⟨hp, hpatterns⟩ := List.forall_mem_cons.mp h
    have hcount := count_semicolon hp a b
    simp only [Pattern.count] at hcount
    simp only [List.flatMap_cons, List.length_append, ih hpatterns, hcount]
    omega

def blocking : CountingRule where
  run := blockingOperators
  patterns := [orderBy, overClause, groupBy]
  verdict n :=
    if n ≥ 8 then some (.error, s!"{n} blocking operators detected")
    else if n ≥ 5 then some (.warning, s!"{n} blocking operators in one query")
    else none

def namedQueries : CountingRule where
  run := namedQueryCount
  patterns := [namedQueryOpen]
  verdict n :=
    if n > 10 then some (.warning, s!"{n} CTEs detected")
    else if n > 5 then some (.info, s!"{n} CTEs detected")
    else none

def onTrue : CountingRule where
  run := joinsOnTrue
  patterns := [leftJoinOnTrue]
  verdict n := if n ≥ 5 then some (.info, s!"{n} LEFT JOIN ... ON TRUE") else none

def casts : CountingRule where
  run := manyCasts
  patterns := [castOperator, castCall]
  verdict n := if n ≥ 8 then some (.info, s!"{n} type cast operations") else none

def extraction : CountingRule where
  run := jsonExtraction
  patterns := [jsonArrow]
  verdict n :=
    if n ≥ 20 then some (.warning, s!"Heavy JSON extraction ({n} operations)")
    else if n ≥ 8 then some (.info, s!"Moderate JSON extraction ({n} operations)")
    else none

def remoteScans : CountingRule where
  run := multipleRemoteScans
  patterns := [remoteSource]
  verdict n := if n ≥ 2 then some (.warning, s!"{n} remote file scans") else none

def latestRows : CountingRule where
  run := repeatedOrderLimitOne
  patterns := [orderDescLimitOne]
  verdict n := if n ≥ 2 then some (.warning, s!"ORDER BY ... DESC LIMIT 1 repeated {n}x") else none

theorem total_singleton (r : CountingRule) {p : Pattern} (h : r.patterns = [p]) (sql : Text) :
    r.total sql = p.count sql := by
  rw [total, h, List.flatMap_singleton, Pattern.count]

/-- Silence below a threshold, and one finding from there on. -/
theorem map_verdictOf_unless {n k : Nat} {f : Finding} {v : Severity × String} (hf : verdictOf f = v) :
    (if n < k then [] else [f]).map verdictOf = (if n ≥ k then some v else none).toList := by
  by_cases hfew : n < k
  · rw [if_pos hfew, if_neg (Nat.not_le.mpr hfew)]
    rfl
  · rw [if_neg hfew, if_pos (Nat.le_of_not_lt hfew), ← hf]
    rfl

theorem map_verdictOf_graded {many few : Prop} [Decidable many] [Decidable few] {f g : Finding} :
    (if many then [f] else if few then [g] else []).map verdictOf
      = (if many then some (verdictOf f) else if few then some (verdictOf g) else none).toList := by
  split
  · rfl
  · split <;> rfl

theorem blocking_holds : blocking.Holds := by
  intro sql
  have htotal : blocking.total sql = (blockingCounts sql).total := by
    simp only [total, blocking, List.flatMap_cons, List.flatMap_nil, List.length_append, List.length_nil,
      blockingCounts, BlockingCounts.total, Pattern.count]
    omega
  rw [htotal]
  exact map_verdictOf_graded

theorem namedQueries_holds : namedQueries.Holds := by
  intro sql
  rw [total_singleton namedQueries rfl]
  exact map_verdictOf_graded

theorem onTrue_holds : onTrue.Holds := by
  intro sql
  rw [total_singleton onTrue rfl]
  exact map_verdictOf_unless rfl

theorem casts_holds : casts.Holds := by
  intro sql
  have htotal : casts.total sql = castOperator.count sql + castCall.count sql := by
    simp only [total, casts, List.flatMap_cons, List.flatMap_nil, List.length_append, List.length_nil,
      Pattern.count, Nat.add_zero]
  rw [htotal]
  exact map_verdictOf_unless rfl

theorem extraction_holds : extraction.Holds := by
  intro sql
  rw [total_singleton extraction rfl, Pattern.count]
  simp only [extraction, jsonExtraction]
  cases jsonArrow.all sql with
  | nil => rfl
  | cons first rest =>
    simp only [List.length_cons]
    by_cases hfew : rest.length + 1 < moderateExtraction
    · have hnot : ¬rest.length + 1 ≥ 8 := Nat.not_le.mpr hfew
      rw [if_pos hfew, if_neg (by omega), if_neg hnot]
      rfl
    · have hmoderate : rest.length + 1 ≥ 8 := Nat.le_of_not_lt hfew
      rw [if_neg hfew]
      by_cases hheavy : rest.length + 1 ≥ heavyExtraction
      · have hmany : rest.length + 1 ≥ 20 := hheavy
        rw [if_pos hheavy, if_pos hmany]
        rfl
      · have hnot : ¬rest.length + 1 ≥ 20 := hheavy
        rw [if_neg hheavy, if_neg hnot, if_pos hmoderate]
        rfl

/-- Silence about one match, and one finding about several. -/
theorem map_verdictOf_repeated {p : Pattern} {a : Nat → Advice} {chosen : Match → Match → Match} (sql : Text) :
    (adviseRepeated p a chosen sql).map verdictOf
      = (if p.count sql ≥ 2 then some ((a (p.count sql)).severity, (a (p.count sql)).title) else none).toList := by
  rw [adviseRepeated, Pattern.count]
  cases p.all sql with
  | nil => rfl
  | cons first rest =>
    cases rest with
    | nil => rfl
    | cons second rest =>
      rw [List.length_cons, List.length_cons, if_pos (by omega)]
      rfl

theorem remoteScans_holds : remoteScans.Holds := by
  intro sql
  rw [total_singleton remoteScans rfl]
  exact map_verdictOf_repeated sql

theorem latestRows_holds : latestRows.Holds := by
  intro sql
  rw [total_singleton latestRows rfl]
  exact map_verdictOf_repeated sql

end CountingRule

def countingRules : List CountingRule :=
  [.blocking, .namedQueries, .onTrue, .casts, .extraction, .remoteScans, .latestRows]

theorem countingRules_hold : ∀ r ∈ countingRules, r.Holds := by
  simp only [countingRules, List.forall_mem_cons]
  exact ⟨CountingRule.blocking_holds, CountingRule.namedQueries_holds, CountingRule.onTrue_holds,
    CountingRule.casts_holds, CountingRule.extraction_holds, CountingRule.remoteScans_holds,
    CountingRule.latestRows_holds, by simp⟩

theorem countingRules_counted : ∀ r ∈ countingRules, ∀ p ∈ r.patterns, p ∈ countedPatterns := by
  decide +kernel

/-- The counts of two texts with a semicolon between them add up, and each check says of the text what it
says of the sum: whether it reports, how much that matters, and the sum itself. -/
theorem counting_separated (a b : Text) :
    (∀ p ∈ countedPatterns, p.count (a ++ ';' :: b) = p.count a + p.count b) ∧
    ∀ r ∈ countingRules, (r.run (a ++ ';' :: b)).map verdictOf = (r.verdict (r.total a + r.total b)).toList := by
  refine ⟨fun p hp => count_semicolon hp a b, fun r hr => ?_⟩
  rw [countingRules_hold r hr, CountingRule.total_semicolon (countingRules_counted r hr)]

end QueryLint.Checks

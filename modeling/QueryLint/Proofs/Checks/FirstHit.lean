import QueryLint.Proofs.Checks.Stretch
import QueryLint.Proofs.Pattern.Leftmost

/-! Rules that look for something in the bodies of clauses, one body after the other. A body is cut out
of the query, so a hit has one place in the body and another one in the query, and only the latter is
reported. Main statement: `clauseChecks_reportFirst`, which of the hits is reported, and where. -/
namespace QueryLint
set_option autoImplicit false
open Sql

/-! ## Hits in a text -/

/-- A search that comes up with the leftmost hit of every text that has one. -/
structure Searches (find : Text → Option Match) (hit : Text → Match → Prop) : Prop where
  standsIn : ∀ t m, hit t m → m.span.StandsIn t
  found : ∀ t m, find t = some m → hit t m ∧ ∀ m', hit t m' → m.span.start ≤ m'.span.start
  missed : ∀ t, find t = none → ∀ m, ¬hit t m

theorem searches_first? {p : Pattern} (hp : 0 < p.shape.least) :
    Searches p.first? fun t m => m.Of p t where
  standsIn _ _ hm := hm.standsIn hp
  found t m h := by
    refine ⟨Pattern.of_first? h, ?_⟩
    rintro m' ⟨c, hc, hm'⟩
    rw [Pattern.start_of_matchAt? hm']
    exact Pattern.start_le_of_first? h hc (by rw [hm']; rfl)
  missed t h m := by
    rintro ⟨c, hc, hm⟩
    obtain ⟨m', hm'⟩ := Pattern.exists_first?_of_matchAt? hc hm
    exact nomatch h.symm.trans hm'

/-- The first of all matches that pass a test is the leftmost of those that do. -/
theorem start_le_of_find?_all {p : Pattern} (hp : 0 < p.shape.least) {t : Text} {test : Match → Bool}
    {m : Match} (h : (p.all t).find? test = some m) :
    ∀ m' ∈ p.all t, test m' = true → m.span.start ≤ m'.span.start := by
  intro m' hm' htest
  obtain ⟨-, before, after, hall, hbefore⟩ := List.find?_eq_some_iff_append.mp h
  have hsorted := p.all_pairwise t
  have hlt := ((Pattern.of_mem_all (List.mem_of_find?_eq_some h)).standsIn hp).1
  rw [hall] at hm' hsorted
  rcases List.mem_append.mp hm' with hm' | hm'
  · have hfails := hbefore m' hm'
    simp [htest] at hfails
  · rcases List.mem_cons.mp hm' with rfl | hm'
    · exact Nat.le_refl _
    · have hlater := (List.pairwise_cons.mp (List.pairwise_append.mp hsorted).2.1).1 m' hm'
      omega

/-- A text mentions a ranking where it names a ranking function, or else, if it names none at all,
where a name given to a ranking is compared to a number. -/
inductive MentionsRanking (aliases : List Text) (t : Text) (m : Match) : Prop
  | function (hm : m.Of rankingName t)
  | givenName (hnone : ∀ m' : Match, ¬m'.Of rankingName t) (hm : m ∈ numericComparison.all t)
      (hgiven : Text.lower (m.groupText t 1) ∈ aliases)

theorem searches_rankingIn? (aliases : List Text) :
    Searches (Checks.rankingIn? aliases) (MentionsRanking aliases) := by
  have hfunction := searches_first? (p := rankingName) (by decide)
  refine ⟨?_, ?_, ?_⟩
  · intro t m hmentions
    cases hmentions with
    | function hm => exact hfunction.standsIn t m hm
    | givenName _ hm _ => exact (Pattern.of_mem_all hm).standsIn (by decide)
  · intro t m h
    unfold Checks.rankingIn? at h
    split at h
    · rename_i first hfirst
      obtain rfl := Option.some.inj h
      obtain ⟨hm, hleft⟩ := hfunction.found t first hfirst
      refine ⟨.function hm, fun m' hmentions => ?_⟩
      cases hmentions with
      | function hm' => exact hleft m' hm'
      | givenName hnone _ _ => exact absurd hm (hnone first)
    · rename_i hnone
      have hfree := hfunction.missed t hnone
      have hgiven := List.find?_some h
      refine ⟨.givenName hfree (List.mem_of_find?_eq_some h) (by simpa using hgiven), ?_⟩
      intro m' hmentions
      cases hmentions with
      | function hm' => exact absurd hm' (hfree m')
      | givenName _ hm' hgiven' =>
        exact start_le_of_find?_all (by decide) h m' hm' (by simpa using hgiven')
  · intro t h m hmentions
    unfold Checks.rankingIn? at h
    split at h
    · exact nomatch h
    · rename_i hnone
      cases hmentions with
      | function hm => exact hfunction.missed t hnone m hm
      | givenName _ hm hgiven =>
        have hfails := List.find?_eq_none.mp h m hm
        simp [hgiven] at hfails

/-! ## Hits in clauses -/

/-- The offset of a finding is where a hit in the body of a clause stands in the query: it lies inside
the clause, and the query reads there what the body reads at the hit. -/
structure Finding.Shows (sql : Text) (c : Clause) (m : Match) (f : Finding) (s : Span) : Prop where
  offset : f.offset = some s.toRange
  place : s = m.span.shift c.start
  start_le : c.start ≤ s.start
  start_lt : s.start < s.stop
  stop_le : s.stop ≤ c.start + c.body.length
  text : sql.slice s = m.text c.body

/-- What a rule finds in some clauses: nothing if no body has a hit, and otherwise one finding, which
shows the leftmost hit in the first body that has one. -/
inductive ReportsFirst (sql : Text) (clauses : List Clause) (hit : Text → Match → Prop) :
    List Finding → Prop
  | nothing (hnone : ∀ c ∈ clauses, ∀ m, ¬hit c.body m) : ReportsFirst sql clauses hit []
  | one {before after : List Clause} {c : Clause} {m : Match} {f : Finding} {s : Span}
      (hclauses : clauses = before ++ c :: after) (hbefore : ∀ b ∈ before, ∀ m', ¬hit b.body m')
      (hhit : hit c.body m) (hleft : ∀ m', hit c.body m' → m.span.start ≤ m'.span.start)
      (hshows : f.Shows sql c m s) : ReportsFirst sql clauses hit [f]

section Clauses

variable {sql : Text} {clauses : List Clause} {find : Text → Option Match}
  {hit : Text → Match → Prop}

theorem Searches.shows (h : Searches find hit) {c : Clause} (hc : c.body <+: sql.drop c.start)
    {m : Match} (hm : hit c.body m) (a : Advice) :
    (a.located (m.span.shift c.start)).Shows sql c m (m.span.shift c.start) := by
  obtain ⟨hlt, hle⟩ := h.standsIn c.body m hm
  refine ⟨rfl, rfl, ?_, ?_, ?_, Text.slice_shift hc hle⟩
  · exact Nat.le_add_right c.start m.span.start
  · exact Nat.add_lt_add_left hlt c.start
  · exact Nat.add_le_add_left hle c.start

theorem Searches.reportsFirst (h : Searches find hit)
    (hclauses : ∀ c ∈ clauses, c.body <+: sql.drop c.start) (a : Advice) :
    ReportsFirst sql clauses hit (clauses.findSome? fun c => (find c.body).map fun m =>
      a.located (m.span.shift c.start)).toList := by
  cases hfound : clauses.findSome? fun c => (find c.body).map fun m =>
      a.located (m.span.shift c.start) with
  | none =>
    apply ReportsFirst.nothing
    intro c hc
    have hnone := List.findSome?_eq_none_iff.mp hfound c hc
    exact h.missed c.body (Option.map_eq_none_iff.mp hnone)
  | some f =>
    obtain ⟨before, c, after, hsplit, hf, hbefore⟩ := List.findSome?_eq_some_iff.mp hfound
    obtain ⟨m, hm, rfl⟩ := Option.map_eq_some_iff.mp hf
    obtain ⟨hhit, hleft⟩ := h.found c.body m hm
    have hc : c ∈ clauses := by simp [hsplit]
    have hmissed : ∀ b ∈ before, ∀ m', ¬hit b.body m' := by
      intro b hb
      exact h.missed b.body (Option.map_eq_none_iff.mp (hbefore b hb))
    exact .one hsplit hmissed hhit hleft (h.shows (hclauses c hc) hhit a)

/-- A rule that looks at the clauses of some queries only. -/
theorem ReportsFirst.when {findings : List Finding} (h : ReportsFirst sql clauses hit findings)
    (looks : Bool) : ReportsFirst sql (if looks then clauses else []) hit
      (if looks then findings else []) := by
  cases looks with
  | true => exact h
  | false => exact .nothing (by simp)

end Clauses

namespace Checks

/-- The four rules that search clauses report the leftmost hit of the first clause that has one, at its
place in the query, and nothing if there is no hit. Two of them search the conditions of WHERE and two
those of joins; a ranking is not looked for in a query with QUALIFY or without rankings, nor an
inequality in one with ASOF or without windows. -/
theorem clauseChecks_reportFirst (sql : Text) :
    ReportsFirst sql (whereClauses sql) (fun body m => m.Of functionComparison body)
        (functionOnFilterColumn sql) ∧
      ReportsFirst sql
        (if rankingFunction.occursIn sql && !qualifyKeyword.occursIn sql then whereClauses sql
          else [])
        (MentionsRanking (rankingAliases sql)) (windowFilteredInWhere sql) ∧
      ReportsFirst sql (joinConditions sql) (fun body m => m.Of castExpression body)
        (castInJoinKey sql) ∧
      ReportsFirst sql
        (if !asofKeyword.occursIn sql && rankingOrWindow.occursIn sql then joinConditions sql
          else [])
        (fun body m => m.Of inequality body) (temporalWindowJoin sql) := by
  have hwhere : ∀ c ∈ whereClauses sql, c.body <+: sql.drop c.start := fun c hc => body_begins hc
  have hjoin : ∀ c ∈ joinConditions sql, c.body <+: sql.drop c.start := fun c hc =>
    body_begins (mem_clauses_of_joinConditions hc)
  refine ⟨?_, ?_, ?_, ?_⟩
  · exact (searches_first? (by decide)).reportsFirst hwhere functionOnFilterAdvice
  · exact ((searches_rankingIn? _).reportsFirst hwhere filteredWindowAdvice).when _
  · exact (searches_first? (by decide)).reportsFirst hjoin castInJoinKeyAdvice
  · exact ((searches_first? (by decide)).reportsFirst hjoin temporalWindowJoinAdvice).when _

end Checks
end QueryLint

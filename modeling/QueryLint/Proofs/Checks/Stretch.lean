import QueryLint.Checks.Registry
import QueryLint.Proofs.Finding.Placement

/-! Checks that report a stretch they put together: up to a closing parenthesis, inside a clause or
the body of a named query, at a reference to a table, or from the first of several matches to the
last. Each finding is of the check's rule and stands in the text. -/
namespace QueryLint.Checks
set_option autoImplicit false
open Sql

variable {sql : Text} {f : Finding}

/-! ## Up to a closing parenthesis -/

/-- The advice for the first stretch that is put together at one of several matches. -/
theorem firstStretch_sound {a : Advice} {rules : List String} (ha : a.rule ∈ rules) {found : List Match}
    {stretch : Match → Option Span} (hin : ∀ m ∈ found, ∀ s, stretch m = some s → s.StandsIn sql)
    (h : f ∈ ((found.findSome? stretch).map a.located).toList) : f.Sound rules sql := by
  obtain ⟨s, hs, rfl⟩ := Option.map_eq_some_iff.mp (Option.mem_toList.mp h)
  obtain ⟨m, hm, hfound⟩ := List.exists_of_findSome?_eq_some hs
  exact Advice.located_sound ha (hin m hm s hfound)

/-- A match that takes a character and the parenthesis that it opens make one stretch. -/
theorem standsIn_closing {p : Pattern} {m : Match} (hm : m.Of p sql) (hp : 0 < p.shape.least)
    {stop : Nat} (h : closingParen? sql (m.span.stop - 1) = some stop) :
    Span.StandsIn sql ⟨m.span.start, stop⟩ := by
  obtain ⟨hlt, hle⟩ := closingParen?_bounds h
  have hm := hm.add_least_le_stop
  exact ⟨by simp only; omega, hle⟩

theorem unpartitioned?_standsIn {m : Match} (hm : m.Of overClause sql) {s : Span}
    (h : unpartitioned? sql m = some s) : s.StandsIn sql := by
  rw [unpartitioned?] at h
  split at h
  · exact absurd h (by simp)
  · rename_i stop hstop
    split at h
    · exact absurd h (by simp)
    · obtain rfl := Option.some.inj h
      exact standsIn_closing hm (by decide) hstop

theorem windowPartition_sound (h : f ∈ windowPartition sql) :
    f.Sound ["window-no-partition"] sql :=
  firstStretch_sound (a := windowPartitionAdvice) List.mem_cons_self
    (fun _ hm _ => unpartitioned?_standsIn (Pattern.of_mem_all hm)) h

theorem largeInList_sound (h : f ∈ largeInList sql) : f.Sound ["large-in-list"] sql := by
  rw [largeInList, Option.mem_toList] at h
  obtain ⟨m, hm, hfound⟩ := List.exists_of_findSome?_eq_some h
  rw [largeList?] at hfound
  split at hfound
  · exact absurd hfound (by simp)
  · rename_i stop hstop
    simp only at hfound
    split at hfound
    · obtain rfl := Option.some.inj hfound
      exact Advice.located_sound (a := largeInListAdvice _) List.mem_cons_self
        (standsIn_closing (Pattern.of_mem_all hm) (by decide) hstop)
    · exact absurd hfound (by simp)

theorem correlated?_standsIn {m : Match} {s : Span} (h : correlated? sql m = some s) :
    s.StandsIn sql := by
  rw [correlated?] at h
  split at h
  · exact absurd h (by simp)
  · split at h
    · exact absurd h (by simp)
    · rename_i stop hstop
      split at h
      · obtain rfl := Option.some.inj h
        exact closingParen?_bounds hstop
      · exact absurd h (by simp)

theorem correlatedSubquery_sound (h : f ∈ correlatedSubquery sql) :
    f.Sound ["correlated-subquery"] sql :=
  firstStretch_sound (a := correlatedSubqueryAdvice) List.mem_cons_self
    (fun _ _ _ => correlated?_standsIn) h

/-! ## Inside a clause -/

section Clauses

variable {clauses : List Clause} {a : Advice} {rules : List String}

/-- The advice for the first match in any of several clauses, given where a match is looked for in
the body of each. -/
theorem firstInClauses_sound (ha : a.rule ∈ rules)
    (hclauses : ∀ c ∈ clauses, c.start + c.body.length ≤ sql.length) {find : Text → Option Match}
    (hfind : ∀ body m, find body = some m → m.span.StandsIn body)
    (h : f ∈ (clauses.findSome? fun c => (find c.body).map fun m =>
      a.located (m.span.shift c.start)).toList) : f.Sound rules sql := by
  obtain ⟨c, hc, hfound⟩ := List.exists_of_findSome?_eq_some (Option.mem_toList.mp h)
  obtain ⟨m, hm, rfl⟩ := Option.map_eq_some_iff.mp hfound
  exact Advice.located_sound ha ((hfind c.body m hm).shift (hclauses c hc))

/-- The first match of a pattern that takes a character stands in the body of its clause. -/
theorem first?_standsIn {p : Pattern} (hp : 0 < p.shape.least) (body : Text) (m : Match)
    (h : p.first? body = some m) : m.span.StandsIn body := (Pattern.of_first? h).standsIn hp

end Clauses

theorem functionOnFilterColumn_sound (h : f ∈ functionOnFilterColumn sql) :
    f.Sound ["function-on-filter-column"] sql :=
  firstInClauses_sound (a := functionOnFilterAdvice) List.mem_cons_self
    (fun _ hc => clauses_fit hc) (first?_standsIn (by decide)) h

theorem castInJoinKey_sound (h : f ∈ castInJoinKey sql) : f.Sound ["cast-in-join-key"] sql :=
  firstInClauses_sound (a := castInJoinKeyAdvice) List.mem_cons_self
    (fun _ hc => joinConditions_fit hc) (first?_standsIn (by decide)) h

theorem temporalWindowJoin_sound (h : f ∈ temporalWindowJoin sql) :
    f.Sound ["temporal-join-via-window"] sql :=
  firstInClauses_sound (a := temporalWindowJoinAdvice) List.mem_cons_self
    (fun _ hc => joinConditions_fit hc) (first?_standsIn (by decide)) (List.mem_ite_nil_right.mp h).2

/-- A ranking is mentioned by its function or by its name; both patterns take a character. -/
theorem rankingIn?_standsIn (aliases : List Text) (body : Text) (m : Match)
    (h : rankingIn? aliases body = some m) : m.span.StandsIn body := by
  rw [rankingIn?] at h
  split at h
  · rename_i m' hm
    obtain rfl := Option.some.inj h
    exact (Pattern.of_first? hm).standsIn (by decide)
  · exact (Pattern.of_mem_all (List.mem_of_find?_eq_some h)).standsIn (by decide)

theorem windowFilteredInWhere_sound (h : f ∈ windowFilteredInWhere sql) :
    f.Sound ["window-without-qualify"] sql :=
  firstInClauses_sound (a := filteredWindowAdvice) List.mem_cons_self
    (fun _ hc => clauses_fit hc) (rankingIn?_standsIn (rankingAliases sql)) (List.mem_ite_nil_right.mp h).2

/-! ## Inside a named query -/

/-- The place is read from the body with what is nested blanked, which is as long as the body. -/
theorem intermediateOrderBy_sound (h : f ∈ intermediateOrderBy sql) :
    f.Sound ["intermediate-order-by"] sql := by
  rw [intermediateOrderBy, Option.mem_toList] at h
  obtain ⟨block, hblock, hfound⟩ := List.exists_of_findSome?_eq_some h
  obtain ⟨m, hm, rfl⟩ := Option.map_eq_some_iff.mp hfound
  refine Advice.shifted_sound (a := intermediateOrderAdvice _) List.mem_cons_self
    (Pattern.of_first? hm) (by decide) ?_
  rw [length_topLevel]
  exact namedQueries_fit hblock

/-! ## At a reference to a table -/

theorem firstRepeated?_mem {seen : List Text} {refs : List TableRef} {r : TableRef}
    (h : firstRepeated? seen refs = some r) : r ∈ refs := by
  induction refs generalizing seen with
  | nil => exact absurd h (by simp [firstRepeated?])
  | cons r' rest ih =>
    rw [firstRepeated?] at h
    split at h
    · obtain rfl := Option.some.inj h
      exact List.mem_cons_self
    · exact List.mem_cons_of_mem r' (ih h)

theorem selfJoinNeighbor_sound (h : f ∈ selfJoinNeighbor sql) :
    f.Sound ["self-join-as-window"] sql := by
  rw [selfJoinNeighbor] at h
  split at h
  · exact absurd h List.not_mem_nil
  · rename_i r hr
    obtain rfl := eq_of_mem_when h
    exact Advice.located_sound (a := selfJoinAdvice _) List.mem_cons_self
      (tableRefs_standIn (firstRepeated?_mem hr))

theorem repeatedTableScan_sound (h : f ∈ repeatedTableScan sql) :
    f.Sound ["repeated-table-scan"] sql := by
  rw [repeatedTableScan, Option.mem_toList] at h
  obtain ⟨r, hr, rfl⟩ := Option.map_eq_some_iff.mp h
  have hmem : r ∈ storedTables sql := List.mem_of_find?_eq_some hr
  exact Advice.located_sound (a := repeatedScanAdvice _ _) List.mem_cons_self
    (tableRefs_standIn (List.mem_filter.mp hmem).1)

theorem crossDatabaseJoin_sound (h : f ∈ crossDatabaseJoin sql) :
    f.Sound ["md-cross-database-join"] sql := by
  rw [crossDatabaseJoin] at h
  simp only at h
  split at h
  · obtain ⟨r, hr, rfl⟩ := Option.map_eq_some_iff.mp (Option.mem_toList.mp h)
    exact Advice.located_sound (a := crossDatabaseAdvice _ _) List.mem_cons_self
      (tableRefs_standIn (List.mem_of_find?_eq_some hr))
  · exact absurd h List.not_mem_nil

/-! ## From the first of several matches to the last -/

/-- A test joins a chain only after an OR, so a chain that stands in the text grows to one that
does. -/
theorem extend_standsIn {chain : Option OrChain} (hchain : ∀ c ∈ chain, c.span.StandsIn sql)
    {m : Match} (hm : m.Of equalityTerm sql) :
    (OrChain.extend sql chain m).span.StandsIn sql := by
  have hs : m.span.StandsIn sql := hm.standsIn (by decide)
  unfold OrChain.extend
  dsimp only
  split
  · exact hs
  · rename_i c
    obtain ⟨hc, -⟩ := hchain c rfl
    obtain ⟨hlt, hle⟩ := hs
    split
    · rename_i hor
      have hleast := Pattern.least_le_length_of_fits (Bool.and_eq_true _ _ ▸ hor).2
      have hgap := Text.length_slice_le sql ⟨c.span.stop, m.span.start⟩
      have hsep : orSeparator.shape.least = 4 := by decide
      simp only at hgap
      exact ⟨by simp only; omega, hle⟩
    · exact ⟨hlt, hle⟩

theorem orChainFrom_sound {chain : Option OrChain} (hchain : ∀ c ∈ chain, c.span.StandsIn sql)
    {ms : List Match} (hms : ∀ m ∈ ms, m.Of equalityTerm sql) (h : orChainFrom sql chain ms = some f) :
    f.Sound ["or-chain-instead-of-in"] sql := by
  induction ms generalizing chain with
  | nil => exact absurd h (by simp [orChainFrom])
  | cons m rest ih =>
    have hlonger := extend_standsIn hchain (hms m List.mem_cons_self)
    rw [orChainFrom] at h
    split at h
    · obtain rfl := Option.some.inj h
      exact Advice.located_sound (a := orChainAdvice _ _) List.mem_cons_self hlonger
    · refine ih (fun c hc => ?_) (fun m' hm' => hms m' (List.mem_cons_of_mem m hm')) h
      obtain rfl := Option.some.inj hc
      exact hlonger

theorem orChain_sound (h : f ∈ orChain sql) : f.Sound ["or-chain-instead-of-in"] sql :=
  orChainFrom_sound (fun _ hc => absurd hc (by simp)) (fun _ hm => Pattern.of_mem_all hm)
    (Option.mem_toList.mp h)

/-! ## CASE expressions -/

theorem caseToken_avoids :
    caseToken.shape.avoids caseToken.ignoreCase (Char.ofNat 0x130) = true := by decide +kernel

/-- The word CASE in lower case has four letters as it is written, too: no letter of it is the
dotted capital i, which has two in lower case. -/
theorem start_add_four_le {m : Match} (hm : m.Of caseToken sql)
    (hcase : Text.lower (m.groupText sql 1) = "case".toList) : m.span.start + 4 ≤ sql.length := by
  have hplain : ∀ c ∈ m.groupText sql 1, c.toNat ≠ 0x130 := by
    intro c hc hcode
    refine hm.groupText_avoids caseToken_avoids 1 ?_
    rwa [← hcode, Char.ofNat_toNat]
  have hlen : (m.groupText sql 1).length = 4 := by
    rw [← Text.length_lower hplain, hcase]
    rfl
  cases hg : m.group? 1 with
  | none => simp [Match.groupText, hg] at hlen
  | some s =>
    obtain ⟨hstart, -, hstop, -⟩ := hm.group_within hg
    have hle := hm.stop_le_length
    have hslice := Text.length_slice_le sql s
    simp only [Match.groupText, hg, Option.map_some, Option.getD_some] at hlen
    simp only at hstart hstop
    omega

/-- What holds while CASE expressions are read: the words to come are matches in the order of the
text, and each open expression begins in the text and in front of all of them. -/
structure CaseScan (sql : Text) (stack : List OpenCase) (ms : List Match) : Prop where
  tokens : ∀ m ∈ ms, m.Of caseToken sql
  sorted : ms.Pairwise fun a b => a.span.stop ≤ b.span.start
  begun : ∀ c ∈ stack, c.start + 4 ≤ sql.length ∧ ∀ m ∈ ms, c.start < m.span.stop

namespace CaseScan

variable {stack outer : List OpenCase} {inner : OpenCase} {m : Match} {rest : List Match}

theorem tail (h : CaseScan sql stack (m :: rest)) : CaseScan sql stack rest where
  tokens m' hm' := h.tokens m' (List.mem_cons_of_mem m hm')
  sorted := (List.pairwise_cons.mp h.sorted).2
  begun c hc :=
    ⟨(h.begun c hc).1, fun m' hm' => (h.begun c hc).2 m' (List.mem_cons_of_mem m hm')⟩

theorem opened (h : CaseScan sql stack (m :: rest))
    (hcase : Text.lower (m.groupText sql 1) = "case".toList) :
    CaseScan sql (⟨m.span.start, 0⟩ :: stack) rest where
  tokens := h.tail.tokens
  sorted := h.tail.sorted
  begun c hc := by
    rcases List.mem_cons.mp hc with rfl | hc
    · have hm := h.tokens m List.mem_cons_self
      refine ⟨start_add_four_le hm hcase, fun m' hm' => ?_⟩
      obtain ⟨hlt, -⟩ := hm.standsIn (by decide)
      have hnext := (List.pairwise_cons.mp h.sorted).1 m' hm'
      have hstop := (h.tail.tokens m' hm').add_least_le_stop
      simp only
      omega
    · exact h.tail.begun c hc

theorem branched (h : CaseScan sql (inner :: outer) (m :: rest)) :
    CaseScan sql (⟨inner.start, inner.branches + 1⟩ :: outer) rest where
  tokens := h.tail.tokens
  sorted := h.tail.sorted
  begun c hc := by
    rcases List.mem_cons.mp hc with rfl | hc
    · exact h.tail.begun inner List.mem_cons_self
    · exact h.tail.begun c (List.mem_cons_of_mem inner hc)

theorem closed (h : CaseScan sql (inner :: outer) (m :: rest)) : CaseScan sql outer rest where
  tokens := h.tail.tokens
  sorted := h.tail.sorted
  begun c hc := h.tail.begun c (List.mem_cons_of_mem inner hc)

end CaseScan

/-- Each CASE expression stands in the text, whether it is ended or not. -/
theorem caseChainsFrom_standIn {stack : List OpenCase} {ms : List Match}
    (hscan : CaseScan sql stack ms) {chain : CaseChain}
    (h : chain ∈ caseChainsFrom sql stack ms) : chain.span.StandsIn sql := by
  fun_induction caseChainsFrom sql stack ms with
  | case1 stack =>
    obtain ⟨c, hc, rfl⟩ := List.mem_map.mp h
    have hle := (hscan.begun c (List.mem_reverse.mp hc)).1
    exact ⟨by simp only [OpenCase.unended]; omega, hle⟩
  | case2 stack m rest word hcase ih => exact ih (hscan.opened (eq_of_beq hcase)) h
  | case3 m rest word _ _ ih => exact ih hscan.tail h
  | case4 m rest word _ _ inner outer ih => exact ih hscan.branched h
  | case5 m rest word _ _ ih => exact ih hscan.tail h
  | case6 m rest word _ _ inner outer ih =>
    rcases List.mem_cons.mp h with rfl | h
    · have hlt := (hscan.begun inner List.mem_cons_self).2 m List.mem_cons_self
      exact ⟨hlt, (hscan.tokens m List.mem_cons_self).stop_le_length⟩
    · exact ih hscan.closed h

theorem largeCaseChain_sound (h : f ∈ largeCaseChain sql) : f.Sound ["large-case-chain"] sql := by
  rw [largeCaseChain, Option.mem_toList] at h
  obtain ⟨c, hc, rfl⟩ := Option.map_eq_some_iff.mp h
  have hmem : c ∈ caseChains sql := List.mem_mergeSort.mp (List.mem_of_find?_eq_some hc)
  exact Advice.located_sound (a := caseChainAdvice _) List.mem_cons_self
    (caseChainsFrom_standIn ⟨fun _ hm => Pattern.of_mem_all hm, caseToken.all_pairwise sql,
      fun _ hc => absurd hc List.not_mem_nil⟩ hmem)

end QueryLint.Checks

import Mathlib.Data.List.Basic
import QueryLint.Proofs.Checks.Match
import QueryLint.Proofs.Checks.Stretch
import QueryLint.Proofs.Checks.Tree

/-! All checks together: each of them is sound, and no rule is reported by two checks. -/
namespace QueryLint.Checks
set_option autoImplicit false

/-! ## Soundness -/

section Answering

variable {name summary : String} {rules : List String}

theorem answering_sound {run : Text → List Finding}
    (h : ∀ sql f, f ∈ run sql → f.Sound rules sql) : (answering name rules summary run).Sound := by
  intro sql findings hrun f hf
  obtain rfl : run sql = findings := Except.ok.inj hrun
  exact h sql f hf

variable {p : Pattern} {a : Advice}

theorem answering_adviseFirst_sound (hp : 0 < p.shape.least) :
    (answering name [a.rule] summary (adviseFirst p a)).Sound :=
  answering_sound fun _ _ => adviseFirst_sound List.mem_cons_self hp

theorem answering_quoteFirst_sound (hp : 0 < p.shape.least) :
    (answering name [a.rule] summary (quoteFirst p a)).Sound :=
  answering_sound fun _ _ => quoteFirst_sound List.mem_cons_self hp

end Answering

theorem textChecks_sound : ∀ c ∈ textChecks, c.Sound := by
  have hall : textChecks.Forall TextCheck.Sound := by
    refine ⟨
      answering_sound fun _ _ => listAggregate_sound,
      answering_quoteFirst_sound (by decide),
      answering_quoteFirst_sound (by decide),
      answering_adviseFirst_sound (by decide),
      answering_quoteFirst_sound (by decide),
      answering_sound fun _ _ => pivot_sound,
      answering_sound fun _ _ => blockingOperators_sound,
      answering_sound fun _ _ => windowPartition_sound,
      answering_sound fun _ _ => unnestedColumn_sound,
      answering_sound fun _ _ => recursiveQuery_sound,
      answering_adviseFirst_sound (by decide),
      answering_quoteFirst_sound (by decide),
      answering_sound fun _ _ => distinctCount_sound,
      answering_sound fun _ _ => insertSelectStar_sound,
      answering_sound fun _ _ => namedQueryCount_sound,
      answering_quoteFirst_sound (by decide),
      answering_adviseFirst_sound (by decide),
      answering_quoteFirst_sound (by decide),
      answering_sound fun _ _ => functionOnFilterColumn_sound,
      answering_sound fun _ _ => repeatedOrderLimitOne_sound,
      answering_sound fun _ _ => rowNumberFilter_sound,
      answering_adviseFirst_sound (by decide),
      answering_sound fun _ _ => correlatedSubquery_sound,
      answering_sound fun _ _ => largeInList_sound,
      answering_sound fun _ _ => castInJoinKey_sound,
      answering_adviseFirst_sound (by decide),
      answering_sound fun _ _ => temporalWindowJoin_sound,
      answering_sound fun _ _ => chainedSelectStar_sound,
      answering_sound fun _ _ => intermediateOrderBy_sound,
      answering_sound fun _ _ => selfJoinNeighbor_sound,
      answering_sound fun _ _ => repeatedTableScan_sound,
      fun _ _ h _ => largeOffsets_sound h,
      answering_adviseFirst_sound (by decide),
      answering_sound fun _ _ => copyCompression_sound,
      answering_sound fun _ _ => remoteSelectStar_sound,
      answering_sound fun _ _ => localTransfer_sound,
      answering_sound fun _ _ => remoteWithoutFilter_sound,
      answering_sound fun _ _ => multipleRemoteScans_sound,
      answering_sound fun _ _ => partitionedPath_sound,
      answering_sound fun _ _ => crossDatabaseJoin_sound,
      answering_adviseFirst_sound (by decide),
      answering_sound fun _ _ => windowFilteredInWhere_sound,
      answering_adviseFirst_sound (by decide),
      answering_sound fun _ _ => joinsOnTrue_sound,
      answering_sound fun _ _ => orChain_sound,
      answering_sound fun _ _ => betweenTimestamp_sound,
      answering_adviseFirst_sound (by decide),
      answering_quoteFirst_sound (by decide),
      answering_sound fun _ _ => largeCaseChain_sound,
      answering_adviseFirst_sound (by decide),
      answering_quoteFirst_sound (by decide),
      answering_adviseFirst_sound (by decide),
      answering_sound fun _ _ => manyCasts_sound,
      answering_sound fun _ _ => jsonExtraction_sound,
      answering_quoteFirst_sound (by decide),
      answering_adviseFirst_sound (by decide),
      answering_sound fun _ _ => mixedTimestamps_sound⟩
  exact List.forall_iff_forall_mem.mp hall

theorem treeChecks_sound : ∀ c ∈ treeChecks, c.Sound := by
  have hall : treeChecks.Forall TreeCheck.Sound := by
    refine ⟨
      fun _ _ _ => selectStars_sound,
      fun _ _ _ => ordersWithoutLimit_sound,
      fun _ _ _ => crossJoins_sound,
      fun _ _ _ => nestedSubqueries_sound,
      fun _ _ _ => joinsWithoutCondition_sound⟩
  exact List.forall_iff_forall_mem.mp hall

/-! ## Rules -/

/-- No rule is reported by two checks, of the text or of trees. -/
theorem rules_nodup : (treeRules ++ textRules).Nodup := by decide +kernel

end QueryLint.Checks

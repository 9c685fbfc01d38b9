import QueryLint.Analysis.Analyzer
import QueryLint.Proofs.Checks.Registry
import QueryLint.Proofs.Finding.Distinct

/-! From what the checks report to what an analysis tells. Main statement: `findings_byParser`, the
findings of an analysis are what is left of `Analysis.emitted`, the reports of all checks in the
order in which they run, when only the first of each rule is kept and disabled rules are left out.
-/
namespace QueryLint
set_option autoImplicit false
open Checks

/-! ## Reports -/

/-- What a check of the text reports; one that fails reports nothing. -/
def TextCheck.findings (c : TextCheck) (sql : Text) : List Finding :=
  match c.run sql with
  | .ok findings => findings
  | .error _ => []

theorem TextCheck.mem_findings {c : TextCheck} {sql : Text} {f : Finding} :
    f ∈ c.findings sql ↔ ∃ findings, c.run sql = .ok findings ∧ f ∈ findings := by
  rw [TextCheck.findings]
  cases c.run sql with
  | ok findings => simp
  | error fault => simp

theorem Finding.Sound.mono {rules rules' : List String} {t : Text} {f : Finding}
    (h : f.Sound rules t) (hr : ∀ r ∈ rules, r ∈ rules') : f.Sound rules' t :=
  ⟨hr _ h.rule_mem, h.standsIn⟩

theorem TextCheck.sound_of_mem_findings {c : TextCheck} (hc : c ∈ textChecks) {sql : Text}
    {f : Finding} (h : f ∈ c.findings sql) : f.Sound c.rules sql := by
  obtain ⟨findings, hrun, hf⟩ := TextCheck.mem_findings.mp h
  exact textChecks_sound c hc sql findings hrun f hf

theorem mem_textRules {c : TextCheck} (hc : c ∈ textChecks) {r : String} (hr : r ∈ c.rules) :
    r ∈ textRules := List.mem_flatMap.mpr ⟨c, hc, hr⟩

theorem not_mem_textRules {r : String} (h : r ∈ treeRules) : r ∉ textRules := fun ht =>
  (List.nodup_append.mp rules_nodup).2.2 r h r ht rfl

theorem textChecks_rules_apart : textChecks.Pairwise fun c d => ∀ r ∈ c.rules, r ∉ d.rules :=
  (List.pairwise_flatMap.mp (List.nodup_append.mp rules_nodup).2.1).2.imp
    fun h r hc hd => h r hc r hd rfl

/-- A rule belongs to one check. -/
theorem eq_of_rule_mem {c d : TextCheck} (hc : c ∈ textChecks) (hd : d ∈ textChecks) {r : String}
    (hrc : r ∈ c.rules) (hrd : r ∈ d.rules) : d = c := by
  obtain ⟨before, after, hsplit⟩ := List.append_of_mem hc
  have hapart := textChecks_rules_apart
  rw [hsplit, List.pairwise_append, List.pairwise_cons] at hapart
  obtain ⟨-, ⟨hafter, -⟩, hbefore⟩ := hapart
  rw [hsplit, List.mem_append, List.mem_cons] at hd
  rcases hd with hd | rfl | hd
  · exact absurd hrc (hbefore d hd c List.mem_cons_self r hrd)
  · rfl
  · exact absurd hrd (hafter d hd r hrc)

/-- No two checks of the text report of one rule. -/
theorem textChecks_apart (sql : Text) : textChecks.Pairwise fun c d =>
    Finding.RulesApart (c.findings sql) (d.findings sql) := by
  refine textChecks_rules_apart.imp_of_mem fun {c d} hc hd h f hf g hg heq => ?_
  have hfr := (TextCheck.sound_of_mem_findings hc hf).rule_mem
  have hgr := (TextCheck.sound_of_mem_findings hd hg).rule_mem
  exact h f.rule hfr (heq ▸ hgr)

namespace Analysis

theorem treeFindings_sound {statements : List Query} {sql : Text} {f : Finding}
    (h : f ∈ treeFindings statements sql) : f.Sound treeRules sql := by
  obtain ⟨q, -, hq⟩ := List.mem_flatMap.mp h
  obtain ⟨c, hc, hf⟩ := List.mem_flatMap.mp hq
  exact (treeChecks_sound c hc q sql f hf).mono fun r hr => List.mem_flatMap.mpr ⟨c, hc, hr⟩

theorem found_textOutcomes (sql : Text) :
    found (textOutcomes sql) = textChecks.flatMap fun c => c.findings sql := by
  rw [found, textOutcomes, List.flatMap_map]
  rfl

/-- The statements that an analysis has to do with. -/
def statements (config : Config) (parser : Option Parser) (asked : Nat) (sql : Text) :
    List Query :=
  (Parsing.byParser parser asked config.dialect config.rawFirst (scope config sql)).outcome.statements

/-- What all checks of trees report of the first statement, then of the next, and so on, and then what
some checks of the text report one after the other. Nothing is reported about a blank query. -/
def emitted (checks : List TextCheck) (config : Config) (parser : Option Parser) (asked : Nat)
    (sql : Text) : List Finding :=
  if (Text.trim sql).isEmpty then []
  else ((statements config parser asked sql).flatMap fun q =>
      treeChecks.flatMap fun c => c.run q (scope config sql))
    ++ checks.flatMap fun c => c.findings (scope config sql)

section Result

variable {config : Config} {parser : Option Parser} {asked : Nat} {sql : Text}

theorem byParser_of_blank (h : (Text.trim sql).isEmpty = true) :
    byParser config parser asked sql = ⟨⟨[], none⟩, [], []⟩ := by
  rw [byParser]
  exact if_pos h

theorem result_of_not_blank (h : ¬(Text.trim sql).isEmpty = true) :
    (byParser config parser asked sql).result
      = ⟨conclude config (treeFindings (statements config parser asked sql) (scope config sql))
          (found (textOutcomes (scope config sql))),
        (Parsing.byParser parser asked config.dialect config.rawFirst
          (scope config sql)).outcome.error⟩ := by
  rw [byParser]
  exact congrArg Analysis.result (if_neg h)

end Result

theorem findings_byParser (config : Config) (parser : Option Parser) (asked : Nat) (sql : Text) :
    (byParser config parser asked sql).result.findings
      = enabled config.disabledRules
          (Finding.distinct (emitted textChecks config parser asked sql)) := by
  unfold emitted
  split
  · rename_i h
    rw [byParser_of_blank h]
    rfl
  · rename_i h
    rw [result_of_not_blank h, ← found_textOutcomes]
    rfl

theorem mem_emitted_sound {config : Config} {parser : Option Parser} {asked : Nat} {sql : Text}
    {f : Finding} (h : f ∈ emitted textChecks config parser asked sql) :
    f.Sound (treeRules ++ textRules) (scope config sql) := by
  rcases List.mem_append.mp (List.mem_ite_nil_left.mp h).2 with h | h
  · exact (treeFindings_sound h).mono fun r hr => List.mem_append_left textRules hr
  · obtain ⟨c, hc, hf⟩ := List.mem_flatMap.mp h
    exact (TextCheck.sound_of_mem_findings hc hf).mono fun r hr =>
      List.mem_append_right treeRules (mem_textRules hc hr)

theorem mem_enabled {disabled : List String} {findings : List Finding} {f : Finding} :
    f ∈ enabled disabled findings ↔ f.rule ∉ disabled ∧ f ∈ findings := by
  rw [enabled, List.mem_filter, Bool.not_eq_true', ← Bool.not_eq_true, List.contains_iff_mem,
    and_comm]

end Analysis
end QueryLint

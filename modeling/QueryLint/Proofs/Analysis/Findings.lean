import QueryLint.Proofs.Analysis.Emission

/-! The findings of an analysis as a whole. Main statements: `byParser_orderly`, they are in order and
of pairwise different rules, and disabled rules and failing checks disturb no other;
`textFindings_byParser`, those about the text do not depend on the parser; and
`standsIn_of_mem_findings`, each of them stands in the text where it says. -/
namespace QueryLint
set_option autoImplicit false
open Checks

/-! ## Findings about trees and about the text -/

namespace AnalysisResult

def treeFindings (r : AnalysisResult) : List Finding :=
  r.findings.filter fun f => treeRules.contains f.rule

def textFindings (r : AnalysisResult) : List Finding :=
  r.findings.filter fun f => textRules.contains f.rule

end AnalysisResult

namespace Analysis

theorem enabled_append (disabled : List String) (l l' : List Finding) :
    enabled disabled (l ++ l') = enabled disabled l ++ enabled disabled l' :=
  List.filter_append l l'

theorem enabled_sublist (disabled : List String) (l : List Finding) :
    (enabled disabled l).Sublist l := List.filter_sublist

/-- What the checks of the text report, of which no parser knows. -/
def emittedText (config : Config) (sql : Text) : List Finding :=
  if (Text.trim sql).isEmpty then []
  else textChecks.flatMap fun c => c.findings (scope config sql)

section Parts

variable {config : Config} {parser : Option Parser} {asked : Nat} {sql : Text} {f : Finding}

theorem rule_mem_of_mem_emittedText (h : f ∈ emittedText config sql) : f.rule ∈ textRules := by
  obtain ⟨c, hc, hf⟩ := List.mem_flatMap.mp (List.mem_ite_nil_left.mp h).2
  exact mem_textRules hc (TextCheck.sound_of_mem_findings hc hf).rule_mem

/-- The reports are those about trees, followed by those about the text. -/
theorem exists_emitted_eq_append (config : Config) (parser : Option Parser) (asked : Nat)
    (sql : Text) : ∃ trees, emitted textChecks config parser asked sql
      = trees ++ emittedText config sql ∧ ∀ f ∈ trees, f.rule ∈ treeRules := by
  unfold emitted emittedText
  split
  · exact ⟨[], rfl, fun _ hf => absurd hf List.not_mem_nil⟩
  · exact ⟨_, rfl, fun f hf => (treeFindings_sound hf).rule_mem⟩

theorem contains_textRules_eq_false (h : f.rule ∈ treeRules) :
    textRules.contains f.rule = false := by
  rw [← Bool.not_eq_true, List.contains_iff_mem]
  exact not_mem_textRules h

theorem contains_treeRules_eq_false (h : f.rule ∈ textRules) :
    treeRules.contains f.rule = false := by
  rw [← Bool.not_eq_true, List.contains_iff_mem]
  intro ht
  exact not_mem_textRules ht h

/-- The findings about trees stand in front, and those about the text are kept by themselves. -/
theorem exists_findings_eq_append (config : Config) (parser : Option Parser) (asked : Nat)
    (sql : Text) : ∃ trees, (byParser config parser asked sql).result.findings
      = trees ++ enabled config.disabledRules (Finding.distinct (emittedText config sql)) ∧
      ∀ f ∈ trees, f.rule ∈ treeRules := by
  obtain ⟨trees, heq, htrees⟩ := exists_emitted_eq_append config parser asked sql
  have hapart : Finding.RulesApart trees (emittedText config sql) := by
    intro f hf g hg hrule
    exact not_mem_textRules (htrees f hf) (hrule ▸ rule_mem_of_mem_emittedText hg)
  refine ⟨enabled config.disabledRules (Finding.distinct trees), ?_, ?_⟩
  · rw [findings_byParser, heq, Finding.distinct_append hapart, enabled_append]
  · intro f hf
    exact htrees f ((Finding.distinct_sublist trees).subset (mem_enabled.mp hf).2)

/-- The findings about the text are the first ones of each enabled rule that the checks of the text
report. -/
theorem textFindings_eq (config : Config) (parser : Option Parser) (asked : Nat) (sql : Text) :
    (byParser config parser asked sql).result.textFindings
      = enabled config.disabledRules (Finding.distinct (emittedText config sql)) := by
  obtain ⟨trees, heq, htrees⟩ := exists_findings_eq_append config parser asked sql
  have hnone : trees.filter (fun f => textRules.contains f.rule) = [] := by
    apply List.filter_eq_nil_iff.mpr
    intro f hf
    rw [contains_textRules_eq_false (htrees f hf)]
    exact Bool.false_ne_true
  rw [AnalysisResult.textFindings, heq, List.filter_append, hnone, List.nil_append]
  apply List.filter_eq_self.mpr
  intro f hf
  rw [List.contains_iff_mem]
  exact rule_mem_of_mem_emittedText ((Finding.distinct_sublist _).subset (mem_enabled.mp hf).2)

theorem findings_eq_append (config : Config) (parser : Option Parser) (asked : Nat) (sql : Text) :
    (byParser config parser asked sql).result.findings
      = (byParser config parser asked sql).result.treeFindings
        ++ (byParser config parser asked sql).result.textFindings := by
  obtain ⟨trees, heq, htrees⟩ := exists_findings_eq_append config parser asked sql
  have htext := textFindings_eq config parser asked sql
  have hall : trees.filter (fun f => treeRules.contains f.rule) = trees :=
    List.filter_eq_self.mpr fun f hf => List.contains_iff_mem.mpr (htrees f hf)
  have hnone : (byParser config parser asked sql).result.textFindings.filter
      (fun f => treeRules.contains f.rule) = [] := by
    apply List.filter_eq_nil_iff.mpr
    intro f hf
    rw [contains_treeRules_eq_false (List.contains_iff_mem.mp (List.mem_filter.mp hf).2)]
    exact Bool.false_ne_true
  rw [← htext] at heq
  rw [AnalysisResult.treeFindings, heq, List.filter_append, hall, hnone, List.append_nil]

end Parts

/-! ## Order -/

/-- The part of the findings about the text that one check has reported. -/
def keptOf (config : Config) (sql : Text) (c : TextCheck) : List Finding :=
  if (Text.trim sql).isEmpty then []
  else enabled config.disabledRules (Finding.distinct (c.findings (scope config sql)))

theorem textFindings_eq_flatMap (config : Config) (parser : Option Parser) (asked : Nat)
    (sql : Text) : (byParser config parser asked sql).result.textFindings
      = textChecks.flatMap (keptOf config sql) := by
  rw [textFindings_eq]
  unfold emittedText keptOf
  split
  · exact (List.flatMap_eq_nil_iff.mpr fun _ _ => rfl).symm
  · rw [Finding.distinct_flatMap (textChecks_apart _), enabled, List.filter_flatMap]
    rfl

theorem mem_of_mem_keptOf {config : Config} {sql : Text} {c : TextCheck} (hc : c ∈ textChecks)
    {f : Finding} (h : f ∈ keptOf config sql c) :
    f ∈ c.findings (scope config sql) ∧ f.rule ∈ c.rules := by
  have hf : f ∈ c.findings (scope config sql) :=
    (Finding.distinct_sublist _).subset (mem_enabled.mp (List.mem_ite_nil_left.mp h).2).2
  exact ⟨hf, (TextCheck.sound_of_mem_findings hc hf).rule_mem⟩

/-- To leave out a check that reports nothing changes none of the reports. -/
theorem emitted_without {before after : List TextCheck} {c : TextCheck} {config : Config}
    {parser : Option Parser} {asked : Nat} {sql : Text}
    (h : c.findings (scope config sql) = []) :
    emitted (before ++ c :: after) config parser asked sql
      = emitted (before ++ after) config parser asked sql := by
  unfold emitted
  rw [List.flatMap_append, List.flatMap_cons, h, List.nil_append, ← List.flatMap_append]

theorem findings_eq_nil_of_fails {c : TextCheck} {sql : Text}
    (h : ∀ findings, c.run sql ≠ .ok findings) : c.findings sql = [] := by
  rw [TextCheck.findings]
  split
  · rename_i findings hrun
    exact absurd hrun (h findings)
  · rfl

/-- No other check reports of the rules of a check that fails. -/
theorem rule_not_mem_of_fails {before after : List TextCheck} {c : TextCheck}
    (hc : textChecks = before ++ c :: after) {config : Config} {parser : Option Parser}
    {asked : Nat} {sql : Text} (h : c.findings (scope config sql) = []) {f : Finding}
    (hf : f ∈ emitted textChecks config parser asked sql) : f.rule ∉ c.rules := by
  intro hrule
  have hmem : c ∈ textChecks := hc ▸ List.mem_append_right before List.mem_cons_self
  rcases List.mem_append.mp (List.mem_ite_nil_left.mp hf).2 with hf | hf
  · exact not_mem_textRules (treeFindings_sound hf).rule_mem (mem_textRules hmem hrule)
  · obtain ⟨d, hd, hfd⟩ := List.mem_flatMap.mp hf
    have hdrule := (TextCheck.sound_of_mem_findings hd hfd).rule_mem
    obtain rfl := eq_of_rule_mem hmem hd hrule hdrule
    exact absurd (h ▸ hfd) List.not_mem_nil

end Analysis

/-- The findings are in order: one for each rule; those about trees before those about the text;
those about the text in the order of the checks, each of a rule of the check that reported it; and
each of them the first of its rule among all reports, unless the rule is disabled. -/
structure AnalysisResult.Orderly (disabled : List String) (text : Text) (reports : List Finding)
    (r : AnalysisResult) : Prop where
  rules_nodup : r.rules.Nodup
  trees_first : r.findings = r.treeFindings ++ r.textFindings
  by_check : ∃ kept : TextCheck → List Finding, r.textFindings = textChecks.flatMap kept ∧
    ∀ c ∈ textChecks, ∀ f ∈ kept c, f ∈ c.findings text ∧ f.rule ∈ c.rules
  mem_iff : ∀ f, f ∈ r.findings ↔
    f.rule ∉ disabled ∧ reports.find? (fun g => g.rule == f.rule) = some f
  sublist : r.findings.Sublist reports

namespace Analysis

theorem orderly (config : Config) (parser : Option Parser) (asked : Nat) (sql : Text) :
    (byParser config parser asked sql).result.Orderly config.disabledRules (scope config sql)
      (emitted textChecks config parser asked sql) where
  rules_nodup := by
    rw [AnalysisResult.rules, findings_byParser]
    exact ((enabled_sublist _ _).map Finding.rule).nodup (Finding.distinct_rules_nodup _)
  trees_first := findings_eq_append config parser asked sql
  by_check := ⟨keptOf config sql, textFindings_eq_flatMap config parser asked sql,
    fun _ hc _ hf => mem_of_mem_keptOf hc hf⟩
  mem_iff f := by rw [findings_byParser, mem_enabled, Finding.mem_distinct]
  sublist := by
    rw [findings_byParser]
    exact (enabled_sublist _ _).trans (Finding.distinct_sublist _)

/-- Disabled rules are left out of a result that is otherwise the same. -/
theorem result_eq_enabled (config : Config) (parser : Option Parser) (asked : Nat) (sql : Text) :
    let free := (byParser { config with disabledRules := [] } parser asked sql).result
    (byParser config parser asked sql).result
      = ⟨enabled config.disabledRules free.findings, free.parseError⟩ := by
  intro free
  have hfindings : free.findings
      = enabled [] (Finding.distinct (emitted textChecks config parser asked sql)) :=
    findings_byParser _ parser asked sql
  have hall : enabled [] (Finding.distinct (emitted textChecks config parser asked sql))
      = Finding.distinct (emitted textChecks config parser asked sql) :=
    List.filter_eq_self.mpr fun _ _ => rfl
  have herror : (byParser config parser asked sql).result.parseError = free.parseError := by
    by_cases h : (Text.trim sql).isEmpty = true
    · rw [byParser_of_blank h, show free = ⟨[], none⟩ from congrArg result (byParser_of_blank h)]
    · rw [result_of_not_blank h, show free = _ from result_of_not_blank h]
      rfl
  rw [hfindings, hall, ← findings_byParser, ← herror]

/-- The findings are in order, no rule is one of trees and of the text, disabling rules leaves out
their findings and nothing else, and a check that fails has no findings and changes no other. -/
theorem byParser_orderly (config : Config) (parser : Option Parser) (asked : Nat) (sql : Text) :
    let r := (byParser config parser asked sql).result
    let free := (byParser { config with disabledRules := [] } parser asked sql).result
    r.Orderly config.disabledRules (scope config sql)
        (emitted textChecks config parser asked sql) ∧
      (treeRules ++ textRules).Nodup ∧
      r = ⟨enabled config.disabledRules free.findings, free.parseError⟩ ∧
      ∀ before c after, textChecks = before ++ c :: after →
        (∀ findings, c.run (scope config sql) ≠ .ok findings) →
        (∀ f ∈ r.findings, f.rule ∉ c.rules) ∧
        r.findings = enabled config.disabledRules
          (Finding.distinct (emitted (before ++ after) config parser asked sql)) := by
  intro r free
  refine ⟨orderly config parser asked sql, rules_nodup,
    result_eq_enabled config parser asked sql, ?_⟩
  intro before c after hc hfails
  have hnil := findings_eq_nil_of_fails hfails
  constructor
  · intro f hf
    exact rule_not_mem_of_fails hc hnil ((orderly config parser asked sql).sublist.subset hf)
  · rw [← emitted_without hnil, ← hc]
    exact findings_byParser config parser asked sql

end Analysis

/-! ## Independence of the parser -/

/-- There is no parser, or it fails on every form of the text that is put to it. -/
def Parsing.Refused (parser : Option Parser) (asked : Nat) (dialect : String) (rawFirst : Bool)
    (sql : Text) : Prop :=
  ∀ p ∈ parser,
    (rawFirst = true → ∃ failure, p asked (Grammar.request sql dialect) = .error failure) ∧
    ∃ failure, p (if rawFirst then asked + 1 else asked)
      (Grammar.request (Sql.plainForm sql) dialect) = .error failure

theorem Parsing.ofPlainForm_of_refused {p : Parser} {asked : Nat} {dialect : String} {sql : Text}
    (h : ∃ failure, p asked (Grammar.request (Sql.plainForm sql) dialect) = .error failure) :
    (ofPlainForm p asked dialect sql).outcome.statements = [] ∧
      (ofPlainForm p asked dialect sql).outcome.error.isSome = true := by
  obtain ⟨failure, hfailure⟩ := h
  rw [ofPlainForm]
  simp only [hfailure]
  exact ⟨rfl, rfl⟩

theorem Parsing.byParser_of_refused {parser : Option Parser} {asked : Nat} {dialect : String}
    {rawFirst : Bool} {sql : Text} (h : Refused parser asked dialect rawFirst sql) :
    (byParser parser asked dialect rawFirst sql).outcome.statements = [] ∧
      (byParser parser asked dialect rawFirst sql).outcome.error.isSome = true := by
  cases parser with
  | none => exact ⟨rfl, rfl⟩
  | some p =>
    obtain ⟨hraw, hplain⟩ := h p rfl
    cases rawFirst with
    | false => exact ofPlainForm_of_refused hplain
    | true =>
      obtain ⟨failure, hfailure⟩ := hraw rfl
      rw [byParser, if_pos rfl, ofRawText]
      simp only [hfailure]
      exact ofPlainForm_of_refused hplain

namespace Analysis

/-- Two analyses of one text tell the same about the text, whatever their parsers do; and an analysis
whose parser refuses tells nothing else, and why it was not parsed unless the text is blank. -/
theorem textFindings_byParser (config : Config) (sql : Text) (parser parser' : Option Parser)
    (asked asked' : Nat) :
    let r := (byParser config parser asked sql).result
    r.textFindings = (byParser config parser' asked' sql).result.textFindings ∧
      (Parsing.Refused parser asked config.dialect config.rawFirst (scope config sql) →
        r.findings = r.textFindings ∧
          (r.parseError.isSome = true ↔ (Text.trim sql).isEmpty = false)) := by
  intro r
  constructor
  · rw [textFindings_eq, textFindings_eq]
  · intro hrefused
    constructor
    · have hstatements : statements config parser asked sql = [] :=
        (Parsing.byParser_of_refused hrefused).1
      have hemitted : emitted textChecks config parser asked sql = emittedText config sql := by
        unfold emitted emittedText
        rw [hstatements, List.flatMap_nil, List.nil_append]
      rw [textFindings_eq, ← hemitted]
      exact findings_byParser config parser asked sql
    · by_cases h : (Text.trim sql).isEmpty = true
      · rw [show r = ⟨[], none⟩ from congrArg result (byParser_of_blank h), h]
        decide
      · rw [show r = _ from result_of_not_blank h, Bool.eq_false_iff.mpr h]
        exact iff_of_true (Parsing.byParser_of_refused hrefused).2 rfl

def noParser : Parser := fun _ _ => .error (.rejected "no viable alternative")

theorem refused_noParser (asked : Nat) (dialect : String) (rawFirst : Bool) (sql : Text) :
    Parsing.Refused (some noParser) asked dialect rawFirst sql := by
  intro p hp
  obtain rfl := Option.some.inj hp
  exact ⟨fun _ => ⟨_, rfl⟩, _, rfl⟩

theorem findings_of_noParser :
    Parsing.Refused (some noParser) 0 "duckdb" true "select list(a) from t".toList ∧
      (byParser .standard (some noParser) 0 "select list(a) from t".toList).result.findings
        = (byParser .standard (some noParser) 0 "select list(a) from t".toList).result.textFindings :=
  ⟨refused_noParser _ _ _ _,
    ((textFindings_byParser .standard "select list(a) from t".toList (some noParser) none 0 0).2
      (refused_noParser _ _ _ _)).1⟩

/-! ## Places -/

/-- Every place that is reported is a stretch of the text that was analyzed, and a fragment that is
reported with it stands there, letter case aside. -/
theorem standsIn_of_mem_findings (config : Config) (parser : Option Parser) (asked : Nat)
    (sql : Text) :
    ∀ f ∈ (byParser config parser asked sql).result.findings, f.StandsIn (scope config sql) := by
  intro f hf
  rw [findings_byParser] at hf
  exact (mem_emitted_sound ((Finding.distinct_sublist _).subset (mem_enabled.mp hf).2)).standsIn

theorem list_call_standsIn :
    (listAggregateAdvice 1).quoting "select list(a) from t".toList ⟨⟨7, 12⟩, []⟩
        ∈ (byParser .standard none 0 "select list(a) from t".toList).result.findings ∧
      ((listAggregateAdvice 1).quoting "select list(a) from t".toList ⟨⟨7, 12⟩, []⟩).StandsIn
        (scope .standard "select list(a) from t".toList) := by
  have hmem : (listAggregateAdvice 1).quoting "select list(a) from t".toList ⟨⟨7, 12⟩, []⟩
      ∈ (byParser .standard none 0 "select list(a) from t".toList).result.findings := by
    decide +kernel
  exact ⟨hmem, standsIn_of_mem_findings .standard none 0 "select list(a) from t".toList _ hmem⟩

end Analysis
end QueryLint

import QueryLint.Proofs.Analysis.Emission
import QueryLint.Proofs.Checks.Spelling

/-! The findings of a query in its different spellings. Main statement: `findings_respelled`, two texts
that differ in the case of letters only have the same findings, apart from what is quoted, if their
parsers come to the same statements. -/
namespace QueryLint
set_option autoImplicit false
open Checks

/-! ## Lists of findings that agree -/

namespace Finding

/-- Which findings are the first ones of their rules depends on the rules alone. -/
theorem firstOfEach_gist {l l' : List Finding} (h : l.map gist = l'.map gist) (seen : List String) :
    (firstOfEach seen l).map gist = (firstOfEach seen l').map gist := by
  induction l generalizing l' seen with
  | nil =>
    obtain rfl := List.map_eq_nil_iff.mp h.symm
    rfl
  | cons f l ih =>
    obtain ⟨f', l', rfl, hf, hl⟩ := List.map_eq_cons_iff.mp h.symm
    have hrule : f'.rule = f.rule := congrArg Gist.rule hf
    rw [firstOfEach, firstOfEach, hrule]
    split
    · exact ih hl.symm seen
    · rw [List.map_cons, List.map_cons, hf, ih hl.symm]

theorem distinct_gist {l l' : List Finding} (h : l.map gist = l'.map gist) :
    (distinct l).map gist = (distinct l').map gist := firstOfEach_gist h []

end Finding

namespace Analysis

theorem enabled_gist {l l' : List Finding} (h : l.map Finding.gist = l'.map Finding.gist)
    (disabled : List String) :
    (enabled disabled l).map Finding.gist = (enabled disabled l').map Finding.gist := by
  have hfilter : ∀ l : List Finding, (enabled disabled l).map Finding.gist
      = (l.map Finding.gist).filter fun g => !disabled.contains g.rule := by
    intro l
    rw [List.filter_map]
    rfl
  rw [hfilter, hfilter, h]

/-! ## Reports -/

theorem findings_gist (c : TextCheck) (sql : Text) : (c.findings sql).map Finding.gist
    = ((c.run sql).map (List.map Finding.gist)).toOption.getD [] := by
  rw [TextCheck.findings]
  cases c.run sql with
  | ok findings => rfl
  | error fault => rfl

theorem findings_small {c : TextCheck} (hc : c ∈ textChecks) (sql : Text) :
    (c.findings (Text.small sql)).map Finding.gist = (c.findings sql).map Finding.gist := by
  rw [findings_gist, textChecks_caseBlind c hc sql, findings_gist]

theorem treeFindings_small (statements : List Query) (sql : Text) :
    treeFindings statements (Text.small sql) = treeFindings statements sql :=
  List.flatMap_congr fun statement _ => List.flatMap_congr fun c hc =>
    treeChecks_small c hc statement sql

theorem scope_small (config : Config) (sql : Text) :
    scope config (Text.small sql) = Text.small (scope config sql) := by
  rw [scope, Text.trim_small, Text.take_small, scope]

/-- What an analysis reports when its parser has come to some statements. -/
def reported (statements : List Query) (config : Config) (sql : Text) : List Finding :=
  if (Text.trim sql).isEmpty then []
  else treeFindings statements (scope config sql)
    ++ textChecks.flatMap fun c => c.findings (scope config sql)

theorem reported_small (statements : List Query) (config : Config) (sql : Text) :
    (reported statements config (Text.small sql)).map Finding.gist
      = (reported statements config sql).map Finding.gist := by
  rw [reported, reported, Text.trim_small, Text.isEmpty_small, scope_small]
  split
  · rfl
  · rw [treeFindings_small, List.map_append, List.map_append, List.map_flatMap, List.map_flatMap]
    congr 1
    exact List.flatMap_congr fun c hc => findings_small hc (scope config sql)

/-! ## Analyses -/

section Respelled

variable {s t : Text}

theorem run_respelled {c : TextCheck} (hc : c ∈ textChecks) (h : Text.Respelled s t) :
    (c.run s).map (List.map Finding.gist) = (c.run t).map (List.map Finding.gist) := by
  have hs := textChecks_caseBlind c hc s
  have ht := textChecks_caseBlind c hc t
  rw [← hs, ← ht, h.small_eq]

theorem treeRun_respelled {c : TreeCheck} (hc : c ∈ treeChecks) (h : Text.Respelled s t) (q : Query) :
    c.run q s = c.run q t := by
  have hs := treeChecks_small c hc q s
  have ht := treeChecks_small c hc q t
  rw [← hs, ← ht, h.small_eq]

/-- The reports agree once the statements do, however the parsers have come to them. -/
theorem emitted_respelled (h : Text.Respelled s t) {config : Config} {parser parser' : Option Parser}
    {asked asked' : Nat}
    (hsame : statements config parser asked s = statements config parser' asked' t) :
    (emitted textChecks config parser asked s).map Finding.gist
      = (emitted textChecks config parser' asked' t).map Finding.gist :=
  calc (emitted textChecks config parser asked s).map Finding.gist
      = (reported (statements config parser asked s) config (Text.small s)).map Finding.gist :=
        (reported_small _ config s).symm
    _ = (reported (statements config parser' asked' t) config (Text.small t)).map Finding.gist := by
        rw [hsame, h.small_eq]
    _ = (emitted textChecks config parser' asked' t).map Finding.gist := reported_small _ config t

end Respelled

/-- The spelling of a query changes neither which rules are found nor how severe they are, nor the
place of any finding; the same goes for every single check. -/
theorem findings_respelled {s t : Text} (h : Text.Respelled s t) (config : Config)
    (parser parser' : Option Parser) (asked asked' : Nat)
    (hsame : statements config parser asked s = statements config parser' asked' t) :
    (byParser config parser asked s).result.findings.map Finding.gist
        = (byParser config parser' asked' t).result.findings.map Finding.gist ∧
      (∀ c ∈ textChecks,
        (c.run s).map (List.map Finding.gist) = (c.run t).map (List.map Finding.gist)) ∧
      ∀ c ∈ treeChecks, ∀ q, c.run q s = c.run q t := by
  refine ⟨?_, fun c hc => run_respelled hc h, fun c hc q => treeRun_respelled hc h q⟩
  have hemitted := emitted_respelled h hsame
  have hdistinct := Finding.distinct_gist hemitted
  rw [findings_byParser, findings_byParser]
  exact enabled_gist hdistinct config.disabledRules

def selectStar : Query := .select ⟨none, [], none, none, none, [], [], none, [], false⟩

/-- A parser that reads every text as a selection of everything. -/
def starReader : Parser := fun _ _ => .ok [selectStar]

theorem statements_starReader (sql : Text) :
    statements .standard (some starReader) 0 sql = [selectStar] := rfl

theorem star_respelled :
    let s := "SELECT *, LIST(a) FROM t".toList
    let t := "select *, list(A) from T".toList
    Text.Respelled s t ∧
      statements .standard (some starReader) 0 s = statements .standard (some starReader) 0 t ∧
      (byParser .standard (some starReader) 0 s).result.findings.map Finding.gist
        = (byParser .standard (some starReader) 0 t).result.findings.map Finding.gist := by
  intro s t
  have h : Text.Respelled s t := by
    unfold Text.Respelled
    decide
  have hsame := (statements_starReader s).trans (statements_starReader t).symm
  exact ⟨h, hsame, (findings_respelled h .standard _ _ 0 0 hsame).1⟩

end Analysis
end QueryLint

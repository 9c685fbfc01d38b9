import QueryLint.Proofs.Analysis.Emission
import QueryLint.Proofs.Checks.LargeOffset

/-! A large OFFSET in an analysis. A check that fails is left out of the analysis without a word, so an
OFFSET that is too long to be read takes the report away, its own and that of a later one. Main statements:
`exists_finding_iff`, an analysis reports of a rule just if the check of the rule does; and
`largeOffset_reported_iff`. -/
namespace QueryLint
set_option autoImplicit false
open Sql Checks

namespace Analysis

/-! ## The check of a rule -/

variable {config : Config} {parser : Option Parser} {asked : Nat} {sql : Text} {r : String}

theorem exists_emitted_iff {c : TextCheck} (hc : c ∈ textChecks) (hr : r ∈ c.rules) :
    (∃ f ∈ emitted textChecks config parser asked sql, f.rule = r) ↔
      (Text.trim sql).isEmpty = false ∧ ∃ f ∈ c.findings (scope config sql), f.rule = r := by
  rw [emitted]
  split
  · rename_i hblank
    simp [hblank]
  · rename_i hblank
    rw [Bool.not_eq_true] at hblank
    rw [and_iff_right hblank]
    constructor
    · rintro ⟨f, hf, rfl⟩
      rcases List.mem_append.mp hf with hf | hf
      · exact absurd (mem_textRules hc hr) (not_mem_textRules (treeFindings_sound hf).rule_mem)
      · obtain ⟨d, hd, hf⟩ := List.mem_flatMap.mp hf
        obtain rfl := eq_of_rule_mem hc hd hr (TextCheck.sound_of_mem_findings hd hf).rule_mem
        exact ⟨f, hf, rfl⟩
    · rintro ⟨f, hf, hrule⟩
      exact ⟨f, List.mem_append_right _ (List.mem_flatMap.mpr ⟨c, hc, hf⟩), hrule⟩

/-- An analysis has a finding of an enabled rule just if the query is not blank and the check of the rule
reports of it. -/
theorem exists_finding_iff {c : TextCheck} (hc : c ∈ textChecks) (hr : r ∈ c.rules)
    (henabled : r ∉ config.disabledRules) :
    (∃ f ∈ (byParser config parser asked sql).result.findings, f.rule = r) ↔
      (Text.trim sql).isEmpty = false ∧ ∃ f ∈ c.findings (scope config sql), f.rule = r := by
  have hemitted : (∃ f ∈ emitted textChecks config parser asked sql, f.rule = r) ↔ _ := exists_emitted_iff hc hr
  rw [← hemitted, findings_byParser]
  constructor
  · rintro ⟨f, hf, hrule⟩
    exact ⟨f, (Finding.distinct_sublist _).subset (mem_enabled.mp hf).2, hrule⟩
  · rintro ⟨f, hf, rfl⟩
    obtain ⟨g, hg⟩ := Option.isSome_iff_exists.mp
      (List.find?_isSome (p := fun g => g.rule == f.rule).mpr ⟨f, hf, beq_self_eq_true f.rule⟩)
    have hbeq := List.find?_some hg
    have hrule : g.rule = f.rule := eq_of_beq hbeq
    rw [← hrule] at hg
    exact ⟨g, mem_enabled.mpr ⟨hrule ▸ henabled, Finding.mem_distinct.mpr hg⟩, hrule⟩

theorem scope_of_length_le (h : ((Text.trim sql).length : Int) ≤ config.maxLength) :
    scope config sql = Text.trim sql := by
  rw [scope, List.take_of_length_le]
  omega

/-! ## The check for a large OFFSET -/

def largeOffsetCheck : TextCheck :=
  ⟨"check_large_offset", ["large-offset-pagination"], "OFFSET of 10,000 rows or more.", largeOffsets⟩

theorem largeOffsetCheck_mem : largeOffsetCheck ∈ textChecks := by
  unfold textChecks
  repeat' first
    | exact List.mem_cons_self
    | apply List.mem_cons_of_mem

theorem exists_mem_findings_largeOffset_iff {t : Text} :
    (∃ f ∈ largeOffsetCheck.findings t, f.rule = "large-offset-pagination") ↔ FindsSome (largeOffsets t) := by
  constructor
  · rintro ⟨f, hf, -⟩
    obtain ⟨findings, hrun, hf⟩ := TextCheck.mem_findings.mp hf
    exact ⟨findings, hrun, List.ne_nil_of_mem hf⟩
  · rintro ⟨findings, hrun, hne⟩
    obtain ⟨f, hf⟩ := List.exists_mem_of_ne_nil findings hne
    have hrule := List.mem_singleton.mp (largeOffsets_sound hrun hf).rule_mem
    exact ⟨f, TextCheck.mem_findings.mpr ⟨findings, hrun, hf⟩, hrule⟩

theorem exists_largeOffset_iff (hlength : ((Text.trim sql).length : Int) ≤ config.maxLength)
    (henabled : "large-offset-pagination" ∉ config.disabledRules) :
    (∃ f ∈ (byParser config parser asked sql).result.findings, f.rule = "large-offset-pagination") ↔
      ∃ start, FirstLargeAt (Text.trim sql) start ∧ ReadTo (Text.trim sql) start := by
  rw [exists_finding_iff largeOffsetCheck_mem List.mem_cons_self henabled, exists_mem_findings_largeOffset_iff,
    scope_of_length_le hlength, largeOffsets_findSome_iff, and_iff_right_iff_imp]
  rintro ⟨start, ⟨⟨digits, hat, -⟩, -⟩, -⟩
  simpa using hat.ne_nil

/-! ## Zeros in front of a number -/

theorem decimalValue_zeros_append (n : Nat) (digits : Text) :
    Text.decimalValue (List.replicate n '0' ++ digits) = Text.decimalValue digits := by
  induction n with
  | zero => rfl
  | succ n ih => rw [← ih, List.replicate_succ]; rfl

def pageHead : Text := "SELECT x FROM t ".toList

/-- The number of the page with zeros in front. -/
def paddedNumber (n : Nat) : Text := List.replicate n '0' ++ "10000".toList

/-- A page far down, its number with zeros in front. -/
def paddedPage (n : Nat) : Text := pageHead ++ ("OFFSET".toList ++ ([' '] ++ paddedNumber n))

theorem length_pageHead : pageHead.length = 16 := by decide

theorem head?_pageHead : pageHead.head? = some 'S' := by decide

theorem pageHead_ends : ∀ c ∈ pageHead.getLast?, Text.isWord c = false := by
  intro c hc
  have hlast : pageHead.getLast? = some ' ' := by decide
  obtain rfl := Option.some.inj (hlast.symm.trans hc)
  decide

theorem length_paddedNumber (n : Nat) : (paddedNumber n).length = n + 5 := by
  have hfive : "10000".toList.length = 5 := by decide
  rw [paddedNumber, List.length_append, List.length_replicate, hfive]

theorem length_paddedPage (n : Nat) : (paddedPage n).length = n + 28 := by
  have hword : "OFFSET".toList.length = 6 := by decide
  simp only [paddedPage, List.length_append, length_paddedNumber, length_pageHead, hword, List.length_singleton]
  omega

theorem isDigit_paddedNumber (n : Nat) : ∀ c ∈ paddedNumber n, Text.isDigit c = true := by
  refine List.forall_mem_append.mpr ⟨fun c hc => ?_, List.all_eq_true.mp (by decide)⟩
  rw [List.eq_of_mem_replicate hc]
  decide

theorem paddedNumber_ne_nil (n : Nat) : paddedNumber n ≠ [] := by
  rw [← List.length_pos_iff, length_paddedNumber]
  omega

theorem offsetAt_paddedPage (n : Nat) : OffsetAt (paddedPage n) 16 (paddedNumber n) := by
  refine ⟨pageHead, "OFFSET".toList, [' '], [], by rw [List.append_nil, paddedPage], length_pageHead, ?_⟩
  exact ⟨by decide, pageHead_ends, List.cons_ne_nil _ _, List.all_eq_true.mp (by decide), paddedNumber_ne_nil n,
    isDigit_paddedNumber n, fun _ hc => nomatch hc⟩

theorem firstLargeAt_paddedPage (n : Nat) : FirstLargeAt (paddedPage n) 16 := by
  refine ⟨⟨_, offsetAt_paddedPage n, ?_⟩, ?_⟩
  · rw [paddedNumber, decimalValue_zeros_append]
    decide
  · -- no OFFSET stands in front
    have hnone : ∀ i < 16, ¬WordAt "offset".toList pageHead i := by decide +kernel
    rintro start ⟨digits, hat, -⟩
    refine Nat.le_of_not_lt fun hlt => hnone start hlt ?_
    exact (wordAt_append_left pageHead_ends (length_pageHead.symm ▸ hlt)).mp hat.wordAt

theorem trim_paddedPage (n : Nat) : Text.trim (paddedPage n) = paddedPage n := by
  have hfirst : ∀ c ∈ (paddedPage n).head?, Text.isBlank c = false := by
    intro c hc
    rw [paddedPage, List.head?_append_of_ne_nil _ (by decide), head?_pageHead] at hc
    obtain rfl := Option.some.inj hc
    decide
  have hlast : ∀ c ∈ (paddedPage n).getLast?, Text.isBlank c = false := by
    intro c hc
    rw [paddedPage, ← List.append_assoc, ← List.append_assoc,
      List.getLast?_append_of_ne_nil _ (paddedNumber_ne_nil n)] at hc
    have hdigit := isDigit_paddedNumber n c (List.mem_of_getLast? hc)
    refine Bool.eq_false_iff.mpr fun hblank => ?_
    rw [Text.isDigit_of_isBlank hblank] at hdigit
    exact absurd hdigit Bool.false_ne_true
  have hnone : ∀ c ∈ ([] : Text), Text.isBlank c = true := List.forall_mem_nil _
  have htrim := trimBy_eq hnone hfirst hlast hnone
  rwa [List.append_nil, List.nil_append] at htrim

theorem paddedPage_within {n : Nat} (h : n ≤ 4300) :
    ((Text.trim (paddedPage n)).length : Int) ≤ Config.standard.maxLength := by
  rw [trim_paddedPage, length_paddedPage]
  show ((n + 28 : Nat) : Int) ≤ 1000000
  omega

/-! ## Which large OFFSETs are reported -/

/-- Within the limit a large OFFSET is reported just if no number up to the first large one has more than
4300 digits, zeros in front included. So the report is right just if this holds wherever there is a large
OFFSET at all. -/
theorem largeOffset_reported_iff (config : Config) (parser : Option Parser) (asked : Nat) (sql : Text)
    (hlength : ((Text.trim sql).length : Int) ≤ config.maxLength)
    (henabled : "large-offset-pagination" ∉ config.disabledRules) :
    let reported := ∃ f ∈ (byParser config parser asked sql).result.findings, f.rule = "large-offset-pagination"
    let text := Text.trim sql
    (reported ↔ ∃ start, FirstLargeAt text start ∧ ReadTo text start) ∧
      ((reported ↔ ∃ start, LargeAt text start) ↔ ∀ start, FirstLargeAt text start → ReadTo text start) := by
  intro reported text
  have hreported : reported ↔ ∃ start, FirstLargeAt text start ∧ ReadTo text start :=
    exists_largeOffset_iff hlength henabled
  refine ⟨hreported, ?_⟩
  rw [hreported]
  constructor
  · intro hagrees start hfirst
    obtain ⟨start', hfirst', hread⟩ := hagrees.mpr ⟨start, hfirst.1⟩
    exact hfirst.unique hfirst' ▸ hread
  · intro hread
    constructor
    · rintro ⟨start, hfirst, -⟩
      exact ⟨start, hfirst.1⟩
    · rintro ⟨start, hlarge⟩
      obtain ⟨first, hfirst⟩ := hlarge.exists_first
      exact ⟨first, hfirst, hread first hfirst⟩

/-- Without zeros the page is reported. -/
theorem unpaddedPage_reported : ((Text.trim (paddedPage 0)).length : Int) ≤ Config.standard.maxLength ∧
    "large-offset-pagination" ∉ Config.standard.disabledRules ∧
    ∃ f ∈ (byParser .standard none 0 (paddedPage 0)).result.findings, f.rule = "large-offset-pagination" := by
  have hlength := paddedPage_within (Nat.zero_le 4300)
  have henabled : "large-offset-pagination" ∉ Config.standard.disabledRules := List.not_mem_nil
  have hall : largeOffset.all (paddedPage 0) = [offsetMatch 16 "OFFSET".toList [' '] "10000".toList] := by
    decide +kernel
  have hread : ReadTo (Text.trim (paddedPage 0)) 16 := by
    rw [trim_paddedPage]
    intro start _ digits hat
    obtain ⟨m, hm, -, rfl⟩ := exists_mem_all_iff.mpr hat
    rw [hall, List.mem_singleton] at hm
    subst hm
    decide
  have hfirst : FirstLargeAt (Text.trim (paddedPage 0)) 16 :=
    (trim_paddedPage 0).symm ▸ firstLargeAt_paddedPage 0
  exact ⟨hlength, henabled, (largeOffset_reported_iff .standard none 0 (paddedPage 0) hlength henabled).1.mpr
    ⟨16, hfirst, hread⟩⟩

/-- With 4301 digits the number is still that of the same page, but the page is not reported. -/
theorem paddedPage_not_reported :
    ((Text.trim (paddedPage 4296)).length : Int) ≤ Config.standard.maxLength ∧
      "large-offset-pagination" ∉ Config.standard.disabledRules ∧ LargeAt (Text.trim (paddedPage 4296)) 16 ∧
      ¬∃ f ∈ (byParser .standard none 0 (paddedPage 4296)).result.findings,
        f.rule = "large-offset-pagination" := by
  have hlength := paddedPage_within (n := 4296) (by omega)
  have hfirst := firstLargeAt_paddedPage 4296
  refine ⟨hlength, List.not_mem_nil, (trim_paddedPage 4296).symm ▸ hfirst.1, ?_⟩
  rw [exists_largeOffset_iff hlength List.not_mem_nil, trim_paddedPage]
  rintro ⟨start, hfirst', hread⟩
  obtain rfl := hfirst.unique hfirst'
  have hdigits := hread 16 (Nat.le_refl _) _ (offsetAt_paddedPage 4296)
  rw [length_paddedNumber] at hdigits
  omega

end Analysis
end QueryLint

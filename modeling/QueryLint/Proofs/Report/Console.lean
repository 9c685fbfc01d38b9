import Mathlib.Data.List.Basic
import QueryLint.CommandLine.Run
import QueryLint.Proofs.Report.Contents

/-! The table of findings on the console. Main statement: `console_bySeverity`, its rows are all errors,
then all warnings, then all notes, each group in the order of the analysis; the summary above it counts
these groups, and the first row alone tells whether any finding is as severe as a level. -/
namespace QueryLint
set_option autoImplicit false

/-! ## A stable sort by rank -/

section Rank

variable {α : Type}

/-- What is in order already, a sort leaves in its order. -/
theorem filter_mergeSort {le : α → α → Bool}
    (htrans : ∀ a b c, le a b = true → le b c = true → le a c = true)
    (htotal : ∀ a b, (le a b || le b a) = true) {p : α → Bool} {l : List α}
    (h : (l.filter p).Pairwise fun a b => le a b = true) : (l.mergeSort le).filter p = l.filter p := by
  have hsublist : (l.filter p).Sublist ((l.mergeSort le).filter p) := by
    simpa using (List.sublist_mergeSort htrans htotal h List.filter_sublist).filter p
  have hlength : (l.filter p).length = ((l.mergeSort le).filter p).length :=
    ((List.mergeSort_perm l le).filter p).length_eq.symm
  exact (hsublist.eq_of_length hlength).symm

variable (rank : α → Nat)

/-- Of items in falling order, those of the highest rank come first. -/
theorem filter_append_of_falling {k : Nat} {l : List α} (hl : l.Pairwise fun a b => rank b ≤ rank a)
    (hk : ∀ a ∈ l, rank a ≤ k) : l.filter (rank · == k) ++ l.filter (rank · != k) = l := by
  induction l with
  | nil => rfl
  | cons a l ih =>
    obtain ⟨ha, hl⟩ := List.pairwise_cons.mp hl
    obtain ⟨hka, hkl⟩ := List.forall_mem_cons.mp hk
    by_cases heq : rank a = k
    · simpa [heq] using ih hl hkl
    · have hnone : l.filter (rank · == k) = [] := List.filter_eq_nil_iff.mpr fun b hb => by
        have hba := ha b hb
        simp only [beq_iff_eq]
        omega
      have hall : l.filter (rank · != k) = l := by simpa [hnone] using ih hl hkl
      simp [heq, hnone, hall]

/-- A group stays whole when another one is taken out. -/
theorem filter_of_ne {j k : Nat} (h : j ≠ k) (l : List α) :
    (l.filter (rank · != k)).filter (rank · == j) = l.filter (rank · == j) := by
  rw [List.filter_filter]
  refine List.filter_congr fun a _ => ?_
  by_cases ha : rank a = j
  · simp [ha, h]
  · simp [ha]

/-- Items in falling order are their groups by rank. -/
theorem eq_flatMap_of_falling {ranks : List Nat} (hranks : ranks.Pairwise (· > ·)) {l : List α}
    (hl : l.Pairwise fun a b => rank b ≤ rank a) (hmem : ∀ a ∈ l, rank a ∈ ranks) :
    l = ranks.flatMap fun k => l.filter (rank · == k) := by
  induction ranks generalizing l with
  | nil =>
    obtain rfl := List.eq_nil_iff_forall_not_mem.mpr fun a ha => List.not_mem_nil (hmem a ha)
    rfl
  | cons k ranks ih =>
    obtain ⟨hk, hranks⟩ := List.pairwise_cons.mp hranks
    have hle : ∀ a ∈ l, rank a ≤ k := fun a ha => by
      rcases List.mem_cons.mp (hmem a ha) with heq | hlower
      · exact Nat.le_of_eq heq
      · exact Nat.le_of_lt (hk _ hlower)
    have hrest := ih hranks (hl.filter (rank · != k)) fun a ha => by
      obtain ⟨ha, hne⟩ := List.mem_filter.mp ha
      exact (List.mem_cons.mp (hmem a ha)).resolve_left (by simpa using hne)
    have hgroups : ranks.flatMap (fun j => (l.filter (rank · != k)).filter (rank · == j))
        = ranks.flatMap fun j => l.filter (rank · == j) :=
      List.flatMap_congr fun j hj => filter_of_ne rank (Nat.ne_of_lt (hk j hj)) l
    rw [hgroups] at hrest
    rw [List.flatMap_cons, ← hrest, filter_append_of_falling rank hl hle]

theorem mergeSort_eq_flatMap {ranks : List Nat} (hranks : ranks.Pairwise (· > ·)) {l : List α}
    (hmem : ∀ a ∈ l, rank a ∈ ranks) :
    (l.mergeSort fun a b => rank b ≤ rank a) = ranks.flatMap fun k => l.filter (rank · == k) := by
  have htrans : ∀ a b c, decide (rank b ≤ rank a) = true → decide (rank c ≤ rank b) = true →
      decide (rank c ≤ rank a) = true := by
    simp only [decide_eq_true_eq]
    omega
  have htotal : ∀ a b, (decide (rank b ≤ rank a) || decide (rank a ≤ rank b)) = true := by
    simp only [Bool.or_eq_true, decide_eq_true_eq]
    omega
  have hperm := List.mergeSort_perm l fun a b => decide (rank b ≤ rank a)
  have hfalling := List.pairwise_mergeSort htrans htotal l
  simp only [decide_eq_true_eq] at hfalling
  rw [eq_flatMap_of_falling rank hranks hfalling fun a ha => hmem a (hperm.mem_iff.mp ha)]
  refine List.flatMap_congr fun k _ => filter_mergeSort htrans htotal ?_
  -- Items of one rank are in order however they follow each other.
  refine List.pairwise_filter.mpr (List.pairwise_of_forall fun a b ha hb => ?_)
  simp only [beq_iff_eq] at ha hb
  simp [ha, hb]

end Rank

/-! ## Levels -/

namespace Severity

/-- The rank, zero for a severity that has none. -/
def rank (s : Severity) : Nat := s.rank?.getD 0

/-- One of the three levels that is listed no later than another one. -/
def AtLeast (s level : Severity) : Prop := levels.idxOf s ≤ levels.idxOf level

instance (s level : Severity) : Decidable (s.AtLeast level) :=
  inferInstanceAs (Decidable (levels.idxOf s ≤ levels.idxOf level))

theorem mem_levels {s : Severity} : s ∈ levels ↔ s = error ∨ s = warning ∨ s = info := by
  simp [levels]

theorem rank?_of_mem {s : Severity} (h : s ∈ levels) : s.rank? = some s.rank := by
  rcases mem_levels.mp h with rfl | rfl | rfl <;> rfl

theorem atLeast_iff_rank {s level : Severity} (hs : s ∈ levels) (hlevel : level ∈ levels) :
    s.AtLeast level ↔ level.rank ≤ s.rank := by
  rcases mem_levels.mp hs with rfl | rfl | rfl <;> rcases mem_levels.mp hlevel with rfl | rfl | rfl <;>
    decide

theorem rank_inj {s level : Severity} (hs : s ∈ levels) (hlevel : level ∈ levels) :
    s.rank = level.rank ↔ s = level := by
  rcases mem_levels.mp hs with rfl | rfl | rfl <;> rcases mem_levels.mp hlevel with rfl | rfl | rfl <;>
    decide

end Severity

namespace Finding

def ofLevel (level : Severity) (findings : List Finding) : List Finding :=
  findings.filter fun f => f.severity = level

def byLevel (findings : List Finding) : List Finding :=
  Severity.levels.flatMap fun level => ofLevel level findings

theorem byLevel_eq (findings : List Finding) :
    byLevel findings = ofLevel .error findings ++ ofLevel .warning findings ++ ofLevel .info findings := by
  simp [byLevel, Severity.levels]

theorem severity_of_mem_ofLevel {level : Severity} {findings : List Finding} {f : Finding}
    (h : f ∈ ofLevel level findings) : f.severity = level := of_decide_eq_true (List.mem_filter.mp h).2

theorem pairwise_byLevel (findings : List Finding) :
    (byLevel findings).Pairwise fun f g => f.severity.AtLeast g.severity := by
  refine List.pairwise_flatMap.mpr ⟨fun level _ => ?_, ?_⟩
  · refine List.pairwise_of_forall_mem_list fun f hf g hg => ?_
    rw [severity_of_mem_ofLevel hf, severity_of_mem_ofLevel hg]
    exact Nat.le_refl _
  · have hlevels : Severity.levels.Pairwise Severity.AtLeast := by decide
    refine hlevels.imp fun {level level'} hle f hf g hg => ?_
    rw [severity_of_mem_ofLevel hf, severity_of_mem_ofLevel hg]
    exact hle

variable {findings : List Finding}

theorem anyRanked_eq (h : ∀ f ∈ findings, f.severity ∈ Severity.levels) (threshold : Nat) :
    anyRanked threshold findings = .ok (findings.any fun f => threshold ≤ f.severity.rank) := by
  induction findings with
  | nil => rfl
  | cons f rest ih =>
    obtain ⟨hf, hrest⟩ := List.forall_mem_cons.mp h
    rw [anyRanked, Severity.rank?_of_mem hf, List.any_cons]
    by_cases hle : threshold ≤ f.severity.rank
    · simp [hle]
    · simp [hle, ih hrest]

end Finding

namespace Report

theorem ranked_eq {findings : List Finding} (h : ∀ f ∈ findings, f.severity ∈ Severity.levels) :
    ranked findings = .ok (findings.map fun f => (f.severity.rank, f)) := by
  induction findings with
  | nil => rfl
  | cons f rest ih =>
    obtain ⟨hf, hrest⟩ := List.forall_mem_cons.mp h
    rw [ranked, Severity.rank?_of_mem hf, ih hrest]
    rfl

variable {findings : List Finding}

theorem map_mergeSort_eq_byLevel (h : ∀ f ∈ findings, f.severity ∈ Severity.levels) :
    ((findings.map fun f => (f.severity.rank, f)).mergeSort fun a b => b.1 ≤ a.1).map Prod.snd
      = Finding.byLevel findings := by
  have hranks : (Severity.levels.map Severity.rank).Pairwise (· > ·) := by decide
  have hmem : ∀ a ∈ findings.map fun f => (f.severity.rank, f), a.1 ∈ Severity.levels.map Severity.rank := by
    simpa using fun f hf => ⟨_, h f hf, rfl⟩
  rw [mergeSort_eq_flatMap Prod.fst hranks hmem, List.map_flatMap, List.flatMap_map, Finding.byLevel]
  refine List.flatMap_congr fun level hlevel => ?_
  rw [List.filter_map, List.map_map, Finding.ofLevel, Function.comp_def, List.map_id']
  exact List.filter_congr fun f hf => decide_eq_decide.mpr (Severity.rank_inj (h f hf) hlevel)

theorem bySeverity_eq (h : ∀ f ∈ findings, f.severity ∈ Severity.levels) :
    bySeverity findings = .ok (Finding.byLevel findings) := by
  rw [bySeverity, ranked_eq h, Except.map_ok, map_mergeSort_eq_byLevel h]

theorem byLevel_perm (h : ∀ f ∈ findings, f.severity ∈ Severity.levels) :
    (Finding.byLevel findings).Perm findings := by
  have hperm := (List.mergeSort_perm (findings.map fun f => (f.severity.rank, f)) fun a b => b.1 ≤ a.1).map Prod.snd
  rw [map_mergeSort_eq_byLevel h, List.map_map, Function.comp_def, List.map_id'] at hperm
  exact hperm

/-- The first finding is as severe as any. -/
theorem any_atLeast_iff (h : ∀ f ∈ findings, f.severity ∈ Severity.levels) (level : Severity) :
    (∃ f ∈ findings, f.severity.AtLeast level) ↔
      ∃ first, (Finding.byLevel findings).head? = some first ∧ first.severity.AtLeast level := by
  have hperm := byLevel_perm h
  have hfalling := Finding.pairwise_byLevel findings
  cases hsorted : Finding.byLevel findings with
  | nil =>
    rw [hsorted, List.nil_perm] at hperm
    simp [hperm]
  | cons first rest =>
    rw [hsorted] at hperm hfalling
    constructor
    · rintro ⟨f, hf, hlevel⟩
      refine ⟨first, rfl, ?_⟩
      rcases List.mem_cons.mp (hperm.mem_iff.mpr hf) with rfl | hrest
      · exact hlevel
      · exact Nat.le_trans (List.rel_of_pairwise_cons hfalling hrest) hlevel
    · rintro ⟨f, hf, hlevel⟩
      obtain rfl := Option.some.inj hf
      exact ⟨first, hperm.mem_iff.mp List.mem_cons_self, hlevel⟩

theorem anyAtLeast_eq (h : ∀ f ∈ findings, f.severity ∈ Severity.levels) {level : Severity}
    (hlevel : level ∈ Severity.levels) :
    Finding.anyAtLeast level findings = .ok (findings.any fun f => f.severity.AtLeast level) := by
  have hranked : Finding.anyAtLeast level findings = Finding.anyRanked level.rank findings := by
    rw [Finding.anyAtLeast, Severity.rank?_of_mem hlevel]
  rw [hranked, Finding.anyRanked_eq h, Except.ok.injEq, Bool.eq_iff_iff, List.any_eq_true, List.any_eq_true]
  refine exists_congr fun f => and_congr_right fun hf => ?_
  rw [decide_eq_true_iff, decide_eq_true_iff, Severity.atLeast_iff_rank (h f hf) hlevel]

/-! ## What is printed -/

end Report

/-- The rows of an item, if it is a table. -/
def ConsoleItem.rows : ConsoleItem → List (List String)
  | .table _ _ rows => rows
  | _ => []

namespace Report

theorem findingsItem_rows {s : Subject} (h : s.Leveled) (verbose : Bool) :
    ∃ item, findingsItem s verbose = .ok item ∧
      item.rows = (Finding.byLevel s.result.findings).map (row s.sql verbose) := by
  rw [findingsItem]
  split
  · rename_i hempty
    rw [List.isEmpty_iff.mp hempty]
    exact ⟨_, rfl, rfl⟩
  · rw [bySeverity_eq h]
    exact ⟨_, rfl, rfl⟩

theorem summaryLine_eq (findings : List Finding) :
    summaryLine findings = .line ("Findings: " ++ toString findings.length ++ " (" ++ Text.joinStrings ", "
      ["[bold red]" ++ toString (Finding.ofLevel .error findings).length ++ " error[/]",
        "[yellow]" ++ toString (Finding.ofLevel .warning findings).length ++ " warning[/]",
        "[cyan]" ++ toString (Finding.ofLevel .info findings).length ++ " info[/]"] ++ ")") := by
  have hcount : ∀ level, Finding.countOf level findings = (Finding.ofLevel level findings).length :=
    fun _ => rfl
  have herror : Severity.color Severity.error.name = "bold red" := by decide
  have hwarning : Severity.color Severity.warning.name = "yellow" := by decide
  have hinfo : Severity.color Severity.info.name = "cyan" := by decide
  rw [summaryLine]
  simp only [Severity.levels, List.map_cons, List.map_nil, levelCount, hcount, herror, hwarning, hinfo]
  simp [Severity.name, String.append_assoc]

theorem exitStatus_eq {findings : List Finding} {level : Severity} {reached : Bool}
    (h : Finding.anyAtLeast level findings = .ok reached) :
    CommandLine.exitStatus (some level) findings = if reached then 1 else 0 := by
  rw [CommandLine.exitStatus]
  cases reached <;> simp [h]

/-- The rows are the errors, then the warnings, then the notes, each in the order given; the summary
counts them; and whether a level is reached, which decides on the exit status, the first row tells. -/
theorem console_bySeverity (time : String) {s : Subject} (h : s.Leveled) (verbose : Bool) :
    ∃ errors warnings notes : List Finding,
      errors = s.result.findings.filter (·.severity = .error) ∧
      warnings = s.result.findings.filter (·.severity = .warning) ∧
      notes = s.result.findings.filter (·.severity = .info) ∧
      (errors ++ warnings ++ notes).Perm s.result.findings ∧
      (∃ item, console time s verbose = .ok (header time s :: parseWarning s ++
          [.line ("Findings: " ++ toString s.result.findings.length ++ " (" ++ Text.joinStrings ", "
            ["[bold red]" ++ toString errors.length ++ " error[/]",
              "[yellow]" ++ toString warnings.length ++ " warning[/]",
              "[cyan]" ++ toString notes.length ++ " info[/]"] ++ ")"), item]) ∧
        item.rows = (errors ++ warnings ++ notes).map (row s.sql verbose)) ∧
      errors.length + warnings.length + notes.length = s.result.findings.length ∧
      ∀ level ∈ Severity.levels, ∃ reached, Finding.anyAtLeast level s.result.findings = .ok reached ∧
        CommandLine.exitStatus (some level) s.result.findings = (if reached then 1 else 0) ∧
        (reached = true ↔ ∃ first, (errors ++ warnings ++ notes).head? = some first ∧
          first.severity.AtLeast level) := by
  have hgroups := Finding.byLevel_eq s.result.findings
  have hperm := byLevel_perm h
  obtain ⟨item, hitem, hrows⟩ := findingsItem_rows h verbose
  rw [hgroups] at hperm hrows
  refine ⟨_, _, _, rfl, rfl, rfl, hperm, ⟨item, ?_, hrows⟩, ?_, fun level hlevel => ?_⟩
  · rw [console, hitem, Except.map_ok, summaryLine_eq]
    rfl
  · have hlength := hperm.length_eq
    rwa [List.length_append, List.length_append] at hlength
  · have hany := anyAtLeast_eq h hlevel
    have hfirst := any_atLeast_iff h level
    rw [hgroups] at hfirst
    refine ⟨_, hany, exitStatus_eq hany, ?_⟩
    simp only [List.any_eq_true, decide_eq_true_eq]
    exact hfirst

/-- Findings in an order that the table does not keep. -/
def mixed : Subject where
  result := ⟨[⟨"a", .info, "", "", "", "", none, none⟩, ⟨"b", .error, "", "", "", "", none, none⟩,
    ⟨"c", .warning, "", "", "", "", none, none⟩, ⟨"d", .error, "", "", "", "", none, none⟩], none⟩
  sql := []
  source := ""

theorem mixed_bySeverity :
    mixed.Leveled ∧ ∃ item line, console "" mixed false = .ok [header "" mixed, line, item] ∧
      item.rows.map (·[1]?) = [some "b", some "d", some "c", some "a"] := by
  have hleveled : mixed.Leveled := by simp [Subject.Leveled, mixed, Severity.levels]
  obtain ⟨_, _, _, rfl, rfl, rfl, -, ⟨item, hconsole, hrows⟩, -⟩ := console_bySeverity "" hleveled false
  refine ⟨hleveled, item, _, hconsole, ?_⟩
  rw [hrows]
  rfl

end Report
end QueryLint

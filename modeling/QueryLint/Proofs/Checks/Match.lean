import QueryLint.Checks.Registry
import QueryLint.Proofs.Finding.Placement

/-! Checks that report a match of the text as a whole, a group of it or its opening, and checks that
report a number only: each finding is of the check's rule and stands where the match does. -/
namespace QueryLint.Checks
set_option autoImplicit false
open Sql

variable {sql : Text} {f : Finding}

/-! ## Numbers -/

/-- A number that is judged by two thresholds. -/
theorem graded_sound {many few : Prop} [Decidable many] [Decidable few] {a b : Advice} {rules : List String}
    (ha : a.rule ∈ rules) (hb : b.rule ∈ rules)
    (h : f ∈ if many then [a.overall] else if few then [b.overall] else []) : f.Sound rules sql := by
  split at h
  · obtain rfl := List.mem_singleton.mp h
    exact Advice.overall_sound ha
  · obtain rfl := eq_of_mem_when h
    exact Advice.overall_sound hb

theorem blockingOperators_sound (h : f ∈ blockingOperators sql) :
    f.Sound ["many-blocking-operators"] sql := graded_sound List.mem_cons_self List.mem_cons_self h

theorem namedQueryCount_sound (h : f ∈ namedQueryCount sql) : f.Sound ["many-ctes"] sql :=
  graded_sound List.mem_cons_self List.mem_cons_self h

theorem joinsOnTrue_sound (h : f ∈ joinsOnTrue sql) : f.Sound ["many-left-join-on-true"] sql := by
  obtain rfl := eq_of_mem_unless h
  exact Advice.overall_sound List.mem_cons_self

theorem manyCasts_sound (h : f ∈ manyCasts sql) : f.Sound ["excessive-casts"] sql := by
  obtain rfl := eq_of_mem_unless h
  exact Advice.overall_sound List.mem_cons_self

/-! ## One of all matches -/

section Among

variable {p : Pattern} {rules : List String}

theorem quoteCounted_sound (hp : 0 < p.shape.least) {a : Nat → Advice} (ha : ∀ n, (a n).rule ∈ rules)
    (h : f ∈ quoteCounted p a sql) : f.Sound rules sql := by
  rw [quoteCounted] at h
  split at h
  · exact absurd h List.not_mem_nil
  · rename_i first rest hall
    obtain rfl := List.mem_singleton.mp h
    have hm : first.Of p sql := Pattern.of_mem_all (hall ▸ List.mem_cons_self)
    exact Advice.quoting_sound (ha _) hm hp

theorem adviseRepeated_sound (hp : 0 < p.shape.least) {a : Nat → Advice} (ha : ∀ n, (a n).rule ∈ rules)
    {chosen : Match → Match → Match} (hchosen : ∀ m m', chosen m m' = m ∨ chosen m m' = m')
    (h : f ∈ adviseRepeated p a chosen sql) : f.Sound rules sql := by
  rw [adviseRepeated] at h
  split at h
  · rename_i first second rest hall
    obtain rfl := List.mem_singleton.mp h
    have hmem : chosen first second ∈ p.all sql := by
      rw [hall]
      rcases hchosen first second with heq | heq
      · simp [heq]
      · simp [heq]
    exact Advice.located_match_sound (ha _) (Pattern.of_mem_all hmem) hp
  · exact absurd h List.not_mem_nil

theorem advisePassing_sound (hp : 0 < p.shape.least) {a : Advice} (ha : a.rule ∈ rules)
    {passes : Match → Bool} (h : f ∈ advisePassing p passes a sql) : f.Sound rules sql := by
  rw [advisePassing, Option.mem_toList] at h
  obtain ⟨m, hm, rfl⟩ := Option.map_eq_some_iff.mp h
  exact Advice.located_match_sound ha (Pattern.of_mem_all (List.mem_of_find?_eq_some hm)) hp

end Among

theorem listAggregate_sound (h : f ∈ listAggregate sql) : f.Sound ["non-spillable-list"] sql :=
  quoteCounted_sound (by decide) (fun _ => List.mem_cons_self) h

theorem distinctCount_sound (h : f ∈ distinctCount sql) : f.Sound ["count-distinct"] sql :=
  quoteCounted_sound (by decide) (fun _ => List.mem_cons_self) h

theorem repeatedOrderLimitOne_sound (h : f ∈ repeatedOrderLimitOne sql) :
    f.Sound ["repeated-order-limit-1"] sql :=
  adviseRepeated_sound (by decide) (fun _ => List.mem_cons_self) (fun _ _ => .inl rfl) h

theorem multipleRemoteScans_sound (h : f ∈ multipleRemoteScans sql) :
    f.Sound ["multiple-remote-scans"] sql :=
  adviseRepeated_sound (by decide) (fun _ => List.mem_cons_self) (fun _ _ => .inr rfl) h

theorem copyCompression_sound (h : f ∈ copyCompression sql) :
    f.Sound ["copy-to-no-compression"] sql := advisePassing_sound (by decide) List.mem_cons_self h

theorem betweenTimestamp_sound (h : f ∈ betweenTimestamp sql) :
    f.Sound ["between-timestamp"] sql := advisePassing_sound (by decide) List.mem_cons_self h

/-- The numbers are read match by match; the finding is about one of the matches. -/
theorem largeOffsetAmong_sound {ms : List Match} (hms : ∀ m ∈ ms, m.Of largeOffset sql)
    {findings : List Finding} (h : largeOffsetAmong sql ms = .ok findings) (hf : f ∈ findings) :
    f.Sound ["large-offset-pagination"] sql := by
  induction ms with
  | nil =>
    obtain rfl := Except.ok.inj h
    exact absurd hf List.not_mem_nil
  | cons m rest ih =>
    rw [largeOffsetAmong] at h
    split at h
    · exact absurd h (by simp)
    · split at h
      · obtain rfl := Except.ok.inj h
        obtain rfl := List.mem_singleton.mp hf
        exact Advice.located_match_sound List.mem_cons_self (hms m List.mem_cons_self) (by decide)
      · exact ih (fun m' hm' => hms m' (List.mem_cons_of_mem m hm')) h

theorem largeOffsets_sound {findings : List Finding} (h : largeOffsets sql = .ok findings)
    (hf : f ∈ findings) : f.Sound ["large-offset-pagination"] sql :=
  largeOffsetAmong_sound (fun _ hm => Pattern.of_mem_all hm) h hf

/-- The arrow at the start of an extraction stands where the extraction begins. -/
theorem arrowOf_same {m : Match} (hm : m.Of jsonArrow sql) :
    Span.StandsIn sql ⟨m.span.start, m.span.start + (arrowOf (m.text sql)).length⟩ ∧
      Text.sameLetters
        (sql.slice ⟨m.span.start, m.span.start + (arrowOf (m.text sql)).length⟩)
        (arrowOf (m.text sql)) = true := by
  have hstop := hm.stop_le_length
  rw [Text.slice_eq_take_drop]
  simp only [Nat.add_sub_cancel_left]
  unfold arrowOf
  split
  · rename_i harrow
    obtain ⟨rest, hrest⟩ := List.isPrefixOf_iff_prefix.mp harrow
    have hlen := congrArg List.length hrest
    rw [Match.text, Text.length_slice hstop, List.length_append] at hlen
    have h3 : "->>".toList.length = 3 := by decide
    refine ⟨⟨by simp only [h3]; omega, by simp only [h3] at hlen ⊢; omega⟩, ?_⟩
    have htake : (sql.drop m.span.start).take "->>".toList.length = "->>".toList := by
      have hcut : (m.text sql).take "->>".toList.length = "->>".toList := by
        rw [← hrest, List.take_left]
      rw [Match.text, Text.slice_eq_take_drop, List.take_take, Nat.min_eq_left] at hcut
      · exact hcut
      · rw [h3] at hlen ⊢
        omega
    rw [htake]
    exact Text.sameLetters_refl _
  · have hshape : jsonArrow.shape.opening.1 = "->".toList := by decide
    have hany : m.Of (.anyCase jsonArrow.shape) sql := hm
    have hopen := hany.opening_same
    have hle := hany.opening_le
    rw [hshape] at hopen hle
    have h2 : "->".toList.length = 2 := by decide
    exact ⟨⟨by simp only [h2]; omega, hle⟩, Text.sameLetters_symm hopen⟩

theorem jsonExtraction_sound (h : f ∈ jsonExtraction sql) :
    f.Sound ["heavy-json-extraction", "moderate-json-extraction"] sql := by
  rw [jsonExtraction] at h
  split at h
  · exact absurd h List.not_mem_nil
  · rename_i first rest hall
    have hm : first.Of jsonArrow sql := Pattern.of_mem_all (hall ▸ List.mem_cons_self)
    obtain ⟨hs, hsame⟩ := arrowOf_same hm
    simp only at h
    split at h
    · exact absurd h List.not_mem_nil
    · split at h
      · obtain rfl := List.mem_singleton.mp h
        exact Advice.fragment_sound (a := heavyExtractionAdvice _) List.mem_cons_self hs hsame
      · obtain rfl := List.mem_singleton.mp h
        exact Advice.fragment_sound (a := moderateExtractionAdvice _)
          (List.mem_cons_of_mem _ List.mem_cons_self) hs hsame

/-! ## The first match -/

theorem unnestedColumn_sound (h : f ∈ unnestedColumn sql) :
    f.Sound ["unnest-large-expansion"] sql := by
  rw [unnestedColumn, Option.mem_toList] at h
  obtain ⟨m, hm, rfl⟩ := Option.map_eq_some_iff.mp h
  exact Advice.located_match_sound List.mem_cons_self (Pattern.of_first? hm) (by decide)

theorem recursiveQuery_sound (h : f ∈ recursiveQuery sql) :
    f.Sound ["recursive-cte-no-limit"] sql :=
  adviseFirst_sound List.mem_cons_self (by decide) (List.mem_ite_nil_left.mp h).2

theorem insertSelectStar_sound (h : f ∈ insertSelectStar sql) :
    f.Sound ["insert-select-star"] sql := by
  rw [insertSelectStar] at h
  split at h
  · exact absurd h List.not_mem_nil
  · rename_i insert hfirst
    obtain rfl := eq_of_mem_when h
    exact Advice.located_match_sound List.mem_cons_self (Pattern.of_first? hfirst) (by decide)

/-- The fragment is the keyword in lower case, whatever the spelling in the query. -/
theorem pivot_sound (h : f ∈ pivot sql) : f.Sound ["non-spillable-pivot"] sql := by
  rw [pivot] at h
  split at h
  · exact absurd h List.not_mem_nil
  · rename_i m hfirst
    obtain rfl := eq_of_mem_unless h
    have hm : m.Of (.anyCase (Shape.keyword "pivot")) sql := Pattern.of_first? hfirst
    have hopen : (Shape.keyword "pivot").opening = ("pivot".toList, true) := by decide
    have hstop := hm.stop_eq_of_full (by rw [hopen])
    have hsame := hm.opening_same
    simp only [hopen] at hstop hsame
    refine Advice.fragment_sound (a := pivotAdvice) List.mem_cons_self
      (hm.standsIn (by decide)) ?_
    rw [Text.slice_eq_take_drop, hstop, Nat.add_sub_cancel_left]
    exact Text.sameLetters_symm hsame

theorem rowNumberFilter_sound (h : f ∈ rowNumberFilter sql) : f.Sound ["use-arg-max"] sql := by
  rw [rowNumberFilter] at h
  split at h
  · exact absurd h List.not_mem_nil
  · rename_i window hfirst
    obtain rfl := eq_of_mem_when h
    have hm : window.Of rowNumberWindow sql := Pattern.of_first? hfirst
    cases hg : window.group? 1 with
    | none => exact Advice.unplaced_sound (a := rowNumberAdvice) List.mem_cons_self none
    | some s =>
      obtain ⟨-, -, hstop, hfull⟩ := hm.group_within hg
      have hs : s.StandsIn sql := ⟨hfull (by decide), Nat.le_trans hstop hm.stop_le_length⟩
      exact Advice.located_sound (a := rowNumberAdvice) List.mem_cons_self hs

theorem chainedSelectStar_sound (h : f ∈ chainedSelectStar sql) :
    f.Sound ["chained-select-star"] sql := by
  have hfinal := (List.mem_ite_nil_left.mp h).2
  rw [Option.mem_toList] at hfinal
  obtain ⟨m, hm, rfl⟩ := Option.map_eq_some_iff.mp hfinal
  exact Advice.located_match_sound List.mem_cons_self (Pattern.of_firstFrom? hm) (by decide)

theorem remoteSelectStar_sound (h : f ∈ remoteSelectStar sql) :
    f.Sound ["remote-file-select-star"] sql :=
  adviseFirst_sound List.mem_cons_self (by decide) (List.mem_ite_nil_right.mp h).2

theorem remoteWithoutFilter_sound (h : f ∈ remoteWithoutFilter sql) :
    f.Sound ["read-remote-no-filter"] sql :=
  adviseFirst_sound List.mem_cons_self (by decide) (List.mem_ite_nil_left.mp h).2

theorem partitionedPath_sound (h : f ∈ partitionedPath sql) :
    f.Sound ["read-parquet-no-hive"] sql :=
  adviseFirst_sound List.mem_cons_self (by decide) (List.mem_ite_nil_left.mp h).2

theorem localTransfer_sound (h : f ∈ localTransfer sql) :
    f.Sound ["md-local-remote-transfer"] sql :=
  adviseFirst_sound List.mem_cons_self (by decide) (List.mem_ite_nil_right.mp h).2

theorem mixedTimestamps_sound (h : f ∈ mixedTimestamps sql) :
    f.Sound ["timestamp-vs-timestamptz"] sql :=
  adviseFirst_sound List.mem_cons_self (by decide) (List.mem_ite_nil_right.mp h).2

end QueryLint.Checks

import QueryLint.Proofs.Analysis.Emission
import QueryLint.Proofs.Finding.Occurrence

/-! The place that is printed for a finding and the ranges that are highlighted for it. Main
statement: `agrees_iff_of_mem_findings`, the first highlight begins at the place that is printed just
where the fragment stands nowhere before the offset. -/
namespace QueryLint
set_option autoImplicit false
open Checks

/-! ## Highlights and printed places -/

def Text.printed (t : Text) (position : Int) : String :=
  toString (Text.lineColumn t position).1 ++ ":" ++ toString (Text.lineColumn t position).2

namespace Finding

variable {t : Text} {f : Finding} {r : TextRange} {w : Text}

/-- The place that is printed for a finding with a fragment is where its first highlight begins. -/
def Agrees (t : Text) (f : Finding) : Prop :=
  ∀ r w, f.offset = some r → f.fragment = some w →
    ∃ first rest, f.highlights t = first :: rest ∧ first.start = r.start ∧
      f.place t = t.printed first.start

/-- The fragment of a finding stands nowhere before its offset. -/
def StandsFirst (t : Text) (f : Finding) : Prop :=
  ∀ r w, f.offset = some r → f.fragment = some w → ∀ i : Nat, i < r.start → ¬t.HasAt w i

theorem place_of_offset (h : f.offset = some r) : f.place t = t.printed r.start := by
  rw [place, range?, h]
  rfl

theorem exists_highlights_eq_cons (hw : f.fragment = some w) {s : Span}
    (hs : occurrence? t w = some s) : ∃ rest, f.highlights t = s.toRange :: rest := by
  have hne : w ≠ [] := by
    rintro rfl
    exact nomatch hs
  have hliteral : f.literal? = some w := by
    rw [literal?, hw, Option.filter_some, if_pos]
    simpa using hne
  obtain ⟨rest, hrest⟩ := List.head?_eq_some_iff.mp ((occurrences_head? t w).trans hs)
  refine ⟨rest.map Span.toRange, ?_⟩
  rw [highlights, hliteral]
  simp only [hrest, List.map_cons, List.isEmpty_cons]
  rfl

/-- A finding that stands in the beginning of a text stands in the text. -/
theorem StandsIn.hasAt {n : Nat} (h : f.StandsIn (t.take n)) (hr : f.offset = some r)
    (hw : f.fragment = some w) : 0 ≤ r.start ∧ w ≠ [] ∧ t.HasAt w r.start.toNat := by
  obtain ⟨hstart, hlt, hstop, hsame⟩ := h r hr
  obtain ⟨hlength, hsame⟩ := hsame w hw
  refine ⟨hstart, ?_, ?_⟩
  · rintro rfl
    rw [List.length_nil] at hlength
    omega
  · have hle : r.stop.toNat ≤ n := by
      rw [List.length_take] at hstop
      omega
    have htaken : r.stop.toNat - r.start.toNat = w.length := by omega
    rw [Text.slice, List.take_take, Nat.min_eq_left hle, List.drop_take, htaken] at hsame
    exact Text.sameLetters_symm hsame

/-- There is a highlight, the first one begins at the offset or before, and it begins at the offset
if the fragment stands nowhere before. -/
theorem StandsIn.highlights {n : Nat} (h : f.StandsIn (t.take n)) (hr : f.offset = some r)
    (hw : f.fragment = some w) : ∃ first rest, f.highlights t = first :: rest ∧
      first.start ≤ r.start ∧ (first.start = r.start ↔ ∀ i : Nat, i < r.start → ¬t.HasAt w i) := by
  obtain ⟨hstart, hne, hat⟩ := h.hasAt hr hw
  obtain ⟨s, hs, hle⟩ := exists_occurrence?_of_hasAt hat hne
  obtain ⟨rest, hrest⟩ := exists_highlights_eq_cons hw hs
  refine ⟨s.toRange, rest, hrest, ?_, ?_⟩
  · show (s.start : Int) ≤ r.start
    omega
  · show (s.start : Int) = r.start ↔ _
    constructor
    · intro heq i hi hearlier
      -- The search would have come up with an earlier place.
      obtain ⟨s', hs', hle'⟩ := exists_occurrence?_of_hasAt hearlier hne
      obtain rfl := Option.some.inj (hs.symm.trans hs')
      omega
    · intro hnone
      have hfirst := hasAt_of_occurrence? hs
      by_contra hne'
      exact hnone s.start (by omega) hfirst

theorem StandsIn.agrees_iff {n : Nat} (h : f.StandsIn (t.take n)) : f.Agrees t ↔ f.StandsFirst t := by
  constructor
  · intro hagrees r w hr hw
    obtain ⟨first, rest, hfirst, heq, -⟩ := hagrees r w hr hw
    obtain ⟨first', rest', hfirst', -, hiff⟩ := h.highlights hr hw
    obtain ⟨rfl, -⟩ := List.cons.inj (hfirst.symm.trans hfirst')
    exact hiff.mp heq
  · intro hstands r w hr hw
    obtain ⟨first, rest, hfirst, -, hiff⟩ := h.highlights hr hw
    have heq := hiff.mpr (hstands r w hr hw)
    exact ⟨first, rest, hfirst, heq, by rw [heq, place_of_offset hr]⟩

end Finding

namespace Analysis

/-- The place that is printed for a finding is where its first highlight begins just where the
fragment stands nowhere before; in any case there is a highlight, and the first one begins no later
than the offset. -/
theorem agrees_iff_of_mem_findings (config : Config) (parser : Option Parser) (asked : Nat)
    (sql : Text) : ∀ f ∈ (byParser config parser asked sql).result.findings,
      (f.Agrees (Text.trim sql) ↔ f.StandsFirst (Text.trim sql)) ∧
        ∀ r w, f.offset = some r → f.fragment = some w →
          f.place (Text.trim sql) = (Text.trim sql).printed r.start ∧
          ∃ first rest, f.highlights (Text.trim sql) = first :: rest ∧ first.start ≤ r.start := by
  intro f hf
  rw [findings_byParser] at hf
  have hemitted := (Finding.distinct_sublist _).subset (mem_enabled.mp hf).2
  have hstands : f.StandsIn (scope config sql) := (mem_emitted_sound hemitted).standsIn
  refine ⟨hstands.agrees_iff, fun r w hr hw => ⟨Finding.place_of_offset hr, ?_⟩⟩
  obtain ⟨first, rest, hfirst, hle, -⟩ := hstands.highlights hr hw
  exact ⟨first, rest, hfirst, hle⟩

theorem list_call_agrees :
    (listAggregateAdvice 1).quoting "select list(a) from t".toList ⟨⟨7, 12⟩, []⟩
        ∈ (byParser .standard none 0 "select list(a) from t".toList).result.findings ∧
      ((listAggregateAdvice 1).quoting "select list(a) from t".toList ⟨⟨7, 12⟩, []⟩).Agrees
        (Text.trim "select list(a) from t".toList) := by
  have hmem : (listAggregateAdvice 1).quoting "select list(a) from t".toList ⟨⟨7, 12⟩, []⟩
      ∈ (byParser .standard none 0 "select list(a) from t".toList).result.findings := by
    decide +kernel
  refine ⟨hmem, (agrees_iff_of_mem_findings .standard none 0 _ _ hmem).1.mpr ?_⟩
  intro r w hr hw i hi
  obtain rfl := Option.some.inj hr
  obtain rfl := Option.some.inj hw
  have hnone : ∀ i < 7, ¬Text.HasAt (Text.trim "select list(a) from t".toList) "list(".toList i := by
    decide +kernel
  exact hnone i (Int.ofNat_lt.mp hi)

/-- A PIVOT after an UNPIVOT: what is highlighted first is a part of the other word. -/
theorem pivot_after_unpivot_disagrees :
    let sql := "unpivot a; pivot b on c using sum(d)".toList
    ∃ f ∈ (byParser .standard none 0 sql).result.findings, ¬f.Agrees (Text.trim sql) := by
  intro sql
  let f := pivotAdvice.finding (some "pivot".toList) (some ⟨11, 16⟩)
  have hmem : f ∈ (byParser .standard none 0 sql).result.findings := by decide +kernel
  have hhighlights : f.highlights (Text.trim sql) = [⟨2, 7⟩, ⟨11, 16⟩] := by decide +kernel
  refine ⟨f, hmem, fun h => ?_⟩
  obtain ⟨first, rest, hfirst, hstart, -⟩ := h _ _ rfl rfl
  obtain ⟨rfl, -⟩ := List.cons.inj (hhighlights.symm.trans hfirst)
  exact absurd hstart (by decide)

end Analysis
end QueryLint

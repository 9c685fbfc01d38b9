import QueryLint.Proofs.Report.RoundTrip
import QueryLint.Report.Document

/-! What the JSON document of a report tells. Main statement: `read_json`, the text reads back as
the document, and two reports have the same text just where they tell the same. -/
namespace QueryLint
set_option autoImplicit false

theorem Severity.name_inj {s s' : Severity} (hs : s ∈ levels) (hs' : s' ∈ levels)
    (h : s.name = s'.name) : s = s' := by
  simp only [levels, List.mem_cons, List.not_mem_nil, or_false] at hs hs'
  rcases hs with rfl | rfl | rfl <;> rcases hs' with rfl | rfl | rfl <;> revert h <;> decide

namespace Report
open JsonValue (Keyed)

/-! ## Keys -/

theorem setCount_keys (entries : List (String × Nat)) (key : String) (count : Nat) :
    (setCount entries key count).map Prod.fst
      = if key ∈ entries.map Prod.fst then entries.map Prod.fst
        else entries.map Prod.fst ++ [key] := by
  have hany : (entries.any fun e => e.1 == key) = true ↔ key ∈ entries.map Prod.fst := by simp
  rw [setCount]
  by_cases h : key ∈ entries.map Prod.fst
  · rw [if_pos (hany.mpr h), if_pos h, List.map_map]
    apply List.map_congr_left
    intro e _
    by_cases he : e.1 = key <;> simp [he]
  · rw [if_neg fun hc => h (hany.mp hc), if_neg h]
    simp

theorem setCount_nodup {entries : List (String × Nat)} (h : (entries.map Prod.fst).Nodup)
    (key : String) (count : Nat) : ((setCount entries key count).map Prod.fst).Nodup := by
  rw [setCount_keys]
  split
  · exact h
  · rename_i hnew
    have hapart : ∀ a ∈ entries.map Prod.fst, ∀ b ∈ [key], a ≠ b := by
      simpa using fun a ha => ne_of_mem_of_not_mem ha hnew
    exact List.nodup_append.mpr ⟨h, by simp, hapart⟩

theorem summary_nodup (findings : List Finding) : ((summary findings).map Prod.fst).Nodup := by
  rw [summary]
  have hstart : ([("total", findings.length)].map Prod.fst).Nodup := by simp
  generalize [("total", findings.length)] = entries at hstart
  induction Finding.counts findings generalizing entries with
  | nil => exact hstart
  | cons c rest ih => exact ih _ (setCount_nodup hstart c.1.name c.2)

theorem jsonText_keyed (s : Option String) : (jsonText s).Keyed := by
  cases s with
  | none => exact .null
  | some s => exact .text s

theorem jsonRange_keyed (r : TextRange) : (jsonRange r).Keyed := by
  refine .object (by simp) ?_
  simp [Keyed.number]

theorem jsonFinding_keyed (sql : Text) (f : Finding) : (jsonFinding sql f).Keyed := by
  have hoffset : ((f.offset.map jsonRange).getD .null).Keyed := by
    cases f.offset with
    | none => exact .null
    | some r => exact jsonRange_keyed r
  have hhighlights : (JsonValue.array ((f.highlights sql).map jsonRange)).Keyed :=
    .array (by simpa using fun r _ => jsonRange_keyed r)
  refine .object (by simp) ?_
  simp [Keyed.text, jsonText_keyed, hoffset, hhighlights]

theorem summary_keyed (findings : List Finding) {entry : String × Nat → JsonEntry}
    (hentry : ∀ c, entry c = ⟨c.1, .number c.2⟩) :
    (JsonValue.object ((summary findings).map entry)).Keyed := by
  obtain rfl : entry = fun c => ⟨c.1, .number c.2⟩ := funext hentry
  refine .object ?_ fun e he => ?_
  · simpa [List.map_map, Function.comp_def] using summary_nodup findings
  · obtain ⟨c, _, rfl⟩ := List.mem_map.mp he
    exact .number c.2

theorem document_keyed (time : String) (s : Subject) : (document time s).Keyed := by
  have hmetadata : (JsonValue.object [⟨"tool", .text toolName⟩, ⟨"version", .text toolVersion⟩,
      ⟨"generated_at", .text time⟩, ⟨"source", .text s.source⟩,
      ⟨"query_length", .number s.sql.length⟩]).Keyed := by
    refine .object (by simp) ?_
    simp [Keyed.text, Keyed.number]
  have hfindings : (JsonValue.array (s.result.findings.map (jsonFinding s.sql))).Keyed :=
    .array (by simpa using fun f _ => jsonFinding_keyed s.sql f)
  refine .object (by simp) ?_
  simp only [List.forall_mem_cons]
  exact ⟨hmetadata, jsonText_keyed _, summary_keyed _ fun _ => rfl, hfindings, by simp⟩

/-! ## What values tell -/

theorem jsonText_inj {s s' : Option String} : jsonText s = jsonText s' ↔ s = s' := by
  cases s <;> cases s' <;> simp [jsonText]

theorem jsonRange_inj {r r' : TextRange} : jsonRange r = jsonRange r' ↔ r = r' := by
  cases r
  cases r'
  simp [jsonRange]

theorem jsonRanges_inj {l l' : List TextRange} : l.map jsonRange = l'.map jsonRange ↔ l = l' :=
  List.map_inj_right fun _ _ => jsonRange_inj.mp

theorem jsonOffset_inj {r r' : Option TextRange} :
    (r.map jsonRange).getD .null = (r'.map jsonRange).getD .null ↔ r = r' := by
  cases r <;> cases r' <;> simp [jsonRange_inj] <;> simp [jsonRange]

theorem jsonFragment_inj {t t' : Option Text} :
    jsonText (t.map String.ofList) = jsonText (t'.map String.ofList) ↔ t = t' := by
  rw [jsonText_inj]
  exact (Option.map_injective fun _ _ h => String.ofList_injective h).eq_iff

theorem jsonFinding_inj {sql sql' : Text} {f g : Finding} (hf : f.severity ∈ Severity.levels)
    (hg : g.severity ∈ Severity.levels) :
    jsonFinding sql f = jsonFinding sql' g ↔ f = g ∧ f.highlights sql = g.highlights sql' := by
  constructor
  · intro h
    simp only [jsonFinding, JsonValue.object.injEq, List.cons.injEq, JsonEntry.mk.injEq, true_and,
      JsonValue.text.injEq, JsonValue.array.injEq, jsonFragment_inj, jsonOffset_inj, jsonRanges_inj,
      and_true] at h
    obtain ⟨hrule, hseverity, htitle, hmessage, hsuggestion, hcategory, hfragment, hoffset,
      hplaces⟩ := h
    have hlevel := Severity.name_inj hf hg hseverity
    refine ⟨?_, hplaces⟩
    cases f
    cases g
    rw [Finding.mk.injEq]
    exact ⟨hrule, hlevel, htitle, hmessage, hsuggestion, hcategory, hfragment, hoffset⟩
  · rintro ⟨rfl, hplaces⟩
    simp only [jsonFinding, hplaces]

theorem jsonFindings_inj {sql sql' : Text} {l l' : List Finding}
    (hl : ∀ f ∈ l, f.severity ∈ Severity.levels) (hl' : ∀ f ∈ l', f.severity ∈ Severity.levels) :
    l.map (jsonFinding sql) = l'.map (jsonFinding sql') ↔
      l = l' ∧ l.map (·.highlights sql) = l'.map (·.highlights sql') := by
  induction l generalizing l' with
  | nil => cases l' <;> simp
  | cons f rest ih =>
    cases l' with
    | nil => simp
    | cons g rest' =>
      have hfirst := @jsonFinding_inj sql sql' f g (hl f (by simp)) (hl' g (by simp))
      have hothers := @ih rest' (fun h hh => hl h (List.mem_cons_of_mem f hh))
        fun h hh => hl' h (List.mem_cons_of_mem g hh)
      simp only [List.map_cons, List.cons.injEq, hfirst, hothers]
      tauto

/-! ## Reports -/

def Subject.Leveled (s : Subject) : Prop := ∀ f ∈ s.result.findings, f.severity ∈ Severity.levels

/-- The ranges to highlight for each finding. -/
def Subject.highlights (s : Subject) : List (List TextRange) :=
  s.result.findings.map (·.highlights s.sql)

theorem document_inj {time time' : String} {s s' : Subject} (hs : s.Leveled) (hs' : s'.Leveled) :
    document time s = document time' s' ↔
      time = time' ∧ s.source = s'.source ∧ s.sql.length = s'.sql.length ∧ s.result = s'.result ∧
        s.highlights = s'.highlights := by
  constructor
  · intro h
    simp only [document, JsonValue.object.injEq, List.cons.injEq, JsonEntry.mk.injEq, true_and,
      JsonValue.text.injEq, JsonValue.number.injEq, JsonValue.array.injEq, jsonText_inj,
      jsonFindings_inj hs hs', Int.natCast_inj, and_true] at h
    obtain ⟨⟨htime, hsource, hlength⟩, herror, -, hfindings, hhighlights⟩ := h
    have hresult : s.result = s'.result := by
      rcases s with ⟨⟨findings, parseError⟩, _, _⟩
      rcases s' with ⟨⟨findings', parseError'⟩, _, _⟩
      exact congrArg₂ AnalysisResult.mk hfindings herror
    exact ⟨htime, hsource, hlength, hresult, hhighlights⟩
  · rintro ⟨rfl, hsource, hlength, hresult, hhighlights⟩
    have hfindings : s.result.findings.map (jsonFinding s.sql)
        = s'.result.findings.map (jsonFinding s'.sql) :=
      (jsonFindings_inj hs hs').mpr ⟨by rw [hresult], hhighlights⟩
    simp only [document, hsource, hlength, hfindings]
    rw [hresult]

theorem read_json (time : String) (s : Subject) :
    JsonValue.read (json time s).toList = some (document time s) ∧
      ∀ (time' : String) (s' : Subject), s.Leveled → s'.Leveled →
        (json time s = json time' s' ↔
          time = time' ∧ s.source = s'.source ∧ s.sql.length = s'.sql.length ∧
            s.result = s'.result ∧ s.highlights = s'.highlights) := by
  have hread : ∀ time s, JsonValue.read (json time s).toList = some (document time s) := by
    intro time s
    rw [json, JsonValue.toText, String.toList_ofList]
    exact JsonValue.read_render (document_keyed time s) 0
  refine ⟨hread time s, fun time' s' hs hs' => ?_⟩
  rw [← document_inj hs hs']
  constructor
  · intro h
    have hsame := hread time s
    rw [h, hread time' s'] at hsame
    exact (Option.some.inj hsame).symm
  · intro h
    rw [json, json, h]

/-- A report of one finding that stands nowhere in the text. -/
def lone (message : String) : Subject where
  result := ⟨[⟨"rule", .warning, "\\u", message, "", "\t", none, some ⟨-3, 7⟩⟩], some "\x00"⟩
  sql := ['é', '"']
  source := "a\\b"

theorem read_json_break :
    (lone "\n").Leveled ∧ (lone "\\n").Leveled ∧
      JsonValue.read (json "" (lone "\n")).toList = some (document "" (lone "\n")) ∧
      json "" (lone "\n") ≠ json "" (lone "\\n") := by
  have hbreak : (lone "\n").Leveled := by simp [Subject.Leveled, lone, Severity.levels]
  have hletter : (lone "\\n").Leveled := by simp [Subject.Leveled, lone, Severity.levels]
  have hread := read_json "" (lone "\n")
  refine ⟨hbreak, hletter, hread.1, fun h => ?_⟩
  have hresult := ((hread.2 "" (lone "\\n") hbreak hletter).mp h).2.2.2.1
  simp [lone] at hresult

end Report
end QueryLint

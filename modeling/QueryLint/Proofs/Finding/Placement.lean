import QueryLint.Checks.Basic
import QueryLint.Proofs.Finding.Occurrence

/-! Findings that say the truth about where they stand and which rule they are of, and the ways in
which advice becomes such a finding. -/
namespace QueryLint
set_option autoImplicit false

/-- The offset is a stretch of the text, and a fragment that comes with it is what stands there,
letter case aside. -/
def Finding.StandsIn (t : Text) (f : Finding) : Prop :=
  ∀ r, f.offset = some r → 0 ≤ r.start ∧ r.start < r.stop ∧ r.stop ≤ t.length ∧
    ∀ w, f.fragment = some w → r.stop - r.start = w.length ∧
      Text.sameLetters (t.slice ⟨r.start.toNat, r.stop.toNat⟩) w = true

/-- A finding of one of the rules that stands in the text. -/
structure Finding.Sound (rules : List String) (t : Text) (f : Finding) : Prop where
  rule_mem : f.rule ∈ rules
  standsIn : f.StandsIn t

/-- Whatever the check finds is of its own rules and stands in the text that was checked. -/
def TextCheck.Sound (c : TextCheck) : Prop :=
  ∀ sql findings, c.run sql = .ok findings → ∀ f ∈ findings, f.Sound c.rules sql

/-- Whatever the check finds in any query is of its own rules and stands in the text. -/
def TreeCheck.Sound (c : TreeCheck) : Prop :=
  ∀ q sql, ∀ f ∈ c.run q sql, f.Sound c.rules sql

/-! ## Occurrences of a literal -/

/-- The first occurrence of a literal is a stretch of the text with its letters. -/
theorem occurrence?_same {t literal : Text} {s : Span} (h : occurrence? t literal = some s) :
    s.StandsIn t ∧ Text.sameLetters (t.slice s) literal = true := by
  obtain ⟨hne, m, hm, rfl⟩ := exists_match_of_occurrence? h
  obtain ⟨hstop, hat⟩ := (Pattern.of_first? hm).span_literal
  have hpos := List.length_pos_iff.mpr hne
  have hsame := Text.hasAt_iff_slice.mp hat
  rw [← hstop] at hsame
  exact ⟨⟨by omega, hstop ▸ hat.add_length_le hne⟩, hsame⟩

/-! ## Advice -/

namespace Advice

variable {a : Advice} {rules : List String} {t : Text}

theorem unplaced_sound (ha : a.rule ∈ rules) (fragment : Option Text) :
    (a.finding fragment none).Sound rules t :=
  ⟨ha, fun _ h => absurd h (by simp [finding])⟩

theorem overall_sound (ha : a.rule ∈ rules) : a.overall.Sound rules t := unplaced_sound ha none

theorem finding_sound (ha : a.rule ∈ rules) {s : Span} (hs : s.StandsIn t) {fragment : Option Text}
    (hfragment : ∀ w ∈ fragment, Text.sameLetters (t.slice s) w = true) :
    (a.finding fragment (some s)).Sound rules t := by
  refine ⟨ha, ?_⟩
  intro r hr
  obtain rfl : s.toRange = r := Option.some.inj hr
  obtain ⟨hlt, hle⟩ := hs
  refine ⟨Int.natCast_nonneg _, by simpa [Span.toRange] using hlt,
    by simpa [Span.toRange] using hle, ?_⟩
  intro w hw
  have hsame := hfragment w hw
  have hlen := Text.length_eq_of_sameLetters hsame
  rw [Text.length_slice hle] at hlen
  refine ⟨?_, hsame⟩
  simp only [Span.toRange]
  omega

theorem located_sound (ha : a.rule ∈ rules) {s : Span} (hs : s.StandsIn t) :
    (a.located s).Sound rules t :=
  finding_sound ha hs fun _ hw => nomatch hw

theorem fragment_sound (ha : a.rule ∈ rules) {s : Span} (hs : s.StandsIn t) {w : Text}
    (hw : Text.sameLetters (t.slice s) w = true) : (a.finding (some w) (some s)).Sound rules t :=
  finding_sound ha hs fun _ hw' => Option.some.inj hw' ▸ hw

/-- A finding at the first occurrence of a literal, if there is any, with the literal in another
spelling as its fragment. -/
theorem occurrence_sound (ha : a.rule ∈ rules) {literal w : Text}
    (hw : Text.sameLetters literal w = true) :
    (a.finding (some w) (occurrence? t literal)).Sound rules t := by
  cases h : occurrence? t literal with
  | none => exact unplaced_sound ha (some w)
  | some s =>
    obtain ⟨hs, hsame⟩ := occurrence?_same h
    exact fragment_sound ha hs (Text.sameLetters_trans hsame hw)

variable {p : Pattern} {m : Match}

theorem located_match_sound (ha : a.rule ∈ rules) (hm : m.Of p t) (hp : 0 < p.shape.least) :
    (a.located m.span).Sound rules t := located_sound ha (hm.standsIn hp)

theorem quoting_sound (ha : a.rule ∈ rules) (hm : m.Of p t) (hp : 0 < p.shape.least) :
    (a.quoting t m).Sound rules t :=
  fragment_sound ha (hm.standsIn hp) (Text.sameLetters_refl _)

/-- A match in a piece of the text, moved to where the piece begins. -/
theorem shifted_sound (ha : a.rule ∈ rules) {piece : Text} {base : Nat} (hm : m.Of p piece)
    (hp : 0 < p.shape.least) (hbase : base + piece.length ≤ t.length) :
    (a.located (m.span.shift base)).Sound rules t :=
  located_sound ha ((hm.standsIn hp).shift hbase)

end Advice

/-! ## Checks that report the first match -/

section FirstMatch

variable {p : Pattern} {a : Advice} {rules : List String} {sql : Text} {f : Finding}

theorem adviseFirst_sound (ha : a.rule ∈ rules) (hp : 0 < p.shape.least)
    (h : f ∈ adviseFirst p a sql) : f.Sound rules sql := by
  rw [adviseFirst, Option.mem_toList] at h
  obtain ⟨m, hm, rfl⟩ := Option.map_eq_some_iff.mp h
  exact Advice.located_match_sound ha (Pattern.of_first? hm) hp

theorem quoteFirst_sound (ha : a.rule ∈ rules) (hp : 0 < p.shape.least)
    (h : f ∈ quoteFirst p a sql) : f.Sound rules sql := by
  rw [quoteFirst, Option.mem_toList] at h
  obtain ⟨m, hm, rfl⟩ := Option.map_eq_some_iff.mp h
  exact Advice.quoting_sound ha (Pattern.of_first? hm) hp

end FirstMatch
end QueryLint

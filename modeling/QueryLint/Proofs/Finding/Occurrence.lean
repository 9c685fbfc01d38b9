import Mathlib.Data.List.Nodup
import QueryLint.Proofs.Pattern.Escape
import QueryLint.Proofs.Pattern.Leftmost
import QueryLint.Proofs.Sql.Call
import QueryLint.Proofs.Text.Variant

/-! The stretches of a text where a word occurs. Main statement: `occurrences_leftmost`, they are the
one list of separate stretches that finds every place of the word, and signs of operators in the word
stand for themselves. -/
namespace QueryLint
set_option autoImplicit false

/-! ## Places of a word -/

section Places

variable {t w : Text} {i : Nat}

theorem Text.HasAt.add_length_le (h : t.HasAt w i) (hw : w ≠ []) : i + w.length ≤ t.length := by
  have hlength := Text.length_eq_of_sameLetters h
  have hpos := List.length_pos_iff.mpr hw
  rw [List.length_take, List.length_drop] at hlength
  omega

theorem Text.hasAt_iff_slice :
    t.HasAt w i ↔ Text.sameLetters (t.slice ⟨i, i + w.length⟩) w = true := by
  rw [Text.slice_eq_take_drop, Nat.add_sub_cancel_left]
  exact ⟨Text.sameLetters_symm, Text.sameLetters_symm⟩

/-- Where a word stands, each of its characters does, letter case aside. -/
theorem Text.HasAt.exists_getElem? (h : t.HasAt w i) {k : Nat} {c : Char} (hc : w[k]? = some c) :
    ∃ d, t[i + k]? = some d ∧ Text.sameLetter c d = true := by
  have hk : k < w.length := (List.getElem?_eq_some_iff.mp hc).1
  have hfold := congrArg (·[k]?) (Text.sameLetters_iff.mp h)
  simp only [List.getElem?_map, hc, List.getElem?_take_of_lt hk, List.getElem?_drop,
    Option.map_some] at hfold
  obtain ⟨d, hd, hsame⟩ := Option.map_eq_some_iff.mp hfold.symm
  exact ⟨d, hd, Text.sameLetter_iff.mpr hsame.symm⟩

/-- Where a word stands, a match of its letters begins. -/
theorem Text.HasAt.exists_matchAt? (h : t.HasAt w i) (hw : w ≠ []) : ∃ c : Cursor,
    c.InText t ∧ c.position = i ∧ ∃ m, (Pattern.literal w).matchAt? c = some m := by
  have hle := h.add_length_le hw
  have hin := Cursor.seek_inText t i
  have hposition : (Cursor.seek t i).position = i := by
    simp only [Cursor.seek, List.length_take]
    omega
  rw [← hposition, ← Pattern.matchAt?_literal hin] at h
  exact ⟨_, hin, hposition, Option.isSome_iff_exists.mp h⟩

/-- A match of the letters of a word covers the word and nothing else. -/
theorem Match.Of.span_literal {m : Match} (h : m.Of (.literal w) t) :
    m.span.stop = m.span.start + w.length ∧ t.HasAt w m.span.start := by
  have hof : m.Of (.anyCase (Shape.chars w)) t := h
  have hopening := Shape.opening_chars w
  have hstop := hof.stop_eq_of_full (by rw [hopening])
  have hsame := hof.opening_same
  rw [hopening] at hstop hsame
  exact ⟨hstop, hsame⟩

end Places

/-! ## The first occurrence -/

section Occurrences

variable {t w : Text} {i : Nat} {s : Span}

theorem exists_match_of_occurrence? (h : occurrence? t w = some s) :
    w ≠ [] ∧ ∃ m, (Pattern.literal w).first? t = some m ∧ m.span = s := by
  rw [occurrence?] at h
  split at h
  · exact nomatch h
  · rename_i hw
    exact ⟨fun hnil => hw (List.isEmpty_iff.mpr hnil), Option.map_eq_some_iff.mp h⟩

theorem hasAt_of_occurrence? (h : occurrence? t w = some s) : t.HasAt w s.start := by
  obtain ⟨-, m, hm, rfl⟩ := exists_match_of_occurrence? h
  exact (Pattern.of_first? hm).span_literal.2

/-- A word that stands somewhere is found there or before. -/
theorem exists_occurrence?_of_hasAt (h : t.HasAt w i) (hw : w ≠ []) :
    ∃ s, occurrence? t w = some s ∧ s.start ≤ i := by
  obtain ⟨c, hin, rfl, m, hm⟩ := h.exists_matchAt? hw
  obtain ⟨m', hm'⟩ := Pattern.exists_first?_of_matchAt? hin hm
  refine ⟨m'.span, ?_, Pattern.start_le_of_first? hm' hin (by rw [hm]; rfl)⟩
  rw [occurrence?, if_neg (List.isEmpty_iff.not.mpr hw), hm', Option.map_some]

theorem occurrences_head? (t w : Text) : (occurrences t w).head? = occurrence? t w := by
  unfold occurrences occurrence?
  split
  · rfl
  · rw [List.head?_map, Pattern.all_head?]

end Occurrences

/-! ## Listings -/

/-- A list of separate stretches, from left to right, that have the letters of a word. Each place of the
word is the start of one of them or lies within one that starts before. -/
structure Listing (t w : Text) (spans : List Span) : Prop where
  apart : spans.Pairwise fun a b => a.start < b.start ∧ a.stop ≤ b.start
  same : ∀ s ∈ spans, s.stop = s.start + w.length ∧ s.stop ≤ t.length ∧
    Text.sameLetters (t.slice s) w = true
  complete : ∀ i, t.HasAt w i → ∃ s ∈ spans, s.start = i ∨ s.start < i ∧ i < s.stop

namespace Listing

variable {t w : Text} {spans spans' : List Span} {s s' : Span}

theorem hasAt (h : Listing t w spans) (hs : s ∈ spans) : t.HasAt w s.start := by
  obtain ⟨hstop, -, hsame⟩ := h.same s hs
  rw [Text.hasAt_iff_slice, ← hstop]
  exact hsame

theorem eq_of_start (h : Listing t w spans) (h' : Listing t w spans') (hs : s ∈ spans)
    (hs' : s' ∈ spans') (hstart : s.start = s'.start) : s = s' := by
  have hstop := (h.same s hs).1
  have hstop' := (h'.same s' hs').1
  cases s
  cases s'
  simp_all

theorem stop_le (h : Listing t w spans) (hs : s ∈ spans) (hs' : s' ∈ spans)
    (hlt : s.start < s'.start) : s.stop ≤ s'.start := by
  obtain ⟨i, hi, rfl⟩ := List.getElem_of_mem hs
  obtain ⟨j, hj, rfl⟩ := List.getElem_of_mem hs'
  have hapart := List.pairwise_iff_getElem.mp h.apart
  rcases Nat.lt_trichotomy i j with hij | rfl | hji
  · exact (hapart i j hi hj hij).2
  · exact absurd hlt (Nat.lt_irrefl _)
  · exact absurd hlt (Nat.lt_asymm (hapart j i hj hi hji).1)

theorem mem_of_mem (h : Listing t w spans) (h' : Listing t w spans') (hs : s ∈ spans) :
    s ∈ spans' := by
  -- By induction on where it starts: what would reach over it from before is in both listings.
  induction hn : s.start using Nat.strongRecOn generalizing s spans spans' with
  | ind n ih =>
    subst hn
    obtain ⟨s', hs', hstart | ⟨hbefore, hover⟩⟩ := h'.complete s.start (h.hasAt hs)
    · rwa [h.eq_of_start h' hs hs' hstart.symm]
    · have hmem : s' ∈ spans := ih s'.start hbefore h' h hs' rfl
      exact absurd (h.stop_le hmem hs hbefore) (Nat.not_le_of_lt hover)

theorem nodup (h : Listing t w spans) : spans.Nodup :=
  h.apart.imp fun hab heq => absurd (heq ▸ hab.1) (Nat.lt_irrefl _)

/-- A word has only one listing. -/
theorem eq (h : Listing t w spans) (h' : Listing t w spans') : spans = spans' := by
  have hperm : spans.Perm spans' :=
    (List.perm_ext_iff_of_nodup h.nodup h'.nodup).mpr fun s => ⟨h.mem_of_mem h', h'.mem_of_mem h⟩
  refine hperm.eq_of_pairwise (fun a b _ _ hab hba => ?_) h.apart h'.apart
  exact absurd (Nat.lt_trans hab.1 hba.1) (Nat.lt_irrefl _)

end Listing

theorem listing_occurrences (t : Text) {w : Text} (hw : w ≠ []) : Listing t w (occurrences t w) := by
  have hspan : ∀ m ∈ (Pattern.literal w).all t,
      m.span.stop = m.span.start + w.length ∧ t.HasAt w m.span.start :=
    fun m hm => (Pattern.of_mem_all hm).span_literal
  have hpos := List.length_pos_iff.mpr hw
  rw [occurrences, if_neg (List.isEmpty_iff.not.mpr hw)]
  constructor
  · refine List.pairwise_map.mpr ((Pattern.all_pairwise _ t).imp_of_mem fun ha _ hab => ⟨?_, hab⟩)
    have hstop := (hspan _ ha).1
    omega
  · refine List.forall_mem_map.mpr fun m hm => ?_
    obtain ⟨hstop, hat⟩ := hspan m hm
    have hslice := Text.hasAt_iff_slice.mp hat
    rw [← hstop] at hslice
    exact ⟨hstop, hstop ▸ hat.add_length_le hw, hslice⟩
  · intro i hi
    obtain ⟨c, hin, rfl, m, hm⟩ := hi.exists_matchAt? hw
    obtain ⟨m', hmem, hplace⟩ := Pattern.exists_mem_all hin hm
    refine ⟨m'.span, List.mem_map_of_mem hmem, hplace.imp_left ?_⟩
    rintro rfl
    exact Pattern.start_of_matchAt? hm

/-! ## Signs of operators -/

/-- The sign of an operator has no variants. -/
theorem Text.eq_of_sameLetter_sign {c d : Char} (hc : c ∈ Pattern.operatorSigns)
    (h : Text.sameLetter c d = true) : d = c := by
  have hsigns : ∀ c ∈ Pattern.operatorSigns, c.toNat < 0x80 ∧ c.isAlpha = false :=
    Sql.forall_of_all (by decide)
  obtain ⟨hascii, halpha⟩ := hsigns c hc
  exact Text.eq_of_sameLetter hascii halpha h

theorem Listing.getElem?_sign {t w : Text} {spans : List Span} (h : Listing t w spans) {s : Span}
    (hs : s ∈ spans) {k : Nat} {c : Char} (hsign : c ∈ Pattern.operatorSigns) (hc : w[k]? = some c) :
    t[s.start + k]? = some c := by
  obtain ⟨d, hd, hsame⟩ := (h.hasAt hs).exists_getElem? hc
  rw [hd, Text.eq_of_sameLetter_sign hsign hsame]

/-! ## The listing of a word -/

/-- The occurrences of a word are its listing, the only one there is, and the first occurrence is the
first of them. The sign of an operator occurs as that sign, and the escaped word is read as the pattern
that is looked for. -/
theorem occurrences_leftmost (t : Text) {w : Text} (hw : w ≠ []) :
    Listing t w (occurrences t w) ∧
    (∀ spans, Listing t w spans → spans = occurrences t w) ∧
    occurrence? t w = (occurrences t w).head? ∧
    (occurrence? t w = none ↔ occurrences t w = []) ∧
    (∀ s ∈ occurrences t w, ∀ (k : Nat), ∀ c ∈ Pattern.operatorSigns,
      w[k]? = some c → t[s.start + k]? = some c) ∧
    Pattern.ofWriting? (Pattern.escape w) = some (.literal w) := by
  have hlisting := listing_occurrences t hw
  have hfirst := occurrences_head? t w
  refine ⟨hlisting, fun spans h => h.eq hlisting, hfirst.symm, ?_, ?_, Pattern.ofWriting?_escape w⟩
  · rw [← hfirst, List.head?_eq_none_iff]
  · exact fun s hs k c hsign hc => hlisting.getElem?_sign hs hsign hc

/-- A word between bars: twice with one bar for both, and once more. -/
def barred : Text := "|A|a| b |a|".toList

theorem barred_occurrences :
    "|a|".toList ≠ [] ∧ Listing barred "|a|".toList [⟨0, 3⟩, ⟨8, 11⟩] ∧
      occurrence? barred "|a|".toList = some ⟨0, 3⟩ ∧ barred[8 + 2]? = some '|' := by
  have hw : "|a|".toList ≠ [] := by decide
  have hoccurrences : occurrences barred "|a|".toList = [⟨0, 3⟩, ⟨8, 11⟩] := by decide +kernel
  obtain ⟨hlisting, -, hfirst, -, hsigns, -⟩ := occurrences_leftmost barred hw
  rw [hoccurrences] at hlisting hfirst hsigns
  exact ⟨hw, hlisting, hfirst, hsigns ⟨8, 11⟩ (by decide) 2 '|' (by decide) rfl⟩

end QueryLint

import QueryLint.Proofs.Sql.Keyword
import QueryLint.Proofs.Sql.TableName
import QueryLint.Sql.Vocabulary.Clause

/-! Two words with white space between them, such as ORDER BY. The pattern for a pair matches just where
the words stand, letter case aside, and no word goes on before or after them. Main statements:
`pairAt_of_first?`, a search comes up with the leftmost place; and `PairAt.congr`, a place depends only on
the stretch and on its two neighbours. -/
namespace QueryLint.Sql
set_option autoImplicit false
open Text Shape

/-! ## Pairs -/

/-- Two words one after the other, letter case aside, with white space between them. -/
def IsPair (first second w : Text) : Prop :=
  ∃ u gap v, w = u ++ (gap ++ v) ∧ sameLetters first u = true ∧
    (gap ≠ [] ∧ ∀ c ∈ gap, isBlank c = true) ∧ sameLetters second v = true

theorem takes_pair (first second : String) :
    (pair first second).Takes (IsPair first.toList second.toList) := by
  refine (((takes_chars _).seq takes_space).seq (takes_chars _)).congr fun w => ⟨?_, ?_⟩
  · rintro ⟨_, v, rfl, ⟨u, gap, rfl, hu, hgap⟩, hv⟩
    exact ⟨u, gap, v, List.append_assoc u gap v, hu, hgap, hv⟩
  · rintro ⟨u, gap, v, rfl, hu, hgap, hv⟩
    exact ⟨u ++ gap, v, (List.append_assoc u gap v).symm, ⟨u, gap, rfl, hu, hgap⟩, hv⟩

structure AreNames (first second : String) : Prop where
  first : IsWordName first.toList
  second : IsWordName second.toList

namespace IsPair

variable {first second : String} {w : Text}

theorem ne_nil {first second : Text} (hw : IsPair first second w) : w ≠ [] := by
  obtain ⟨u, gap, v, rfl, -, ⟨hgap, -⟩, -⟩ := hw
  exact fun hnil => hgap (List.append_eq_nil_iff.mp (List.append_eq_nil_iff.mp hnil).2).1

theorem getLast?_isWord (h : AreNames first second) (hw : IsPair first.toList second.toList w)
    (before : Option Char) : (w.getLast?.or before).any isWord = true := by
  obtain ⟨u, gap, v, rfl, -, -, hv⟩ := hw
  have hne := h.second.ne_nil_of_sameLetters hv
  rw [← List.append_assoc, List.getLast?_append_of_ne_nil _ hne, List.getLast?_eq_some_getLast hne]
  exact h.second.isWord_of_sameLetters hv _ (List.getLast_mem hne)

theorem head?_isWord (h : AreNames first second) (hw : IsPair first.toList second.toList w) :
    ∃ c ∈ w.head?, isWord c = true := by
  obtain ⟨u, gap, v, rfl, hu, -, -⟩ := hw
  obtain ⟨c, u, rfl⟩ := List.exists_cons_of_ne_nil (h.first.ne_nil_of_sameLetters hu)
  exact ⟨c, rfl, h.first.isWord_of_sameLetters hu c List.mem_cons_self⟩

theorem isWord_or_isBlank (h : AreNames first second) (hw : IsPair first.toList second.toList w) :
    ∀ c ∈ w, isWord c = true ∨ isBlank c = true := by
  obtain ⟨u, gap, v, rfl, hu, ⟨-, hgap⟩, hv⟩ := hw
  intro c hc
  rcases List.mem_append.mp hc with hc | hc
  · exact .inl (h.first.isWord_of_sameLetters hu c hc)
  · rcases List.mem_append.mp hc with hc | hc
    · exact .inr (hgap c hc)
    · exact .inl (h.second.isWord_of_sameLetters hv c hc)

end IsPair

/-! ## Where a pair stands -/

/-- A pair stands in a stretch of a text, and no word goes on before or after it. -/
structure PairAt (first second t : Text) (s : Span) : Prop where
  stop_le : s.stop ≤ t.length
  words : IsPair first second (t.slice s)
  before : ∀ c ∈ (t.take s.start).getLast?, isWord c = false
  after : WordEnds (t.drop s.stop)

theorem PairAt.start_lt {first second t : Text} {s : Span} (h : PairAt first second t s) :
    s.start < s.stop := by
  have hlength := length_slice h.stop_le
  have hpos := List.length_pos_iff.mpr h.words.ne_nil
  omega

def pairPattern (first second : String) : Pattern := .anyCase (edge ++ pair first second ++ edge)

section Pattern

variable {first second : String} {t : Text}

theorem mem_ends_pairPattern (h : AreNames first second) {p q : Progress} :
    q ∈ (edge ++ pair first second ++ edge).ends true p ↔ (∀ c ∈ p.cursor.before, isWord c = false) ∧
      ∃ w, IsPair first.toList second.toList w ∧ w <+: p.cursor.rest ∧
        WordEnds (p.cursor.rest.drop w.length) ∧ q = p.past w := by
  have hbefore : ∀ {w : Text}, IsPair first.toList second.toList w → w <+: p.cursor.rest →
      (wordEdge p.cursor.before p.cursor.rest.head? = true ↔ ∀ c ∈ p.cursor.before, isWord c = false) := by
    rintro w ⟨u, gap, v, rfl, hu, -, -⟩ hbegins
    exact wordEdge_before_word h.first hu ((List.prefix_append u _).trans hbegins)
  rw [ends_assoc, mem_ends_seq]
  constructor
  · rintro ⟨r, hr, hq⟩
    obtain ⟨hleft, rfl⟩ := mem_ends_edge.mp hr
    obtain ⟨r, hr, hq⟩ := mem_ends_seq.mp hq
    obtain ⟨w, hw, hbegins, rfl⟩ := (takes_pair first second _ _).mp hr
    obtain ⟨hright, rfl⟩ := mem_ends_edge.mp hq
    exact ⟨(hbefore hw hbegins).mp hleft, w, hw, hbegins,
      (wordEdge_of_word (hw.getLast?_isWord h _)).mp hright, rfl⟩
  · rintro ⟨hleft, w, hw, hbegins, hright, rfl⟩
    refine ⟨p, mem_ends_edge.mpr ⟨(hbefore hw hbegins).mpr hleft, rfl⟩, mem_ends_seq.mpr
      ⟨p.past w, (takes_pair first second _ _).mpr ⟨w, hw, hbegins, rfl⟩, mem_ends_edge.mpr ⟨?_, rfl⟩⟩⟩
    exact (wordEdge_of_word (hw.getLast?_isWord h _)).mpr hright

theorem pairAt_of_matchAt? (h : AreNames first second) {c : Cursor} (hc : c.InText t) {m : Match}
    (hm : (pairPattern first second).matchAt? c = some m) :
    PairAt first.toList second.toList t m.span := by
  obtain ⟨q, hq, rfl⟩ := Pattern.exists_end_of_matchAt? hm
  obtain ⟨hbefore, w, hw, hbegins, hafter, rfl⟩ := (mem_ends_pairPattern h).mp hq
  have hslice : t.slice ⟨c.position, c.position + w.length⟩ = w := slice_of_begins (hc.rest_eq ▸ hbegins)
  have hle := hbegins.length_le
  have hlength := hc.length_rest
  refine ⟨?_, ?_, hc.before_eq ▸ hbefore, ?_⟩
  · show c.position + w.length ≤ t.length
    simp only at hle
    omega
  · exact hslice.symm ▸ hw
  · have hrest : t.drop (c.position + w.length) = c.rest.drop w.length := by
      rw [hc.rest_eq, List.drop_drop]
    exact hrest ▸ hafter

theorem isSome_matchAt?_of_pairAt (h : AreNames first second) {s : Span}
    (hs : PairAt first.toList second.toList t s) :
    ((pairPattern first second).matchAt? (Cursor.seek t s.start)).isSome = true := by
  have hlt := hs.start_lt
  obtain ⟨hstop, hw, hbefore, hafter⟩ := hs
  have hlength := length_slice hstop
  have hstart : s.start ≤ t.length := by omega
  have hbegins : t.slice s <+: t.drop s.start := by
    rw [slice_eq_take_drop]
    exact List.take_prefix _ _
  rw [Cursor.seek_eq hstart, Pattern.isSome_matchAt?]
  refine ⟨_, (mem_ends_pairPattern h).mpr ⟨hbefore, t.slice s, hw, hbegins, ?_, rfl⟩⟩
  rw [List.drop_drop, hlength, Nat.add_sub_cancel' (by omega)]
  exact hafter

/-- The search comes up with the leftmost place where the pair stands. -/
theorem pairAt_of_first? (h : AreNames first second) {m : Match}
    (hm : (pairPattern first second).first? t = some m) :
    PairAt first.toList second.toList t m.span ∧
      ∀ s, PairAt first.toList second.toList t s → m.span.start ≤ s.start := by
  obtain ⟨c, hc, hat⟩ := Pattern.of_first? hm
  refine ⟨pairAt_of_matchAt? h hc hat, fun s hs => ?_⟩
  have hle := Pattern.start_le_of_first? hm (Cursor.seek_inText t s.start) (isSome_matchAt?_of_pairAt h hs)
  have hseek : (Cursor.seek t s.start).position ≤ s.start := by
    rw [Cursor.seek, List.length_take]
    exact Nat.min_le_left _ _
  omega

theorem not_pairAt_of_first? (h : AreNames first second)
    (hm : (pairPattern first second).first? t = none) (s : Span) :
    ¬PairAt first.toList second.toList t s := by
  intro hs
  obtain ⟨m, hat⟩ := Option.isSome_iff_exists.mp (isSome_matchAt?_of_pairAt h hs)
  obtain ⟨m', hm'⟩ := Pattern.exists_first?_of_matchAt? (Cursor.seek_inText t s.start) hat
  exact nomatch hm.symm.trans hm'

end Pattern

/-! ## Texts that agree around a stretch -/

theorem slice_congr {t t' : Text} {s : Span}
    (h : ∀ i, s.start ≤ i → i < s.stop → t[i]? = t'[i]?) : t.slice s = t'.slice s := by
  refine List.ext_getElem? fun i => ?_
  rw [getElem?_slice, getElem?_slice]
  split
  · rename_i hi
    exact h _ (Nat.le_add_right _ _) hi
  · rfl

theorem PairAt.congr {first second t t' : Text} {s : Span} (h : PairAt first second t s)
    (hlength : t.length = t'.length)
    (hsame : ∀ i, s.start ≤ i + 1 → i ≤ s.stop → t[i]? = t'[i]?) : PairAt first second t' s := by
  have hlt := h.start_lt
  obtain ⟨hstop, hw, hbefore, hafter⟩ := h
  have hlast : (t.take s.start).getLast? = (t'.take s.start).getLast? := by
    cases hstart : s.start with
    | zero => rfl
    | succ k =>
      rw [List.take_add_one, List.take_add_one, ← hsame k (by omega) (by omega),
        List.getElem?_eq_getElem (by omega), Option.toList_some, List.getLast?_concat, List.getLast?_concat]
  refine ⟨hlength ▸ hstop, ?_, hlast ▸ hbefore, ?_⟩
  · rwa [← slice_congr fun i hi hlt => hsame i (Nat.le_succ_of_le hi) (Nat.le_of_lt hlt)]
  · rwa [WordEnds, List.head?_drop, ← hsame s.stop (by omega) (Nat.le_refl _), ← List.head?_drop]

end QueryLint.Sql

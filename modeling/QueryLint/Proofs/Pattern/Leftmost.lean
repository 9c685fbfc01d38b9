import QueryLint.Finding.Place
import QueryLint.Proofs.Pattern.Opening

/-! A search comes up with the leftmost match. Main statements: `Pattern.start_le_of_first?`, nothing
matches before the first match; `Pattern.all_head?`, the list of all matches begins with it; and
`Pattern.matchAt?_literal`, a literal matches just where its letters stand. -/
namespace QueryLint
set_option autoImplicit false

/-! ## Every place once, from left to right -/

namespace Cursor

variable {t : Text} {c d : Cursor}

theorem InText.eq_of_position (h : c.InText t) (h' : d.InText t) (heq : c.position = d.position) :
    c = d := by
  obtain ⟨-, hrest, hbefore⟩ := h
  obtain ⟨-, hrest', hbefore'⟩ := h'
  rw [← heq, ← hrest] at hrest'
  rw [← heq, ← hbefore] at hbefore'
  cases c
  cases d
  simp_all

theorem InText.mem_onward (h : c.InText t) (hd : d.InText t) (hle : c.position ≤ d.position) :
    d ∈ Cursor.onward c.before c.position c.rest := by
  obtain ⟨before, position, rest⟩ := c
  induction rest generalizing before position with
  | nil =>
    have hlast : d.position = position := by
      have hlength := h.length_rest
      have hle' := hd.position_le
      simp only [List.length_nil] at hlength hle
      omega
    rw [hd.eq_of_position h hlast]
    exact List.mem_cons_self
  | cons x rest ih =>
    rcases Nat.eq_or_lt_of_le hle with heq | hlt
    · rw [← h.eq_of_position hd heq]
      exact List.mem_cons_self
    · exact List.mem_cons_of_mem _ (ih (some x) (position + 1) (h.next rfl) hlt)

theorem InText.onward_pairwise (h : c.InText t) :
    (Cursor.onward c.before c.position c.rest).Pairwise fun d e => d.position < e.position := by
  obtain ⟨before, position, rest⟩ := c
  induction rest generalizing before position with
  | nil => exact List.pairwise_singleton _ _
  | cons x rest ih =>
    refine List.Pairwise.cons (fun d hd => ?_) (ih (some x) (position + 1) (h.next rfl))
    exact ((h.next rfl).onward hd).2

theorem all_increasing (t : Text) : (all t).Pairwise fun d e => d.position < e.position :=
  (atStart_inText t).onward_pairwise

theorem mem_all (hd : d.InText t) : d ∈ all t := (atStart_inText t).mem_onward hd (Nat.zero_le _)

end Cursor

/-! ## The first match -/

namespace Pattern

variable {p : Pattern} {t : Text} {m : Match} {c : Cursor}

theorem exists_first?_of_matchAt? (hc : c.InText t) (h : p.matchAt? c = some m) :
    ∃ m', p.first? t = some m' :=
  Option.isSome_iff_exists.mp
    (List.findSome?_isSome_iff.mpr ⟨c, Cursor.mem_all hc, by rw [h]; rfl⟩)

theorem isSome_firstFrom? {position : Nat} (hp : position ≤ t.length) :
    (p.firstFrom? t position).isSome = true ↔
      ∃ c : Cursor, c.InText t ∧ position ≤ c.position ∧ (p.matchAt? c).isSome = true := by
  have hposition : (Cursor.seek t position).position = position := by rw [Cursor.seek_eq hp]
  rw [firstFrom?, List.findSome?_isSome_iff]
  constructor
  · rintro ⟨c, hc, hm⟩
    obtain ⟨hin, hle⟩ := (Cursor.seek_inText t position).onward hc
    exact ⟨c, hin, hposition ▸ hle, hm⟩
  · rintro ⟨c, hc, hle, hm⟩
    exact ⟨c, (Cursor.seek_inText t position).mem_onward hc (hposition.symm ▸ hle), hm⟩

theorem start_le_of_first? (h : p.first? t = some m) (hc : c.InText t)
    (hm : (p.matchAt? c).isSome = true) : m.span.start ≤ c.position := by
  obtain ⟨before, d, after, hall, hd, hnone⟩ := List.findSome?_eq_some_iff.mp h
  rw [start_of_matchAt? hd]
  have hmem := Cursor.mem_all hc
  rw [hall, List.mem_append, List.mem_cons] at hmem
  rcases hmem with hbefore | rfl | hafter
  · rw [hnone c hbefore] at hm
    exact nomatch hm
  · exact Nat.le_refl _
  · have hincreasing := Cursor.all_increasing t
    rw [hall, List.pairwise_append, List.pairwise_cons] at hincreasing
    exact Nat.le_of_lt (hincreasing.2.1.1 c hafter)

theorem allAmong_head? (cursors : List Cursor) :
    (p.allAmong 0 cursors).head? = cursors.findSome? p.matchAt? := by
  induction cursors with
  | nil => rfl
  | cons c cursors ih =>
    rw [allAmong, if_neg (Nat.not_lt_zero _), List.findSome?_cons]
    cases p.matchAt? c with
    | none => exact ih
    | some m => rfl

theorem all_head? (p : Pattern) (t : Text) : (p.all t).head? = p.first? t := allAmong_head? _

/-- What matches at a place is listed, or the place is passed over or lies within a match that is listed. -/
theorem exists_mem_allAmong {resume : Nat} {cursors : List Cursor}
    (hincreasing : cursors.Pairwise fun d e => d.position < e.position) (hc : c ∈ cursors)
    (hm : p.matchAt? c = some m) : c.position < resume ∨ ∃ m' ∈ p.allAmong resume cursors,
      m' = m ∨ m'.span.start < c.position ∧ c.position < m'.span.stop := by
  induction cursors generalizing resume with
  | nil => cases hc
  | cons d cursors ih =>
    obtain ⟨hlater, hincreasing⟩ := List.pairwise_cons.mp hincreasing
    rw [allAmong]
    by_cases hpassed : d.position < resume
    · rw [if_pos hpassed]
      rcases List.mem_cons.mp hc with rfl | hc
      · exact .inl hpassed
      · exact ih hincreasing hc
    · rw [if_neg hpassed]
      rcases List.mem_cons.mp hc with rfl | hc
      · simp [hm]
      · cases hfirst : p.matchAt? d with
        | none => exact ih hincreasing hc
        | some first =>
          have hlt := hlater c hc
          have hstart := start_of_matchAt? hfirst
          refine .inr ?_
          rcases @ih (max first.span.stop (d.position + 1)) hincreasing hc with hwithin | hlisted
          · exact ⟨first, List.mem_cons_self, .inr ⟨by omega, by omega⟩⟩
          · obtain ⟨m', hm', hplace⟩ := hlisted
            exact ⟨m', List.mem_cons_of_mem _ hm', hplace⟩

theorem exists_mem_all (hc : c.InText t) (hm : p.matchAt? c = some m) : ∃ m' ∈ p.all t,
    m' = m ∨ m'.span.start < c.position ∧ c.position < m'.span.stop :=
  (exists_mem_allAmong (Cursor.all_increasing t) (Cursor.mem_all hc) hm).resolve_left (Nat.not_lt_zero _)

end Pattern

/-! ## Literals -/

/-- The letters of a word stand in the text at a position. -/
def Text.HasAt (t w : Text) (position : Nat) : Prop :=
  Text.sameLetters w ((t.drop position).take w.length) = true

instance (t w : Text) (position : Nat) : Decidable (t.HasAt w position) :=
  inferInstanceAs (Decidable (_ = true))

theorem Shape.ends_char {x y : Char} {rest : Text} {p : Progress} (hrest : p.cursor.rest = y :: rest)
    (h : Text.sameLetter x y = true) : (char x).ends true p
      = [{ p with cursor := ⟨some y, p.cursor.position + 1, rest⟩ }] := by
  have hhas : CharSet.has true ⟨[.char x], false⟩ y = true := by
    simp [CharSet.has, CharKind.has, h]
  rw [char, ends, hrest]
  exact if_pos hhas

theorem Shape.ends_chars_ne_nil {w : Text} {p : Progress}
    (h : Text.sameLetters w (p.cursor.rest.take w.length) = true) :
    (chars w).ends true p ≠ [] := by
  induction w generalizing p with
  | nil => exact List.cons_ne_nil p []
  | cons x w ih =>
    cases hrest : p.cursor.rest with
    | nil =>
      rw [hrest] at h
      exact nomatch h
    | cons y rest =>
      rw [hrest, List.length_cons, List.take_succ_cons, Text.sameLetters, Bool.and_eq_true] at h
      cases w with
      | nil =>
        rw [chars, ends_char hrest h.1]
        exact List.cons_ne_nil _ _
      | cons x' w =>
        show (seq (char x) (chars (x' :: w))).ends true p ≠ []
        rw [ends, ends_char hrest h.1, List.flatMap_singleton]
        exact ih h.2

theorem Pattern.matchAt?_literal {t w : Text} {c : Cursor} (hc : c.InText t) :
    ((literal w).matchAt? c).isSome = true ↔ t.HasAt w c.position := by
  constructor
  · intro h
    obtain ⟨m, hm⟩ := Option.isSome_iff_exists.mp h
    have hof : m.Of (.anyCase (Shape.chars w)) t := ⟨c, hc, hm⟩
    have hsame := hof.opening_same
    rwa [Shape.opening_chars, start_of_matchAt? hm] at hsame
  · intro h
    rw [Text.HasAt, ← hc.rest_eq] at h
    exact isSome_matchAt?.mpr (List.exists_mem_of_ne_nil _ (Shape.ends_chars_ne_nil h))

end QueryLint

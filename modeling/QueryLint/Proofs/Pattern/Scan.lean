import QueryLint.Proofs.Pattern.Leftmost
import QueryLint.Proofs.Pattern.Taken
import QueryLint.Proofs.Sql.Stretch

/-! A text scanned for the matches of a pattern, from left to right: a character at which no match begins
belongs to the piece that is being read, and a match ends it. What is matched may depend on the character
before, but not on the position. Main statements: `Pattern.PieceScan.pieces_eq`, the scan comes up with
what `pieces` comes up with; `Pattern.Scan.replaceAll_eq`, it makes what `replaceAll` makes if the matches
are replaced by a text; and `Pattern.replaceAll_of_noMatch`, without a match the text stays. -/
namespace QueryLint.Pattern
set_option autoImplicit false

variable {p : Pattern} {t : Text} {f : Match → Text}

/-! ## No match -/

theorem allAmong_eq_nil {resume : Nat} {cursors : List Cursor}
    (h : ∀ c ∈ cursors, p.matchAt? c = none) : p.allAmong resume cursors = [] := by
  induction cursors with
  | nil => rfl
  | cons c cursors ih =>
    obtain ⟨hc, hothers⟩ := List.forall_mem_cons.mp h
    rw [allAmong, hc, ih hothers, ite_self]

theorem replaceAll_of_noMatch (h : ∀ c : Cursor, c.InText t → p.matchAt? c = none) :
    p.replaceAll t f = t := by
  rw [replaceAll, all, allAmong_eq_nil fun c hc => h c (Cursor.all_inText hc)]
  rfl

/-! ## Places of a search -/

theorem allAmong_skip {resume position : Nat} {before : Option Char} {u rest : Text}
    (h : position + u.length ≤ resume) :
    p.allAmong resume (Cursor.onward before position (u ++ rest))
      = p.allAmong resume (Cursor.onward (u.getLast?.or before) (position + u.length) rest) := by
  induction u generalizing before position with
  | nil => rfl
  | cons c u ih =>
    rw [List.length_cons] at h
    rw [List.cons_append, Cursor.onward, allAmong, if_pos (by simp only; omega), ih (by omega),
      getLast?_cons_or, List.length_cons]
    congr 2
    omega

theorem allAmong_cons_of_none {resume position : Nat} {before : Option Char} {c : Char} {rest : Text}
    (h : p.matchAt? ⟨before, position, c :: rest⟩ = none) :
    p.allAmong resume (Cursor.onward before position (c :: rest))
      = p.allAmong resume (Cursor.onward (some c) (position + 1) rest) := by
  rw [Cursor.onward, allAmong, h]
  exact ite_self _

theorem allAmong_hit {resume position : Nat} {before : Option Char} {piece rest : Text} {m : Match}
    (hresume : resume ≤ position) (hpiece : piece ≠ [])
    (hm : p.matchAt? ⟨before, position, piece ++ rest⟩ = some m)
    (hstop : m.span.stop = position + piece.length) :
    p.allAmong resume (Cursor.onward before position (piece ++ rest))
      = m :: p.allAmong m.span.stop
          (Cursor.onward (piece.getLast?.or before) (position + piece.length) rest) := by
  cases piece with
  | nil => exact absurd rfl hpiece
  | cons c piece =>
    rw [List.cons_append] at hm ⊢
    rw [List.length_cons] at hstop
    rw [Cursor.onward, allAmong, if_neg (Nat.not_lt.mpr hresume), hm]
    simp only
    rw [Nat.max_eq_left (by omega), allAmong_skip (by omega), getLast?_cons_or, List.length_cons]
    congr 3
    omega

/-! ## The pieces -/

/-- The pieces of what is left, the first of them being the one that is read. -/
inductive PieceScan (p : Pattern) : Option Char → Text → List Text → Prop
  | nil {before : Option Char}
      (hfree : ∀ position, p.matchAt? ⟨before, position, []⟩ = none) : PieceScan p before [] [[]]
  | skip {before : Option Char} {c : Char} {rest piece : Text} {others : List Text}
      (hfree : ∀ position, p.matchAt? ⟨before, position, c :: rest⟩ = none)
      (h : PieceScan p (some c) rest (piece :: others)) :
      PieceScan p before (c :: rest) ((c :: piece) :: others)
  | hit {before : Option Char} {taken rest : Text} {others : List Text} (htaken : taken ≠ [])
      (hmatch : ∀ position, ∃ m, p.matchAt? ⟨before, position, taken ++ rest⟩ = some m ∧
        m.span.stop = position + taken.length)
      (h : PieceScan p (taken.getLast?.or before) rest others) :
      PieceScan p before (taken ++ rest) ([] :: others)

theorem PieceScan.exists_cons {before : Option Char} {rest : Text} {pieces : List Text}
    (h : p.PieceScan before rest pieces) : ∃ piece others, pieces = piece :: others := by
  cases h <;> exact ⟨_, _, rfl⟩

/-- The invariant of the scan: the text is what is done with, what has been read since the last match,
and what is left. -/
theorem PieceScan.piecesFrom_eq {before : Option Char} {rest piece : Text} {others pieces : List Text}
    (h : p.PieceScan before rest pieces) (hpieces : pieces = piece :: others) (done read : Text)
    (resume : Nat) (hresume : resume ≤ (done ++ read).length) (ht : t = done ++ (read ++ rest)) :
    piecesFrom t done.length
      (p.allAmong resume (Cursor.onward before (done ++ read).length rest))
        = (read ++ piece) :: others := by
  induction h generalizing done read resume piece others with
  | nil hfree =>
    obtain ⟨rfl, rfl⟩ := List.cons.inj hpieces
    rw [Cursor.onward, allAmong, if_neg (Nat.not_lt.mpr hresume), hfree, allAmong, piecesFrom, ht,
      List.drop_left]
  | @skip before c rest piece' others' hfree _ ih =>
    obtain ⟨rfl, rfl⟩ := List.cons.inj hpieces
    have hlater := ih rfl done (read ++ [c]) resume
      (Nat.le_trans hresume (by simp only [List.length_append]; omega))
      (by rw [ht, List.append_assoc, List.singleton_append])
    rw [← List.append_assoc, List.length_append, List.length_singleton, List.append_assoc,
      List.singleton_append] at hlater
    rw [Cursor.onward, allAmong, if_neg (Nat.not_lt.mpr hresume), hfree]
    exact hlater
  | @hit before taken rest others' htaken hmatch hrest ih =>
    obtain ⟨rfl, rfl⟩ := List.cons.inj hpieces
    obtain ⟨m, hm, hstop⟩ := hmatch (done ++ read).length
    have hdone : (done ++ read ++ taken).length = m.span.stop := by
      rw [hstop, List.length_append]
    obtain ⟨next, after, hcons⟩ := hrest.exists_cons
    have hlater := ih hcons (done ++ read ++ taken) [] m.span.stop
      (Nat.le_of_eq (by rw [List.append_nil, hdone])) (by rw [ht]; simp)
    rw [List.append_nil, List.nil_append, hdone] at hlater
    rw [allAmong_hit hresume htaken hm hstop, piecesFrom, start_of_matchAt? hm, ← hstop, hlater, ht,
      Text.slice, ← List.append_assoc, List.take_left, List.drop_left, List.append_nil, hcons]

theorem PieceScan.pieces_eq {pieces : List Text} (h : p.PieceScan none t pieces) :
    p.pieces t = pieces := by
  obtain ⟨piece, others, hcons⟩ := h.exists_cons
  exact (h.piecesFrom_eq hcons [] [] 0 (Nat.le_refl 0) rfl).trans hcons.symm

/-! ## Matches replaced by a text -/

/-- Matches replaced by a text, character by character from left to right. -/
inductive Scan (p : Pattern) (replacement : Text) : Option Char → Text → Text → Prop
  | nil {before : Option Char}
      (hfree : ∀ position, p.matchAt? ⟨before, position, []⟩ = none) : Scan p replacement before [] []
  | skip {before : Option Char} {c : Char} {rest made : Text}
      (hfree : ∀ position, p.matchAt? ⟨before, position, c :: rest⟩ = none)
      (others : Scan p replacement (some c) rest made) :
      Scan p replacement before (c :: rest) (c :: made)
  | hit {before : Option Char} {piece rest made : Text} (hpiece : piece ≠ [])
      (hmatch : ∀ position, ∃ m, p.matchAt? ⟨before, position, piece ++ rest⟩ = some m ∧
        m.span.stop = position + piece.length)
      (others : Scan p replacement (piece.getLast?.or before) rest made) :
      Scan p replacement before (piece ++ rest) (replacement ++ made)

/-- The replacement stands between the pieces. -/
theorem Scan.exists_pieces {replacement : Text} {before : Option Char} {rest made : Text}
    (h : p.Scan replacement before rest made) :
    ∃ pieces, p.PieceScan before rest pieces ∧ made = replacement.intercalate pieces := by
  induction h with
  | nil hfree => exact ⟨[[]], .nil hfree, rfl⟩
  | @skip before c rest made hfree _ ih =>
    obtain ⟨pieces, hpieces, rfl⟩ := ih
    obtain ⟨piece, others, rfl⟩ := hpieces.exists_cons
    refine ⟨(c :: piece) :: others, .skip hfree hpieces, ?_⟩
    cases others <;> simp
  | hit hpiece hmatch _ ih =>
    obtain ⟨pieces, hpieces, rfl⟩ := ih
    obtain ⟨piece, others, rfl⟩ := hpieces.exists_cons
    exact ⟨[] :: piece :: others, .hit hpiece hmatch hpieces, by simp⟩

theorem replaceFrom_eq_intercalate (t replacement : Text) (position : Nat) (ms : List Match) :
    replaceFrom t (fun _ => replacement) position ms
      = replacement.intercalate (piecesFrom t position ms) := by
  induction ms generalizing position with
  | nil => simp [replaceFrom, piecesFrom]
  | cons m ms ih =>
    rw [replaceFrom, piecesFrom, ih]
    cases ms <;> simp [piecesFrom]

theorem Scan.replaceAll_eq {replacement made : Text} (h : p.Scan replacement none t made) :
    p.replaceAll t (fun _ => replacement) = made := by
  obtain ⟨pieces, hpieces, rfl⟩ := h.exists_pieces
  rw [replaceAll, replaceFrom_eq_intercalate, ← Pattern.pieces, hpieces.pieces_eq]

end QueryLint.Pattern

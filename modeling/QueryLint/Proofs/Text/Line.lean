import Mathlib.Algebra.Order.SuccPred
import Mathlib.Data.Int.ConditionallyCompleteOrder
import Mathlib.Data.Int.SuccPred
import Mathlib.Data.List.Induction
import Mathlib.Data.Prod.Lex
import QueryLint.Text.Line

/-! Offsets as lines and columns. Main statement: `lineColumn_bijOn`, the offsets of a text and the
places of its lines are the same in another form, and in the same order. -/
namespace QueryLint.Text
set_option autoImplicit false

/-! ## Lines and places -/

def lines (t : Text) : List Text := t.splitOn '\n'

/-- A line of the text and a column in it, both counted from 1. The end of a line is a column of its
own. -/
structure IsPlace (t : Text) (p : Nat × Nat) : Prop where
  line_pos : 1 ≤ p.1
  line_le : p.1 ≤ (lines t).length
  column_pos : 1 ≤ p.2
  column_le : p.2 ≤ ((lines t).getD (p.1 - 1) []).length + 1

/-- The places of a text, those of a line before those of the next. -/
def places (t : Text) : Set (Nat ×ₗ Nat) := {p | IsPlace t (ofLex p)}

/-- How many characters stand before a place: those of the lines before its own, a line feed for each
of these, and those before its column. -/
def offsetOf (t : Text) (p : Nat × Nat) : Nat :=
  (((lines t).take (p.1 - 1)).map List.length).sum + (p.1 - 1) + (p.2 - 1)

theorem lines_append_of_not_mem {u : Text} (h : '\n' ∉ u) (v : Text) :
    lines (u ++ v) = (lines v).modifyHead (u ++ ·) := by
  induction u with
  | nil => exact (congrFun List.modifyHead_id _).symm
  | cons c u ih =>
    obtain ⟨hc, hu⟩ := not_or.mp (List.mem_cons.not.mp h)
    have hne : (c == '\n') = false := beq_eq_false_iff_ne.mpr (Ne.symm hc)
    have hrest : (u ++ v).splitOn '\n' = (lines v).modifyHead (u ++ ·) := ih hu
    rw [lines, List.cons_append, List.splitOn_cons_eq_if_modifyHead, hne, if_neg Bool.false_ne_true,
      hrest, List.modifyHead_modifyHead]
    rfl

theorem newline_not_mem_lines (t : Text) : ∀ line ∈ lines t, '\n' ∉ line := by
  induction t with
  | nil => simp [lines]
  | cons c t ih =>
    obtain ⟨line, later, hlines⟩ := List.exists_cons_of_ne_nil (List.splitOn_ne_nil '\n' t)
    rw [lines, hlines, List.forall_mem_cons] at ih
    rw [lines, List.splitOn_cons_eq_if_modifyHead, hlines]
    split
    · exact List.forall_mem_cons.mpr ⟨List.not_mem_nil, List.forall_mem_cons.mpr ih⟩
    · rename_i hc
      refine List.forall_mem_cons.mpr ⟨fun hmem => ?_, ih.2⟩
      rcases List.mem_cons.mp hmem with rfl | hmem
      · exact hc (beq_self_eq_true '\n')
      · exact ih.1 hmem

/-! ## What stands before a place -/

/-- The text before a place: the lines before the one of the place, and how that one begins. -/
structure Lead where
  earlier : List Text
  start : Text
  earlier_oneLine : ∀ line ∈ earlier, '\n' ∉ line
  start_oneLine : '\n' ∉ start

namespace Lead

def text (l : Lead) : Text := l.earlier.flatMap (· ++ ['\n']) ++ l.start

def place (l : Lead) : Nat × Nat := (l.earlier.length + 1, l.start.length + 1)

theorem exists_text_eq (u : Text) : ∃ l : Lead, l.text = u := by
  induction u using List.reverseRecOn with
  | nil => exact ⟨⟨[], [], List.forall_mem_nil _, List.not_mem_nil⟩, rfl⟩
  | append_singleton u c ih =>
    obtain ⟨⟨earlier, start, hearlier, hstart⟩, rfl⟩ := ih
    by_cases hc : c = '\n'
    · subst hc
      refine ⟨⟨earlier ++ [start], [], ?_, List.not_mem_nil⟩, ?_⟩
      · exact List.forall_mem_append.mpr ⟨hearlier, List.forall_mem_singleton.mpr hstart⟩
      · simp [text]
    · refine ⟨⟨earlier, start ++ [c], hearlier, ?_⟩, ?_⟩
      · simp [hstart, Ne.symm hc]
      · simp [text]

variable (l : Lead)

theorem count_newline_text : l.text.count '\n' = l.earlier.length := by
  obtain ⟨earlier, start, hearlier, hstart⟩ := l
  rw [text, List.count_append, List.count_eq_zero.mpr hstart, Nat.add_zero]
  induction earlier with
  | nil => rfl
  | cons line earlier ih =>
    obtain ⟨hline, hothers⟩ := List.forall_mem_cons.mp hearlier
    rw [List.flatMap_cons, List.count_append, List.count_append, List.count_eq_zero.mpr hline,
      ih hothers]
    simp [Nat.add_comm]

theorem takeWhile_reverse_text : l.text.reverse.takeWhile (· ≠ '\n') = l.start.reverse := by
  obtain ⟨earlier, start, -, hstart⟩ := l
  have hpasses : ∀ c ∈ start.reverse, decide (c ≠ '\n') = true := by
    intro c hc
    exact decide_eq_true fun h => hstart (h ▸ List.mem_reverse.mp hc)
  rw [text, List.reverse_append, List.takeWhile_append_of_pos hpasses]
  rcases List.eq_nil_or_concat earlier with rfl | ⟨earlier, line, rfl⟩
  · simp
  · simp

theorem placeAfter_text : placeAfter l.text = l.place := by
  rw [placeAfter, count_newline_text, takeWhile_reverse_text, List.length_reverse, place]

theorem length_text :
    l.text.length = (l.earlier.map List.length).sum + l.earlier.length + l.start.length := by
  rw [text, List.length_append, Nat.add_right_cancel_iff]
  induction l.earlier with
  | nil => rfl
  | cons line earlier ih =>
    simp only [List.flatMap_cons, List.length_append, ih, List.map_cons, List.sum_cons,
      List.length_cons, List.length_nil]
    omega

/-- The lines of a text that goes on after the lead: its own begins as in the lead. -/
theorem exists_lines_append (v : Text) :
    ∃ rest later, lines (l.text ++ v) = l.earlier ++ (l.start ++ rest) :: later := by
  obtain ⟨earlier, start, hearlier, hstart⟩ := l
  obtain ⟨rest, later, hv⟩ := List.exists_cons_of_ne_nil (List.splitOn_ne_nil '\n' v)
  refine ⟨rest, later, ?_⟩
  induction earlier with
  | nil =>
    show lines (start ++ v) = (start ++ rest) :: later
    rw [lines_append_of_not_mem hstart, lines, hv]
    rfl
  | cons line earlier ih =>
    obtain ⟨hline, hothers⟩ := List.forall_mem_cons.mp hearlier
    have hnext : (earlier.flatMap (· ++ ['\n']) ++ start ++ v).splitOn '\n'
        = earlier ++ (start ++ rest) :: later := ih hothers
    show (((line ++ ['\n']) ++ earlier.flatMap (· ++ ['\n'])) ++ start ++ v).splitOn '\n' = _
    rw [List.append_assoc, List.append_assoc, List.append_assoc, List.singleton_append,
      List.splitOn_append_cons_self_of_not_mem hline, ← List.append_assoc, hnext]
    rfl

variable (v : Text)

theorem lineColumn_length_text : lineColumn (l.text ++ v) l.text.length = l.place := by
  rw [lineColumn, Int.toNat_natCast, List.take_left, placeAfter_text]

theorem isPlace_place : IsPlace (l.text ++ v) l.place := by
  obtain ⟨rest, later, hlines⟩ := l.exists_lines_append v
  refine ⟨Nat.succ_pos _, ?_, Nat.succ_pos _, ?_⟩
  · rw [hlines, place, List.length_append, List.length_cons]
    omega
  · have hline : (lines (l.text ++ v)).getD l.earlier.length [] = l.start ++ rest := by
      rw [hlines, List.getD_eq_getElem?_getD, List.getElem?_append_right (Nat.le_refl _), Nat.sub_self,
        List.getElem?_cons_zero, Option.getD_some]
    rw [place, Nat.add_sub_cancel, hline, List.length_append]
    omega

theorem offsetOf_place : offsetOf (l.text ++ v) l.place = l.text.length := by
  obtain ⟨rest, later, hlines⟩ := l.exists_lines_append v
  rw [offsetOf, hlines, place, Nat.add_sub_cancel, Nat.add_sub_cancel, List.take_left, length_text]

end Lead

/-- An offset of the text comes after a lead, and what is left of the text comes after the offset. -/
theorem exists_lead_of_le {t : Text} {n : Nat} (h : n ≤ t.length) :
    ∃ (l : Lead) (v : Text), l.text ++ v = t ∧ l.text.length = n := by
  obtain ⟨l, hl⟩ := Lead.exists_text_eq (t.take n)
  refine ⟨l, t.drop n, ?_, ?_⟩
  · rw [hl, List.take_append_drop]
  · rw [hl, List.length_take, Nat.min_eq_left h]

/-- The end of a line is followed by the lines after it. -/
theorem exists_intercalate_eq_append (line : Text) (later : List Text) :
    ∃ v, List.intercalate ['\n'] (line :: later) = line ++ v := by
  cases later with
  | nil => exact ⟨[], by rw [List.intercalate_singleton, List.append_nil]⟩
  | cons next later => exact ⟨_, by rw [List.intercalate_cons_cons, List.append_assoc]⟩

theorem intercalate_append_cons (earlier : List Text) (line : Text) (later : List Text) :
    List.intercalate ['\n'] (earlier ++ line :: later)
      = earlier.flatMap (· ++ ['\n']) ++ List.intercalate ['\n'] (line :: later) := by
  induction earlier with
  | nil => rfl
  | cons first earlier ih =>
    have hne : earlier ++ line :: later ≠ [] :=
      List.append_ne_nil_of_right_ne_nil _ (List.cons_ne_nil _ _)
    rw [List.cons_append, List.intercalate_cons_of_ne_nil hne, ih, List.flatMap_cons, List.append_assoc,
      List.append_assoc, List.append_assoc]

theorem exists_lead_of_isPlace {t : Text} {p : Nat × Nat} (h : IsPlace t p) :
    ∃ (l : Lead) (v : Text), l.text ++ v = t ∧ l.place = p := by
  obtain ⟨_ | k, _ | j⟩ := p
  · exact absurd h.line_pos (Nat.lt_irrefl 0)
  · exact absurd h.line_pos (Nat.lt_irrefl 0)
  · exact absurd h.column_pos (Nat.lt_irrefl 0)
  have hk : k < (lines t).length := h.line_le
  have hj : j ≤ (lines t)[k].length := by
    have hcolumn : j + 1 ≤ ((lines t).getD k []).length + 1 := h.column_le
    rw [List.getD_eq_getElem?_getD, List.getElem?_eq_getElem hk, Option.getD_some] at hcolumn
    exact Nat.le_of_succ_le_succ hcolumn
  have honeLine := newline_not_mem_lines t
  let l : Lead :=
    { earlier := (lines t).take k
      start := (lines t)[k].take j
      earlier_oneLine := fun line hline => honeLine line (List.mem_of_mem_take hline)
      start_oneLine := fun hmem => honeLine _ (List.getElem_mem hk) (List.mem_of_mem_take hmem) }
  have hsplit : lines t = (lines t).take k ++ (lines t)[k] :: (lines t).drop (k + 1) := by
    rw [List.getElem_cons_drop, List.take_append_drop]
  obtain ⟨v, hv⟩ := exists_intercalate_eq_append (lines t)[k] ((lines t).drop (k + 1))
  have ht : t = l.text ++ ((lines t)[k].drop j ++ v) :=
    calc t = List.intercalate ['\n'] (lines t) := (List.intercalate_splitOn '\n').symm
      _ = List.intercalate ['\n'] (l.earlier ++ (lines t)[k] :: (lines t).drop (k + 1)) :=
          congrArg _ hsplit
      _ = l.earlier.flatMap (· ++ ['\n']) ++ ((lines t)[k] ++ v) := by rw [intercalate_append_cons, hv]
      _ = l.text ++ ((lines t)[k].drop j ++ v) := by
          rw [Lead.text, List.append_assoc, ← List.append_assoc (l.start), List.take_append_drop]
  refine ⟨l, _, ht.symm, ?_⟩
  rw [Lead.place, List.length_take, List.length_take, Nat.min_eq_left (Nat.le_of_lt hk),
    Nat.min_eq_left hj]

/-! ## Order -/

/-- One more character leads to a later place: to the next line after a line feed, else to the next
column. -/
theorem placeAfter_lt_concat (u : Text) (c : Char) :
    toLex (placeAfter u) < toLex (placeAfter (u ++ [c])) := by
  rw [Prod.Lex.toLex_lt_toLex]
  by_cases hc : c = '\n'
  · refine .inl ?_
    simp [placeAfter, hc]
  · refine .inr ⟨?_, ?_⟩
    · simp [placeAfter, hc]
    · simp [placeAfter, hc]

theorem lineColumn_strictMonoOn (t : Text) :
    StrictMonoOn (fun offset => toLex (lineColumn t offset)) (Set.Icc 0 (t.length : Int)) := by
  refine strictMonoOn_of_lt_add_one Set.ordConnected_Icc fun offset _ hoffset hnext => ?_
  obtain ⟨n, rfl⟩ := Int.eq_ofNat_of_zero_le hoffset.1
  have hlt : n < t.length := Int.ofNat_lt.mp (Int.lt_of_add_one_le hnext.2)
  have htake : lineColumn t (n + 1) = placeAfter (t.take n ++ [t[n]]) := by
    rw [List.take_append_getElem hlt]
    rfl
  simp only [htake]
  exact placeAfter_lt_concat (t.take n) t[n]

theorem lineColumn_of_neg (t : Text) {offset : Int} (h : offset < 0) :
    lineColumn t offset = lineColumn t 0 := by
  rw [lineColumn, Int.toNat_of_nonpos (Int.le_of_lt h)]
  rfl

theorem lineColumn_of_length_le (t : Text) {offset : Int} (h : t.length ≤ offset) :
    lineColumn t offset = lineColumn t t.length := by
  rw [lineColumn, lineColumn, Int.toNat_natCast, List.take_length, List.take_of_length_le]
  omega

/-! ## Offsets and places -/

theorem offsetOf_lineColumn {t : Text} {offset : Int} (h : offset ∈ Set.Icc 0 (t.length : Int)) :
    IsPlace t (lineColumn t offset) ∧ (offsetOf t (lineColumn t offset) : Int) = offset := by
  obtain ⟨n, rfl⟩ := Int.eq_ofNat_of_zero_le h.1
  obtain ⟨l, v, rfl, rfl⟩ := exists_lead_of_le (Int.ofNat_le.mp h.2)
  rw [l.lineColumn_length_text v]
  exact ⟨l.isPlace_place v, congrArg Nat.cast (l.offsetOf_place v)⟩

theorem lineColumn_offsetOf {t : Text} {p : Nat × Nat} (h : IsPlace t p) :
    (offsetOf t p : Int) ∈ Set.Icc 0 (t.length : Int) ∧ lineColumn t (offsetOf t p) = p := by
  obtain ⟨l, v, rfl, rfl⟩ := exists_lead_of_isPlace h
  rw [l.offsetOf_place v, l.lineColumn_length_text v, List.length_append]
  exact ⟨⟨Int.natCast_nonneg _, Int.ofNat_le.mpr (Nat.le_add_right _ _)⟩, rfl⟩

/-- The offsets of a text are in one-to-one correspondence with its places, and in the same order; an
offset is what its place says; and offsets outside the text go to the first and the last place. -/
theorem lineColumn_bijOn (t : Text) :
    Set.BijOn (fun offset => toLex (lineColumn t offset)) (Set.Icc 0 (t.length : Int)) (places t) ∧
    StrictMonoOn (fun offset => toLex (lineColumn t offset)) (Set.Icc 0 (t.length : Int)) ∧
    (∀ offset ∈ Set.Icc 0 (t.length : Int), (offsetOf t (lineColumn t offset) : Int) = offset) ∧
    (∀ offset < 0, IsLeast (places t) (toLex (lineColumn t offset))) ∧
    ∀ offset > (t.length : Int), IsGreatest (places t) (toLex (lineColumn t offset)) := by
  have hmono := lineColumn_strictMonoOn t
  have hbij : Set.BijOn (fun offset => toLex (lineColumn t offset)) (Set.Icc 0 (t.length : Int))
      (places t) := by
    refine ⟨fun offset h => (offsetOf_lineColumn h).1, hmono.injOn, fun p hp => ?_⟩
    obtain ⟨hmem, heq⟩ := lineColumn_offsetOf hp
    exact ⟨_, hmem, congrArg toLex heq⟩
  refine ⟨hbij, hmono, fun offset h => (offsetOf_lineColumn h).2, ?_, ?_⟩ <;> intro offset h
  · rw [lineColumn_of_neg t h, ← hbij.image_eq]
    exact hmono.monotoneOn.map_isLeast (isLeast_Icc (Int.natCast_nonneg _))
  · rw [lineColumn_of_length_le t (Int.le_of_lt h), ← hbij.image_eq]
    exact hmono.monotoneOn.map_isGreatest (isGreatest_Icc (Int.natCast_nonneg _))

def shortLines : Text := "a\n\nbc".toList

theorem shortLines_places :
    offsetOf shortLines (lineColumn shortLines 2) = 2 ∧
      IsLeast (places shortLines) (toLex (lineColumn shortLines (-4))) ∧
      IsGreatest (places shortLines) (toLex (lineColumn shortLines 50)) := by
  obtain ⟨-, -, hoffset, hleast, hgreatest⟩ := lineColumn_bijOn shortLines
  exact ⟨Int.ofNat_inj.mp (hoffset 2 (by decide)), hleast (-4) (by decide), hgreatest 50 (by decide)⟩

end QueryLint.Text

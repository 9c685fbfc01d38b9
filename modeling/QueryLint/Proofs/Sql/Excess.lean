import QueryLint.Proofs.Sql.Tilt

/-! Matches replaced by texts without parentheses: what that does to the balance of the text around
them. A match takes away the level by which it raises the text, so the balance is kept just where the
matches so far never took more than there was. Main statements: `balanced_replaceAll_iff` and
`leavesBalance_of_flat`. -/
namespace QueryLint.Sql
set_option autoImplicit false
open Text

/-! ## Matches in order -/

/-- Matches of a text from a position on, one after the other, each of which takes a character. -/
inductive Orderly (t : Text) : Nat → List Match → Prop
  | nil {position : Nat} (h : position ≤ t.length) : Orderly t position []
  | cons {position : Nat} {m : Match} {ms : List Match} (hstart : position ≤ m.span.start)
      (hstands : m.span.StandsIn t) (others : Orderly t m.span.stop ms) : Orderly t position (m :: ms)

theorem Orderly.position_le {t : Text} {position : Nat} {ms : List Match} (h : Orderly t position ms) :
    position ≤ t.length := by
  induction h with
  | nil h => exact h
  | cons hstart hstands _ _ =>
    obtain ⟨hlt, hle⟩ := hstands
    omega

theorem Orderly.start_ge {t : Text} {position : Nat} {ms : List Match} (h : Orderly t position ms) :
    ∀ m ∈ ms, position ≤ m.span.start ∧ m.span.StandsIn t := by
  induction h with
  | nil => exact fun m hm => absurd hm List.not_mem_nil
  | cons hstart hstands _ ih =>
    refine List.forall_mem_cons.mpr ⟨⟨hstart, hstands⟩, fun m hm => ?_⟩
    obtain ⟨hle, hm⟩ := ih m hm
    have hlt := hstands.1
    exact ⟨by omega, hm⟩

theorem orderly_of_pairwise {t : Text} {ms : List Match} (h : ∀ m ∈ ms, m.span.StandsIn t)
    (hpairwise : ms.Pairwise fun a b => a.span.stop ≤ b.span.start) {position : Nat}
    (hposition : position ≤ t.length) (hstart : ∀ m ∈ ms, position ≤ m.span.start) :
    Orderly t position ms := by
  induction hpairwise generalizing position with
  | nil => exact .nil hposition
  | cons hlater _ ih =>
    obtain ⟨hm, hothers⟩ := List.forall_mem_cons.mp h
    exact .cons (hstart _ List.mem_cons_self) hm (ih hothers hm.2 hlater)

theorem all_orderly {p : Pattern} (hp : 0 < p.shape.least) (t : Text) : Orderly t 0 (p.all t) :=
  orderly_of_pairwise (fun _ hm => (Pattern.of_mem_all hm).standsIn hp) (p.all_pairwise t)
    (Nat.zero_le _) fun _ _ => Nat.zero_le _

/-! ## What matches take away -/

/-- The level that the matches raise which end at a place or before it. -/
def taken (t : Text) (n : Nat) : List Match → Int
  | [] => 0
  | m :: ms => (if m.span.stop ≤ n then level (m.text t) else 0) + taken t n ms

def Outside (n : Nat) (ms : List Match) : Prop := ∀ m ∈ ms, n ≤ m.span.start ∨ m.span.stop ≤ n

/-- The matches never take more than there is, and all of it in the end. -/
structure LeavesBalance (t : Text) (ms : List Match) : Prop where
  along : ∀ n ≤ t.length, Outside n ms → taken t n ms ≤ level (t.take n)
  total : taken t t.length ms = level t

theorem level_slice {t : Text} {start stop : Nat} (h : start ≤ stop) :
    level (t.slice ⟨start, stop⟩) = level (t.take stop) - level (t.take start) := by
  have hsplit := congrArg level (List.take_append_drop start (t.take stop))
  rw [level_append, List.take_take, Nat.min_eq_left h] at hsplit
  show level ((t.take stop).drop start) = _
  omega

/-- A slice stays above the ground if the text is nowhere too far below where the slice begins. -/
theorem above_slice_iff {t : Text} {start stop : Nat} (h : start ≤ stop) {depth : Int} :
    Above depth (t.slice ⟨start, stop⟩) ↔ ∀ n, start ≤ n → n ≤ stop →
      level (t.take start) ≤ depth + level (t.take n) := by
  have htake : ∀ k, level ((t.slice ⟨start, stop⟩).take k)
      = level (t.take (start + min k (stop - start))) - level (t.take start) := by
    intro k
    rw [← level_slice (Nat.le_add_right _ _), Text.slice_eq_take_drop, Text.slice_eq_take_drop,
      List.take_take, Nat.add_sub_cancel_left]
  constructor
  · intro habove n hstart hstop
    have hn := habove (n - start)
    rw [htake, Nat.min_eq_left (Nat.sub_le_sub_right hstop start), Nat.add_sub_of_le hstart] at hn
    omega
  · intro hplaces k
    have hn := hplaces (start + min k (stop - start)) (Nat.le_add_right _ _) (by omega)
    rw [htake]
    omega

theorem level_drop (t : Text) (n : Nat) : level (t.drop n) = level t - level (t.take n) := by
  have hsplit := congrArg level (List.take_append_drop n t)
  rw [level_append] at hsplit
  omega

theorem taken_cons (t : Text) (n : Nat) (m : Match) (ms : List Match) :
    taken t n (m :: ms) = (if m.span.stop ≤ n then level (m.text t) else 0) + taken t n ms := rfl

/-- Before all of them the matches have taken nothing. -/
theorem Orderly.taken_eq_zero {t : Text} {position : Nat} {ms : List Match}
    (h : Orderly t position ms) {n : Nat} (hn : n ≤ position) : taken t n ms = 0 := by
  induction h with
  | nil => rfl
  | cons hstart hstands _ ih =>
    have hlt := hstands.1
    rw [taken_cons, if_neg (by omega), ih (by omega), Int.add_zero]

section Replaced

variable {t : Text} {f : Match → Text} {position : Nat} {ms : List Match}

theorem level_replaceFrom (h : Orderly t position ms) (hf : ∀ m ∈ ms, Plain (f m)) :
    level (Pattern.replaceFrom t f position ms)
      = level t - level (t.take position) - taken t t.length ms := by
  induction h with
  | nil =>
    rw [Pattern.replaceFrom, level_drop]
    simp [taken]
  | @cons position m ms hstart hstands _ ih =>
    obtain ⟨hm, hothers⟩ := List.forall_mem_cons.mp hf
    rw [Pattern.replaceFrom, level_append, level_append, hm.level, ih hothers, level_slice hstart,
      taken_cons, if_pos hstands.2, Match.text, level_slice (Nat.le_of_lt hstands.1)]
    omega

/-- What is left of the text stays above the ground just where the matches have not taken too much. -/
theorem above_replaceFrom_iff (h : Orderly t position ms) (hf : ∀ m ∈ ms, Plain (f m)) {depth : Int} :
    Above depth (Pattern.replaceFrom t f position ms) ↔
      ∀ n, position ≤ n → n ≤ t.length → Outside n ms →
        taken t n ms ≤ depth + level (t.take n) - level (t.take position) := by
  induction h generalizing depth with
  | @nil position hposition =>
    have hdrop : t.drop position = t.slice ⟨position, t.length⟩ := by
      rw [Text.slice, List.take_length]
    rw [Pattern.replaceFrom, hdrop, above_slice_iff hposition]
    refine forall_congr' fun n => forall_congr' fun _ => forall_congr' fun _ => ?_
    have hnone : Outside n [] := fun m hm => absurd hm List.not_mem_nil
    simp only [hnone, true_imp_iff, taken]
    omega
  | @cons position m ms hstart hstands others ih =>
    obtain ⟨hm, hothers⟩ := List.forall_mem_cons.mp hf
    obtain ⟨hlt, hle⟩ := hstands
    have hmatch : level (t.slice m.span)
        = level (t.take m.span.stop) - level (t.take m.span.start) := level_slice (Nat.le_of_lt hlt)
    rw [Pattern.replaceFrom, above_append, above_append, above_slice_iff hstart, level_append,
      hm.level, level_slice hstart, ih hothers]
    constructor
    · rintro ⟨⟨hbefore, -⟩, hafter⟩ n hn hlength houtside
      obtain ⟨houtside, hlater⟩ := List.forall_mem_cons.mp houtside
      rw [taken_cons]
      rcases houtside with hn' | hn'
      · rw [if_neg (by omega), others.taken_eq_zero (by omega)]
        have hplace := hbefore n hn hn'
        omega
      · rw [if_pos hn', Match.text]
        have hplace := hafter n hn' hlength hlater
        omega
    · intro hplaces
      have hbefore : ∀ n, position ≤ n → n ≤ m.span.start →
          level (t.take position) ≤ depth + level (t.take n) := by
        intro n hn hn'
        have houtside : Outside n (m :: ms) := List.forall_mem_cons.mpr
          ⟨.inl hn', fun m' hm' => .inl (by have := (others.start_ge m' hm').1; omega)⟩
        have hplace := hplaces n hn (by omega) houtside
        rw [taken_cons, if_neg (by omega), others.taken_eq_zero (by omega)] at hplace
        omega
      refine ⟨⟨hbefore, hm.above ?_⟩, fun n hn hlength houtside => ?_⟩
      · have hplace := hbefore m.span.start hstart (Nat.le_refl _)
        omega
      · have hplace := hplaces n (by omega) hlength
          (List.forall_mem_cons.mpr ⟨.inr hn, houtside⟩)
        rw [taken_cons, if_pos hn, Match.text] at hplace
        omega

end Replaced

/-- With texts without parentheses in the places of its matches a text is balanced just where the
matches leave it balanced. -/
theorem balanced_replaceAll_iff {p : Pattern} (hp : 0 < p.shape.least) {t : Text} {f : Match → Text}
    (hf : ∀ m ∈ p.all t, Plain (f m)) :
    Balanced (p.replaceAll t f) ↔ LeavesBalance t (p.all t) := by
  have horder := all_orderly hp t
  rw [balanced_iff, Pattern.replaceAll, above_replaceFrom_iff horder hf, level_replaceFrom horder hf]
  simp only [List.take_zero, level_nil, Int.zero_add, Int.sub_zero, Nat.zero_le, true_imp_iff]
  constructor
  · exact fun ⟨halong, htotal⟩ => ⟨halong, by omega⟩
  · exact fun ⟨halong, htotal⟩ => ⟨halong, by omega⟩

theorem leavesBalance_of_flat {t : Text} {ms : List Match} (ht : Balanced t)
    (hms : ∀ m ∈ ms, level (m.text t) = 0) : LeavesBalance t ms := by
  have htaken : ∀ n, taken t n ms = 0 := by
    intro n
    induction ms with
    | nil => rfl
    | cons m ms ih =>
      obtain ⟨hm, hothers⟩ := List.forall_mem_cons.mp hms
      rw [taken_cons, hm, ite_self, ih hothers, Int.zero_add]
  refine ⟨fun n _ _ => ?_, by rw [htaken, ht.level]⟩
  have hplace := ht.above (Int.le_refl 0) n
  rw [htaken]
  omega

end QueryLint.Sql

/-! Sizes of lists. A walk through a tree ends because what it still has to visit becomes smaller. -/
namespace QueryLint
set_option autoImplicit false

variable {α β : Type} [SizeOf α] [SizeOf β]

theorem sizeOf_append_add (s t : List α) : sizeOf (s ++ t) + 1 = sizeOf s + sizeOf t := by
  induction s with
  | nil => simp; omega
  | cons a s ih => simp only [List.cons_append, List.cons.sizeOf_spec]; omega

theorem sizeOf_append (s t : List α) : sizeOf (s ++ t) = sizeOf s + sizeOf t - 1 := by
  rw [← sizeOf_append_add, Nat.add_sub_cancel]

theorem sizeOf_filter_le (p : α → Bool) (l : List α) : sizeOf (l.filter p) ≤ sizeOf l := by
  induction l with
  | nil => simp
  | cons a l ih =>
    rw [List.filter_cons]
    split <;> simp only [List.cons.sizeOf_spec] <;> omega

theorem sizeOf_toList_le (o : Option α) : sizeOf o.toList ≤ sizeOf o + 1 := by
  cases o <;> simp

theorem sizeOf_flatMap_le {f : α → List β} (h : ∀ a, sizeOf (f a) ≤ sizeOf a + 2) (l : List α) :
    sizeOf (l.flatMap f) ≤ sizeOf l := by
  induction l with
  | nil => simp
  | cons a l ih =>
    have ha := h a
    rw [List.flatMap_cons, sizeOf_append, List.cons.sizeOf_spec]
    omega

theorem sizeOf_filterMap_le {f : α → Option β} (h : ∀ a, sizeOf (f a) ≤ sizeOf a + 1) (l : List α) :
    sizeOf (l.filterMap f) ≤ sizeOf l := by
  induction l with
  | nil => simp
  | cons a l ih =>
    have ha := h a
    rw [List.filterMap_cons]
    cases hf : f a with
    | none => simp only [List.cons.sizeOf_spec]; omega
    | some b =>
      rw [hf, Option.some.sizeOf_spec] at ha
      simp only [List.cons.sizeOf_spec]
      omega

end QueryLint

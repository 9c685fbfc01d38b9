import QueryLint.Text.LetterCase

/-! Comparison without regard to case: two texts have the same letters if they fold to the same
text, so the comparison is an equivalence that goes along with cutting texts. -/
namespace QueryLint.Text
set_option autoImplicit false

theorem sameLetter_iff {c d : Char} : sameLetter c d = true ↔ foldCase c = foldCase d := by
  rw [sameLetter, beq_iff_eq]

theorem sameLetters_iff {s t : List Char} :
    sameLetters s t = true ↔ s.map foldCase = t.map foldCase := by
  induction s generalizing t with
  | nil => cases t <;> simp [sameLetters]
  | cons c s ih =>
    cases t with
    | nil => simp [sameLetters]
    | cons d t =>
      rw [sameLetters, Bool.and_eq_true, sameLetter_iff, ih]
      simp

theorem sameLetters_refl (t : List Char) : sameLetters t t = true := sameLetters_iff.mpr rfl

theorem sameLetters_symm {s t : List Char} (h : sameLetters s t = true) :
    sameLetters t s = true := sameLetters_iff.mpr (sameLetters_iff.mp h).symm

theorem sameLetters_trans {s t u : List Char} (h : sameLetters s t = true)
    (h' : sameLetters t u = true) : sameLetters s u = true :=
  sameLetters_iff.mpr ((sameLetters_iff.mp h).trans (sameLetters_iff.mp h'))

theorem length_eq_of_sameLetters {s t : List Char} (h : sameLetters s t = true) :
    s.length = t.length := by
  have hl := congrArg List.length (sameLetters_iff.mp h)
  rwa [List.length_map, List.length_map] at hl

theorem sameLetters_append {s s' t t' : List Char} (h : sameLetters s t = true)
    (h' : sameLetters s' t' = true) : sameLetters (s ++ s') (t ++ t') = true := by
  rw [sameLetters_iff] at h h' ⊢
  rw [List.map_append, List.map_append, h, h']

/-! ## Lower case -/

/-- The dotted capital i is the only letter that has two in lower case. -/
theorem length_lowerFrom {before t : List Char} (h : ∀ c ∈ t, c.toNat ≠ 0x130) :
    (lowerFrom before t).length = t.length := by
  induction t generalizing before with
  | nil => rfl
  | cons c t ih =>
    have hc := h c List.mem_cons_self
    have ht : (lowerFrom (c :: before) t).length = t.length :=
      ih fun d hd => h d (List.mem_cons_of_mem c hd)
    rw [lowerFrom, List.length_append, ht, List.length_cons]
    split
    · split <;> (rw [List.length_singleton]; omega)
    · rw [List.length_singleton]
      omega

theorem length_lower {t : List Char} (h : ∀ c ∈ t, c.toNat ≠ 0x130) :
    (lower t).length = t.length := length_lowerFrom h

/-- What is small ASCII in lower case has the same letters as before. -/
theorem map_foldCase_of_lowerFrom {before t k : List Char} (h : lowerFrom before t = k)
    (hk : ∀ c ∈ k, c.toNat < 0x80) : t.map foldCase = k := by
  induction t generalizing before k with
  | nil => exact h
  | cons c t ih =>
    rw [lowerFrom] at h
    subst h
    obtain ⟨hfirst, hothers⟩ := List.forall_mem_append.mp hk
    rw [List.map_cons, ih rfl hothers]
    split at hfirst
    · split at hfirst <;> exact absurd (hfirst _ (List.mem_singleton_self _)) (by decide)
    · split at hfirst
      · exact absurd (hfirst _ (List.mem_cons_of_mem _ (List.mem_singleton_self _))) (by decide)
      · rename_i hsigma hdotted
        rw [if_neg hsigma, if_neg hdotted, List.singleton_append, foldCase]
        rw [if_pos (hfirst _ (List.mem_singleton_self _))]

theorem sameLetters_of_lower {t k : List Char} (h : lower t = k)
    (hk : ∀ c ∈ k, c.toNat < 0x80 ∧ foldCase c = c) : sameLetters k t = true := by
  have hself : k.map foldCase = k := by
    refine (List.map_congr_left fun c hc => (hk c hc).2).trans ?_
    exact List.map_id _
  rw [sameLetters_iff, map_foldCase_of_lowerFrom h fun c hc => (hk c hc).1, hself]

end QueryLint.Text

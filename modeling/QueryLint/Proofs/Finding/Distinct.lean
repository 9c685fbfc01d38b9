import QueryLint.Finding.Basic

/-! One finding for each rule. Main statements: `mem_distinct`, a finding is kept if it is the first
of its rule; `filter_distinct`, choosing some rules before or after makes no difference; and
`distinct_append`, lists that share no rule do not disturb each other. -/
namespace QueryLint.Finding
set_option autoImplicit false

variable {seen seen' : List String} {l l' : List Finding} {f : Finding}

theorem firstOfEach_cons_of_mem {rest : List Finding} (h : f.rule ∈ seen) :
    firstOfEach seen (f :: rest) = firstOfEach seen rest := by
  rw [firstOfEach, if_pos (List.contains_iff_mem.mpr h)]

theorem firstOfEach_cons_of_not_mem {rest : List Finding} (h : f.rule ∉ seen) :
    firstOfEach seen (f :: rest) = f :: firstOfEach (f.rule :: seen) rest := by
  rw [firstOfEach, if_neg fun hc => h (List.contains_iff_mem.mp hc)]

/-- Only the rules that occur count among those seen before. -/
theorem firstOfEach_congr (h : ∀ f ∈ l, f.rule ∈ seen ↔ f.rule ∈ seen') :
    firstOfEach seen l = firstOfEach seen' l := by
  induction l generalizing seen seen' with
  | nil => rfl
  | cons f rest ih =>
    have hf := h f List.mem_cons_self
    have hrest : ∀ g ∈ rest, g.rule ∈ seen ↔ g.rule ∈ seen' := fun g hg =>
      h g (List.mem_cons_of_mem f hg)
    by_cases hmem : f.rule ∈ seen
    · rw [firstOfEach_cons_of_mem hmem, firstOfEach_cons_of_mem (hf.mp hmem)]
      exact ih hrest
    · rw [firstOfEach_cons_of_not_mem hmem, firstOfEach_cons_of_not_mem (hmem ∘ hf.mpr)]
      congr 1
      apply ih
      intro g hg
      rw [List.mem_cons, List.mem_cons, hrest g hg]

/-- What is kept of a list stands in it in the same order. -/
theorem firstOfEach_sublist (seen : List String) (l : List Finding) :
    (firstOfEach seen l).Sublist l := by
  induction l generalizing seen with
  | nil => exact List.Sublist.slnil
  | cons f rest ih =>
    by_cases h : f.rule ∈ seen
    · rw [firstOfEach_cons_of_mem h]
      exact (ih seen).cons f
    · rw [firstOfEach_cons_of_not_mem h]
      exact (ih (f.rule :: seen)).cons_cons f

/-- A finding is kept if its rule was not seen before and it is the first one of the rule. -/
theorem mem_firstOfEach :
    f ∈ firstOfEach seen l ↔ f.rule ∉ seen ∧ l.find? (fun g => g.rule == f.rule) = some f := by
  induction l generalizing seen with
  | nil => simp [firstOfEach]
  | cons g rest ih =>
    by_cases hrule : g.rule = f.rule
    · rw [List.find?_cons_of_pos (by simpa using hrule), Option.some.injEq]
      by_cases hseen : g.rule ∈ seen
      · rw [firstOfEach_cons_of_mem hseen, ih]
        rw [hrule] at hseen
        exact ⟨fun h => absurd hseen h.1, fun h => absurd hseen h.1⟩
      · rw [firstOfEach_cons_of_not_mem hseen, List.mem_cons, ih, ← hrule]
        constructor
        · rintro (rfl | ⟨hnot, -⟩)
          · exact ⟨hseen, rfl⟩
          · exact absurd List.mem_cons_self hnot
        · exact fun h => .inl h.2.symm
    · rw [List.find?_cons_of_neg (by simpa using hrule)]
      by_cases hseen : g.rule ∈ seen
      · rw [firstOfEach_cons_of_mem hseen, ih]
      · rw [firstOfEach_cons_of_not_mem hseen, List.mem_cons, ih, List.mem_cons, not_or]
        constructor
        · rintro (rfl | ⟨⟨-, hnot⟩, hfind⟩)
          · exact absurd rfl hrule
          · exact ⟨hnot, hfind⟩
        · exact fun h => .inr ⟨⟨fun he => hrule he.symm, h.1⟩, h.2⟩

theorem firstOfEach_rules_nodup (seen : List String) (l : List Finding) :
    ((firstOfEach seen l).map Finding.rule).Nodup := by
  induction l generalizing seen with
  | nil => exact List.nodup_nil
  | cons f rest ih =>
    by_cases h : f.rule ∈ seen
    · rw [firstOfEach_cons_of_mem h]
      exact ih seen
    · rw [firstOfEach_cons_of_not_mem h, List.map_cons, List.nodup_cons]
      refine ⟨?_, ih (f.rule :: seen)⟩
      intro hmem
      obtain ⟨g, hg, hrule⟩ := List.mem_map.mp hmem
      exact (mem_firstOfEach.mp hg).1 (hrule ▸ List.mem_cons_self)

/-- To leave rules out before the first of each is kept comes to the same as to do it after. -/
theorem filter_firstOfEach (p : String → Bool) (seen : List String) (l : List Finding) :
    (firstOfEach seen l).filter (fun f => p f.rule)
      = firstOfEach seen (l.filter fun f => p f.rule) := by
  induction l generalizing seen with
  | nil => rfl
  | cons f rest ih =>
    by_cases hseen : f.rule ∈ seen
    · rw [firstOfEach_cons_of_mem hseen, ih]
      cases hp : p f.rule with
      | true => simp only [List.filter_cons, hp, if_true, firstOfEach_cons_of_mem hseen]
      | false => simp only [List.filter_cons, hp, Bool.false_eq_true, if_false]
    · rw [firstOfEach_cons_of_not_mem hseen]
      cases hp : p f.rule with
      | true =>
        simp only [List.filter_cons, hp, if_true, firstOfEach_cons_of_not_mem hseen, ih]
      | false =>
        simp only [List.filter_cons, hp, Bool.false_eq_true, if_false, ih]
        apply firstOfEach_congr
        intro g hg
        have hgp : p g.rule = true := (List.mem_filter.mp hg).2
        have hne : g.rule ≠ f.rule := by
          intro he
          rw [he, hp] at hgp
          exact Bool.false_ne_true hgp
        rw [List.mem_cons, or_iff_right hne]

def RulesApart (l l' : List Finding) : Prop := ∀ f ∈ l, ∀ g ∈ l', f.rule ≠ g.rule

theorem firstOfEach_append (h : RulesApart l l') :
    firstOfEach seen (l ++ l') = firstOfEach seen l ++ firstOfEach seen l' := by
  induction l generalizing seen with
  | nil => rfl
  | cons f rest ih =>
    have hrest : RulesApart rest l' := fun g hg => h g (List.mem_cons_of_mem f hg)
    rw [List.cons_append]
    by_cases hseen : f.rule ∈ seen
    · rw [firstOfEach_cons_of_mem hseen, firstOfEach_cons_of_mem hseen, ih hrest]
    · rw [firstOfEach_cons_of_not_mem hseen, firstOfEach_cons_of_not_mem hseen, ih hrest,
        List.cons_append]
      congr 2
      apply firstOfEach_congr
      intro g hg
      rw [List.mem_cons, or_iff_right (h f List.mem_cons_self g hg).symm]

/-! ## The list as a whole -/

theorem mem_distinct : f ∈ distinct l ↔ l.find? (fun g => g.rule == f.rule) = some f := by
  rw [distinct, mem_firstOfEach]
  exact and_iff_right List.not_mem_nil

theorem distinct_sublist (l : List Finding) : (distinct l).Sublist l := firstOfEach_sublist [] l

theorem distinct_rules_nodup (l : List Finding) : ((distinct l).map Finding.rule).Nodup :=
  firstOfEach_rules_nodup [] l

theorem filter_distinct (p : String → Bool) (l : List Finding) :
    (distinct l).filter (fun f => p f.rule) = distinct (l.filter fun f => p f.rule) :=
  filter_firstOfEach p [] l

theorem distinct_append (h : RulesApart l l') : distinct (l ++ l') = distinct l ++ distinct l' :=
  firstOfEach_append h

/-- Parts of which no two share a rule are kept each by itself. -/
theorem distinct_flatMap {α : Type} {parts : List α} {g : α → List Finding}
    (h : parts.Pairwise fun a b => RulesApart (g a) (g b)) :
    distinct (parts.flatMap g) = parts.flatMap fun a => distinct (g a) := by
  induction parts with
  | nil => rfl
  | cons a rest ih =>
    obtain ⟨hfirst, hrest⟩ := List.pairwise_cons.mp h
    have hapart : RulesApart (g a) (rest.flatMap g) := by
      intro f hf k hk
      obtain ⟨b, hb, hkb⟩ := List.mem_flatMap.mp hk
      exact hfirst b hb f hf k hkb
    rw [List.flatMap_cons, List.flatMap_cons, distinct_append hapart, ih hrest]

end QueryLint.Finding

import QueryLint.Proofs.Sql.Parted
import QueryLint.Proofs.Sql.Group

/-! Balanced parentheses, counted. Where a text has no quotes the counts tell what the scan for a
closing parenthesis finds: a call is balanced, and a parenthesis that is open is closed as soon as as
many have been closed as opened. Main statements: `IsCall.balanced` and `exists_closing`. -/
namespace QueryLint.Sql
set_option autoImplicit false
open Text

/-! ## Levels -/

/-- How many more parentheses a text opens than it closes. -/
def level (t : Text) : Int := t.count '(' - t.count ')'

def Plain (t : Text) : Prop := ∀ c ∈ t, c ≠ '(' ∧ c ≠ ')'

instance (t : Text) : Decidable (Plain t) :=
  decidable_of_iff (t.all (fun c => c != '(' && c != ')') = true) (by simp [Plain])

section Level

variable (c : Char) (s t : Text)

@[simp] theorem level_nil : level [] = 0 := rfl

@[simp] theorem level_append : level (s ++ t) = level s + level t := by
  simp only [level, List.count_append]
  omega

theorem level_cons : level (c :: t) = level [c] + level t := level_append [c] t

@[simp] theorem level_open : level ['('] = 1 := rfl

@[simp] theorem level_close : level [')'] = -1 := rfl

end Level

theorem Plain.level {t : Text} (h : Plain t) : level t = 0 := by
  have hopen : t.count '(' = 0 := List.count_eq_zero.mpr fun hmem => (h _ hmem).1 rfl
  have hclose : t.count ')' = 0 := List.count_eq_zero.mpr fun hmem => (h _ hmem).2 rfl
  rw [Sql.level, hopen, hclose]
  rfl

theorem Plain.append {s t : Text} (hs : Plain s) (ht : Plain t) : Plain (s ++ t) := fun c hc =>
  (List.mem_append.mp hc).elim (hs c) (ht c)

/-! ## Staying above the ground -/

/-- A text that follows so many open parentheses never closes more than are open. -/
def Above (depth : Int) (t : Text) : Prop := ∀ n, 0 ≤ depth + level (t.take n)

theorem above_append {depth : Int} {s t : Text} :
    Above depth (s ++ t) ↔ Above depth s ∧ Above (depth + level s) t := by
  constructor
  · refine fun h => ⟨fun n => ?_, fun n => ?_⟩
    · rcases Nat.le_total n s.length with hle | hle
      · have hn := h n
        rwa [List.take_append_of_le_length hle] at hn
      · have hn := h s.length
        rw [List.take_left] at hn
        rwa [List.take_of_length_le hle]
    · have hn := h (s.length + n)
      rwa [List.take_length_add_append, level_append, ← Int.add_assoc] at hn
  · rintro ⟨hs, ht⟩ n
    rw [List.take_append, level_append]
    rcases Nat.le_total n s.length with hle | hle
    · rw [Nat.sub_eq_zero_of_le hle, List.take_zero, level_nil, Int.add_zero]
      exact hs n
    · rw [List.take_of_length_le hle, ← Int.add_assoc]
      exact ht (n - s.length)

theorem Above.nonneg {depth : Int} {t : Text} (h : Above depth t) : 0 ≤ depth := by
  simpa using h 0

theorem Above.add_level_nonneg {depth : Int} {t : Text} (h : Above depth t) :
    0 ≤ depth + Sql.level t := by
  simpa using h t.length

theorem Above.mono {depth depth' : Int} {t : Text} (h : Above depth t) (hle : depth ≤ depth') :
    Above depth' t := fun n => Int.le_trans (h n) (Int.add_le_add_right hle _)

theorem Plain.above {t : Text} (h : Plain t) {depth : Int} (hdepth : 0 ≤ depth) : Above depth t := by
  intro n
  have htake : Plain (t.take n) := fun c hc => h c (List.mem_of_mem_take hc)
  rwa [htake.level, Int.add_zero]

/-! ## Balanced texts -/

/-- Parentheses are balanced: never more of them are closed than opened, and as many at the end. -/
structure Balanced (t : Text) : Prop where
  opened : ∀ n, (t.take n).count ')' ≤ (t.take n).count '('
  closed : t.count ')' = t.count '('

instance (t : Text) : Decidable (Balanced t) :=
  decidable_of_iff ((∀ n < t.length + 1, (t.take n).count ')' ≤ (t.take n).count '(') ∧
      t.count ')' = t.count '(') <| by
    refine ⟨fun ⟨hopened, hclosed⟩ => ⟨fun n => ?_, hclosed⟩, fun h => ⟨fun n _ => h.opened n, h.closed⟩⟩
    rcases Nat.lt_or_ge n (t.length + 1) with hlt | hge
    · exact hopened n hlt
    · rw [List.take_of_length_le (Nat.le_of_succ_le hge)]
      exact Nat.le_of_eq hclosed

theorem balanced_iff {t : Text} : Balanced t ↔ Above 0 t ∧ level t = 0 := by
  constructor
  · rintro ⟨hopened, hclosed⟩
    refine ⟨fun n => ?_, by rw [level, hclosed, Int.sub_self]⟩
    have hn := hopened n
    rw [level]
    omega
  · rintro ⟨habove, hlevel⟩
    rw [level] at hlevel
    refine ⟨fun n => ?_, by omega⟩
    have hn := habove n
    rw [level] at hn
    omega

theorem Balanced.level {t : Text} (h : Balanced t) : Sql.level t = 0 := (balanced_iff.mp h).2

theorem Balanced.above {t : Text} (h : Balanced t) {depth : Int} (hdepth : 0 ≤ depth) :
    Above depth t := (balanced_iff.mp h).1.mono hdepth

theorem Balanced.level_left_nonneg {s t : Text} (h : Balanced (s ++ t)) : 0 ≤ Sql.level s := by
  have habove := (above_append.mp (h.above (Int.le_refl 0))).1.add_level_nonneg
  omega

theorem Plain.balanced {t : Text} (h : Plain t) : Balanced t :=
  balanced_iff.mpr ⟨h.above (Int.le_refl 0), h.level⟩

theorem Balanced.append {s t : Text} (hs : Balanced s) (ht : Balanced t) : Balanced (s ++ t) := by
  refine balanced_iff.mpr ⟨above_append.mpr ⟨hs.above (Int.le_refl 0), ?_⟩, ?_⟩
  · rw [hs.level]
    exact ht.above (Int.le_refl 0)
  · rw [level_append, hs.level, ht.level, Int.add_zero]

theorem Balanced.parenthesized {body : Text} (h : Balanced body) :
    Balanced ('(' :: (body ++ [')'])) := by
  have hopen : Above 0 ['('] := fun n => by cases n <;> simp
  have hclose : Above 1 [')'] := fun n => by cases n <;> simp
  refine balanced_iff.mpr ⟨?_, ?_⟩
  · rw [← List.singleton_append, above_append, above_append]
    exact ⟨hopen, h.above (by decide), by rwa [h.level]⟩
  · rw [← List.singleton_append, level_append, level_append, h.level]
    rfl

/-- A balanced text between others does not matter for staying above the ground. -/
theorem Balanced.above_append_iff {s t : Text} (hs : Balanced s) {depth : Int} :
    Above depth (s ++ t) ↔ Above depth t := by
  rw [above_append, hs.level, Int.add_zero]
  exact and_iff_right_of_imp fun ht => hs.above ht.nonneg

/-! ## Texts without quotes -/

def QuoteFree (t : Text) : Prop := ∀ c ∈ t, isQuote c = false

instance (t : Text) : Decidable (QuoteFree t) :=
  decidable_of_iff (t.all (fun c => !isQuote c) = true) (by simp [QuoteFree])

theorem QuoteFree.of_subset {s t : Text} (h : QuoteFree t) (hsub : s ⊆ t) : QuoteFree s :=
  fun c hc => h c (hsub hc)

theorem Items.balanced {t : Text} (h : Items t) (hquotes : QuoteFree t) : Balanced t := by
  induction h with
  | nil => exact Plain.balanced (fun c hc => absurd hc List.not_mem_nil)
  | @plain c rest _ hopen hclose _ ih =>
    have hplain : Plain [c] := fun d hd => List.mem_singleton.mp hd ▸ ⟨hopen, hclose⟩
    exact hplain.balanced.append (ih (hquotes.of_subset (List.subset_cons_self c rest)))
  | quoted hquote _ _ _ => exact absurd hquote (by simp [hquotes _ List.mem_cons_self])
  | @group body rest _ _ ihbody ih =>
    have hbody := ihbody (hquotes.of_subset fun c hc => by simp [hc])
    have hrest := ih (hquotes.of_subset fun c hc => by simp [hc])
    simpa using hbody.parenthesized.append hrest

/-- An open parenthesis is closed at the latest where as many have been closed as opened. -/
theorem exists_closing {t : Text} (hquotes : QuoteFree t) {depth : Int} (hdepth : 0 < depth)
    (hlevel : depth + level t ≤ 0) (position : Nat) (rest : Text) :
    ∃ stop, closingFrom depth none position (t ++ rest) = some stop ∧ stop ≤ position + t.length := by
  induction t generalizing depth position with
  | nil =>
    rw [level_nil] at hlevel
    omega
  | cons c t ih =>
    rw [level_cons] at hlevel
    have hothers := hquotes.of_subset (List.subset_cons_self c t)
    -- The scan goes on after the character at another depth.
    have later : ∀ {depth' : Int}, 0 < depth' → depth' + level t ≤ 0 →
        ∃ stop, closingFrom depth' none (position + 1) (t ++ rest) = some stop ∧
          stop ≤ position + (c :: t).length := by
      intro depth' hdepth' hlevel'
      obtain ⟨stop, hstop, hle⟩ := ih hothers hdepth' hlevel' (position + 1)
      exact ⟨stop, hstop, by rw [List.length_cons]; omega⟩
    rw [List.cons_append]
    by_cases hopen : c = '('
    · subst hopen
      rw [level_open] at hlevel
      rw [closingFrom_open]
      exact later (by omega) (by omega)
    · by_cases hclose : c = ')'
      · subst hclose
        rw [level_close] at hlevel
        rw [closingFrom_close]
        split
        · exact ⟨position + 1, rfl, by rw [List.length_cons]; omega⟩
        · exact later (by omega) (by omega)
      · have hplain : Plain [c] := fun d hd => List.mem_singleton.mp hd ▸ ⟨hopen, hclose⟩
        rw [hplain.level] at hlevel
        rw [closingFrom_plain (hquotes c List.mem_cons_self) hopen hclose]
        exact later hdepth (by omega)

/-! ## Calls -/

theorem IsHead.exists_front {name : Text} {before : Option Char} {head : Text}
    (h : IsHead name before head) (hname : IsName name) :
    ∃ front, head = front ++ ['('] ∧ Plain front := by
  obtain ⟨word, gap, rfl, hword, hgap, -⟩ := h
  refine ⟨word ++ gap, (List.append_assoc _ _ _).symm, Plain.append (fun d hd => ?_) fun c hc => ?_⟩
  · obtain ⟨c, hc, hsame⟩ := exists_of_sameLetters hword hd
    have hdelimiter := not_isDelimiter_of_sameLetter (hname.word c hc) hsame
    simp only [isDelimiter, Bool.or_eq_false_iff, beq_eq_false_iff_ne] at hdelimiter
    exact ⟨hdelimiter.1.2, hdelimiter.2⟩
  · have hblank := hgap c hc
    constructor <;> rintro rfl <;> exact absurd hblank (by decide)

theorem closingParen?_front (front rest : Text) :
    closingParen? (front ++ '(' :: rest) front.length
      = closingFrom 1 none (front.length + 1) rest := by
  rw [closingParen?, List.drop_left, closingFrom_open, Int.zero_add]

theorem Plain.items_append {s t : Text} (hs : Plain s) (hquotes : QuoteFree s) (ht : Items t) :
    Items (s ++ t) := by
  induction s with
  | nil => exact ht
  | cons c s ih =>
    obtain ⟨⟨hopen, hclose⟩, hothers⟩ := List.forall_mem_cons.mp hs
    obtain ⟨hquote, hquotes⟩ := List.forall_mem_cons.mp hquotes
    exact .plain hquote hopen hclose (ih hothers hquotes)

/-- A call without quotes is items: its name, its white space and a group. -/
theorem IsCall.items {name : Text} {before : Option Char} {call rest : Text}
    (h : IsCall name before (call ++ rest) call.length) (hname : IsName name)
    (hquotes : QuoteFree call) : Items call := by
  obtain ⟨head, hhead, ⟨after, hafter⟩, hclose⟩ := h
  obtain ⟨front, rfl, hfront⟩ := hhead.exists_front hname
  rw [List.length_append, List.length_singleton, Nat.add_sub_cancel] at hclose
  have hopen : (call ++ rest)[front.length]? = some '(' := by
    rw [← hafter, List.append_assoc, List.getElem?_append_right (Nat.le_refl _), Nat.sub_self]
    rfl
  obtain ⟨group, ⟨body, hbody, rfl⟩, hgroup, hlength⟩ := group_of_closingParen? hopen hclose
  have hcall : front ++ '(' :: (body ++ [')']) <+: call ++ rest := by
    have hfrontIn : front <+: call ++ rest := ⟨['('] ++ after, by rw [← hafter, List.append_assoc]⟩
    exact (prefix_drop_iff hfrontIn).mp hgroup
  obtain rfl : front ++ '(' :: (body ++ [')']) = call :=
    (List.prefix_of_prefix_length_le hcall (List.prefix_append _ _)
      (Nat.le_of_eq (by rw [hlength, List.length_append]))).eq_of_length
      (by rw [hlength, List.length_append])
  exact hfront.items_append (hquotes.of_subset (List.subset_append_left _ _)) (.group hbody .nil)

theorem IsCall.balanced {name : Text} {before : Option Char} {call rest : Text}
    (h : IsCall name before (call ++ rest) call.length) (hname : IsName name)
    (hquotes : QuoteFree call) : Balanced call := (h.items hname hquotes).balanced hquotes

theorem IsCall.balanced_take {name : Text} {before : Option Char} {t : Text} {n : Nat}
    (h : IsCall name before t n) (hname : IsName name) (hquotes : QuoteFree t) :
    Balanced (t.take n) := by
  have hlength : (t.take n).length = n := List.length_take_of_le h.length_bounds.2
  have hcall : IsCall name before (t.take n ++ t.drop n) (t.take n).length := by
    rwa [List.take_append_drop, hlength]
  exact hcall.balanced hname (hquotes.of_subset (List.take_subset n t))

theorem IsCall.nested {outer inner : Text} (hinner : IsName inner) (houter : IsName outer)
    {before before' : Option Char} {u v rest : Text} {n : Nat}
    (h : IsCall outer before (u ++ v ++ rest) (u ++ v).length) (hquotes : QuoteFree (u ++ v))
    (hv : v ≠ []) (h' : IsCall inner before' (v ++ rest) n) : n ≤ v.length := by
  obtain ⟨head, hhead, hbegins, hclose⟩ := h'
  obtain ⟨front, rfl, hfront⟩ := hhead.exists_front hinner
  -- The outer call ends in a closing parenthesis, and the inner head has none.
  have hlast : v.getLast? = some ')' := by
    have hlast := h.getLast?
    rwa [List.getLast?_append, Option.or_of_isSome (List.getLast?_isSome.mpr hv)] at hlast
  have hclosing : ')' ∈ v := List.mem_of_getLast? hlast
  have hhead : front ++ ['('] <+: v := by
    rcases List.prefix_or_prefix_of_prefix hbegins (List.prefix_append v rest) with hin | hin
    · exact hin
    · rcases List.mem_append.mp (hin.subset hclosing) with hmem | hmem
      · exact absurd rfl (hfront _ hmem).2
      · exact absurd hmem (by decide)
  obtain ⟨w, rfl⟩ := hhead
  have hbalanced := h.balanced houter hquotes
  have hu : 0 ≤ level u := hbalanced.level_left_nonneg
  have hlevel := hbalanced.level
  rw [level_append, level_append, level_append, hfront.level, level_open] at hlevel
  have hw : QuoteFree w := hquotes.of_subset fun c hc => by simp [hc]
  obtain ⟨stop, hstop, hle⟩ :=
    exists_closing hw (show (0 : Int) < 1 by decide) (by omega) (front.length + 1) rest
  rw [List.length_append, List.length_singleton, Nat.add_sub_cancel, List.append_assoc,
    List.append_assoc, List.singleton_append, closingParen?_front, hstop] at hclose
  obtain rfl := Option.some.inj hclose
  simpa only [List.length_append, List.length_singleton] using hle

end QueryLint.Sql

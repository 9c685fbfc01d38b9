import QueryLint.Proofs.Sql.Clause

/-! Stretches that a clause passes. A clause goes on through a stretch if it stops nowhere in it; what
stops it depends on what stands before and after, and a stretch that leaves nothing open can be looked
at part by part. Main statements: `passes_append`, `passes_quoted` and `passes_group` for what is hidden
from the scan, and `passes_name` for what is not. -/
namespace QueryLint.Sql
set_option autoImplicit false
open Text

/-! ## What items leave open -/

namespace Standing

variable {n : Int}

theorem foldl_inside {q : Char} {inside : Text} (h : q ∉ inside) :
    inside.foldl after (mk (some q) n) = mk (some q) n := by
  induction inside with
  | nil => rfl
  | cons c inside ih =>
    obtain ⟨hc, hinside⟩ := List.ne_and_not_mem_of_not_mem_cons h
    rw [List.foldl_cons, after, quoteAfter, if_neg (by simpa using Ne.symm hc)]
    exact ih hinside

theorem foldl_items {t : Text} (h : Items t) : t.foldl after (mk none n) = mk none n := by
  induction h generalizing n with
  | nil => rfl
  | plain hquote hopen hclose _ ih => rw [List.foldl_cons, after_plain hquote hopen hclose, ih]
  | quoted hquote hinside _ ih =>
    rw [List.foldl_cons, after_quote hquote, List.foldl_append, foldl_inside hinside]
    rw [List.foldl_cons, after_unquote, ih]
  | group _ _ ihbody ih =>
    rw [List.foldl_cons, after_open, List.foldl_append, ihbody]
    rw [List.foldl_cons, after_close, ih]

theorem le_level_foldl {t : Text} (h : Items t) {u v : Text} (ht : t = u ++ v) :
    n ≤ (u.foldl after (mk none n)).level := by
  induction h generalizing n u v with
  | nil =>
    obtain ⟨rfl, -⟩ := List.append_eq_nil_iff.mp ht.symm
    exact Int.le_refl n
  | plain hquote hopen hclose _ ih =>
    obtain ⟨rfl, -⟩ | ⟨u, rfl, hrest⟩ := List.cons_eq_append_iff.mp ht
    · exact Int.le_refl n
    · rw [List.foldl_cons, after_plain hquote hopen hclose]
      exact ih hrest
  | quoted hquote hinside _ ih =>
    obtain ⟨rfl, -⟩ | ⟨u, rfl, hrest⟩ := List.cons_eq_append_iff.mp ht
    · exact Int.le_refl n
    · rw [List.foldl_cons, after_quote hquote]
      obtain ⟨w, rfl, hw⟩ | ⟨w, rfl, hw⟩ := List.append_eq_append_iff.mp hrest
      · rw [List.foldl_append, foldl_inside hinside]
        obtain ⟨rfl, -⟩ | ⟨w, rfl, hothers⟩ := List.cons_eq_append_iff.mp hw
        · exact Int.le_refl n
        · rw [List.foldl_cons, after_unquote]
          exact ih hothers
      · have hu : _ ∉ u := fun hmem => hinside (List.mem_append_left w hmem)
        exact Int.le_of_eq (by rw [foldl_inside hu])
  | group _ _ ihbody ih =>
    obtain ⟨rfl, -⟩ | ⟨u, rfl, hrest⟩ := List.cons_eq_append_iff.mp ht
    · exact Int.le_refl n
    · rw [List.foldl_cons, after_open]
      obtain ⟨w, rfl, hw⟩ | ⟨w, rfl, hw⟩ := List.append_eq_append_iff.mp hrest
      · rw [List.foldl_append, foldl_items ‹_›]
        obtain ⟨rfl, -⟩ | ⟨w, rfl, hothers⟩ := List.cons_eq_append_iff.mp hw
        · exact Int.le_add_of_nonneg_right (by decide)
        · rw [List.foldl_cons, after_close]
          exact ih hothers
      · have hbody := ihbody (n := n + 1) rfl
        omega

end Standing

theorem Items.standing {t : Text} (h : Items t) : Sql.standing t = .ground := Standing.foldl_items h

theorem Items.append {u v : Text} (hu : Items u) (hv : Items v) : Items (u ++ v) := by
  induction hu with
  | nil => exact hv
  | plain hquote hopen hclose _ ih => exact .plain hquote hopen hclose ih
  | quoted hquote hinside _ ih =>
    rw [List.cons_append, List.append_assoc, List.cons_append]
    exact .quoted hquote hinside ih
  | group hbody _ _ ih =>
    rw [List.cons_append, List.append_assoc, List.cons_append]
    exact .group hbody ih

theorem Plain.items {t : Text} (h : Plain t) (hquotes : QuoteFree t) : Items t := by
  have hitems := h.items_append hquotes .nil
  rwa [List.append_nil] at hitems

/-! ## Signs -/

/-- A character that takes part in no name, no quote and no group and does not end a clause. -/
def IsSign (c : Char) : Prop := isWord c = false ∧ isQuote c = false ∧ c ≠ '(' ∧ c ≠ ')' ∧ c ≠ ';'

instance (c : Char) : Decidable (IsSign c) := inferInstanceAs (Decidable (_ ∧ _))

theorem isSign_of_isBlank {c : Char} (h : isBlank c = true) : IsSign c :=
  ⟨isWord_of_isBlank h, noSign_of_class (by decide) h⟩

theorem items_signs {s : Text} (h : ∀ c ∈ s, IsSign c) : Items s :=
  Plain.items (fun c hc => ⟨(h c hc).2.2.1, (h c hc).2.2.2.1⟩) fun c hc => (h c hc).2.1

theorem exists_last_sign {s : Text} (hne : s ≠ []) (h : ∀ c ∈ s, IsSign c) :
    ∃ c, s.getLast? = some c ∧ isWord c = false := by
  obtain ⟨c, hc⟩ := Option.isSome_iff_exists.mp (List.getLast?_isSome.mpr hne)
  exact ⟨c, hc, (h c (List.mem_of_getLast? hc)).1⟩

theorem wordEnds_signs {s rest : Text} (hne : s ≠ []) (h : ∀ c ∈ s, IsSign c) :
    WordEnds (s ++ rest) := by
  obtain ⟨c, s, rfl⟩ := List.exists_cons_of_ne_nil hne
  exact wordEnds_cons.mpr (h c List.mem_cons_self).1

theorem leadingWord_dropWhile_signs {s rest : Text} (h : ∀ c ∈ s, IsSign c)
    (hsign : ∃ c ∈ s, isBlank c = false) : leadingWord ((s ++ rest).dropWhile isBlank) = [] := by
  induction s with
  | nil => exact absurd hsign (by simp)
  | cons c s ih =>
    obtain ⟨hc, hothers⟩ := List.forall_mem_cons.mp h
    by_cases hblank : isBlank c = true
    · rw [List.cons_append, List.dropWhile_cons_of_pos hblank]
      obtain ⟨d, hd, hnot⟩ := hsign
      refine ih hothers ⟨d, (List.mem_cons.mp hd).resolve_left ?_, hnot⟩
      rintro rfl
      exact nomatch hblank.symm.trans hnot
    · rw [List.cons_append, List.dropWhile_cons_of_neg hblank]
      exact List.takeWhile_cons_of_neg (by simp [hc.1])

/-! ## Stretches without a stop -/

/-- A sign that a clause is over, at the beginning of a text. -/
def Over (endings : List Ending) (before : Option Char) (t : Text) : Prop :=
  t.head? = some ')' ∨ t.head? = some ';' ∨
    (∀ c ∈ before, isWord c = false) ∧ ∃ e ∈ endings, e.Begins t

/-- At no place of a stretch a clause is over that has left nothing open since the stretch began. -/
def Passes (endings : List Ending) (before : Option Char) (u rest : Text) : Prop :=
  ∀ v w, u = v ++ w → w ≠ [] → standing v = .ground → ¬Over endings (v.getLast?.or before) (w ++ rest)

section Passes

variable {endings : List Ending} {before : Option Char} {u v rest : Text}

theorem stopsAt_iff {sql w : Text} (hsql : sql = u ++ (v ++ w)) :
    StopsAt endings sql u.length (u.length + v.length) ↔
      standing v = .ground ∧ Over endings (v.getLast?.or u.getLast?) w := by
  have hslice : sql.slice ⟨u.length, u.length + v.length⟩ = v := by
    rw [Text.slice_eq_take_drop, hsql, Nat.add_sub_cancel_left, List.drop_left, List.take_left]
  have hdrop : sql.drop (u.length + v.length) = w := by
    rw [hsql, ← List.drop_drop, List.drop_left, List.drop_left]
  have htake : sql.take (u.length + v.length) = u ++ v := by
    rw [hsql, List.take_length_add_append, List.take_left]
  have hhead : sql[u.length + v.length]? = w.head? := by rw [← List.head?_drop, hdrop]
  constructor
  · rintro ⟨hground, hsign⟩
    rw [hslice] at hground
    rw [hhead, htake, hdrop, List.getLast?_append] at hsign
    exact ⟨hground, hsign⟩
  · rintro ⟨hground, hover⟩
    refine ⟨by rwa [hslice], ?_⟩
    rw [hhead, htake, hdrop, List.getLast?_append]
    exact hover

theorem clear_iff_passes :
    Clear endings (u ++ v) u.length (u ++ v).length ↔ Passes endings u.getLast? v [] := by
  constructor
  · rintro hclear w rest rfl hrest hground hover
    have hpos := List.length_pos_iff.mpr hrest
    refine hclear (u.length + w.length) (Nat.le_add_right _ _) ?_ ((stopsAt_iff rfl).mpr ⟨hground, ?_⟩)
    · simp only [List.length_append]
      omega
    · rwa [List.append_nil] at hover
  · intro hpasses i hstart hlt hstops
    rw [List.length_append] at hlt
    have hlength : (v.take (i - u.length)).length = i - u.length :=
      List.length_take_of_le (by omega)
    have hi : i = u.length + (v.take (i - u.length)).length := by omega
    have hsplit := (List.take_append_drop (i - u.length) v).symm
    rw [hi] at hstops
    obtain ⟨hground, hover⟩ := (stopsAt_iff (congrArg (u ++ ·) hsplit)).mp hstops
    refine hpasses _ _ hsplit ?_ hground (by rwa [List.append_nil])
    rw [ne_eq, List.drop_eq_nil_iff]
    omega

/-- A stretch is passed part by part where nothing is open between the parts. -/
theorem passes_append (hground : standing u = .ground) :
    Passes endings before (u ++ v) rest ↔
      Passes endings before u (v ++ rest) ∧ Passes endings (u.getLast?.or before) v rest := by
  have hstanding : ∀ w, standing (u ++ w) = standing w := by
    intro w
    rw [standing, List.foldl_append, ← standing, hground]
    rfl
  constructor
  · intro h
    constructor
    · rintro w x rfl hne hw
      have hover := h w (x ++ v) (List.append_assoc w x v) (List.append_ne_nil_of_left_ne_nil hne v) hw
      rwa [List.append_assoc] at hover
    · rintro w x rfl hne hw
      have hover := h (u ++ w) x (List.append_assoc u w x).symm hne (by rwa [hstanding])
      rwa [List.getLast?_append, Option.or_assoc] at hover
  · rintro ⟨hu, hv⟩ w x hsplit hne hw
    obtain ⟨y, rfl, hx⟩ | ⟨y, rfl, rfl⟩ := List.append_eq_append_iff.mp hsplit
    · rw [hstanding] at hw
      rw [List.getLast?_append, Option.or_assoc]
      exact hv y x hx hne hw
    · cases y with
      | nil =>
        have hover := hv [] v rfl (by simpa using hne) rfl
        simpa using hover
      | cons c y =>
        rw [List.append_assoc]
        exact hu w (c :: y) rfl (List.cons_ne_nil c y) hw

theorem Ending.Begins.head? {e : Ending} (he : e.IsWords) {t : Text} (h : e.Begins t) :
    ∃ c ∈ t.head?, isWord c = true := by
  have hbegins : leadingWord t <+: t := List.takeWhile_prefix _
  have hne := he.first.ne_nil_of_sameLetters h.1
  obtain ⟨c, hc⟩ := Option.isSome_iff_exists.mp (List.isSome_head?.mpr hne)
  refine ⟨c, head?_of_begins hbegins hne ▸ hc, ?_⟩
  exact he.first.isWord_of_sameLetters h.1 c (List.mem_of_mem_head? hc)

theorem not_over_of_head? (hwords : ∀ e ∈ endings, e.IsWords) {t : Text}
    (ht : ∀ c ∈ t.head?, isWord c = false ∧ c ≠ ')' ∧ c ≠ ';') : ¬Over endings before t := by
  rintro (h | h | ⟨-, e, he, h⟩)
  · exact (ht _ h).2.1 rfl
  · exact (ht _ h).2.2 rfl
  · obtain ⟨c, hc, hword⟩ := h.head? (hwords e he)
    exact nomatch hword.symm.trans (ht c hc).1

theorem passes_of_forall (h : ∀ c ∈ u, ∀ before' t, ¬Over endings before' (c :: t)) :
    Passes endings before u rest := by
  rintro v w rfl hne -
  obtain ⟨c, w, rfl⟩ := List.exists_cons_of_ne_nil hne
  exact h c (List.mem_append_right v List.mem_cons_self) _ _

theorem passes_signs (hwords : ∀ e ∈ endings, e.IsWords) (hu : ∀ c ∈ u, IsSign c) :
    Passes endings before u rest := by
  refine passes_of_forall fun c hc before' t => not_over_of_head? hwords fun d hd => ?_
  obtain rfl := Option.some.inj hd
  exact ⟨(hu c hc).1, (hu c hc).2.2.2⟩

/-- A stretch from a character that ends nothing to one that closes what the first opened: on the ground
stands only its beginning. -/
theorem passes_enclosed (hwords : ∀ e ∈ endings, e.IsWords) {first last : Char} {inside : Text}
    (hfirst : isWord first = false ∧ first ≠ ')' ∧ first ≠ ';')
    (hinside : ∀ v, v <+: inside → standing (first :: v) ≠ Standing.ground) :
    Passes endings before (first :: (inside ++ [last])) rest := by
  intro v w hsplit hne hground
  obtain ⟨rfl, rfl⟩ | ⟨v, rfl, hothers⟩ := List.cons_eq_append_iff.mp hsplit
  · refine not_over_of_head? hwords fun d hd => ?_
    obtain rfl := Option.some.inj hd
    exact hfirst
  · have hv : v <+: inside := (List.prefix_concat_iff.mp ⟨w, hothers.symm⟩).resolve_left fun h => by
      subst h
      exact hne (List.self_eq_append_right.mp hothers)
    exact absurd hground (hinside v hv)

theorem passes_quoted (hwords : ∀ e ∈ endings, e.IsWords) {q : Char} {inside : Text}
    (hq : isQuote q = true) (hinside : q ∉ inside) :
    Passes endings before (q :: (inside ++ [q])) rest := by
  have hfirst : isWord q = false ∧ q ≠ ')' ∧ q ≠ ';' := by
    simp only [isQuote, Bool.or_eq_true, beq_iff_eq] at hq
    rcases hq with rfl | rfl <;> decide
  refine passes_enclosed hwords hfirst fun v hv hground => ?_
  rw [standing, List.foldl_cons, Standing.ground, Standing.after_quote hq,
    Standing.foldl_inside fun hmem => hinside (hv.subset hmem)] at hground
  exact absurd (congrArg Standing.quote hground) (Option.some_ne_none q)

theorem passes_group (hwords : ∀ e ∈ endings, e.IsWords) {body : Text} (hbody : Items body) :
    Passes endings before ('(' :: (body ++ [')'])) rest := by
  refine passes_enclosed hwords (by decide) fun v ⟨x, hx⟩ hground => ?_
  have hlevel := Standing.le_level_foldl (n := 1) hbody hx.symm
  rw [standing, List.foldl_cons, Standing.ground, Standing.after_open,
    show (0 : Int) + 1 = 1 from rfl] at hground
  rw [hground] at hlevel
  exact absurd hlevel (by decide)

end Passes

/-! ## Names -/

/-- The word of an ending of one word stands alone in a text. -/
def HasEnding (endings : List Ending) (t : Text) : Prop :=
  ∃ e ∈ endings, e.second? = none ∧ wordPlaces e.first.toList t ≠ []

/-- What comes after a word ends it, and makes it no first word of an ending of two. -/
structure Unpaired (endings : List Ending) (rest : Text) : Prop where
  wordEnds : WordEnds rest
  unpaired : ∀ e ∈ endings, ∀ second ∈ e.second?,
    sameLetters second.toList (leadingWord (rest.dropWhile isBlank)) = false

theorem wordPlaces_ne_nil_iff {w t : Text} (hw : w ≠ []) :
    wordPlaces w t ≠ [] ↔ ∃ u v, t = u ++ v ∧ v ≠ [] ∧
      (∀ c ∈ u.getLast?, isWord c = false) ∧ sameLetters w (leadingWord v) = true := by
  constructor
  · intro hne
    obtain ⟨i, hi⟩ := List.exists_mem_of_ne_nil _ hne
    obtain ⟨-, hat⟩ := List.mem_filter.mp hi
    obtain ⟨hbefore, hsame⟩ := of_decide_eq_true hat
    refine ⟨t.take i, t.drop i, (List.take_append_drop i t).symm, ?_, hbefore, hsame⟩
    intro hnil
    rw [hnil] at hsame
    exact hw (List.length_eq_zero_iff.mp (length_eq_of_sameLetters hsame))
  · rintro ⟨u, v, rfl, -, hbefore, hsame⟩
    refine List.ne_nil_of_mem (a := u.length) (List.mem_filter.mpr ⟨?_, decide_eq_true ⟨?_, ?_⟩⟩)
    · rw [List.mem_range, List.length_append]
      omega
    · rwa [List.take_left]
    · rwa [List.drop_left]

theorem leadingWord_append_of_wordEnds {w rest : Text} (hrest : WordEnds rest) :
    leadingWord (w ++ rest) = leadingWord w := by
  by_cases hall : ∀ c ∈ w, isWord c = true
  · have hself := leadingWord_append hall wordEnds_nil
    rw [List.append_nil] at hself
    rw [leadingWord_append hall hrest, hself]
  · simp only [Classical.not_forall] at hall
    obtain ⟨c, hc, hend⟩ := hall
    exact leadingWord_append_of_end hc (Bool.not_eq_true _ ▸ hend)

theorem dropWhile_isBlank_of_leadingWord {t : Text} (h : leadingWord t ≠ []) :
    t.dropWhile isBlank = t := by
  cases t with
  | nil => rfl
  | cons c t =>
    refine List.dropWhile_cons_of_neg fun hblank => h ?_
    exact List.takeWhile_cons_of_neg (by simp [isWord_of_isBlank hblank])

/-- A gap after the word with which a name begins comes after the whole name. -/
theorem gap_after_name {w rest gap after : Text} (hw : ∀ c ∈ w, isWord c = true ∨ '$' = c)
    (hsplit : w ++ rest = leadingWord w ++ (gap ++ after)) (hne : gap ≠ [])
    (hgap : ∀ c ∈ gap, isBlank c = true) : rest = gap ++ after := by
  obtain ⟨tail, htail⟩ : leadingWord w <+: w := List.takeWhile_prefix _
  have hcut : tail ++ rest = gap ++ after := by
    have hboth : leadingWord w ++ (tail ++ rest) = leadingWord w ++ (gap ++ after) := by
      rw [← List.append_assoc, htail, hsplit]
    exact List.append_cancel_left hboth
  cases tail with
  | nil => exact hcut
  | cons c tail =>
    obtain ⟨d, gap, rfl⟩ := List.exists_cons_of_ne_nil hne
    have hc : c = d := by simpa using congrArg List.head? hcut
    have hblank : isBlank c = true := hc ▸ hgap d List.mem_cons_self
    rcases hw c (htail ▸ List.mem_append_right _ List.mem_cons_self) with hword | rfl
    · exact nomatch hword.symm.trans (isWord_of_isBlank hblank)
    · exact absurd hblank (by decide)

/-- An ending begins in a name just if it is one word and is that word of the name. -/
theorem Unpaired.begins_iff {endings : List Ending} {rest : Text} (hrest : Unpaired endings rest)
    (hwords : ∀ e ∈ endings, e.IsWords) {e : Ending} (he : e ∈ endings) {w : Text}
    (hw : ∀ c ∈ w, isWord c = true ∨ '$' = c) :
    e.Begins (w ++ rest) ↔ e.second? = none ∧ sameLetters e.first.toList (leadingWord w) = true := by
  rw [Ending.Begins, leadingWord_append_of_wordEnds hrest.wordEnds, and_comm]
  refine and_congr_left fun _ => ?_
  cases hsecond : e.second? with
  | none => simp
  | some second =>
    simp only [Option.mem_def, Option.some.injEq, forall_eq', reduceCtorEq, iff_false]
    rintro ⟨gap, after, hsplit, hne, hgap, hsame⟩
    have hafter : after.dropWhile isBlank = after :=
      dropWhile_isBlank_of_leadingWord (((hwords e he).second second hsecond).ne_nil_of_sameLetters hsame)
    have hnot := hrest.unpaired e he second hsecond
    rw [gap_after_name hw hsplit hne hgap, List.dropWhile_append_of_pos hgap, hafter] at hnot
    exact absurd (hsame.symm.trans hnot) (by decide)

theorem noSign_of_name {c : Char} (h : isWord c = true ∨ '$' = c) :
    isQuote c = false ∧ c ≠ '(' ∧ c ≠ ')' ∧ c ≠ ';' := by
  rcases h with hword | rfl
  · exact noSign_of_isWord hword
  · decide

theorem items_name {u : Text} (hu : ∀ c ∈ u, isWord c = true ∨ '$' = c) : Items u := by
  refine Plain.items (fun c hc => ?_) fun c hc => (noSign_of_name (hu c hc)).1
  obtain ⟨-, hopen, hclose, -⟩ := noSign_of_name (hu c hc)
  exact ⟨hopen, hclose⟩

/-- A clause passes a name unless a word of the name ends it. -/
theorem passes_name {endings : List Ending} (hwords : ∀ e ∈ endings, e.IsWords)
    {before : Option Char} (hbefore : ∀ c ∈ before, isWord c = false) {u rest : Text}
    (hu : ∀ c ∈ u, isWord c = true ∨ '$' = c) (hrest : Unpaired endings rest) :
    Passes endings before u rest ↔ ¬HasEnding endings u := by
  have hground : ∀ v w, u = v ++ w → standing v = .ground := by
    rintro v w rfl
    exact (items_name fun c hc => hu c (List.mem_append_left w hc)).standing
  have hover : ∀ v w, u = v ++ w → w ≠ [] → (Over endings (v.getLast?.or before) (w ++ rest) ↔
      (∀ c ∈ v.getLast?, isWord c = false) ∧ ∃ e ∈ endings,
        e.second? = none ∧ sameLetters e.first.toList (leadingWord w) = true) := by
    rintro v w rfl hne
    obtain ⟨c, w, rfl⟩ := List.exists_cons_of_ne_nil hne
    obtain ⟨-, -, hclose, hsemicolon⟩ :=
      noSign_of_name (hu c (List.mem_append_right v List.mem_cons_self))
    have hedge : (∀ d ∈ v.getLast?.or before, isWord d = false) ↔
        ∀ d ∈ v.getLast?, isWord d = false := by
      cases v.getLast? with
      | none => simpa using hbefore
      | some d => simp
    have hname : ∀ d ∈ c :: w, isWord d = true ∨ '$' = d :=
      fun d hd => hu d (List.mem_append_right v hd)
    rw [Over, hedge]
    simp only [List.cons_append, List.head?_cons, Option.some.injEq, hclose, hsemicolon, false_or]
    refine and_congr_right fun _ => exists_congr fun e => and_congr_right fun he => ?_
    exact hrest.begins_iff hwords he hname
  rw [HasEnding, Passes]
  constructor
  · rintro hpasses ⟨e, he, halone, hplaces⟩
    obtain ⟨v, w, hsplit, hne, hedge, hsame⟩ :=
      (wordPlaces_ne_nil_iff (hwords e he).first.ne_nil).mp hplaces
    exact hpasses v w hsplit hne (hground v w hsplit)
      ((hover v w hsplit hne).mpr ⟨hedge, e, he, halone, hsame⟩)
  · intro hnone v w hsplit hne _ hstop
    obtain ⟨hedge, e, he, halone, hsame⟩ := (hover v w hsplit hne).mp hstop
    exact hnone ⟨e, he, halone, (wordPlaces_ne_nil_iff (hwords e he).first.ne_nil).mpr
      ⟨v, w, hsplit, hne, hedge, hsame⟩⟩

end QueryLint.Sql

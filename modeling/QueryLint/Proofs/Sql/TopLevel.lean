import QueryLint.Proofs.Sql.Passage
import QueryLint.Proofs.Sql.WordPair

/-! Text outside parentheses. A place lies inside a group that begins outside quotes just if parentheses
are open before or after it; the scan that blanks what is nested counts these. Main statements:
`not_inside_iff`, `getElem?_topLevel`, and `pairAt_topLevel_iff`, what the blanked text shows of pairs of words. -/
namespace QueryLint.Sql
set_option autoImplicit false
open Text

/-! ## What a stretch leaves open, from any state on -/

namespace Standing

def raised (s : Standing) (n : Int) : Standing := ⟨s.quote, s.level + n⟩

variable (s : Standing) (c : Char) (n : Int)

theorem after_raised : (s.raised n).after c = (s.after c).raised n := by
  rw [after, after, raised, raised]
  simp only
  split
  · rw [Int.add_right_comm]
  · rfl

theorem foldl_raised (t : Text) : t.foldl after (s.raised n) = (t.foldl after s).raised n := by
  induction t generalizing s with
  | nil => rfl
  | cons c t ih => rw [List.foldl_cons, List.foldl_cons, after_raised, ih]

variable {c}

/-- A character that is no parenthesis changes no level. -/
theorem level_after (h : c ≠ '(' ∧ c ≠ ')') : (s.after c).level = s.level := by
  have hlevel : Sql.level [c] = 0 := Plain.level fun d hd => List.mem_singleton.mp hd ▸ h
  rw [after]
  simp only
  split
  · rw [hlevel, Int.add_zero]
  · rfl

end Standing

theorem standing_append (u v : Text) : standing (u ++ v) = v.foldl Standing.after (standing u) :=
  List.foldl_append

/-! ## How many parentheses are open before a place -/

/-- By how much more parentheses are opened than closed before a place, outside quotes. -/
def openBefore (t : Text) (i : Nat) : Int := (standing (t.take i)).level

section OpenBefore

variable {t u v : Text} {i : Nat}

theorem openBefore_of_le (h : t.length ≤ i) : openBefore t i = (standing t).level := by
  rw [openBefore, List.take_of_length_le h]

theorem openBefore_left (hi : i ≤ u.length) : openBefore (u ++ v) i = openBefore u i := by
  rw [openBefore, List.take_append_of_le_length hi, openBefore]

theorem openBefore_right {n : Int} (hu : standing u = ⟨none, n⟩) (i : Nat) :
    openBefore (u ++ v) (u.length + i) = openBefore v i + n := by
  have hraised : (⟨none, n⟩ : Standing) = Standing.ground.raised n := by
    rw [Standing.raised, Standing.ground, Int.zero_add]
  rw [openBefore, List.take_length_add_append, standing_append, hu, hraised, Standing.foldl_raised]
  rfl

theorem Items.openBefore_right (hu : Items u) (i : Nat) :
    openBefore (u ++ v) (u.length + i) = openBefore v i :=
  (Sql.openBefore_right hu.standing i).trans (Int.add_zero _)

theorem openBefore_succ {c : Char} (hc : t[i]? = some c) (h : c ≠ '(' ∧ c ≠ ')') :
    openBefore t (i + 1) = openBefore t i := by
  rw [openBefore, List.take_add_one, hc, Option.toList_some, standing_concat, Standing.level_after _ h, openBefore]

/-- Within a group its own parenthesis is open. -/
theorem openBefore_grouped {body rest : Text} (hi : i ≤ body.length) :
    openBefore ('(' :: (body ++ rest)) (i + 1) = openBefore body i + 1 := by
  have hopen : standing ['('] = ⟨none, 1⟩ := rfl
  have hshift := openBefore_right (v := body ++ rest) hopen i
  rw [openBefore_left hi, List.length_singleton, Nat.add_comm 1 i] at hshift
  exact hshift

end OpenBefore

/-! ## Items one by one -/

/-- An item that opens nothing: a character or a quoted run. -/
structure FlatItem (front : Text) : Prop where
  items : Items front
  level : ∀ i, openBefore front i = 0

theorem flatItem_plain {c : Char} (hquote : isQuote c = false) (hopen : c ≠ '(') (hclose : c ≠ ')') :
    FlatItem [c] := by
  have hitems : Items [c] := .plain hquote hopen hclose .nil
  refine ⟨hitems, fun i => ?_⟩
  cases i with
  | zero => rfl
  | succ i => rw [openBefore_of_le (Nat.le_add_left 1 i), hitems.standing, Standing.ground]

theorem flatItem_quoted {q : Char} {inside : Text} (hquote : isQuote q = true) (hinside : q ∉ inside) :
    FlatItem (q :: (inside ++ [q])) := by
  have hitems : Items (q :: (inside ++ [q])) := .quoted hquote hinside .nil
  refine ⟨hitems, fun i => ?_⟩
  cases i with
  | zero => rfl
  | succ i =>
    rcases Nat.lt_or_ge inside.length i with hlt | hle
    · rw [openBefore_of_le (by simpa [Nat.succ_le_iff] using hlt), hitems.standing, Standing.ground]
    · have htake : (q :: (inside ++ [q])).take (i + 1) = q :: inside.take i := by
        rw [List.take_succ_cons, List.take_append_of_le_length hle]
      have hbefore : q ∉ inside.take i := fun hmem => hinside (List.mem_of_mem_take hmem)
      rw [openBefore, htake, standing, List.foldl_cons, Standing.ground,
        Standing.after_quote hquote, Standing.foldl_inside hbefore]

theorem items_grouped {body : Text} (h : Items body) : Items ('(' :: (body ++ [')'])) := .group h .nil

theorem Items.openBefore_nonneg {t : Text} (h : Items t) (i : Nat) : 0 ≤ openBefore t i :=
  Standing.le_level_foldl h (List.take_append_drop i t).symm

/-! ## Places inside groups -/

/-- The place lies in a group that begins outside quotes. -/
def Inside (t : Text) (i : Nat) : Prop :=
  ∃ u group v, t = u ++ (group ++ v) ∧ (standing u).quote = none ∧ Group group ∧
    u.length ≤ i ∧ i < u.length + group.length

theorem Inside.after_items {front rest : Text} (hfront : Items front) {i : Nat} (h : Inside rest i) :
    Inside (front ++ rest) (front.length + i) := by
  obtain ⟨u, group, v, rfl, hquote, hgroup, hle, hlt⟩ := h
  refine ⟨front ++ u, group, v, (List.append_assoc _ _ _).symm, ?_, hgroup, ?_, ?_⟩
  · rw [standing_append, hfront.standing]
    exact hquote
  · rw [List.length_append]
    omega
  · rw [List.length_append]
    omega

theorem Inside.open {t : Text} (ht : Items t) {i : Nat} (h : Inside t i) :
    0 < openBefore t i ∨ 0 < openBefore t (i + 1) := by
  obtain ⟨u, group, v, rfl, hquote, ⟨body, hbody, rfl⟩, hle, hlt⟩ := h
  obtain ⟨j, rfl⟩ := Nat.exists_eq_add_of_le hle
  have hstanding : standing u = ⟨none, (standing u).level⟩ := by rw [← hquote]
  have hlevel : 0 ≤ (standing u).level := by
    have hpos := ht.openBefore_nonneg u.length
    rwa [openBefore_left (Nat.le_refl _), openBefore_of_le (Nat.le_refl _)] at hpos
  have hwithin : ∀ k ≤ body.length, 0 < openBefore (u ++ ('(' :: (body ++ [')']) ++ v)) (u.length + (k + 1)) := by
    intro k hk
    have hpos := hbody.openBefore_nonneg k
    rw [openBefore_right hstanding, List.cons_append, List.append_assoc, openBefore_grouped hk]
    omega
  cases j with
  | zero => exact .inr (hwithin 0 (Nat.zero_le _))
  | succ k => exact .inl (hwithin k (by simp at hlt; omega))

/-- A flat item in front of items opens nothing, and shifts the places of the others. -/
theorem FlatItem.inside_append {front rest : Text} (hfront : FlatItem front)
    (hrest : ∀ i, 0 < openBefore rest i ∨ 0 < openBefore rest (i + 1) → Inside rest i) (i : Nat)
    (h : 0 < openBefore (front ++ rest) i ∨ 0 < openBefore (front ++ rest) (i + 1)) :
    Inside (front ++ rest) i := by
  rcases Nat.lt_or_ge i front.length with hlt | hle
  · rw [openBefore_left (Nat.le_of_lt hlt), openBefore_left hlt, hfront.level, hfront.level] at h
    exact absurd h (by decide)
  · obtain ⟨j, rfl⟩ := Nat.exists_eq_add_of_le hle
    rw [Nat.add_assoc, hfront.items.openBefore_right, hfront.items.openBefore_right] at h
    exact (hrest j h).after_items hfront.items

theorem inside_of_open {t : Text} (ht : Items t) {i : Nat} (h : 0 < openBefore t i ∨ 0 < openBefore t (i + 1)) :
    Inside t i := by
  induction ht generalizing i with
  | nil =>
    rw [openBefore, openBefore, List.take_nil, List.take_nil] at h
    exact absurd h (by decide)
  | plain hquote hopen hclose _ ih =>
    exact (flatItem_plain hquote hopen hclose).inside_append (fun _ => ih) i h
  | @quoted q inside rest hquote hinside _ ih =>
    have hsplit : q :: (inside ++ q :: rest) = q :: (inside ++ [q]) ++ rest := by simp
    rw [hsplit] at h ⊢
    exact (flatItem_quoted hquote hinside).inside_append (fun _ => ih) i h
  | @group body rest hbody _ _ ih =>
    have hsplit : '(' :: (body ++ ')' :: rest) = '(' :: (body ++ [')']) ++ rest := by simp
    rw [hsplit] at h ⊢
    rcases Nat.lt_or_ge i ('(' :: (body ++ [')'])).length with hlt | hle
    · exact ⟨[], _, rest, rfl, rfl, ⟨body, hbody, rfl⟩, Nat.zero_le i, by simpa using hlt⟩
    · have hgroup := items_grouped hbody
      obtain ⟨j, rfl⟩ := Nat.exists_eq_add_of_le hle
      rw [Nat.add_assoc, hgroup.openBefore_right, hgroup.openBefore_right] at h
      exact (ih h).after_items hgroup

/-- A place lies outside all groups just if nothing is open before it nor after it. -/
theorem not_inside_iff {t : Text} (ht : Items t) {i : Nat} :
    ¬Inside t i ↔ openBefore t i = 0 ∧ openBefore t (i + 1) = 0 := by
  have hbefore := ht.openBefore_nonneg i
  have hafter := ht.openBefore_nonneg (i + 1)
  constructor
  · intro h
    have hnot : ¬(0 < openBefore t i ∨ 0 < openBefore t (i + 1)) := fun hopen => h (inside_of_open ht hopen)
    omega
  · rintro ⟨hzero, hzero'⟩ h
    have hopen := h.open ht
    omega

/-! ## The blanked text -/

/-- One character of the scan: it is shown if no parenthesis is open before it or after it. -/
theorem topLevelFrom_cons {s : Standing} {c : Char} {rest : Text} (hs : 0 ≤ s.level)
    (hafter : 0 ≤ (s.after c).level) :
    topLevelFrom s.level.toNat s.quote (c :: rest)
      = (if s.level = 0 ∨ (s.after c).level = 0 then c else ' ')
        :: topLevelFrom (s.after c).level.toNat (s.after c).quote rest := by
  obtain ⟨quote, level⟩ := s
  obtain ⟨n, rfl⟩ := Int.eq_ofNat_of_zero_le hs
  rw [topLevelFrom]
  cases charCase quote c with
  | hidden hhidden =>
    rw [if_neg hhidden, Standing.after_hidden hhidden]
    simp
  | opening =>
    rw [Standing.after_open]
    have hnot : ¬(n : Int) + 1 = 0 := by omega
    simp [isBare, isQuote, hnot]
  | closing =>
    have hclosed : (Standing.mk none n).after ')' = ⟨none, n - 1⟩ := rfl
    rw [hclosed] at hafter ⊢
    have hopened : n = 0 ∨ (n : Int) - 1 = 0 ↔ n ≤ 1 := by omega
    simp [isBare, isQuote, hopened]
  | plain hquote hopen hclose =>
    rw [Standing.after_plain hquote hopen hclose]
    simp [isBare, hquote, hopen, hclose]

/-- The run of the scan, by induction on the text: each step leads to what is open after it. -/
theorem getElem?_topLevelFrom {s : Standing} {t : Text} (h : ∀ i, 0 ≤ ((t.take i).foldl Standing.after s).level) (i : Nat) :
    (topLevelFrom s.level.toNat s.quote t)[i]? = t[i]?.map fun c =>
      if ((t.take i).foldl Standing.after s).level = 0 ∨ ((t.take (i + 1)).foldl Standing.after s).level = 0
      then c else ' ' := by
  induction t generalizing s i with
  | nil => rfl
  | cons c rest ih =>
    have hs : 0 ≤ s.level := h 0
    have hafter : 0 ≤ (s.after c).level := h 1
    rw [topLevelFrom_cons hs hafter]
    cases i with
    | zero => rfl
    | succ i => exact ih (fun j => h (j + 1)) i

/-- Shown is each character with no parenthesis open before it or after it; the others are blanked. -/
theorem getElem?_topLevel {t : Text} (ht : Items t) (i : Nat) :
    (topLevel t)[i]? = t[i]?.map fun c =>
      if openBefore t i = 0 ∨ openBefore t (i + 1) = 0 then c else ' ' :=
  getElem?_topLevelFrom (s := .ground) ht.openBefore_nonneg i

theorem getElem?_topLevel_of_closed {t : Text} (ht : Items t) {i : Nat}
    (h : openBefore t i = 0 ∨ openBefore t (i + 1) = 0) : (topLevel t)[i]? = t[i]? := by
  rw [getElem?_topLevel ht]
  simp [h]

/-! ## Pairs of words in the blanked text -/

section Pairs

variable {first second : String} {t : Text} {s : Span}

theorem agrees_around {t : Text} (ht : Items t) {s : Span} (hlt : s.start < s.stop)
    (h : ∀ i, s.start ≤ i → i ≤ s.stop → openBefore t i = 0) :
    ∀ i, s.start ≤ i + 1 → i ≤ s.stop → (topLevel t)[i]? = t[i]? := by
  intro i hstart hstop
  refine getElem?_topLevel_of_closed ht ?_
  rcases Nat.lt_or_ge i s.start with hbefore | hle
  · exact .inr (h _ hstart (by omega))
  · exact .inl (h i hle hstop)

theorem noParen_of_pair {c : Char} (h : isWord c = true ∨ isBlank c = true) : c ≠ '(' ∧ c ≠ ')' := by
  rcases h with hword | hblank
  · exact ⟨(noSign_of_isWord hword).2.1, (noSign_of_isWord hword).2.2.1⟩
  · have hnone := noSign_of_class (p := isBlank) (by decide) hblank
    exact ⟨hnone.2.1, hnone.2.2.1⟩

/-- Along a pair of words that is shown nothing is open, by induction on the place: its first character is
no space, so it has not been blanked, and none of its characters opens anything. -/
theorem openBefore_of_pairAt (hwords : AreNames first second) (ht : Items t)
    (h : PairAt first.toList second.toList (topLevel t) s) :
    ∀ i, s.start ≤ i → i ≤ s.stop → openBefore t i = 0 := by
  have hlt := h.start_lt
  have hslice : ∀ k, s.start + k < s.stop → ((topLevel t).slice s)[k]? = (topLevel t)[s.start + k]? := by
    intro k hk
    rw [getElem?_slice, if_pos hk]
  have hfirst : openBefore t s.start = 0 := by
    obtain ⟨c, hc, hword⟩ := h.words.head?_isWord hwords
    rw [List.head?_eq_getElem?, hslice 0 hlt, Nat.add_zero, getElem?_topLevel ht] at hc
    obtain ⟨d, hd, hshown⟩ := Option.map_eq_some_iff.mp hc
    split at hshown
    · rename_i hclosed
      subst hshown
      rw [openBefore_succ hd (noParen_of_pair (.inl hword)), or_self] at hclosed
      exact hclosed
    · subst hshown
      exact absurd hword (by decide)
  have hnext : ∀ k, s.start + k < s.stop → openBefore t (s.start + k) = 0 →
      openBefore t (s.start + k + 1) = 0 := by
    intro k hk hclosed
    have hin : s.start + k < (topLevel t).length := Nat.lt_of_lt_of_le hk h.stop_le
    have hchar := List.getElem?_eq_getElem hin
    have hmem : (topLevel t)[s.start + k] ∈ (topLevel t).slice s :=
      List.mem_of_getElem? ((hslice k hk).trans hchar)
    have hparen := noParen_of_pair (h.words.isWord_or_isBlank hwords _ hmem)
    rw [getElem?_topLevel_of_closed ht (.inl hclosed)] at hchar
    rw [openBefore_succ hchar hparen, hclosed]
  intro i hi hle
  obtain ⟨k, rfl⟩ := Nat.exists_eq_add_of_le hi
  induction k with
  | zero => exact hfirst
  | succ k ih => exact hnext k hle (ih (Nat.le_add_right _ _) (Nat.le_of_lt hle))

/-- A pair of words stands in the blanked text just where it stands in the text outside all groups. -/
theorem pairAt_topLevel_iff (hwords : AreNames first second) (ht : Items t) :
    PairAt first.toList second.toList (topLevel t) s ↔
      PairAt first.toList second.toList t s ∧ ∀ i, s.start ≤ i → i < s.stop → ¬Inside t i := by
  constructor
  · intro h
    have hclosed := openBefore_of_pairAt hwords ht h
    refine ⟨h.congr (length_topLevel t) (agrees_around ht h.start_lt hclosed), fun i hstart hlt => ?_⟩
    exact (not_inside_iff ht).mpr ⟨hclosed i hstart (Nat.le_of_lt hlt), hclosed (i + 1) (by omega) hlt⟩
  · rintro ⟨h, houtside⟩
    have hclosed : ∀ i, s.start ≤ i → i ≤ s.stop → openBefore t i = 0 := by
      intro i hstart hstop
      rcases Nat.eq_or_lt_of_le hstop with rfl | hlt
      · have hlt := h.start_lt
        have hlast := ((not_inside_iff ht).mp (houtside (s.stop - 1) (by omega) (by omega))).2
        rwa [Nat.sub_add_cancel (by omega)] at hlast
      · exact ((not_inside_iff ht).mp (houtside i hstart hlt)).1
    exact h.congr (length_topLevel t).symm fun i hstart hstop =>
      (agrees_around ht h.start_lt hclosed i hstart hstop).symm

end Pairs

end QueryLint.Sql

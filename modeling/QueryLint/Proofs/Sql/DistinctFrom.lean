import QueryLint.Proofs.Sql.TableWord

/-! The FROM of IS DISTINCT FROM. The search looks back a fixed number of characters for the word before
it, so that whether a comparison is seen as one hangs on how much white space stands between its words.
Main statement: `distinctFrom_unnamed_iff`. -/
namespace QueryLint.Sql
set_option autoImplicit false
open Text

/-! ## What masking keeps -/

/-- Wherever a character has changed, blanks stand from there up to where a parenthesis closed. -/
def HidesCloses (t masked : Text) : Prop :=
  ∀ i : Nat, masked[i]? ≠ t[i]? →
    ∃ j, i ≤ j ∧ BlankAt masked ⟨i, j + 1⟩ ∧ t[j]? = some ')'

namespace HidesCloses

variable {t masked : Text}

theorem refl (t : Text) : HidesCloses t t := fun _ hi => absurd rfl hi

theorem append {front maskedFront : Text} (hlength : maskedFront.length = front.length)
    (hfront : HidesCloses front maskedFront) (h : HidesCloses t masked) :
    HidesCloses (front ++ t) (maskedFront ++ masked) := by
  intro i hi
  rcases Nat.lt_or_ge i front.length with hlt | hge
  · rw [List.getElem?_append_left (hlength ▸ hlt), List.getElem?_append_left hlt] at hi
    obtain ⟨j, hle, hblank, hclose⟩ := hfront i hi
    exact ⟨j, hle, hblank.append_back masked, getElem?_append_of_some hclose⟩
  · rw [List.getElem?_append_right (hlength ▸ hge), List.getElem?_append_right hge, hlength] at hi
    obtain ⟨j, hle, hblank, hclose⟩ := h _ hi
    refine ⟨front.length + j, by omega, ?_, ?_⟩
    · have hshift := hblank.append maskedFront
      rwa [hlength, Nat.add_sub_of_le hge, ← Nat.add_assoc] at hshift
    · rw [List.getElem?_append_right (Nat.le_add_right _ _), Nat.add_sub_cancel_left, hclose]

theorem all (h : t.getLast? = some ')') : HidesCloses t (blanks t.length) := by
  have hclose : t[t.length - 1]? = some ')' := by rw [← List.getLast?_eq_getElem?, h]
  intro i hi
  have hlt : i < t.length := by
    refine Nat.lt_of_not_le fun hge => hi ?_
    rw [List.getElem?_eq_none_iff.mpr hge, List.getElem?_eq_none_iff.mpr]
    rwa [blanks, List.length_replicate]
  refine ⟨t.length - 1, by omega, fun k _ hk => List.getElem?_replicate_of_lt ?_, hclose⟩
  simp only at hk
  omega

theorem trans {masked' : Text} (hmasked : BlankedFrom t masked) (h : HidesCloses t masked)
    (hmasked' : BlankedFrom masked masked') (h' : HidesCloses masked masked') :
    HidesCloses t masked' := by
  intro i hi
  by_cases hfirst : masked[i]? = t[i]?
  · obtain ⟨j, hle, hblank, hclose⟩ := h' i (by rwa [hfirst])
    exact ⟨j, hle, hblank, (hmasked.kept j _ hclose).resolve_left (by decide)⟩
  · obtain ⟨j, hle, hblank, hclose⟩ := h i hfirst
    exact ⟨j, hle, hmasked'.blankAt hblank, hclose⟩

/-- A piece in which no parenthesis closes is kept where what follows it is not blank. -/
theorem kept (h : HidesCloses t masked) (hmasked : BlankedFrom t masked) {front piece after : Text}
    (ht : t = front ++ (piece ++ after)) (hpiece : ')' ∉ piece) {c : Char}
    (hc : masked[(front ++ piece).length]? = some c) (hsolid : isBlank c = false) :
    ∃ front' after', masked = front' ++ (piece ++ after') ∧ front'.length = front.length := by
  have hlength := hmasked.length_eq
  rw [ht, List.length_append, List.length_append] at hlength
  rw [List.length_append] at hc
  have hsame : ∀ i, i < piece.length → masked[front.length + i]? = piece[i]? := by
    intro i hi
    have htext : t[front.length + i]? = piece[i]? := by
      rw [ht, List.getElem?_append_right (Nat.le_add_right _ _), Nat.add_sub_cancel_left,
        List.getElem?_append_left hi]
    rw [← htext]
    refine Classical.byContradiction fun hchanged => ?_
    obtain ⟨j, hle, hblank, hclose⟩ := h _ hchanged
    rcases Nat.lt_or_ge j (front.length + piece.length) with hlt | hge
    · rw [ht, List.getElem?_append_right (by omega), List.getElem?_append_left (by omega)] at hclose
      exact hpiece (List.mem_of_getElem? hclose)
    · have hspace := hblank (front.length + piece.length) (by simp only; omega) (by simp only; omega)
      obtain rfl := Option.some.inj (hc.symm.trans hspace)
      exact absurd hsolid (by decide)
  refine ⟨masked.take front.length, masked.drop (front.length + piece.length), ?_, ?_⟩
  · have hmiddle : (masked.drop front.length).take piece.length = piece := by
      refine List.ext_getElem? fun i => ?_
      rw [List.getElem?_take]
      split
      · rename_i hi
        rw [List.getElem?_drop, hsame i hi]
      · rename_i hi
        rw [List.getElem?_eq_none_iff.mpr (Nat.not_lt.mp hi)]
    have hsplit := List.take_append_drop piece.length (masked.drop front.length)
    rw [hmiddle, List.drop_drop] at hsplit
    rw [hsplit, List.take_append_drop]
  · rw [List.length_take]
    omega

end HidesCloses

theorem hidesCloses_maskCalls {names : List Text} (hnames : ∀ name ∈ names, IsName name) (t : Text) :
    HidesCloses t (maskCalls names t) :=
  maskCalls_induction HidesCloses.refl HidesCloses.append
    (fun _ hcall => HidesCloses.all hcall.getLast?) HidesCloses.trans hnames t

/-! ## Where a text ends -/

theorem endsInDistinct_iff {front gap : Text} (hgap : ∀ c ∈ gap, isBlank c = true) :
    EndsInDistinct (front ++ (" DISTINCT".toList ++ gap)) ↔ gap.length ≤ 12 := by
  have hsame : sameLetters "distinct".toList "DISTINCT".toList = true := by decide
  have hsplit : front ++ (" DISTINCT".toList ++ gap) = (front ++ [' ']) ++ ("DISTINCT".toList ++ gap) := by
    rw [List.append_assoc]
    rfl
  rw [hsplit]
  constructor
  · rintro ⟨front', word, gap', heq, hword, -, hblank, hreach⟩
    have hlast : ∀ c ∈ (front' ++ word).getLast?, isBlank c = false := by
      intro c hc
      rw [List.getLast?_append, Option.or_of_isSome
        (List.getLast?_isSome.mpr ((isWordName "distinct").ne_nil_of_sameLetters hword))] at hc
      exact not_blank_of_isWord
        ((isWordName "distinct").isWord_of_sameLetters hword c (List.mem_of_getLast? hc))
    rw [← List.append_assoc, ← List.append_assoc front'] at heq
    obtain ⟨-, rfl⟩ := append_inj_of_lastRun hgap hblank (by simp; decide) hlast heq
    rw [List.length_append, ← length_eq_of_sameLetters hword] at hreach
    exact Nat.le_of_add_le_add_left (a := 8) hreach
  · intro hle
    refine ⟨_, _, _, rfl, hsame, by simp; decide, hgap, ?_⟩
    rw [List.length_append]
    exact Nat.add_le_add_left hle 8

/-! ## Comparisons -/

/-- A text with IS DISTINCT FROM in it, with white space of any length before FROM. -/
def distinctFrom (front gap after : Text) : Text :=
  front ++ ((" IS DISTINCT".toList ++ (gap ++ "FROM".toList)) ++ (' ' :: after))

def fromStop (front gap : Text) : Nat := (front ++ (" IS DISTINCT".toList ++ (gap ++ "FROM".toList))).length

/-- Only white space separates the reference from a position. -/
def Follows (t : Text) (position : Nat) (r : TableRef) : Prop :=
  position ≤ r.span.start ∧ ∀ c ∈ t.slice ⟨position, r.span.start⟩, isBlank c = true

theorem Follows.exists_gap {u v : Text} {r : TableRef} (h : Follows (u ++ v) u.length r)
    (hin : r.span.start ≤ (u ++ v).length) : ∃ gap rest, v = gap ++ rest ∧
      (∀ c ∈ gap, isBlank c = true) ∧ (u ++ gap).length = r.span.start := by
  obtain ⟨hle, hblank⟩ := h
  rw [slice_eq_take_drop, List.drop_left] at hblank
  rw [List.length_append] at hin
  refine ⟨_, _, (List.take_append_drop (r.span.start - u.length) v).symm, hblank, ?_⟩
  rw [List.length_append, List.length_take]
  omega

theorem close_not_mem_of_blank {gap : Text} (h : ∀ c ∈ gap, isBlank c = true) : ')' ∉ gap :=
  fun hmem => nomatch (h _ hmem).symm.trans (by decide : isBlank ')' = false)

theorem close_not_mem_words {gap : Text} (h : ∀ c ∈ gap, isBlank c = true) :
    ')' ∉ " IS DISTINCT".toList ++ (gap ++ "FROM".toList) := by
  simp [close_not_mem_of_blank h]

/-- A name that follows the FROM in the text follows it in the masked text too, where DISTINCT and the
white space still stand before it. -/
theorem exists_tableWord_of_follows {front gap after : Text} (hne : gap ≠ [])
    (hgap : ∀ c ∈ gap, isBlank c = true) {r : TableRef} {masked : Text}
    (hblanked : BlankedFrom (distinctFrom front gap after) masked)
    (hcloses : HidesCloses (distinctFrom front gap after) masked)
    (hfollows : Follows (distinctFrom front gap after) (fromStop front gap) r)
    {c : Char} (hc : masked[r.span.start]? = some c) (hsolid : isBlank c = false) :
    ∃ front' gap' after', masked = (front' ++ (" DISTINCT".toList ++ gap)) ++
        ("FROM".toList ++ (gap' ++ after')) ∧
      TableWord (front' ++ (" DISTINCT".toList ++ gap)).getLast? "FROM".toList gap' after' ∧
      ((front' ++ (" DISTINCT".toList ++ gap)) ++ ("FROM".toList ++ gap')).length = r.span.start := by
  have hin : r.span.start < (distinctFrom front gap after).length :=
    hblanked.length_eq ▸ (List.getElem?_eq_some_iff.mp hc).1
  have hmiddle := close_not_mem_words hgap
  have hwords : " IS DISTINCT".toList ++ (gap ++ "FROM".toList)
      = " IS".toList ++ (" DISTINCT".toList ++ (gap ++ "FROM".toList)) := rfl
  rw [distinctFrom] at hin hblanked hcloses hfollows
  rw [fromStop] at hfollows
  generalize " IS DISTINCT".toList ++ (gap ++ "FROM".toList) = middle at *
  rw [← List.append_assoc] at hfollows hin
  obtain ⟨gap', rest, hrest, hblank, hplace⟩ := hfollows.exists_gap (Nat.le_of_lt hin)
  rw [hrest, ← List.append_assoc middle] at hblanked hcloses
  rw [List.append_assoc] at hplace
  have hne' : gap' ≠ [] := by
    rintro rfl
    rw [List.append_nil] at hplace hblanked
    have hspace : (front ++ (middle ++ rest))[r.span.start]? = some ' ' := by
      rw [← List.append_assoc, ← hplace, List.getElem?_append_right (Nat.le_refl _), Nat.sub_self,
        show rest = ' ' :: after from hrest.symm]
      rfl
    obtain rfl : c = ' ' :=
      (hblanked.kept _ c hc).elim id fun hkept => Option.some.inj (hkept.symm.trans hspace)
    exact absurd hsolid (by decide)
  have hpiece : ')' ∉ middle ++ gap' := by
    rw [List.mem_append]
    exact not_or.mpr ⟨hmiddle, close_not_mem_of_blank hblank⟩
  obtain ⟨front', after', hmasked, hfront⟩ := hcloses.kept hblanked rfl hpiece (by rwa [hplace]) hsolid
  refine ⟨front' ++ " IS".toList, gap', after', ?_, ⟨.inl (by decide), ?_, hne', hblank, ?_⟩, ?_⟩
  · rw [hmasked, hwords]
    simp only [List.append_assoc]
  · intro d hd
    rw [← List.append_assoc, List.getLast?_append, Option.or_of_isSome (List.getLast?_isSome.mpr hne)] at hd
    exact isWord_of_isBlank (hgap d (List.mem_of_getLast? hd))
  · intro d hd
    have hstart : (front' ++ (middle ++ gap')).length = r.span.start := by
      simp only [← hplace, List.length_append, hfront]
    rw [hmasked, ← List.append_assoc, List.getElem?_append_right (Nat.le_of_eq hstart), hstart,
      Nat.sub_self, ← List.head?_eq_getElem?] at hc
    rwa [← Option.some.inj (hc.symm.trans hd)]
  · rw [← hplace, hwords]
    simp only [List.length_append, hfront, Nat.add_assoc]

/-- Two words after which reading goes on at one place are the same. -/
theorem TableWord.eq_of_stop {u v word word' gap gap' after after' : Text}
    (h : TableWord u.getLast? word gap after) (h' : TableWord v.getLast? word' gap' after')
    (heq : u ++ (word ++ (gap ++ after)) = v ++ (word' ++ (gap' ++ after')))
    (hstop : (u ++ (word ++ gap)).length = (v ++ (word' ++ gap')).length) : u = v ∧ word = word' := by
  have hin := Cursor.inText_of_append u (word ++ (gap ++ after))
  have hin' := Cursor.inText_of_append v (word' ++ (gap' ++ after'))
  rw [← heq] at hin'
  have hword := h.isWord.length_eq
  have hword' := h'.isWord.length_eq
  simp only [List.length_append] at hstop
  have hlength : u.length = v.length := by
    rcases Nat.lt_trichotomy u.length v.length with hlt | heq | hgt
    · have hle := h.not_inside hin hin' rfl h' rfl hlt
      simp only [List.length_append] at hle
      omega
    · exact heq
    · have hle := h'.not_inside hin' hin rfl h rfl hgt
      simp only [List.length_append] at hle
      omega
  obtain ⟨rfl, hrest⟩ := List.append_inj heq hlength
  exact ⟨rfl, (List.append_inj hrest (hword.trans hword'.symm)).1⟩

/-- The FROM of IS DISTINCT FROM names no table just if at most twelve characters of white space stand
before it, or nothing that follows it reads as the name of a table. -/
theorem distinctFrom_unnamed_iff {front gap after : Text} (hne : gap ≠ [])
    (hgap : ∀ c ∈ gap, isBlank c = true) :
    (∀ r ∈ tableRefs (distinctFrom front gap after),
        ¬Follows (distinctFrom front gap after) (fromStop front gap) r) ↔
      gap.length ≤ 12 ∨
        ∀ r, namedAt? (maskCalls callsWithFrom (distinctFrom front gap after)) r.span.start = some r →
          ¬Follows (distinctFrom front gap after) (fromStop front gap) r := by
  have hnames : ∀ name ∈ callsWithFrom, IsName name :=
    fun name hname => (callsWithFrom_words name hname).isName
  have hblanked := blankedFrom_maskCalls hnames (distinctFrom front gap after)
  have hcloses := hidesCloses_maskCalls hnames (distinctFrom front gap after)
  have hlower : lower "FROM".toList = "from".toList := by decide
  simp only [mem_tableRefs_iff]
  generalize maskCalls callsWithFrom (distinctFrom front gap after) = masked at *
  constructor
  · intro hnone
    refine or_iff_not_imp_left.mpr fun hwide r hr hfollows => hnone r ?_ hfollows
    obtain ⟨-, c, hc, hsolid⟩ := namedAt?_starts hr (start_le_of_namedAt? hr)
    obtain ⟨front', gap', after', hmasked, htable, hstop⟩ :=
      exists_tableWord_of_follows hne hgap hblanked hcloses hfollows hc hsolid
    exact ⟨_, _, gap', after', hmasked, htable, fun h => hwide ((endsInDistinct_iff hgap).mp h.2),
      hstop.symm ▸ hr⟩
  · rintro hor r ⟨before, word, gap', after', hmasked, htable, hnot, hr⟩ hfollows
    have hle : (before ++ (word ++ gap')).length ≤ masked.length := by
      rw [hmasked]
      simp only [List.length_append]
      omega
    obtain ⟨hstart, c, hc, hsolid⟩ := namedAt?_starts hr hle
    rw [← hstart] at hc hr
    obtain ⟨front', gap'', after'', hmasked', htable', hstop⟩ :=
      exists_tableWord_of_follows hne hgap hblanked hcloses hfollows hc hsolid
    obtain ⟨rfl, rfl⟩ := htable.eq_of_stop htable' (hmasked.symm.trans hmasked')
      (hstart.symm.trans hstop.symm)
    rcases hor with hnarrow | hnone
    · exact hnot ⟨hlower, (endsInDistinct_iff hgap).mpr hnarrow⟩
    · exact hnone r hr hfollows

/-! ## Twelve characters of white space, and thirteen -/

def comparisonFront : Text := "SELECT * FROM t WHERE a".toList

theorem twelveBlanks_unnamed :
    blanks 12 ≠ [] ∧ (∀ c ∈ blanks 12, isBlank c = true) ∧
      ∀ r ∈ tableRefs (distinctFrom comparisonFront (blanks 12) "b".toList),
        ¬Follows (distinctFrom comparisonFront (blanks 12) "b".toList)
          (fromStop comparisonFront (blanks 12)) r := by
  have hne : blanks 12 ≠ [] := by decide
  have hblank : ∀ c ∈ blanks 12, isBlank c = true := List.all_eq_true.mp (by decide)
  exact ⟨hne, hblank, (distinctFrom_unnamed_iff hne hblank).mpr (.inl (by decide))⟩

theorem thirteenBlanks_named :
    (∀ c ∈ blanks 13, isBlank c = true) ∧
      tableRefs (distinctFrom comparisonFront (blanks 13) "b".toList)
        = [⟨["t".toList], none, ⟨14, 15⟩⟩, ⟨["b".toList], none, ⟨53, 54⟩⟩] ∧
      Follows (distinctFrom comparisonFront (blanks 13) "b".toList)
        (fromStop comparisonFront (blanks 13)) ⟨["b".toList], none, ⟨53, 54⟩⟩ := by
  refine ⟨List.all_eq_true.mp (by decide), by decide +kernel, by decide, ?_⟩
  exact List.all_eq_true.mp (by decide)

end QueryLint.Sql

import Mathlib.Data.List.Basic
import QueryLint.Proofs.Pattern.Leftmost
import QueryLint.Proofs.Sql.Mask

/-! Words that stand alone in a text. A keyword matches just where its word stands, letter case aside,
and no two such places overlap. Main statements: `matchAt?_keyword` for one place, `all_keyword` for all
of them, and `wordPlaces_append`, which counts the places of a text in two parts. -/
namespace QueryLint
set_option autoImplicit false

/-! ## Matches that do not overlap -/

/-- If no match begins inside another, none is passed over. -/
theorem Pattern.allAmong_eq_filterMap {p : Pattern} {resume : Nat} {cursors : List Cursor}
    (hincreasing : cursors.Pairwise fun c d => c.position < d.position)
    (hresume : ∀ c ∈ cursors, c.position < resume → p.matchAt? c = none)
    (hapart : ∀ c ∈ cursors, ∀ m, p.matchAt? c = some m → ∀ d ∈ cursors,
      c.position < d.position → d.position < m.span.stop → p.matchAt? d = none) :
    p.allAmong resume cursors = cursors.filterMap p.matchAt? := by
  induction cursors generalizing resume with
  | nil => rfl
  | cons c cursors ih =>
    obtain ⟨hlater, hincreasing⟩ := List.pairwise_cons.mp hincreasing
    obtain ⟨hc, hresume⟩ := List.forall_mem_cons.mp hresume
    have hothers : ∀ {resume}, (∀ d ∈ cursors, d.position < resume → p.matchAt? d = none) →
        p.allAmong resume cursors = cursors.filterMap p.matchAt? := by
      intro resume h
      refine ih hincreasing h fun d hd m hm e he => ?_
      exact hapart d (List.mem_cons_of_mem c hd) m hm e (List.mem_cons_of_mem c he)
    rw [allAmong, List.filterMap_cons]
    by_cases hpassed : c.position < resume
    · rw [if_pos hpassed, hc hpassed]
      exact hothers hresume
    · rw [if_neg hpassed]
      cases hm : p.matchAt? c with
      | none => exact hothers hresume
      | some m =>
        refine congrArg (m :: ·) (hothers fun d hd hlt => ?_)
        have hafter := hlater d hd
        exact hapart c List.mem_cons_self m hm d (List.mem_cons_of_mem c hd) hafter (by omega)

theorem Cursor.map_position_onward (before : Option Char) (position : Nat) (t : Text) :
    (onward before position t).map Cursor.position = List.range' position (t.length + 1) := by
  induction t generalizing before position with
  | nil => rfl
  | cons c t ih =>
    rw [onward, List.map_cons, ih, List.length_cons]
    exact List.range'_succ.symm

theorem Cursor.map_position_all (t : Text) :
    (all t).map Cursor.position = List.range (t.length + 1) := by
  rw [all, map_position_onward, List.range_eq_range']

/-- A pattern whose matches are told by the position alone and do not overlap. -/
theorem Pattern.all_eq_filterMap {p : Pattern} {t : Text} {found : Nat → Option Match}
    (hfound : ∀ c : Cursor, c.InText t → p.matchAt? c = found c.position)
    (hapart : ∀ i j m, found i = some m → (found j).isSome = true → i < j → m.span.stop ≤ j) :
    p.all t = (List.range (t.length + 1)).filterMap found := by
  have hmatch : ∀ c ∈ Cursor.all t, p.matchAt? c = found c.position :=
    fun c hc => hfound c (Cursor.all_inText hc)
  have hall : p.all t = (Cursor.all t).filterMap p.matchAt? := by
    refine allAmong_eq_filterMap (Cursor.all_increasing t)
      (fun c _ hlt => absurd hlt (Nat.not_lt_zero _)) fun c hc m hm d hd hlt hstop => ?_
    rw [hmatch c hc] at hm
    rw [hmatch d hd, ← Option.not_isSome_iff_eq_none]
    exact fun hsome => absurd (hapart _ _ m hm hsome hlt) (Nat.not_le_of_lt hstop)
  rw [hall, ← Cursor.map_position_all, List.filterMap_map]
  exact List.filterMap_congr hmatch

namespace Sql
open Text Shape

/-! ## The word at a place -/

/-- The word with which a text begins, empty if that is no word character. -/
def leadingWord (t : Text) : Text := t.takeWhile isWord

/-- What no word goes on with. -/
def WordEnds (rest : Text) : Prop := ∀ c ∈ rest.head?, isWord c = false

theorem any_isWord_eq_false {before : Option Char} :
    before.any isWord = false ↔ ∀ c ∈ before, isWord c = false := by
  cases before <;> simp

theorem wordEnds_nil : WordEnds [] := fun _ hc => nomatch hc

theorem wordEnds_cons {c : Char} {rest : Text} : WordEnds (c :: rest) ↔ isWord c = false := by
  simp [WordEnds]

theorem leadingWord_append {w rest : Text} (hw : ∀ c ∈ w, isWord c = true) (hrest : WordEnds rest) :
    leadingWord (w ++ rest) = w := by
  rw [leadingWord, List.takeWhile_append_of_pos hw]
  cases rest with
  | nil => simp
  | cons c rest => simp [wordEnds_cons.mp hrest]

theorem wordEnds_drop_leadingWord (t : Text) : WordEnds (t.drop (leadingWord t).length) := by
  intro c hc
  induction t with
  | nil => exact nomatch hc
  | cons d t ih =>
    rw [leadingWord] at hc ih
    by_cases hd : isWord d = true
    · rw [List.takeWhile_cons_of_pos hd] at hc
      exact ih hc
    · rw [List.takeWhile_cons_of_neg hd] at hc
      obtain rfl := Option.some.inj hc
      exact Bool.not_eq_true _ ▸ hd

theorem IsWordName.isWord_of_sameLetters {w v : Text} (hw : IsWordName w)
    (h : sameLetters w v = true) : ∀ d ∈ v, isWord d = true := by
  intro d hd
  obtain ⟨c, hc, hsame⟩ := exists_of_sameLetters h hd
  exact hw.word c hc d hsame

theorem IsWordName.ne_nil_of_sameLetters {w v : Text} (hw : IsWordName w)
    (h : sameLetters w v = true) : v ≠ [] := by
  rintro rfl
  exact hw.ne_nil (List.length_eq_zero_iff.mp (length_eq_of_sameLetters h))

theorem wordEdge_of_word {before : Option Char} {rest : Text}
    (hbefore : before.any isWord = true) : wordEdge before rest.head? = true ↔ WordEnds rest := by
  rw [wordEdge, hbefore, WordEnds]
  cases rest.head? <;> simp

theorem wordEdge_before_word {w v : Text} (hw : IsWordName w) (hv : sameLetters w v = true)
    {before : Option Char} {rest : Text} (hbegins : v <+: rest) :
    wordEdge before rest.head? = true ↔ ∀ c ∈ before, isWord c = false := by
  have hne := hw.ne_nil_of_sameLetters hv
  obtain ⟨first, hfirst⟩ := Option.isSome_iff_exists.mp (List.isSome_head?.mpr hne)
  have hword := hw.isWord_of_sameLetters hv first (List.mem_of_mem_head? hfirst)
  rw [← head?_of_begins hbegins hne, hfirst, wordEdge, Option.any_some, hword]
  cases before <;> simp

/-- The letters of a word up to its edge take the word that comes next as a whole. -/
theorem mem_ends_word {w : Text} (hw : IsWordName w) {p q : Progress} :
    q ∈ (chars w ++ edge).ends true p ↔ sameLetters w (leadingWord p.cursor.rest) = true ∧
      q = p.past (leadingWord p.cursor.rest) := by
  have hlast : ∀ {v : Text} {before : Option Char}, sameLetters w v = true →
      (v.getLast?.or before).any isWord = true := by
    intro v before hv
    obtain ⟨last, hlast⟩ := Option.isSome_iff_exists.mp
      (List.getLast?_isSome.mpr (hw.ne_nil_of_sameLetters hv))
    rw [hlast]
    exact hw.isWord_of_sameLetters hv last (List.mem_of_getLast? hlast)
  rw [mem_ends_seq]
  constructor
  · rintro ⟨r, hr, hq⟩
    obtain ⟨v, hv, ⟨rest, hrest⟩, rfl⟩ := mem_ends_chars.mp hr
    obtain ⟨hedge, rfl⟩ := mem_ends_edge.mp hq
    have hends := (wordEdge_of_word (hlast hv)).mp hedge
    rw [Progress.past_cursor, Cursor.past_rest, ← hrest, List.drop_left] at hends
    rw [← hrest, leadingWord_append (hw.isWord_of_sameLetters hv) hends]
    exact ⟨hv, rfl⟩
  · rintro ⟨hsame, rfl⟩
    have hbegins : leadingWord p.cursor.rest <+: p.cursor.rest := List.takeWhile_prefix _
    refine ⟨_, mem_ends_chars.mpr ⟨_, hsame, hbegins, rfl⟩, mem_ends_edge.mpr ⟨?_, rfl⟩⟩
    exact (wordEdge_of_word (hlast hsame)).mpr (wordEnds_drop_leadingWord _)

/-! ## Words that stand alone -/

/-- A word stands alone at a place of a text, letter case aside. -/
def WordAt (w t : Text) (position : Nat) : Prop :=
  (∀ c ∈ (t.take position).getLast?, isWord c = false) ∧
    sameLetters w (leadingWord (t.drop position)) = true

instance (w t : Text) (position : Nat) : Decidable (WordAt w t position) :=
  decidable_of_iff ((t.take position).getLast?.all (fun c => !isWord c) = true ∧
    sameLetters w (leadingWord (t.drop position)) = true) (by simp [WordAt, Option.all_eq_true])

/-- The places where a word stands alone, from left to right. -/
def wordPlaces (w t : Text) : List Nat := (List.range (t.length + 1)).filter fun i => WordAt w t i

def wordMatch (length position : Nat) : Match := ⟨⟨position, position + length⟩, []⟩

theorem mem_ends_keyword {s : String} (hw : IsWordName s.toList) {p q : Progress} :
    q ∈ (keyword s).ends true p ↔ (∀ c ∈ p.cursor.before, isWord c = false) ∧
      sameLetters s.toList (leadingWord p.cursor.rest) = true ∧
      q = p.past (leadingWord p.cursor.rest) := by
  have hedge : sameLetters s.toList (leadingWord p.cursor.rest) = true →
      (wordEdge p.cursor.before p.cursor.rest.head? = true ↔
        ∀ c ∈ p.cursor.before, isWord c = false) :=
    fun hsame => wordEdge_before_word hw hsame (List.takeWhile_prefix _)
  rw [keyword, ends_assoc, mem_ends_seq]
  constructor
  · rintro ⟨r, hr, hq⟩
    obtain ⟨hr, rfl⟩ := mem_ends_edge.mp hr
    obtain ⟨hsame, rfl⟩ := (mem_ends_word hw).mp hq
    exact ⟨(hedge hsame).mp hr, hsame, rfl⟩
  · rintro ⟨hbefore, hsame, rfl⟩
    exact ⟨p, mem_ends_edge.mpr ⟨(hedge hsame).mpr hbefore, rfl⟩,
      (mem_ends_word hw).mpr ⟨hsame, rfl⟩⟩

theorem matchAt?_keyword {s : String} (hw : IsWordName s.toList) {t : Text} {c : Cursor}
    (hc : c.InText t) : (Pattern.anyCase (keyword s)).matchAt? c
      = if WordAt s.toList t c.position then some (wordMatch s.toList.length c.position) else none := by
  have hat : WordAt s.toList t c.position ↔ (∀ d ∈ c.before, isWord d = false) ∧
      sameLetters s.toList (leadingWord c.rest) = true := by
    rw [WordAt, ← hc.before_eq, ← hc.rest_eq]
  split
  · rename_i h
    obtain ⟨hbefore, hsame⟩ := hat.mp h
    have hmem := (mem_ends_keyword hw (p := ⟨c, []⟩)).mpr ⟨hbefore, hsame, rfl⟩
    cases hm : (Pattern.anyCase (keyword s)).matchAt? c with
    | none =>
      rw [Pattern.matchAt?_eq_head?, List.head?_eq_none_iff, List.map_eq_nil_iff] at hm
      exact absurd (hm ▸ hmem) List.not_mem_nil
    | some m =>
      obtain ⟨q, hq, rfl⟩ := Pattern.exists_end_of_matchAt? hm
      obtain ⟨-, -, rfl⟩ := (mem_ends_keyword hw).mp hq
      simp [wordMatch, length_eq_of_sameLetters hsame]
  · rename_i h
    cases hm : (Pattern.anyCase (keyword s)).matchAt? c with
    | none => rfl
    | some m =>
      obtain ⟨q, hq, -⟩ := Pattern.exists_end_of_matchAt? hm
      obtain ⟨hbefore, hsame, -⟩ := (mem_ends_keyword hw).mp hq
      exact absurd (hat.mpr ⟨hbefore, hsame⟩) h

theorem WordAt.not_inside {w w' t : Text} {i j : Nat} (h : WordAt w t i) (h' : WordAt w' t j)
    (hij : i < j) : i + w.length ≤ j := by
  refine Nat.le_of_not_lt fun hlt => ?_
  obtain ⟨-, hsame⟩ := h
  obtain ⟨hbefore, -⟩ := h'
  have hlength := length_eq_of_sameLetters hsame
  have hbegins : leadingWord (t.drop i) <+: t.drop i := List.takeWhile_prefix _
  have hchar : (leadingWord (t.drop i))[j - 1 - i]? = (t.take j).getLast? := by
    have hle := hbegins.length_le
    rw [List.length_drop] at hle
    have hat := List.getElem?_take_of_lt (l := t.drop i) (show j - 1 - i < (leadingWord (t.drop i)).length by omega)
    rw [← List.prefix_iff_eq_take.mp hbegins] at hat
    rw [hat, List.getElem?_drop, List.getLast?_eq_getElem?, List.length_take,
      List.getElem?_take_of_lt (by omega)]
    congr 1
    omega
  have hin : j - 1 - i < (leadingWord (t.drop i)).length := by omega
  rw [List.getElem?_eq_getElem hin] at hchar
  have hword := List.all_eq_true.mp List.all_takeWhile _ (List.getElem_mem hin)
  exact nomatch hword.symm.trans (hbefore _ hchar.symm)

theorem all_keyword {s : String} (hw : IsWordName s.toList) (t : Text) :
    (Pattern.anyCase (keyword s)).all t
      = (wordPlaces s.toList t).map (wordMatch s.toList.length) := by
  let found : Nat → Option Match := fun i =>
    if WordAt s.toList t i then some (wordMatch s.toList.length i) else none
  have hplaces : ∀ {i m}, found i = some m → WordAt s.toList t i ∧ wordMatch s.toList.length i = m := by
    intro i m h
    simpa [found] using h
  have hapart : ∀ i j m, found i = some m → (found j).isSome = true → i < j → m.span.stop ≤ j := by
    intro i j m hi hj hlt
    obtain ⟨m', hj⟩ := Option.isSome_iff_exists.mp hj
    obtain ⟨hword, rfl⟩ := hplaces hi
    exact hword.not_inside (hplaces hj).1 hlt
  rw [Pattern.all_eq_filterMap (fun c hc => matchAt?_keyword hw hc) hapart, wordPlaces]
  induction List.range (t.length + 1) with
  | nil => rfl
  | cons i places ih =>
    rw [List.filterMap_cons, List.filter_cons, ih]
    by_cases h : WordAt s.toList t i <;> simp [found, h]

/-- A place inside a word and the tail after it, where no word character stands before: it begins with
a character of the tail. -/
theorem exists_head?_of_inside {t : Text} {c d : Cursor} (hc : c.InText t) (hd : d.InText t)
    {word tail after : Text} (hrest : c.rest = word ++ (tail ++ after)) (hword : ∀ x ∈ word, isWord x = true)
    (hbefore : ∀ x ∈ d.before, isWord x = false) (hlt : c.position < d.position)
    (hinside : d.position < c.position + (word ++ tail).length) : ∃ x ∈ tail, d.rest.head? = some x := by
  obtain ⟨k, hk⟩ : ∃ k, d.position = c.position + k + 1 := ⟨d.position - c.position - 1, by omega⟩
  rw [List.length_append] at hinside
  rcases Nat.lt_or_ge k word.length with hin | hin
  · have hchar : d.before = some word[k] := by
      rw [hd.before_eq_getElem? hk, ← hc.getElem?_rest, hrest, List.getElem?_append_left hin,
        List.getElem?_eq_getElem hin]
    exact nomatch (hbefore _ hchar).symm.trans (hword _ (List.getElem_mem hin))
  · have hlast : k + 1 - word.length < tail.length := by omega
    refine ⟨tail[k + 1 - word.length], List.getElem_mem hlast, ?_⟩
    rw [List.head?_eq_getElem?, hd.getElem?_rest, hk, Nat.add_zero, Nat.add_assoc, ← hc.getElem?_rest, hrest,
      List.getElem?_append_right (by omega), List.getElem?_append_left hlast, List.getElem?_eq_getElem hlast]

/-! ## The places of a text in two parts -/

theorem leadingWord_append_of_end {u v : Text} {c : Char} (hc : c ∈ u) (hend : isWord c = false) :
    leadingWord (u ++ v) = leadingWord u := by
  induction u with
  | nil => exact absurd hc List.not_mem_nil
  | cons d u ih =>
    rw [List.cons_append, leadingWord, leadingWord]
    by_cases hd : isWord d = true
    · rw [List.takeWhile_cons_of_pos hd, List.takeWhile_cons_of_pos hd]
      refine congrArg (d :: ·) (ih ((List.mem_cons.mp hc).resolve_left ?_))
      rintro rfl
      exact nomatch hend.symm.trans hd
    · rw [List.takeWhile_cons_of_neg hd, List.takeWhile_cons_of_neg hd]

theorem wordAt_append_left {w u v : Text} (hu : ∀ c ∈ u.getLast?, isWord c = false) {i : Nat}
    (hi : i < u.length) : WordAt w (u ++ v) i ↔ WordAt w u i := by
  have hne : u ≠ [] := List.length_pos_iff.mp (Nat.zero_lt_of_lt hi)
  have hlast : u.getLast hne ∈ u.drop i := by
    rw [← List.getLast_drop (by simpa using hi)]
    exact List.getLast_mem _
  have hend := hu _ (List.getLast?_eq_some_getLast hne)
  rw [WordAt, WordAt, List.take_append_of_le_length (Nat.le_of_lt hi),
    List.drop_append_of_le_length (Nat.le_of_lt hi), leadingWord_append_of_end hlast hend]

theorem wordAt_append_right {w u v : Text} (hu : ∀ c ∈ u.getLast?, isWord c = false) (j : Nat) :
    WordAt w (u ++ v) (u.length + j) ↔ WordAt w v j := by
  rw [WordAt, WordAt, List.take_length_add_append, List.drop_length_add_append, List.getLast?_append]
  refine and_congr_left fun _ => ?_
  cases (v.take j).getLast? with
  | none => simpa using hu
  | some c => simp

/-- The places of a word in a text whose first part no word crosses. -/
theorem wordPlaces_append {w u v : Text} (hw : w ≠ []) (hu : ∀ c ∈ u.getLast?, isWord c = false) :
    wordPlaces w (u ++ v) = wordPlaces w u ++ (wordPlaces w v).map (u.length + ·) := by
  have hend : ¬WordAt w u u.length := by
    intro h
    have hlength := length_eq_of_sameLetters h.2
    rw [List.drop_length] at hlength
    exact hw (List.length_eq_zero_iff.mp hlength)
  have hfirst : wordPlaces w u = (List.range u.length).filter fun i => WordAt w u i := by
    rw [wordPlaces, List.range_succ, List.filter_append]
    simp [hend]
  have hleft : ∀ i ∈ List.range u.length, decide (WordAt w (u ++ v) i) = decide (WordAt w u i) :=
    fun i hi => decide_eq_decide.mpr (wordAt_append_left hu (List.mem_range.mp hi))
  have hright : (fun i => decide (WordAt w (u ++ v) i)) ∘ (u.length + ·)
      = fun j => decide (WordAt w v j) :=
    funext fun j => decide_eq_decide.mpr (wordAt_append_right hu j)
  rw [hfirst, wordPlaces, wordPlaces, List.length_append, Nat.add_assoc, List.range_add,
    List.filter_append, List.filter_congr hleft, List.filter_map, hright]

/-! ## The places of a text of words -/

theorem leadingWord_eq_nil {t : Text} (h : WordEnds t) : leadingWord t = [] := by
  cases t with
  | nil => rfl
  | cons c t => exact List.takeWhile_cons_of_neg (by simp [wordEnds_cons.mp h])

/-- In one word, with what separates it from the next, a word can stand at the start alone. -/
theorem wordAt_word {w v s : Text} (hw : w ≠ []) (hv : ∀ c ∈ v, isWord c = true)
    (hs : ∀ c ∈ s, isWord c = false) {i : Nat} :
    WordAt w (v ++ s) i ↔ i = 0 ∧ sameLetters w v = true := by
  have hends : ∀ j, WordEnds (s.drop j) :=
    fun j c hc => hs c (List.mem_of_mem_drop (List.mem_of_mem_head? hc))
  have hnil : ¬sameLetters w [] = true :=
    fun h => hw (List.length_eq_zero_iff.mp (length_eq_of_sameLetters h))
  rw [WordAt]
  rcases Nat.lt_or_ge i v.length with hlt | hge
  · cases i with
    | zero =>
      rw [List.drop_zero, leadingWord_append hv (by simpa using hends 0)]
      simp
    | succ i =>
      have hlast : ((v ++ s).take (i + 1)).getLast? = some v[i] := by
        rw [List.take_append_of_le_length (Nat.le_of_lt hlt), List.getLast?_eq_getElem?,
          List.length_take_of_le (Nat.le_of_lt hlt), List.getElem?_take_of_lt (by omega)]
        exact List.getElem?_eq_getElem _
      rw [hlast]
      simp [hv _ (List.getElem_mem (Nat.lt_of_succ_lt hlt))]
  · have hdrop : (v ++ s).drop i = s.drop (i - v.length) := by
      rw [List.drop_append, List.drop_eq_nil_of_le hge, List.nil_append]
    rw [hdrop, leadingWord_eq_nil (hends _)]
    refine iff_of_false (fun h => hnil h.2) fun ⟨hzero, hsame⟩ => ?_
    have hlength := length_eq_of_sameLetters hsame
    exact hw (List.length_eq_zero_iff.mp (by omega))

theorem wordPlaces_word {w v s : Text} (hw : w ≠ []) (hv : ∀ c ∈ v, isWord c = true)
    (hs : ∀ c ∈ s, isWord c = false) :
    wordPlaces w (v ++ s) = if sameLetters w v = true then [0] else [] := by
  rw [wordPlaces, List.range_succ_eq_map, List.filter_cons, List.filter_map]
  have hothers : (List.range (v ++ s).length).filter
      ((fun i => decide (WordAt w (v ++ s) i)) ∘ Nat.succ) = [] := by
    refine List.filter_eq_nil_iff.mpr fun i _ => ?_
    simp [wordAt_word hw hv hs]
  rw [hothers, List.map_nil]
  simp [wordAt_word hw hv hs]

/-- The word stands alone nowhere in the text. -/
def Lacks (w t : Text) : Prop := wordPlaces w t = []

theorem Lacks.append {w u v : Text} (h : Lacks w u) (hw : w ≠ []) (hu : ∀ c ∈ u.getLast?, isWord c = false)
    (h' : Lacks w v) : Lacks w (u ++ v) := by
  rw [Lacks, wordPlaces_append hw hu, h, h']
  rfl

theorem lacks_word {w v s : Text} (hw : w ≠ []) (hv : ∀ c ∈ v, isWord c = true)
    (hs : ∀ c ∈ s, isWord c = false) (hdiff : sameLetters w v = false) : Lacks w (v ++ s) := by
  rw [Lacks, wordPlaces_word hw hv hs, hdiff]
  rfl

theorem lacks_nil {w : Text} (hw : w ≠ []) : Lacks w [] := by
  have hdiff : sameLetters w [] = false := by
    refine Bool.eq_false_iff.mpr fun h => hw ?_
    exact List.length_eq_zero_iff.mp (length_eq_of_sameLetters h)
  exact lacks_word (v := []) (s := []) hw (fun c hc => nomatch hc) (fun c hc => nomatch hc) hdiff

/-- A word and what separates it from the next, before a text that lacks another word. -/
theorem Lacks.word_append {w v s rest : Text} (h : Lacks w rest) (hw : w ≠ [])
    (hv : ∀ c ∈ v, isWord c = true) (hne : s ≠ []) (hs : ∀ c ∈ s, isWord c = false)
    (hdiff : sameLetters w v = false) : Lacks w (v ++ (s ++ rest)) := by
  rw [← List.append_assoc]
  refine (lacks_word hw hv hs hdiff).append hw (fun c hc => ?_) h
  rw [List.getLast?_append, Option.or_of_isSome (List.getLast?_isSome.mpr hne)] at hc
  exact hs c (List.mem_of_getLast? hc)

end Sql
end QueryLint

import QueryLint.Proofs.Pattern.Preferred
import QueryLint.Proofs.Sql.Keyword
import QueryLint.Proofs.Sql.TableName

/-! The words FROM and JOIN, and what is read after them. A match of `fromOrJoin` is one of the words,
alone, with all the white space that follows it, and no two matches overlap; a FROM is that of a
comparison if DISTINCT stands before it, so close that the search still sees all of it. Main statements:
`mem_all_fromOrJoin`, `isComparison_tableWordMatch` and `mem_tableRefs_iff`. -/
namespace QueryLint.Sql
set_option autoImplicit false
open Text Shape

/-! ## FROM and JOIN as words -/

theorem IsFromOrJoin.length_eq {v : Text} (h : IsFromOrJoin v) : v.length = 4 := by
  rcases h with h | h <;> exact (length_eq_of_sameLetters h).symm

theorem IsFromOrJoin.isWord {v : Text} (h : IsFromOrJoin v) : ∀ c ∈ v, isWord c = true := by
  obtain ⟨name, hname, hsame⟩ := h.exists_name
  exact hname.isWord_of_sameLetters hsame

/-- One of the words after a character, with the white space and the text that follow it. -/
structure TableWord (before : Option Char) (word gap after : Text) : Prop where
  isWord : IsFromOrJoin word
  alone : ∀ c ∈ before, Text.isWord c = false
  gap_ne_nil : gap ≠ []
  gap_blank : ∀ c ∈ gap, isBlank c = true
  after_solid : ∀ c ∈ after.head?, isBlank c = false

def tableWordMatch (position : Nat) (word gap : Text) : Match :=
  ⟨⟨position, position + (word ++ gap).length⟩, [(1, ⟨position, position + word.length⟩)]⟩

theorem mem_ends_fromOrJoin_word {p q : Progress} :
    q ∈ (edge ++ group 1 (anyOf ["from", "join"])).ends true p ↔
      ∃ v, IsFromOrJoin v ∧ v <+: p.cursor.rest ∧ (∀ c ∈ p.cursor.before, isWord c = false) ∧
        q = (p.past v).keep 1 p.cursor.position := by
  have hedge : ∀ {v : Text}, IsFromOrJoin v → v <+: p.cursor.rest →
      (wordEdge p.cursor.before p.cursor.rest.head? = true ↔
        ∀ c ∈ p.cursor.before, isWord c = false) := by
    intro v hv hbegins
    obtain ⟨name, hname, hsame⟩ := hv.exists_name
    exact wordEdge_before_word hname hsame hbegins
  rw [mem_ends_seq]
  constructor
  · rintro ⟨r, hr, hq⟩
    obtain ⟨hr, rfl⟩ := mem_ends_edge.mp hr
    obtain ⟨r', hr', rfl⟩ := mem_ends_group.mp hq
    rcases mem_ends_either.mp hr' with hword | hword
    · obtain ⟨v, hv, hbegins, rfl⟩ := mem_ends_chars.mp hword
      exact ⟨v, .inl hv, hbegins, (hedge (.inl hv) hbegins).mp hr, rfl⟩
    · obtain ⟨v, hv, hbegins, rfl⟩ := mem_ends_chars.mp hword
      exact ⟨v, .inr hv, hbegins, (hedge (.inr hv) hbegins).mp hr, rfl⟩
  · rintro ⟨v, hv, hbegins, hbefore, rfl⟩
    refine ⟨p, mem_ends_edge.mpr ⟨(hedge hv hbegins).mpr hbefore, rfl⟩,
      mem_ends_group.mpr ⟨p.past v, mem_ends_either.mpr ?_, rfl⟩⟩
    exact hv.imp (fun h => mem_ends_chars.mpr ⟨v, h, hbegins, rfl⟩)
      fun h => mem_ends_chars.mpr ⟨v, h, hbegins, rfl⟩

/-- A word takes all the white space after it. -/
theorem TableWord.matchAt? {c : Cursor} {word gap after : Text} (h : TableWord c.before word gap after)
    (hrest : c.rest = word ++ (gap ++ after)) :
    fromOrJoin.matchAt? c = some (tableWordMatch c.position word gap) := by
  have hbegins : word <+: c.rest := ⟨_, hrest.symm⟩
  have hword : ((edge ++ group 1 (anyOf ["from", "join"])).ends true ⟨c, []⟩).head?
      = some ((Progress.past ⟨c, []⟩ word).keep 1 c.position) := by
    refine head?_ends_of_forall
      (mem_ends_fromOrJoin_word.mpr ⟨word, h.isWord, hbegins, h.alone, rfl⟩) fun r hr => ?_
    obtain ⟨v, hv, hbegins', -, rfl⟩ := mem_ends_fromOrJoin_word.mp hr
    have hlength : v.length = word.length := hv.length_eq.trans h.isWord.length_eq.symm
    rw [(List.prefix_of_prefix_length_le hbegins' hbegins (Nat.le_of_eq hlength)).eq_of_length hlength]
  have hgap : Prefers true space ((Progress.past ⟨c, []⟩ word).keep 1 c.position) gap :=
    prefers_space (rest_past hrest) h.gap_ne_nil h.gap_blank h.after_solid
  rw [Pattern.matchAt?_of_head? (head?_ends_seq hword hgap), tableWordMatch, List.length_append,
    ← Nat.add_assoc]
  rfl

theorem exists_tableWord_of_matchAt? {c : Cursor} {m : Match} (h : fromOrJoin.matchAt? c = some m) :
    ∃ word gap after, TableWord c.before word gap after ∧ c.rest = word ++ (gap ++ after) ∧
      m = tableWordMatch c.position word gap := by
  obtain ⟨q, hq, -⟩ := Pattern.exists_end_of_matchAt? h
  obtain ⟨r, hr, hspace⟩ := mem_ends_seq.mp hq
  obtain ⟨word, hword, ⟨rest, hrest⟩, hbefore, rfl⟩ := mem_ends_fromOrJoin_word.mp hr
  obtain ⟨w, hne, hbegins, hblank, -⟩ := mem_ends_space.mp hspace
  have hpast : ((Progress.past ⟨c, []⟩ word).keep 1 c.position).cursor.rest = rest :=
    rest_past (p := ⟨c, []⟩) hrest.symm
  rw [hpast] at hbegins
  obtain ⟨later, rfl⟩ := hbegins
  have htable : TableWord c.before word ((w ++ later).takeWhile isBlank)
      ((w ++ later).dropWhile isBlank) := by
    refine ⟨hword, hbefore, ?_, fun d hd => List.all_eq_true.mp List.all_takeWhile d hd, ?_⟩
    · rw [List.takeWhile_append_of_pos hblank]
      exact fun hnil => hne (List.append_eq_nil_iff.mp hnil).1
    · intro d hd
      have hnot := List.head?_dropWhile_not isBlank (w ++ later)
      rwa [hd] at hnot
  have hsplit : c.rest = word ++ ((w ++ later).takeWhile isBlank ++ (w ++ later).dropWhile isBlank) := by
    rw [List.takeWhile_append_dropWhile, hrest]
  exact ⟨_, _, _, htable, hsplit, Option.some.inj (h.symm.trans (htable.matchAt? hsplit))⟩

/-- One of the words stands alone where a match begins. -/
theorem TableWord.mem_wordPlaces {before word gap after : Text}
    (h : TableWord before.getLast? word gap after) : ∃ name ∈ ["from".toList, "join".toList],
      before.length ∈ wordPlaces name (before ++ (word ++ (gap ++ after))) := by
  have hends : WordEnds (gap ++ after) := by
    obtain ⟨c, gap', rfl⟩ := List.exists_cons_of_ne_nil h.gap_ne_nil
    exact wordEnds_cons.mpr (isWord_of_isBlank (h.gap_blank c List.mem_cons_self))
  obtain ⟨name, hname, hsame⟩ : ∃ name ∈ ["from".toList, "join".toList], sameLetters name word = true :=
    h.isWord.elim (fun h => ⟨_, by simp, h⟩) fun h => ⟨_, by simp, h⟩
  refine ⟨name, hname, List.mem_filter.mpr ⟨List.mem_range.mpr ?_, decide_eq_true ?_⟩⟩
  · rw [List.length_append]
    omega
  · rw [WordAt, List.take_left, List.drop_left, leadingWord_append h.isWord.isWord hends]
    exact ⟨h.alone, hsame⟩

/-! ## All the words of a text -/

/-- No match begins inside another: a word begins with a word character, and not after one. -/
theorem TableWord.not_inside {t : Text} {c d : Cursor} (hc : c.InText t) (hd : d.InText t)
    {word gap after word' gap' after' : Text} (h : TableWord c.before word gap after)
    (hrest : c.rest = word ++ (gap ++ after)) (h' : TableWord d.before word' gap' after')
    (hrest' : d.rest = word' ++ (gap' ++ after')) (hlt : c.position < d.position) :
    c.position + (word ++ gap).length ≤ d.position := by
  refine Nat.le_of_not_lt fun hinside => ?_
  obtain ⟨x, hgap, hhead⟩ :=
    exists_head?_of_inside hc hd hrest h.isWord.isWord h'.alone hlt hinside
  obtain ⟨y, word', rfl⟩ := List.exists_cons_of_length_eq_add_one h'.isWord.length_eq
  obtain rfl : y = x := by
    rw [hrest'] at hhead
    exact Option.some.inj hhead
  have hword := not_blank_of_isWord (h'.isWord.isWord y List.mem_cons_self)
  exact nomatch hword.symm.trans (h.gap_blank y hgap)

theorem mem_all_fromOrJoin {t : Text} {m : Match} : m ∈ fromOrJoin.all t ↔ m.Of fromOrJoin t := by
  refine ⟨Pattern.of_mem_all, fun ⟨c, hc, hm⟩ => ?_⟩
  have hall : fromOrJoin.all t = (Cursor.all t).filterMap fromOrJoin.matchAt? := by
    refine Pattern.allAmong_eq_filterMap (Cursor.all_increasing t)
      (fun d _ hlt => absurd hlt (Nat.not_lt_zero _)) fun d hd m hm e he hlt hstop => ?_
    cases hother : fromOrJoin.matchAt? e with
    | none => rfl
    | some m' =>
      obtain ⟨word, gap, after, htable, hrest, rfl⟩ := exists_tableWord_of_matchAt? hm
      obtain ⟨word', gap', after', htable', hrest', -⟩ := exists_tableWord_of_matchAt? hother
      have hle := htable.not_inside (Cursor.all_inText hd) (Cursor.all_inText he) hrest htable' hrest' hlt
      exact absurd hstop (Nat.not_lt_of_le hle)
  rw [hall, List.mem_filterMap]
  exact ⟨c, Cursor.mem_all hc, hm⟩

/-! ## References -/

/-- The reference read at a place: a name that is no call and no word of a clause, with its alias. -/
def namedAt? (t : Text) (position : Nat) : Option TableRef :=
  match qualifiedName.matchAt? (Cursor.seek t position) with
  | none => none
  | some name =>
    if (openParen.matchAt? (Cursor.seek t name.span.stop)).isSome then none
    else
      let parts := (nameDot.pieces (name.text t)).map plainIdentifier
      if parts.length = 1 && parts.any fun p => notTables.contains (String.ofList p) then none
      else some ⟨parts, aliasAt? t name.span.stop, name.span⟩

theorem tableRefAt?_eq (t : Text) (m : Match) :
    tableRefAt? t m = if isComparison t m then none else namedAt? t m.span.stop := rfl

theorem exists_name_of_namedAt? {t : Text} {position : Nat} {r : TableRef}
    (h : namedAt? t position = some r) :
    ∃ name, qualifiedName.matchAt? (Cursor.seek t position) = some name ∧ r.span = name.span := by
  unfold namedAt? at h
  split at h
  · cases h
  · rename_i name hname
    refine ⟨name, hname, ?_⟩
    split at h
    · cases h
    · dsimp only at h
      split at h
      · cases h
      · exact Option.some.inj h ▸ rfl

theorem start_le_of_namedAt? {t : Text} {position : Nat} {r : TableRef}
    (h : namedAt? t position = some r) : r.span.start ≤ t.length := by
  obtain ⟨name, hname, hspan⟩ := exists_name_of_namedAt? h
  rw [hspan, Pattern.start_of_matchAt? hname]
  exact (Cursor.seek_inText t position).position_le

/-- A name begins where it is read, with what is not blank. -/
theorem namedAt?_starts {t : Text} {position : Nat} {r : TableRef} (h : namedAt? t position = some r)
    (hp : position ≤ t.length) :
    r.span.start = position ∧ ∃ c, t[position]? = some c ∧ isBlank c = false := by
  obtain ⟨name, hname, hspan⟩ := exists_name_of_namedAt? h
  obtain ⟨chain, -, htext⟩ := exists_chain_of_qualifiedName hname
  have hstart := Pattern.start_of_matchAt? hname
  rw [Cursor.seek_eq hp, ← hspan] at hstart
  refine ⟨hstart, ?_⟩
  have hne : (name.text t).head?.isSome := by
    rw [htext, List.isSome_head?, NameChain.text]
    exact fun hnil => chain.first.text_ne_nil (List.append_eq_nil_iff.mp hnil).1
  obtain ⟨c, hc⟩ := Option.isSome_iff_exists.mp hne
  have hsolid := chain.head?_not_blank c (htext ▸ hc)
  rw [Match.text, ← hspan, List.head?_eq_getElem?, getElem?_slice] at hc
  split at hc
  · rw [Nat.add_zero, hstart] at hc
    exact ⟨c, hc, hsolid⟩
  · cases hc

/-! ## Comparisons -/

/-- The text ends with DISTINCT and white space, within the reach of the search. -/
def EndsInDistinct (t : Text) : Prop :=
  ∃ front word gap, t = front ++ (word ++ gap) ∧ sameLetters "distinct".toList word = true ∧
    (∀ c ∈ front.getLast?, isWord c = false) ∧ (∀ c ∈ gap, isBlank c = true) ∧
    (word ++ gap).length ≤ distinctReach

theorem blank_of_atFinish {t : Text} (h : atFinish t = true) : ∀ c ∈ t, isBlank c = true := by
  cases t with
  | nil => simp
  | cons c t =>
    cases t with
    | nil =>
      obtain rfl : c = '\n' := by simpa [atFinish] using h
      exact forall_of_all (by decide)
    | cons d t => cases h

/-- The pattern finds a word that stands alone and after which only white space follows. -/
theorem isSome_matchAt?_lastWord {a : Shape} {W : Text → Prop} (ha : a.Takes W)
    (hW : ∀ w, W w → ∃ name, IsWordName name ∧ sameLetters name w = true) {c : Cursor} :
    ((Pattern.anyCase (edge ++ a ++ gap ++ finish)).matchAt? c).isSome = true ↔
      ∃ word gap, c.rest = word ++ gap ∧ W word ∧ (∀ d ∈ c.before, isWord d = false) ∧
        ∀ d ∈ gap, isBlank d = true := by
  rw [Pattern.isSome_matchAt?]
  constructor
  · rintro ⟨q, hq⟩
    obtain ⟨r₃, hr₃, hfinish⟩ := mem_ends_seq.mp hq
    obtain ⟨r₂, hr₂, hgap⟩ := mem_ends_seq.mp hr₃
    obtain ⟨r₁, hr₁, hword⟩ := mem_ends_seq.mp hr₂
    obtain ⟨hedge, rfl⟩ := mem_ends_edge.mp hr₁
    obtain ⟨word, hkind, hbegins, rfl⟩ := (ha _ _).mp hword
    obtain ⟨gap, hgapBegins, hblank, rfl⟩ := mem_ends_gap.mp hgap
    obtain ⟨hend, -⟩ := mem_ends_finish.mp hfinish
    obtain ⟨after, hafter⟩ := (prefix_drop_iff hbegins).mp hgapBegins
    have hrest : ((Progress.past (Progress.past ⟨c, []⟩ word) gap).cursor).rest = after := by
      rw [Progress.past_past]
      exact rest_past (p := ⟨c, []⟩) hafter.symm
    rw [hrest] at hend
    obtain ⟨name, hname, hsame⟩ := hW word hkind
    refine ⟨word, gap ++ after, ?_, hkind, (wordEdge_before_word hname hsame hbegins).mp hedge,
      List.forall_mem_append.mpr ⟨hblank, blank_of_atFinish hend⟩⟩
    rw [← List.append_assoc]
    exact hafter.symm
  · rintro ⟨word, gap, hrest, hkind, hbefore, hblank⟩
    obtain ⟨name, hname, hsame⟩ := hW word hkind
    have hbegins : word <+: c.rest := ⟨gap, hrest.symm⟩
    let p : Progress := ⟨c, []⟩
    refine ⟨(p.past word).past gap, mem_ends_seq.mpr ⟨(p.past word).past gap,
      mem_ends_seq.mpr ⟨p.past word, mem_ends_seq.mpr ⟨p, ?_, ?_⟩, ?_⟩, ?_⟩⟩
    · exact mem_ends_edge.mpr ⟨(wordEdge_before_word hname hsame hbegins).mpr hbefore, rfl⟩
    · exact (ha _ _).mpr ⟨word, hkind, hbegins, rfl⟩
    · refine mem_ends_gap.mpr ⟨gap, (prefix_drop_iff hbegins).mpr ⟨[], ?_⟩, hblank, rfl⟩
      rw [List.append_nil]
      exact hrest.symm
    · refine mem_ends_finish.mpr ⟨?_, rfl⟩
      have hend : ((p.past word).past gap).cursor.rest = [] := by
        rw [Progress.past_past]
        exact rest_past (p := p) (by rw [List.append_nil]; exact hrest)
      rw [hend]
      rfl

theorem isSome_distinctBefore {t : Text} {position : Nat} (hp : position ≤ t.length) :
    (distinctBefore.firstWithin? t ⟨position - distinctReach, position⟩).isSome = true ↔
      EndsInDistinct (t.take position) := by
  have hlength : (t.take position).length = position := List.length_take_of_le hp
  have hmatch : ∀ {c : Cursor}, (distinctBefore.matchAt? c).isSome = true ↔ ∃ word gap, c.rest = word ++ gap ∧
      sameLetters "distinct".toList word = true ∧ (∀ d ∈ c.before, isWord d = false) ∧ ∀ d ∈ gap, isBlank d = true :=
    isSome_matchAt?_lastWord (takes_chars "distinct".toList) fun _ hsame => ⟨_, isWordName "distinct", hsame⟩
  rw [Pattern.firstWithin?, Pattern.isSome_firstFrom? (by simp only [hlength]; omega)]
  simp only
  generalize t.take position = front at hlength ⊢
  constructor
  · rintro ⟨c, hc, hle, hm⟩
    obtain ⟨word, gap, hrest, hsame, hbefore, hblank⟩ := hmatch.mp hm
    have hlast := hc.length_rest
    rw [hrest, hlength] at hlast
    refine ⟨front.take c.position, word, gap, ?_, hsame, hc.before_eq ▸ hbefore, hblank, by omega⟩
    rw [← hrest, hc.rest_eq, List.take_append_drop]
  · rintro ⟨before, word, gap, rfl, hsame, hbefore, hblank, hreach⟩
    refine ⟨_, Cursor.inText_of_append before (word ++ gap), ?_,
      hmatch.mpr ⟨word, gap, rfl, hsame, hbefore, hblank⟩⟩
    rw [List.length_append] at hlength
    simp only
    omega

/-- The word of a match and the text before it say whether it is the FROM of a comparison. -/
theorem isComparison_tableWordMatch (before word gap after : Text) :
    isComparison (before ++ (word ++ (gap ++ after))) (tableWordMatch before.length word gap) = true ↔
      lower word = "from".toList ∧ EndsInDistinct before := by
  have hle : before.length ≤ (before ++ (word ++ (gap ++ after))).length := by
    rw [List.length_append]
    exact Nat.le_add_right _ _
  have hword : (tableWordMatch before.length word gap).groupText
      (before ++ (word ++ (gap ++ after))) 1 = word := by
    show slice _ ⟨before.length, before.length + word.length⟩ = word
    exact slice_of_begins (by rw [List.drop_left]; exact List.prefix_append _ _)
  rw [isComparison, hword, Bool.and_eq_true, beq_iff_eq]
  refine and_congr_right fun _ => ?_
  rw [tableWordMatch]
  simp only
  rw [isSome_distinctBefore hle, List.take_left]

/-- The references are what is read after the words that are no part of a comparison. -/
theorem mem_tableRefs_iff {sql : Text} {r : TableRef} : r ∈ tableRefs sql ↔
    ∃ before word gap after, maskCalls callsWithFrom sql = before ++ (word ++ (gap ++ after)) ∧
      TableWord before.getLast? word gap after ∧
      ¬(lower word = "from".toList ∧ EndsInDistinct before) ∧
      namedAt? (maskCalls callsWithFrom sql) (before ++ (word ++ gap)).length = some r := by
  have hread : ∀ before word gap after : Text,
      tableRefAt? (before ++ (word ++ (gap ++ after))) (tableWordMatch before.length word gap) = some r ↔
        ¬(lower word = "from".toList ∧ EndsInDistinct before) ∧
          namedAt? (before ++ (word ++ (gap ++ after))) (before ++ (word ++ gap)).length = some r := by
    intro before word gap after
    have hstop : (tableWordMatch before.length word gap).span.stop = (before ++ (word ++ gap)).length :=
      List.length_append.symm
    rw [tableRefAt?_eq, ← isComparison_tableWordMatch before word gap after, hstop]
    split
    · rename_i hcomparison
      simp [hcomparison]
    · rename_i hcomparison
      simp [hcomparison]
  rw [tableRefs]
  generalize maskCalls callsWithFrom sql = masked
  simp only [List.mem_filterMap, mem_all_fromOrJoin]
  constructor
  · rintro ⟨m, ⟨c, hc, hm⟩, hr⟩
    obtain ⟨word, gap, after, htable, hrest, rfl⟩ := exists_tableWord_of_matchAt? hm
    have hlength : (masked.take c.position).length = c.position := List.length_take_of_le hc.position_le
    have hsplit : masked = masked.take c.position ++ (word ++ (gap ++ after)) := by
      rw [← hrest, hc.rest_eq, List.take_append_drop]
    refine ⟨_, word, gap, after, hsplit, hc.before_eq ▸ htable, ?_⟩
    have hsame := hread (masked.take c.position) word gap after
    rw [← hsplit, hlength] at hsame
    exact hsame.mp hr
  · rintro ⟨before, word, gap, after, rfl, htable, hr⟩
    exact ⟨_, ⟨_, Cursor.inText_of_append before _, htable.matchAt? rfl⟩,
      (hread before word gap after).mpr hr⟩

end QueryLint.Sql

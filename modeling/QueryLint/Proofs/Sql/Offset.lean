import QueryLint.Checks.Ordering
import QueryLint.Proofs.Pattern.Preferred
import QueryLint.Proofs.Sql.Condition
import QueryLint.Proofs.Sql.Keyword

/-! OFFSET with a number. A match is the word, all the white space that follows it, and the digits as far
as they go; no two matches overlap, so each OFFSET with a number is found. Main statement:
`mem_all_largeOffset`. -/
namespace QueryLint.Sql
set_option autoImplicit false
open Text Shape

/-! ## An OFFSET and its number -/

/-- The word OFFSET, letter case aside and alone, white space, and a number that goes on as far as digits do;
what stands before and after them. -/
structure NumberedOffset (before : Option Char) (word gap digits after : Text) : Prop where
  same : sameLetters "offset".toList word = true
  alone : ∀ c ∈ before, isWord c = false
  gap_ne_nil : gap ≠ []
  gap_blank : ∀ c ∈ gap, isBlank c = true
  digits_ne_nil : digits ≠ []
  digits_all : ∀ c ∈ digits, isDigit c = true
  after_stop : ∀ c ∈ after.head?, isDigit c = false

def offsetMatch (position : Nat) (word gap digits : Text) : Match :=
  ⟨⟨position, position + (word ++ (gap ++ digits)).length⟩,
    [(1, ⟨position + (word ++ gap).length, position + (word ++ (gap ++ digits)).length⟩)]⟩

/-- A run takes the digits as far as they go. -/
theorem prefers_digitRun {p : Progress} {w rest : Text} (hrest : p.cursor.rest = w ++ rest) (hne : w ≠ [])
    (hw : ∀ c ∈ w, isDigit c = true) (hstop : ∀ c ∈ rest.head?, isDigit c = false) :
    Prefers true (many1 digit) p w := by
  obtain ⟨c, w, rfl⟩ := List.exists_cons_of_ne_nil hne
  obtain ⟨hc, hw⟩ := List.forall_mem_cons.mp hw
  have hset : ∀ c, CharSet.has true ⟨[.anyDigit], false⟩ c = isDigit c := by
    intro c
    simp [CharSet.has, CharKind.has]
  have hfirst : Prefers true digit p [c] := prefers_set hrest ((hset c).trans hc)
  exact hfirst.seq (prefers_many (rest_past hrest) (fun c hc => (hset c).trans (hw c hc))
    fun c hc => (hset c).trans (hstop c hc))

theorem takes_digitRun : (many1 digit).Takes fun w => w ≠ [] ∧ ∀ c ∈ w, isDigit c = true :=
  (takes_run1 _).congr fun w => by simp [CharSet.has, CharKind.has]

theorem mem_ends_offsetWord {p q : Progress} : q ∈ (edge ++ lit "offset").ends true p ↔
    ∃ v, sameLetters "offset".toList v = true ∧ v <+: p.cursor.rest ∧
      (∀ c ∈ p.cursor.before, isWord c = false) ∧ q = p.past v := by
  rw [mem_ends_seq]
  constructor
  · rintro ⟨r, hr, hq⟩
    obtain ⟨hedge, rfl⟩ := mem_ends_edge.mp hr
    obtain ⟨v, hv, hbegins, rfl⟩ := mem_ends_chars.mp hq
    exact ⟨v, hv, hbegins, (wordEdge_before_word (isWordName "offset") hv hbegins).mp hedge, rfl⟩
  · rintro ⟨v, hv, hbegins, hbefore, rfl⟩
    exact ⟨p, mem_ends_edge.mpr ⟨(wordEdge_before_word (isWordName "offset") hv hbegins).mpr hbefore, rfl⟩,
      mem_ends_chars.mpr ⟨v, hv, hbegins, rfl⟩⟩

namespace NumberedOffset

variable {before : Option Char} {word gap digits after : Text}

theorem isWord_word (h : NumberedOffset before word gap digits after) : ∀ c ∈ word, isWord c = true :=
  (isWordName "offset").isWord_of_sameLetters h.same

theorem head?_after_gap (h : NumberedOffset before word gap digits after) :
    ∀ c ∈ (digits ++ after).head?, isBlank c = false := by
  obtain ⟨d, digits, rfl⟩ := List.exists_cons_of_ne_nil h.digits_ne_nil
  refine forall_head? ?_
  cases hblank : isBlank d with
  | false => rfl
  | true => exact nomatch (h.digits_all d List.mem_cons_self).symm.trans (isDigit_of_isBlank hblank)

end NumberedOffset

theorem NumberedOffset.matchAt? {c : Cursor} {word gap digits after : Text}
    (h : NumberedOffset c.before word gap digits after) (hrest : c.rest = word ++ (gap ++ (digits ++ after))) :
    largeOffset.matchAt? c = some (offsetMatch c.position word gap digits) := by
  let p : Progress := ⟨c, []⟩
  have hbegins : word <+: c.rest := ⟨_, hrest.symm⟩
  have hword : Prefers true (edge ++ lit "offset") p word := by
    refine head?_ends_of_forall (mem_ends_offsetWord.mpr ⟨word, h.same, hbegins, h.alone, rfl⟩) fun r hr => ?_
    obtain ⟨v, hv, hbegins', -, rfl⟩ := mem_ends_offsetWord.mp hr
    have hlength : v.length = word.length :=
      (length_eq_of_sameLetters hv).symm.trans (length_eq_of_sameLetters h.same)
    rw [(List.prefix_of_prefix_length_le hbegins' hbegins (Nat.le_of_eq hlength)).eq_of_length hlength]
  have hafterWord : (p.past word).cursor.rest = gap ++ (digits ++ after) := rest_past hrest
  have hgap := hword.seq (prefers_space hafterWord h.gap_ne_nil h.gap_blank h.head?_after_gap)
  have hafterGap : (p.past (word ++ gap)).cursor.rest = digits ++ after :=
    rest_past (by rw [List.append_assoc]; exact hrest)
  have hdigits := head?_ends_group 1
    (prefers_digitRun hafterGap h.digits_ne_nil h.digits_all h.after_stop)
  rw [Pattern.matchAt?_of_head? (head?_ends_seq hgap hdigits), offsetMatch]
  simp [Progress.keep, p]

theorem exists_numberedOffset_of_matchAt? {c : Cursor} {m : Match} (h : largeOffset.matchAt? c = some m) :
    ∃ word gap digits after, NumberedOffset c.before word gap digits after ∧
      c.rest = word ++ (gap ++ (digits ++ after)) ∧ m = offsetMatch c.position word gap digits := by
  obtain ⟨q, hq, -⟩ := Pattern.exists_end_of_matchAt? h
  obtain ⟨r₂, hr₂, hnumber⟩ := mem_ends_seq.mp hq
  obtain ⟨r₁, hr₁, hspace⟩ := mem_ends_seq.mp hr₂
  obtain ⟨word, hword, hbegins, hbefore, rfl⟩ := mem_ends_offsetWord.mp hr₁
  obtain ⟨gap, hne, hgapBegins, hblank, rfl⟩ := mem_ends_space.mp hspace
  obtain ⟨r, hr, -⟩ := mem_ends_group.mp hnumber
  obtain ⟨w, ⟨hwne, hdigits⟩, ⟨rest, hrest⟩, -⟩ := (takes_digitRun _ _).mp hr
  have hsplit : c.rest = word ++ (gap ++ (w ++ rest)) := by
    obtain ⟨later, hlater⟩ := hbegins
    obtain ⟨later', hlater'⟩ := hgapBegins
    rw [Progress.past_cursor, Cursor.past_rest, ← hlater, List.drop_left] at hlater'
    rw [Progress.past_past, Progress.past_cursor, Cursor.past_rest, ← hlater, ← hlater',
      ← List.append_assoc, List.drop_left] at hrest
    rw [← hlater, ← hlater', hrest]
  -- the number goes on as far as digits do
  have hnumbered : NumberedOffset c.before word gap ((w ++ rest).takeWhile isDigit)
      ((w ++ rest).dropWhile isDigit) := by
    refine ⟨hword, hbefore, hne, hblank, ?_, fun d hd => List.all_eq_true.mp List.all_takeWhile d hd, ?_⟩
    · rw [List.takeWhile_append_of_pos hdigits]
      exact fun hnil => hwne (List.append_eq_nil_iff.mp hnil).1
    · intro d hd
      have hnot := List.head?_dropWhile_not isDigit (w ++ rest)
      rwa [hd] at hnot
  have hrest : c.rest = word ++ (gap ++ ((w ++ rest).takeWhile isDigit ++ (w ++ rest).dropWhile isDigit)) := by
    rw [List.takeWhile_append_dropWhile, hsplit]
  exact ⟨_, _, _, _, hnumbered, hrest, Option.some.inj (h.symm.trans (hnumbered.matchAt? hrest))⟩

/-! ## All of a text -/

/-- No match begins inside another: after the word come white space and digits, and no word goes on. -/
theorem NumberedOffset.not_inside {t : Text} {c d : Cursor} (hc : c.InText t) (hd : d.InText t)
    {word gap digits after word' gap' digits' after' : Text} (h : NumberedOffset c.before word gap digits after)
    (hrest : c.rest = word ++ (gap ++ (digits ++ after)))
    (h' : NumberedOffset d.before word' gap' digits' after')
    (hrest' : d.rest = word' ++ (gap' ++ (digits' ++ after'))) (hlt : c.position < d.position) :
    c.position + (word ++ (gap ++ digits)).length ≤ d.position := by
  refine Nat.le_of_not_lt fun hinside => ?_
  have htail : c.rest = word ++ ((gap ++ digits) ++ after) := by rw [List.append_assoc, hrest]
  obtain ⟨x, hmem, hhead⟩ :=
    exists_head?_of_inside hc hd htail h.isWord_word h'.alone hlt hinside
  obtain ⟨y, word', rfl⟩ := List.exists_cons_of_ne_nil ((isWordName "offset").ne_nil_of_sameLetters h'.same)
  obtain rfl : y = x := by
    rw [hrest'] at hhead
    exact Option.some.inj hhead
  rcases List.mem_append.mp hmem with hgap | hdigits
  · have hword := not_blank_of_isWord (h'.isWord_word y List.mem_cons_self)
    exact nomatch hword.symm.trans (h.gap_blank y hgap)
  · have hsame : sameLetter 'o' y = true := (Bool.and_eq_true_iff.mp h'.same).1
    have hletter := isDigit_of_ascii (by decide) (by decide) hsame
    exact nomatch hletter.symm.trans (h.digits_all y hdigits)

theorem mem_all_largeOffset {t : Text} {m : Match} : m ∈ largeOffset.all t ↔ m.Of largeOffset t := by
  refine ⟨Pattern.of_mem_all, fun ⟨c, hc, hm⟩ => ?_⟩
  obtain ⟨m', hm', rfl | ⟨hstart, hstop⟩⟩ := Pattern.exists_mem_all hc hm
  · exact hm'
  · obtain ⟨d, hd, hat⟩ := Pattern.of_mem_all hm'
    obtain ⟨word, gap, digits, after, hoffset, hrest, rfl⟩ := exists_numberedOffset_of_matchAt? hat
    obtain ⟨word', gap', digits', after', hoffset', hrest', -⟩ := exists_numberedOffset_of_matchAt? hm
    exact absurd (hoffset.not_inside hd hc hrest hoffset' hrest' hstart) (Nat.not_le_of_lt hstop)

/-- An OFFSET of a text with its number: where it begins, and the digits. -/
def OffsetAt (t : Text) (start : Nat) (digits : Text) : Prop :=
  ∃ before word gap after, t = before ++ (word ++ (gap ++ (digits ++ after))) ∧ before.length = start ∧
    NumberedOffset before.getLast? word gap digits after

theorem OffsetAt.wordAt {t : Text} {start : Nat} {digits : Text} (h : OffsetAt t start digits) :
    WordAt "offset".toList t start := by
  obtain ⟨before, word, gap, after, rfl, rfl, hoffset⟩ := h
  obtain ⟨c, gap, rfl⟩ := List.exists_cons_of_ne_nil hoffset.gap_ne_nil
  have hends : WordEnds (c :: gap ++ (digits ++ after)) :=
    wordEnds_cons.mpr (isWord_of_isBlank (hoffset.gap_blank c List.mem_cons_self))
  rw [WordAt, List.take_left, List.drop_left, leadingWord_append hoffset.isWord_word hends]
  exact ⟨hoffset.alone, hoffset.same⟩

theorem OffsetAt.ne_nil {t : Text} {start : Nat} {digits : Text} (h : OffsetAt t start digits) : t ≠ [] := by
  rintro rfl
  have hsame := h.wordAt.2
  rw [List.drop_nil] at hsame
  exact (isWordName "offset").ne_nil_of_sameLetters hsame rfl

/-- Each OFFSET with a number is found, with the digits of its number, and nothing else is. -/
theorem exists_mem_all_iff {t : Text} {start : Nat} {digits : Text} :
    (∃ m ∈ largeOffset.all t, m.span.start = start ∧ m.groupText t 1 = digits) ↔ OffsetAt t start digits := by
  have hread : ∀ before word gap digits after : Text,
      (offsetMatch before.length word gap digits).groupText
        (before ++ (word ++ (gap ++ (digits ++ after)))) 1 = digits := by
    intro before word gap digits after
    show slice _ ⟨before.length + (word ++ gap).length, before.length + (word ++ (gap ++ digits)).length⟩ = _
    have hbegins : digits <+: (before ++ (word ++ (gap ++ (digits ++ after)))).drop
        (before.length + (word ++ gap).length) := by
      rw [← List.append_assoc word, ← List.append_assoc before, ← List.length_append, List.drop_left]
      exact List.prefix_append _ _
    have hstop : before.length + (word ++ (gap ++ digits)).length
        = before.length + (word ++ gap).length + digits.length := by
      simp only [List.length_append]
      omega
    rw [hstop]
    exact slice_of_begins hbegins
  simp only [mem_all_largeOffset]
  constructor
  · rintro ⟨m, ⟨c, hc, hm⟩, rfl, rfl⟩
    obtain ⟨word, gap, digits, after, hoffset, hrest, rfl⟩ := exists_numberedOffset_of_matchAt? hm
    have hlength : (t.take c.position).length = c.position := List.length_take_of_le hc.position_le
    have hsplit : t = t.take c.position ++ (word ++ (gap ++ (digits ++ after))) := by
      rw [← hrest, hc.rest_eq, List.take_append_drop]
    have hdigits := hread (t.take c.position) word gap digits after
    rw [← hsplit, hlength] at hdigits
    exact ⟨_, word, gap, after, hdigits.symm ▸ hsplit, hlength, hdigits.symm ▸ hc.before_eq ▸ hoffset⟩
  · rintro ⟨before, word, gap, after, rfl, rfl, hoffset⟩
    exact ⟨_, ⟨_, Cursor.inText_of_append before _, hoffset.matchAt? rfl⟩, rfl,
      hread before word gap digits after⟩

end QueryLint.Sql

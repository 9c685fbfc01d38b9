import QueryLint.Proofs.Pattern.Preferred
import QueryLint.Proofs.Sql.Keyword
import QueryLint.Proofs.Text.Spelling
import QueryLint.Sql.Vocabulary.Condition

/-! The words of a CASE expression. They are read off a text place by place: a word stands alone, and is
one of CASE, WHEN and END in upper or lower case. Main statement: `all_caseToken`, the pattern of these
words finds just them, in a text without the long s, which differs from s in case alone. -/
namespace QueryLint.Sql
set_option autoImplicit false
open Text Shape

/-! ## The three words -/

inductive CaseWord where
  | opening
  | branch
  | closing
deriving DecidableEq, Repr

namespace CaseWord

def letters : CaseWord → Text
  | opening => "case".toList
  | branch => "when".toList
  | closing => "end".toList

/-- The one of the words that a text is, in upper or lower case. -/
def read? (v : Text) : Option CaseWord :=
  [opening, branch, closing].find? fun w => small v == w.letters

theorem mem_list (w : CaseWord) : w ∈ [opening, branch, closing] := by cases w <;> decide

theorem letters_inj {w w' : CaseWord} (h : w.letters = w'.letters) : w = w' := by
  have hpairs : ∀ w ∈ [opening, branch, closing], ∀ w' ∈ [opening, branch, closing],
      w.letters = w'.letters → w = w' := by decide
  exact hpairs w w.mem_list w' w'.mem_list h

theorem read?_eq_some {v : Text} {w : CaseWord} : read? v = some w ↔ small v = w.letters := by
  have hfound : ∀ {w}, read? v = some w → small v = w.letters := by
    intro w h
    rw [read?] at h
    have hbeq := List.find?_some h
    exact eq_of_beq hbeq
  refine ⟨hfound, fun h => ?_⟩
  cases hread : read? v with
  | none => exact absurd (beq_iff_eq.mpr h) (List.find?_eq_none.mp hread w w.mem_list)
  | some w' => rw [letters_inj ((hfound hread).symm.trans h)]

theorem isWordName (w : CaseWord) : IsWordName w.letters := by
  have hascii : ∀ w ∈ [opening, branch, closing], IsAsciiName w.letters := by decide
  exact (hascii w w.mem_list).isWordName

theorem lower_eq {v : Text} {w : CaseWord} (h : small v = w.letters) : lower v = w.letters := by
  rw [← lower_small, h]
  cases w <;> decide

end CaseWord

/-! ## Letters of the words in any case -/

/-- The letter s alone, of those the words consist of, has a variant beyond ASCII. -/
theorem toLower_eq_of_sameLetter {w : CaseWord} {c d : Char} (hc : c ∈ w.letters)
    (h : sameLetter c d = true) (hd : d ≠ Char.ofNat 0x17F) : d.toLower = c := by
  have hsmall : w.letters.all (fun c => decide (c.toNat < 0x80 ∧ c.toLower = c)) = true := by
    cases w <;> decide
  have hvariants : w.letters.all (fun c =>
      asciiVariants.all fun n => n == 0x17F || !sameLetter c (Char.ofNat n)) = true := by
    cases w <;> decide +kernel
  obtain ⟨hascii, hlower⟩ := forall_of_all hsmall c hc
  rcases ascii_or_mem_asciiVariants hascii h with hascii' | hvariant
  · have hfold := sameLetter_iff.mp h
    rw [foldCase_of_ascii hascii, foldCase_of_ascii hascii', hlower] at hfold
    exact hfold.symm
  · have hplain : d.toNat ≠ 0x17F := fun hcode => hd (by rw [← hcode, Char.ofNat_toNat])
    have hdiff := List.all_eq_true.mp (List.all_eq_true.mp hvariants c hc) d.toNat hvariant
    rw [Char.ofNat_toNat, h, Bool.not_true, Bool.or_false] at hdiff
    exact absurd (eq_of_beq hdiff) hplain

theorem small_eq_of_sameLetters {part v : Text} (hpart : ∀ c ∈ part, ∃ w : CaseWord, c ∈ w.letters)
    (h : sameLetters part v = true) (hv : Char.ofNat 0x17F ∉ v) : small v = part := by
  induction part generalizing v with
  | nil => rw [List.length_eq_zero_iff.mp (length_eq_of_sameLetters h).symm, small_nil]
  | cons c part ih =>
    cases v with
    | nil => exact absurd h Bool.false_ne_true
    | cons d v =>
      rw [sameLetters, Bool.and_eq_true] at h
      obtain ⟨⟨w, hw⟩, hpart⟩ := List.forall_mem_cons.mp hpart
      have hd : d ≠ Char.ofNat 0x17F := fun heq => hv (heq ▸ List.mem_cons_self)
      have hrest := ih hpart h.2 fun hmem => hv (List.mem_cons_of_mem d hmem)
      rw [small_cons, toLower_eq_of_sameLetter hw h.1 hd, hrest]

theorem sameLetters_of_small {w : CaseWord} {v : Text} (h : small v = w.letters) :
    sameLetters w.letters v = true := by
  rw [sameLetters_iff, ← h, small, List.map_map]
  exact List.map_congr_left fun c _ => foldCase_toLower c

theorem sameLetters_caseWord {w : CaseWord} {v : Text} (hv : Char.ofNat 0x17F ∉ v) :
    sameLetters w.letters v = true ↔ small v = w.letters :=
  ⟨fun h => small_eq_of_sameLetters (fun _ hc => ⟨w, hc⟩) h hv, sameLetters_of_small⟩

/-! ## The words of a text -/

/-- One of the words with the position where it begins. -/
structure PlacedWord where
  word : CaseWord
  start : Nat
deriving DecidableEq, Repr

namespace PlacedWord

def stop (w : PlacedWord) : Nat := w.start + w.word.letters.length

def span (w : PlacedWord) : Span := ⟨w.start, w.stop⟩

/-- The match that finds the word. -/
def found (w : PlacedWord) : Match := ⟨w.span, [(1, w.span)]⟩

/-- The word that stands alone at a position. -/
def at? (t : Text) (position : Nat) : Option PlacedWord :=
  if (t.take position).getLast?.any isWord then none
  else (CaseWord.read? (leadingWord (t.drop position))).map (⟨·, position⟩)

theorem at?_eq_some {t : Text} {position : Nat} {w : PlacedWord} : at? t position = some w ↔
    (∀ c ∈ (t.take position).getLast?, isWord c = false) ∧
      small (leadingWord (t.drop position)) = w.word.letters ∧ w.start = position := by
  rw [at?]
  split
  · rename_i hword
    refine iff_of_false nofun fun h => ?_
    rw [any_isWord_eq_false.mpr h.1] at hword
    exact nomatch hword
  · rename_i hword
    rw [Option.map_eq_some_iff, ← any_isWord_eq_false]
    refine ⟨?_, ?_⟩
    · rintro ⟨word, hread, rfl⟩
      exact ⟨Bool.not_eq_true _ ▸ hword, CaseWord.read?_eq_some.mp hread, rfl⟩
    · rintro ⟨-, hsmall, rfl⟩
      exact ⟨w.word, CaseWord.read?_eq_some.mpr hsmall, rfl⟩

end PlacedWord

/-- The words CASE, WHEN and END of a text, from left to right. -/
def caseWords (t : Text) : List PlacedWord := (List.range (t.length + 1)).filterMap (PlacedWord.at? t)

theorem mem_caseWords {t : Text} {w : PlacedWord} :
    w ∈ caseWords t ↔ PlacedWord.at? t w.start = some w := by
  rw [caseWords, List.mem_filterMap]
  constructor
  · rintro ⟨position, -, h⟩
    rwa [(PlacedWord.at?_eq_some.mp h).2.2]
  · intro h
    refine ⟨w.start, List.mem_range.mpr (Nat.lt_succ_of_le (Nat.le_of_not_lt fun hlt => ?_)), h⟩
    obtain ⟨-, hsmall, -⟩ := PlacedWord.at?_eq_some.mp h
    rw [List.drop_eq_nil_of_le (Nat.le_of_lt hlt)] at hsmall
    exact w.word.isWordName.ne_nil hsmall.symm

theorem lower_found {t : Text} {w : PlacedWord} (h : w ∈ caseWords t) :
    lower (w.found.groupText t 1) = w.word.letters := by
  obtain ⟨-, hsmall, -⟩ := PlacedWord.at?_eq_some.mp (mem_caseWords.mp h)
  have hlength : (leadingWord (t.drop w.start)).length = w.word.letters.length := by
    rw [← hsmall, length_small]
  have hbegins : leadingWord (t.drop w.start) <+: t.drop w.start := List.takeWhile_prefix _
  have htext : w.found.groupText t 1 = leadingWord (t.drop w.start) := by
    show (t.take w.stop).drop w.start = _
    rw [List.drop_take, List.prefix_iff_eq_take.mp hbegins, hlength, PlacedWord.stop,
      Nat.add_sub_cancel_left]
  rw [htext, CaseWord.lower_eq hsmall]

theorem caseWords_increasing (t : Text) : (caseWords t).Pairwise fun w w' => w.start < w'.start := by
  refine List.pairwise_filterMap.mpr (List.pairwise_lt_range.imp fun hlt w hw w' hw' => ?_)
  rwa [(PlacedWord.at?_eq_some.mp hw).2.2, (PlacedWord.at?_eq_some.mp hw').2.2]

/-! ## What the pattern finds -/

theorem mem_ends_caseWord {p q : Progress} :
    q ∈ (anyOf ["case", "when", "end"]).ends true p ↔
      ∃ (w : CaseWord) (v : Text), sameLetters w.letters v = true ∧ v <+: p.cursor.rest ∧ q = p.past v := by
  show q ∈ (either (chars "case".toList) (either (chars "when".toList) (chars "end".toList))).ends true p ↔ _
  rw [mem_ends_either, mem_ends_either, mem_ends_chars, mem_ends_chars, mem_ends_chars]
  constructor
  · rintro (h | h | h)
    · exact ⟨.opening, h⟩
    · exact ⟨.branch, h⟩
    · exact ⟨.closing, h⟩
  · rintro ⟨w, h⟩
    cases w with
    | opening => exact .inl h
    | branch => exact .inr (.inl h)
    | closing => exact .inr (.inr h)

theorem mem_ends_caseToken {p q : Progress} : q ∈ caseToken.shape.ends true p ↔
    (∀ c ∈ p.cursor.before, isWord c = false) ∧ ∃ w : CaseWord,
      sameLetters w.letters (leadingWord p.cursor.rest) = true ∧
        q = (p.past (leadingWord p.cursor.rest)).keep 1 p.cursor.position := by
  show q ∈ (edge ++ group 1 (anyOf ["case", "when", "end"]) ++ edge).ends true p ↔ _
  rw [ends_assoc, mem_ends_seq]
  constructor
  · rintro ⟨_, hfirst, hothers⟩
    obtain ⟨hleft, rfl⟩ := mem_ends_edge.mp hfirst
    obtain ⟨_, hgroup, hlast⟩ := mem_ends_seq.mp hothers
    obtain ⟨_, hword, rfl⟩ := mem_ends_group.mp hgroup
    obtain ⟨w, v, hsame, hbegins, rfl⟩ := mem_ends_caseWord.mp hword
    obtain ⟨hright, rfl⟩ := mem_ends_edge.mp hlast
    have hwhole := mem_ends_seq.mpr
      ⟨_, mem_ends_chars.mpr ⟨v, hsame, hbegins, rfl⟩, mem_ends_edge.mpr ⟨hright, rfl⟩⟩
    obtain ⟨hlead, heq⟩ := (mem_ends_word w.isWordName).mp hwhole
    exact ⟨(wordEdge_before_word w.isWordName hsame hbegins).mp hleft, w, hlead, by rw [heq]⟩
  · rintro ⟨hbefore, w, hsame, rfl⟩
    have hbegins : leadingWord p.cursor.rest <+: p.cursor.rest := List.takeWhile_prefix _
    obtain ⟨_, -, hlast⟩ := mem_ends_seq.mp ((mem_ends_word w.isWordName).mpr ⟨hsame, rfl⟩)
    obtain ⟨hright, rfl⟩ := mem_ends_edge.mp hlast
    have hleft := (wordEdge_before_word w.isWordName hsame hbegins).mpr hbefore
    refine ⟨p, mem_ends_edge.mpr ⟨hleft, rfl⟩, mem_ends_seq.mpr ⟨_, mem_ends_group.mpr
      ⟨_, mem_ends_caseWord.mpr ⟨w, _, hsame, hbegins, rfl⟩, rfl⟩, mem_ends_edge.mpr ⟨hright, rfl⟩⟩⟩

/-- At each place the pattern finds the word that is read there. -/
theorem matchAt?_caseToken {t : Text} (ht : Char.ofNat 0x17F ∉ t) {c : Cursor} (hc : c.InText t) :
    caseToken.matchAt? c = (PlacedWord.at? t c.position).map PlacedWord.found := by
  have hplain : Char.ofNat 0x17F ∉ leadingWord c.rest := by
    intro h
    rw [hc.rest_eq] at h
    exact ht (List.mem_of_mem_drop ((List.takeWhile_prefix _).subset h))
  cases hat : PlacedWord.at? t c.position with
  | none =>
    rw [Option.map_none, Pattern.matchAt?_eq_head?, List.head?_eq_none_iff, List.map_eq_nil_iff]
    refine List.eq_nil_iff_forall_not_mem.mpr fun q hq => ?_
    obtain ⟨hbefore, w, hsame, -⟩ := mem_ends_caseToken.mp hq
    have hsmall := (sameLetters_caseWord hplain).mp hsame
    rw [hc.before_eq] at hbefore
    rw [hc.rest_eq] at hsmall
    have hsome := (PlacedWord.at?_eq_some (w := ⟨w, c.position⟩)).mpr ⟨hbefore, hsmall, rfl⟩
    exact nomatch hat.symm.trans hsome
  | some w =>
    obtain ⟨hbefore, hsmall, hstart⟩ := PlacedWord.at?_eq_some.mp hat
    rw [← hc.before_eq] at hbefore
    rw [← hc.rest_eq] at hsmall
    have hsame := (sameLetters_caseWord hplain).mpr hsmall
    have hends := mem_ends_caseToken (p := ⟨c, []⟩).mpr ⟨hbefore, w.word, hsame, rfl⟩
    have hhead := head?_ends_of_forall hends fun r hr => by
      obtain ⟨-, w', -, rfl⟩ := mem_ends_caseToken.mp hr
      rfl
    rw [Pattern.matchAt?_of_head? hhead, Option.map_some, PlacedWord.found, PlacedWord.span,
      PlacedWord.stop, length_eq_of_sameLetters hsame, hstart]
    rfl

theorem PlacedWord.wordAt {t : Text} {position : Nat} {w : PlacedWord} (h : at? t position = some w) :
    WordAt w.word.letters t position := by
  obtain ⟨hbefore, hsmall, -⟩ := at?_eq_some.mp h
  exact ⟨hbefore, sameLetters_of_small hsmall⟩

theorem all_caseToken {t : Text} (ht : Char.ofNat 0x17F ∉ t) :
    caseToken.all t = (caseWords t).map PlacedWord.found := by
  have hapart : ∀ i j m, (PlacedWord.at? t i).map PlacedWord.found = some m →
      ((PlacedWord.at? t j).map PlacedWord.found).isSome = true → i < j → m.span.stop ≤ j := by
    intro i j m hi hj hlt
    obtain ⟨w, hw, rfl⟩ := Option.map_eq_some_iff.mp hi
    rw [Option.isSome_map] at hj
    obtain ⟨w', hw'⟩ := Option.isSome_iff_exists.mp hj
    have hstart : w.start = i := (PlacedWord.at?_eq_some.mp hw).2.2
    have hle := (PlacedWord.wordAt hw).not_inside (PlacedWord.wordAt hw') hlt
    rwa [← hstart] at hle
  rw [Pattern.all_eq_filterMap (fun c hc => matchAt?_caseToken ht hc) hapart, caseWords, List.map_filterMap]

end QueryLint.Sql

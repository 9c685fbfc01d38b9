import QueryLint.Proofs.Text.Fold
import QueryLint.Proofs.Text.Spelling

/-! Variants of a character: those that are equal to it when case is ignored. Main statements:
`foldCase_congr`, what is the same on both sides of every row of the case tables is the same for a
character and its fold; `isWord_of_ascii`, the variants of an ASCII letter, digit or underscore are
word characters; and `not_isDelimiter_of_sameLetter`, no variant of a word character is white space
or a parenthesis. -/
namespace QueryLint.Text
set_option autoImplicit false

/-! ## What a look-up finds -/

/-- The entry before the count starts at or before `n`, by induction on the rounds that are left. -/
theorem start_le_of_countStarting {α : Type} {table : Array α} {start : α → Nat}
    {n rounds low high : Nat}
    (hlow : ∀ k entry, low = k + 1 → table[k]? = some entry → start entry ≤ n) {k : Nat} {entry : α}
    (h : countStarting table start n rounds low high = k + 1) (hk : table[k]? = some entry) :
    start entry ≤ n := by
  induction rounds generalizing low high with
  | zero => exact hlow k entry h hk
  | succ rounds ih =>
    rw [countStarting] at h
    split at h
    · dsimp only at h
      split at h
      · exact hlow k entry h hk
      · rename_i middle hmiddle
        split at h
        · rename_i hle
          refine ih (fun j e hj he => ?_) h
          obtain rfl : low + (high - low) / 2 = j := Nat.succ.inj hj
          rw [hmiddle] at he
          exact Option.some.inj he ▸ hle
        · exact ih hlow h
    · exact hlow k entry h hk

theorem mem_of_lastStarting? {α : Type} {table : Array α} {start : α → Nat} {n : Nat} {entry : α}
    (h : lastStarting? table start n = some entry) : entry ∈ table ∧ start entry ≤ n := by
  rw [lastStarting?] at h
  split at h
  · exact nomatch h
  · rename_i k hk
    exact ⟨Array.mem_of_getElem? h,
      start_le_of_countStarting (fun j e hj => absurd hj (Nat.succ_ne_zero j).symm) hk h⟩

/-! ## Rows of the case tables -/

/-- The code points that case changes beyond ASCII, each with what it becomes. -/
def caseRows : List (Nat × Nat) :=
  lowerRuns.toList.flatMap (fun run =>
    (List.range ((run.last - run.first) / run.step + 1)).map fun k =>
      (run.first + k * run.step, run.target + k * run.step)) ++ foldPairs.toList

theorem mapRuns_mem {n : Nat} (h : mapRuns lowerRuns n ≠ n) :
    (n, mapRuns lowerRuns n) ∈ caseRows := by
  rw [mapRuns] at h ⊢
  split at h
  · exact absurd rfl h
  · rename_i run hrun
    obtain ⟨hmem, hfirst⟩ := mem_of_lastStarting? hrun
    split at h
    · rename_i hin
      rw [Bool.and_eq_true, decide_eq_true_eq, beq_iff_eq] at hin
      rw [if_pos (by simp [hin])]
      have hstep : (n - run.first) / run.step * run.step = n - run.first :=
        Nat.div_mul_cancel (Nat.dvd_of_mod_eq_zero hin.2)
      refine List.mem_append_left _ (List.mem_flatMap.mpr ⟨run, Array.mem_toList_iff.mpr hmem, ?_⟩)
      refine List.mem_map.mpr ⟨(n - run.first) / run.step, List.mem_range.mpr ?_, ?_⟩
      · exact Nat.lt_succ_of_le (Nat.div_le_div_right (Nat.sub_le_sub_right hin.1 _))
      · rw [hstep, Nat.add_sub_of_le hfirst]
    · exact absurd rfl h

section Congruence

variable {β : Type} [DecidableEq β] {g : Char → β}
  (hcapitals : capitals.all (fun c => g c.toLower = g c) = true)
  (hrows : caseRows.all (fun row => g (Char.ofNat row.1) = g (Char.ofNat row.2)) = true)

include hrows

theorem congr_of_mem_caseRows {c : Char} {m : Nat} (h : (c.toNat, m) ∈ caseRows) :
    g (Char.ofNat m) = g c := by
  have hrow := of_decide_eq_true (List.all_eq_true.mp hrows _ h)
  rw [Char.ofNat_toNat] at hrow
  exact hrow.symm

include hcapitals

theorem lowerChar_congr (c : Char) : g (lowerChar c) = g c := by
  rw [lowerChar]
  split
  · exact toLower_congr hcapitals c
  · by_cases h : mapRuns lowerRuns c.toNat = c.toNat
    · rw [h, Char.ofNat_toNat]
    · exact congr_of_mem_caseRows hrows (mapRuns_mem h)

/-- It is enough to look at the capitals and at the rows of the case tables. -/
theorem foldCase_congr (c : Char) : g (foldCase c) = g c := by
  rw [← lowerChar_congr hcapitals hrows c, foldCase]
  split
  · rfl
  · split
    · rfl
    · rename_i letter folded hpair
      split
      · rename_i hletter
        refine congr_of_mem_caseRows hrows (List.mem_append_right _ ?_)
        rw [← hletter]
        exact Array.mem_toList_iff.mpr (mem_of_lastStarting? hpair).1
      · rfl

end Congruence

/-! ## Variants of ASCII characters and of delimiters -/

/-- The letters beyond ASCII that are variants of an i, an s or a k. -/
def asciiVariants : List Nat := [0x130, 0x131, 0x17F, 0x212A]

/-- What sets a name off from its neighbours in a call: white space and parentheses. -/
def isDelimiter (c : Char) : Bool := isBlank c || c == '(' || c == ')'

/-- What case leaves as it is; taken together, so that the tables are gone through once. -/
def caseKind (c : Char) : Bool × Bool :=
  (decide (c.toNat < 0x80 ∨ c.toNat ∈ asciiVariants), isDelimiter c)

theorem caseKind_foldCase (c : Char) : caseKind (foldCase c) = caseKind c :=
  foldCase_congr (by decide) (by decide +kernel) c

theorem caseKind_of_sameLetter {c d : Char} (h : sameLetter c d = true) :
    caseKind c = caseKind d := by
  rw [← caseKind_foldCase c, sameLetter_iff.mp h, caseKind_foldCase]

theorem ascii_or_mem_asciiVariants {c d : Char} (hc : c.toNat < 0x80) (h : sameLetter c d = true) :
    d.toNat < 0x80 ∨ d.toNat ∈ asciiVariants := by
  have hsame := congrArg Prod.fst (caseKind_of_sameLetter h)
  exact (decide_eq_decide.mp hsame).mp (.inl hc)

theorem isDelimiter_of_sameLetter {c d : Char} (h : sameLetter c d = true) :
    isDelimiter c = isDelimiter d := congrArg Prod.snd (caseKind_of_sameLetter h)

theorem exists_of_sameLetters {s t : List Char} (h : sameLetters s t = true) {d : Char} (hd : d ∈ t) :
    ∃ c ∈ s, sameLetter c d = true := by
  have hfold : foldCase d ∈ s.map foldCase := sameLetters_iff.mp h ▸ List.mem_map_of_mem hd
  obtain ⟨c, hc, hsame⟩ := List.mem_map.mp hfold
  exact ⟨c, hc, sameLetter_iff.mpr hsame⟩

/-! ## Variants of word characters -/

theorem foldCase_of_ascii {c : Char} (hc : c.toNat < 0x80) : foldCase c = c.toLower := by
  have hlower : c.toLower.toNat < 0x80 := by
    by_cases h : 0x80 ≤ c.toLower.toNat
    · have heq := (toNat_toLower_eq_iff h c).mp rfl
      omega
    · omega
  simp only [foldCase, lowerChar, if_pos hc, if_pos hlower]

/-- An ASCII character that is no letter is its own only variant. -/
theorem eq_of_sameLetter {c d : Char} (hc : c.toNat < 0x80) (halpha : c.isAlpha = false)
    (h : sameLetter c d = true) : d = c := by
  have hlower : c.toLower = c := (toLower_eq_iff halpha c).mpr rfl
  have hfold : foldCase d = c := by
    rw [← sameLetter_iff.mp h, foldCase_of_ascii hc, hlower]
  rcases ascii_or_mem_asciiVariants hc h with hd | hd
  · rw [foldCase_of_ascii hd] at hfold
    exact (toLower_eq_iff halpha d).mp hfold
  · have hvariants : ∀ n ∈ asciiVariants, (foldCase (Char.ofNat n)).isAlpha = true := by
      decide +kernel
    have hletter := hvariants _ hd
    rw [Char.ofNat_toNat, hfold, halpha] at hletter
    exact nomatch hletter

theorem isWord_of_mem_asciiVariants {c : Char} (h : c.toNat ∈ asciiVariants) : isWord c = true := by
  have hvariants : ∀ n ∈ asciiVariants, isWord (Char.ofNat n) = true := by decide +kernel
  rw [← Char.ofNat_toNat c]
  exact hvariants _ h

theorem isWord_of_ascii {c d : Char} (hc : c.toNat < 0x80) (hword : isWord c = true)
    (h : sameLetter c d = true) : isWord d = true := by
  rcases ascii_or_mem_asciiVariants hc h with hd | hd
  · have hfold := sameLetter_iff.mp h
    rw [foldCase_of_ascii hc, foldCase_of_ascii hd] at hfold
    rw [← isWord_toLower d, ← hfold, isWord_toLower, hword]
  · exact isWord_of_mem_asciiVariants hd

/-- What is a letter when case is ignored is a word character. -/
theorem isWord_of_isLetter_foldCase {c : Char} (h : isLetter (foldCase c) = true) :
    isWord c = true := by
  have hsame := congrArg Prod.fst (caseKind_foldCase c)
  rcases (decide_eq_decide.mp hsame).mp (.inl (toNat_lt_of_isLetter h)) with hc | hc
  · rw [foldCase_of_ascii hc, isLetter_toLower] at h
    exact isWord_of_isLetter h
  · exact isWord_of_mem_asciiVariants hc

def wideBlanks : List Nat :=
  [0x85, 0xA0, 0x1680, 0x2000, 0x2001, 0x2002, 0x2003, 0x2004, 0x2005, 0x2006, 0x2007, 0x2008,
    0x2009, 0x200A, 0x2028, 0x2029, 0x202F, 0x205F, 0x3000]

theorem mem_wideBlanks {c : Char} (h : isBlank c = true) (hc : ¬c.toNat < 0x80) :
    c.toNat ∈ wideBlanks := by
  simp only [isBlank, if_neg hc, Bool.or_eq_true, Bool.and_eq_true, beq_iff_eq,
    decide_eq_true_eq] at h
  simp only [wideBlanks, List.mem_cons, List.not_mem_nil, or_false]
  omega

/-- For what holds of all blanks it is enough to look at ASCII and at the blanks beyond it. -/
theorem of_isBlank {P : Char → Prop}
    (hascii : ∀ n < 0x80, isBlank (Char.ofNat n) = true → P (Char.ofNat n))
    (hwide : ∀ n ∈ wideBlanks, P (Char.ofNat n)) {c : Char} (h : isBlank c = true) : P c := by
  by_cases hc : c.toNat < 0x80
  · have hn := hascii _ hc
    rw [Char.ofNat_toNat] at hn
    exact hn h
  · have hn := hwide _ (mem_wideBlanks h hc)
    rwa [Char.ofNat_toNat] at hn

theorem isWord_of_isBlank {c : Char} (h : isBlank c = true) : isWord c = false :=
  of_isBlank (P := fun c => isWord c = false) (by decide +kernel) (by decide +kernel) h

theorem not_blank_of_isWord {c : Char} (h : isWord c = true) : isBlank c = false := by
  cases hblank : isBlank c with
  | false => rfl
  | true => exact nomatch h.symm.trans (isWord_of_isBlank hblank)

theorem isDigit_of_isBlank {c : Char} (h : isBlank c = true) : isDigit c = false :=
  of_isBlank (P := fun c => isDigit c = false) (by decide +kernel) (by decide +kernel) h

theorem isWord_of_isDelimiter {c : Char} (h : isDelimiter c = true) : isWord c = false := by
  simp only [isDelimiter, Bool.or_eq_true, beq_iff_eq] at h
  rcases h with (hblank | rfl) | rfl
  · exact isWord_of_isBlank hblank
  · decide
  · decide

/-- No variant of a word character sets a name off. -/
theorem not_isDelimiter_of_sameLetter {c d : Char} (hword : isWord c = true)
    (h : sameLetter c d = true) : isDelimiter d = false := by
  rw [← isDelimiter_of_sameLetter h]
  cases hgap : isDelimiter c with
  | false => rfl
  | true => exact nomatch hword.symm.trans (isWord_of_isDelimiter hgap)

end QueryLint.Text

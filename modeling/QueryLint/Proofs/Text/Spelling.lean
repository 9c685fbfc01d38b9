import QueryLint.Text.Basic
import QueryLint.Text.Digit
import QueryLint.Text.LetterCase
import QueryLint.Text.Word

/-! Spellings of a text: what becomes of it when its capitals from A to Z are made small. Main
statement: `toLower_congr`, what is the same for each of these capitals and its small letter is the same
for every character and its small letter. -/
namespace QueryLint.Text
set_option autoImplicit false

/-- The text with small letters for the capitals from A to Z. -/
def small (t : Text) : Text := t.map Char.toLower

/-- Texts that differ in the case of letters from A to Z at most. -/
def Respelled (s t : Text) : Prop := small s = small t

theorem Respelled.small_eq {s t : Text} (h : Respelled s t) : small s = small t := h

/-! ## Characters -/

def capitals : List Char := "ABCDEFGHIJKLMNOPQRSTUVWXYZ".toList

theorem toLower_eq_self_or_mem_capitals (c : Char) : c.toLower = c ∨ c ∈ capitals := by
  by_cases h : c.val ≥ 'A'.val ∧ c.val ≤ 'Z'.val
  · refine .inr ?_
    obtain ⟨hge, hle⟩ := h
    -- Characters cannot be tried one by one, but the numbers of the capitals can.
    have hcapital : ∀ n < 91, 65 ≤ n → Char.ofNat n ∈ capitals := by decide
    have hlt : c.toNat < 91 := Nat.lt_of_le_of_lt (UInt32.le_iff_toNat_le.mp hle) (by decide)
    rw [← Char.ofNat_toNat c]
    exact hcapital c.toNat hlt (UInt32.le_iff_toNat_le.mp hge)
  · exact .inl (dif_neg h)

/-- It is enough to look at the capitals. -/
theorem toLower_congr {β : Type} [DecidableEq β] {g : Char → β}
    (h : capitals.all (fun c => g c.toLower = g c) = true) (c : Char) : g c.toLower = g c := by
  rcases toLower_eq_self_or_mem_capitals c with hc | hc
  · rw [hc]
  · exact of_decide_eq_true (List.all_eq_true.mp h c hc)

section Characters

variable (c : Char)

@[simp] theorem foldCase_toLower : foldCase c.toLower = foldCase c := toLower_congr (by decide) c

@[simp] theorem lowerChar_toLower : lowerChar c.toLower = lowerChar c := toLower_congr (by decide) c

@[simp] theorem isWord_toLower : isWord c.toLower = isWord c := toLower_congr (by decide) c

@[simp] theorem isBlank_toLower : isBlank c.toLower = isBlank c := toLower_congr (by decide) c

@[simp] theorem isLetter_toLower : isLetter c.toLower = isLetter c := toLower_congr (by decide) c

@[simp] theorem digitValue?_toLower : digitValue? c.toLower = digitValue? c :=
  toLower_congr (by decide) c

@[simp] theorem isDigit_toLower : isDigit c.toLower = isDigit c := by
  rw [isDigit, digitValue?_toLower, isDigit]

@[simp] theorem asciiDigit_toLower : c.toLower.isDigit = c.isDigit := toLower_congr (by decide) c

@[simp] theorem isCased_toLower : isCased c.toLower = isCased c := toLower_congr (by decide) c

@[simp] theorem isCaseIgnorable_toLower : isCaseIgnorable c.toLower = isCaseIgnorable c :=
  toLower_congr (by decide) c

end Characters

/-- A character that is no letter is met at the same places in both spellings. -/
theorem toLower_eq_iff {d : Char} (hd : d.isAlpha = false) (c : Char) : c.toLower = d ↔ c = d := by
  rcases toLower_eq_self_or_mem_capitals c with hc | hc
  · rw [hc]
  · have halpha : capitals.all (fun c => c.isAlpha && c.toLower.isAlpha) = true := by decide
    obtain ⟨hbig, hsmall⟩ := Bool.and_eq_true_iff.mp (List.all_eq_true.mp halpha c hc)
    constructor
    · rintro rfl
      exact nomatch hd.symm.trans hsmall
    · rintro rfl
      exact nomatch hd.symm.trans hbig

theorem toLower_beq {d : Char} (hd : d.isAlpha = false) (c : Char) :
    (c.toLower == d) = (c == d) := by
  rw [Bool.eq_iff_iff, beq_iff_eq, beq_iff_eq, toLower_eq_iff hd]

theorem beq_toLower {d : Char} (hd : d.isAlpha = false) (c : Char) :
    (d == c.toLower) = (d == c) := by
  rw [Bool.beq_comm, toLower_beq hd, Bool.beq_comm]

theorem toLower_ne {d : Char} (hd : d.isAlpha = false) (c : Char) :
    decide (c.toLower ≠ d) = decide (c ≠ d) :=
  decide_eq_decide.mpr (not_congr (toLower_eq_iff hd c))

theorem toNat_toLower_eq_iff {n : Nat} (hn : 0x80 ≤ n) (c : Char) :
    c.toLower.toNat = n ↔ c.toNat = n := by
  rcases toLower_eq_self_or_mem_capitals c with hc | hc
  · rw [hc]
  · have hascii : capitals.all (fun c => c.toNat < 0x80 ∧ c.toLower.toNat < 0x80) = true := by decide
    have hboth := of_decide_eq_true (List.all_eq_true.mp hascii c hc)
    omega

/-! ## Texts -/

section Texts

variable (s t : Text)

@[simp] theorem small_nil : small [] = [] := rfl

@[simp] theorem small_cons (c : Char) : small (c :: t) = c.toLower :: small t := rfl

@[simp] theorem small_append : small (s ++ t) = small s ++ small t := List.map_append

@[simp] theorem length_small : (small t).length = t.length := List.length_map _

@[simp] theorem isEmpty_small : (small t).isEmpty = t.isEmpty := List.isEmpty_map

@[simp] theorem take_small (n : Nat) : (small t).take n = small (t.take n) := List.map_take.symm

@[simp] theorem drop_small (n : Nat) : (small t).drop n = small (t.drop n) := List.map_drop.symm

@[simp] theorem reverse_small : (small t).reverse = small t.reverse := List.map_reverse.symm

@[simp] theorem getLast?_small : (small t).getLast? = t.getLast?.map Char.toLower :=
  List.getLast?_map

@[simp] theorem head?_small : (small t).head? = t.head?.map Char.toLower := List.head?_map

@[simp] theorem slice_small (r : Span) : slice (small t) r = small (slice t r) := by
  rw [slice, slice, take_small, drop_small]

theorem takeWhile_small {keeps : Char → Bool} (h : ∀ c : Char, keeps c.toLower = keeps c) :
    (small t).takeWhile keeps = small (t.takeWhile keeps) := by
  rw [small, List.takeWhile_map]
  simp only [Function.comp_def, h]
  rfl

theorem trimBy_small {drops : Char → Bool} (h : ∀ c : Char, drops c.toLower = drops c) :
    trimBy drops (small t) = small (trimBy drops t) := by
  have hdrop : ∀ t : Text, (small t).dropWhile drops = small (t.dropWhile drops) := by
    intro t
    rw [small, List.dropWhile_map]
    simp only [Function.comp_def, h]
    rfl
  rw [trimBy, hdrop, reverse_small, hdrop, reverse_small, trimBy]

/-- A beginning without letters is met in both spellings. -/
theorem isPrefixOf_small {w : Text} (hw : w.any Char.isAlpha = false) :
    w.isPrefixOf (small t) = w.isPrefixOf t := by
  induction w generalizing t with
  | nil => simp
  | cons d w ih =>
    obtain ⟨hd, hw⟩ := Bool.or_eq_false_iff.mp hw
    cases t with
    | nil => rfl
    | cons c t =>
      rw [small_cons, List.isPrefixOf_cons_cons, List.isPrefixOf_cons_cons, beq_toLower hd, ih t hw]

@[simp] theorem trim_small : trim (small t) = small (trim t) := trimBy_small t isBlank_toLower

end Texts

/-! ## Lower case -/

@[simp] theorem startsCased_small (t : Text) : startsCased (small t) = startsCased t := by
  induction t with
  | nil => rfl
  | cons c t ih => simp [startsCased, ih]

theorem lowerFrom_small (before rest : Text) :
    lowerFrom (small before) (small rest) = lowerFrom before rest := by
  induction rest generalizing before with
  | nil => rfl
  | cons c rest ih =>
    have hsigma := toNat_toLower_eq_iff (n := 0x3A3) (by decide) c
    have hdotted := toNat_toLower_eq_iff (n := 0x130) (by decide) c
    have hrest := ih (c :: before)
    rw [small_cons] at hrest
    simp only [small_cons, lowerFrom, hsigma, hdotted, startsCased_small, lowerChar_toLower, hrest]

@[simp] theorem lower_small (t : Text) : lower (small t) = lower t := lowerFrom_small [] t

/-! ## Numbers -/

theorem decimalValue_small (digits : Text) : decimalValue (small digits) = decimalValue digits := by
  simp only [decimalValue, small, List.foldl_map, digitValue?_toLower]

end QueryLint.Text

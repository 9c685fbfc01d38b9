import QueryLint.Proofs.Sql.Cast
import QueryLint.Proofs.Sql.Group
import QueryLint.Sql.Vocabulary.Condition

/-! Literals as a list of values has them: numbers and quoted texts in which a quote is written twice.
Parentheses, commas and quotes of the other kind inside a quoted text mean nothing to any of the readers:
the scan for the closing parenthesis, the cut at commas and the pattern of one item. Main statements:
`Literal.flat`, `Flat.items`, `Flat.splitFrom_append` and `literalItem_fits`. -/
namespace QueryLint.Sql
set_option autoImplicit false
open Text Shape

/-! ## Texts without a separator outside quotes -/

/-- A character that is no quote, no parenthesis and no comma. -/
def IsOrdinary (c : Char) : Prop := isQuote c = false ∧ c ≠ '(' ∧ c ≠ ')' ∧ c ≠ ','

instance (c : Char) : Decidable (IsOrdinary c) := inferInstanceAs (Decidable (_ ∧ _))

/-- Ordinary characters and quoted runs one after the other. -/
inductive Flat : Text → Prop
  | nil : Flat []
  | ordinary {c : Char} {rest : Text} (h : IsOrdinary c) (others : Flat rest) : Flat (c :: rest)
  | quoted {inside rest : Text} (h : '\'' ∉ inside) (others : Flat rest) :
      Flat ('\'' :: (inside ++ '\'' :: rest))

namespace Flat

variable {t u v : Text}

theorem append (hu : Flat u) (hv : Flat v) : Flat (u ++ v) := by
  induction hu with
  | nil => exact hv
  | ordinary h _ ih => exact .ordinary h ih
  | quoted h _ ih =>
    rw [List.cons_append, List.append_assoc, List.cons_append]
    exact .quoted h ih

theorem of_ordinary (h : ∀ c ∈ t, IsOrdinary c) : Flat t := by
  induction t with
  | nil => exact .nil
  | cons c t ih =>
    obtain ⟨hc, ht⟩ := List.forall_mem_cons.mp h
    exact .ordinary hc (ih ht)

theorem of_blank (h : ∀ c ∈ t, isBlank c = true) : Flat t :=
  of_ordinary fun c hc => unsigned_of_class (by decide) (h c hc)

theorem items_append (ht : Flat t) {rest : Text} (hrest : Items rest) : Items (t ++ rest) := by
  induction ht with
  | nil => exact hrest
  | ordinary h _ ih => exact .plain h.1 h.2.1 h.2.2.1 ih
  | quoted h _ ih =>
    rw [List.cons_append, List.append_assoc, List.cons_append]
    exact .quoted rfl h ih

end Flat

/-! ## The cut at commas -/

section Split

variable {piece rest : Text}

theorem splitFrom_ordinary {c : Char} (h : IsOrdinary c) :
    splitFrom (· == ',') 0 none piece (c :: rest) = splitFrom (· == ',') 0 none (c :: piece) rest := by
  obtain ⟨hquote, hopen, hclose, hcomma⟩ := h
  simp [splitFrom, isBare, hquote, hopen, hclose, hcomma]

theorem splitFrom_comma :
    splitFrom (· == ',') 0 none piece (',' :: rest) = piece.reverse :: splitFrom (· == ',') 0 none [] rest := rfl

theorem splitFrom_inside {inside : Text} (h : '\'' ∉ inside) :
    splitFrom (· == ',') 0 (some '\'') piece (inside ++ '\'' :: rest)
      = splitFrom (· == ',') 0 none ('\'' :: (inside.reverse ++ piece)) rest := by
  induction inside generalizing piece with
  | nil => rfl
  | cons c inside ih =>
    obtain ⟨hc, hinside⟩ := List.ne_and_not_mem_of_not_mem_cons h
    have hafter : quoteAfter (some '\'') c = some '\'' := if_neg (by simpa using Ne.symm hc)
    rw [List.cons_append, splitFrom, if_neg (by simp [isBare]), hafter, ih hinside, List.reverse_cons,
      List.append_assoc, List.singleton_append]

/-- What has no separator outside quotes goes to the present piece. -/
theorem Flat.splitFrom_append {t : Text} (h : Flat t) (piece rest : Text) :
    splitFrom (· == ',') 0 none piece (t ++ rest) = splitFrom (· == ',') 0 none (t.reverse ++ piece) rest := by
  induction h generalizing piece with
  | nil => rfl
  | @ordinary c t hc _ ih =>
    rw [List.cons_append, splitFrom_ordinary hc, ih, List.reverse_cons, List.append_assoc,
      List.singleton_append]
  | @quoted inside t hinside _ ih =>
    have hopening : splitFrom (· == ',') 0 none piece ('\'' :: (inside ++ '\'' :: (t ++ rest)))
        = splitFrom (· == ',') 0 (some '\'') ('\'' :: piece) (inside ++ '\'' :: (t ++ rest)) := rfl
    rw [List.cons_append, List.append_assoc, List.cons_append, hopening, splitFrom_inside hinside, ih]
    simp

end Split

/-! ## Literals -/

inductive Sign where
  | plus
  | minus

def Sign.char : Sign → Char
  | plus => '+'
  | minus => '-'

/-- A number, with or without a sign and a fraction, or a text in single quotes. -/
inductive Literal where
  | number (sign : Option Sign) (whole : Digits) (fraction : Option Digits)
  | quoted (content : Text)

def doubled (content : Text) : Text := content.flatMap fun c => if c = '\'' then ['\'', '\''] else [c]

def Literal.text : Literal → Text
  | number sign whole fraction =>
    (sign.map Sign.char).toList ++ (whole.text ++ fraction.elim [] fun digits => '.' :: digits.text)
  | quoted content => '\'' :: (doubled content ++ ['\''])

theorem Digits.flat (digits : Digits) : Flat digits.text :=
  .of_ordinary fun c hc => unsigned_of_class (by decide) (digits.all_digits c hc)

/-- Each quote of the content ends one quoted run and begins the next. -/
theorem flat_doubled {inside : Text} (h : '\'' ∉ inside) (content : Text) :
    Flat ('\'' :: (inside ++ (doubled content ++ ['\'']))) := by
  induction content generalizing inside with
  | nil => exact .quoted h .nil
  | cons c content ih =>
    rw [doubled, List.flatMap_cons, ← doubled]
    split
    · exact .quoted h (@ih [] List.not_mem_nil)
    · rename_i hc
      have hinside : '\'' ∉ inside ++ [c] := by
        rw [List.mem_append, List.mem_singleton]
        exact fun hmem => hmem.elim h fun heq => hc heq.symm
      have hlater := ih hinside
      rwa [List.append_assoc, ← List.append_assoc [c]] at hlater

theorem Literal.flat (literal : Literal) : Flat literal.text := by
  cases literal with
  | number sign whole fraction =>
    refine Flat.append ?_ (whole.flat.append ?_)
    · cases sign with
      | none => exact .nil
      | some sign => exact .ordinary (by cases sign <;> decide) .nil
    · cases fraction with
      | none => exact .nil
      | some digits => exact .ordinary (by decide) digits.flat
  | quoted content => exact @flat_doubled [] List.not_mem_nil content

/-! ## The pattern of an item -/

theorem takes_digits : (many1 digit).Takes fun w => ∃ digits : Digits, w = digits.text := by
  refine (takes_run1 _).congr fun w => ⟨?_, ?_⟩
  · rintro ⟨hne, hw⟩
    obtain ⟨c, others, rfl⟩ := List.exists_cons_of_ne_nil hne
    exact ⟨⟨c, others, by simpa [CharSet.has, CharKind.has] using hw⟩, rfl⟩
  · rintro ⟨digits, rfl⟩
    exact ⟨List.cons_ne_nil _ _, by simpa [Digits.text, CharSet.has, CharKind.has] using digits.all_digits⟩

/-- The pattern of a number takes the digits of a number without a sign. -/
theorem takes_plainNumber : plainNumber.Takes fun w =>
    ∃ (whole : Digits) (fraction : Option Digits), w = (Literal.number none whole fraction).text := by
  have hfraction := takes_optional ((takes_sign (c := '.') (by decide) (by decide)).seq takes_digits)
  refine (takes_digits.seq hfraction).congr fun w => ⟨?_, ?_⟩
  · rintro ⟨_, _, rfl, ⟨whole, rfl⟩, ⟨_, _, rfl, rfl, digits, rfl⟩ | rfl⟩
    · exact ⟨whole, some digits, rfl⟩
    · exact ⟨whole, none, rfl⟩
  · rintro ⟨whole, fraction, rfl⟩
    refine ⟨whole.text, _, rfl, ⟨whole, rfl⟩, ?_⟩
    cases fraction with
    | none => exact .inr rfl
    | some digits => exact .inl ⟨['.'], digits.text, rfl, rfl, digits, rfl⟩

theorem sameLetter_sign {d c : Char} (hd : d.toNat < 0x80) (halpha : d.isAlpha = false) :
    sameLetter d c = true ↔ c = d :=
  ⟨eq_of_sameLetter hd halpha, fun h => h ▸ beq_self_eq_true _⟩

/-- Inside the quotes the pattern takes characters that are no quote, and quotes two at a time. -/
theorem takes_content : (many0 (either (except "'") (lit "''"))).Takes fun w => ∃ content, w = doubled content := by
  have hother : ∀ c, (⟨"'".toList.map .char, true⟩ : CharSet).has true c = true ↔ c ≠ '\'' := by
    intro c
    simp [CharSet.has, CharKind.has, ← sameLetter_sign (d := '\'') (c := c) (by decide) (by decide)]
  have hsign := takes_sign (c := '\'') (by decide) (by decide)
  refine (takes_many (takes_either (takes_set _) (hsign.seq hsign))).congr fun w => ⟨?_, ?_⟩
  · rintro ⟨ws, hws, rfl⟩
    induction ws with
    | nil => exact ⟨[], rfl⟩
    | cons w ws ih =>
      obtain ⟨hw, hws⟩ := List.forall_mem_cons.mp hws
      obtain ⟨content, hcontent⟩ := ih hws
      rw [List.flatten_cons, hcontent]
      rcases hw with ⟨c, rfl, hc⟩ | ⟨_, _, rfl, rfl, rfl⟩
      · exact ⟨c :: content, by rw [doubled, doubled, List.flatMap_cons, if_neg ((hother c).mp hc)]⟩
      · exact ⟨'\'' :: content, rfl⟩
  · rintro ⟨content, rfl⟩
    refine ⟨_, List.forall_mem_map.mpr fun c _ => ?_, List.flatMap_def⟩
    split
    · exact .inr ⟨['\''], ['\''], rfl, rfl, rfl⟩
    · exact .inl ⟨c, rfl, (hother c).mpr ‹_›⟩

theorem takes_quotedText : quotedText.Takes fun w => ∃ content, w = (Literal.quoted content).text := by
  have hsign := takes_sign (c := '\'') (by decide) (by decide)
  refine ((hsign.seq takes_content).seq hsign).congr fun w => ⟨?_, ?_⟩
  · rintro ⟨_, _, rfl, ⟨_, _, rfl, rfl, content, rfl⟩, rfl⟩
    exact ⟨content, rfl⟩
  · rintro ⟨content, rfl⟩
    exact ⟨_, _, rfl, ⟨_, _, rfl, rfl, content, rfl⟩, rfl⟩

theorem takes_sign_char : (among "-+").Takes fun w => ∃ sign : Sign, w = [sign.char] := by
  have hhas : ∀ c, (⟨"-+".toList.map .char, false⟩ : CharSet).has true c = true ↔ c = '-' ∨ c = '+' := by
    intro c
    simp [CharSet.has, CharKind.has, sameLetter_sign (d := '-') (c := c) (by decide) (by decide),
      sameLetter_sign (d := '+') (c := c) (by decide) (by decide)]
  refine (takes_set _).congr fun w => ⟨?_, ?_⟩
  · rintro ⟨c, rfl, hc⟩
    rcases (hhas c).mp hc with rfl | rfl
    · exact ⟨.minus, rfl⟩
    · exact ⟨.plus, rfl⟩
  · rintro ⟨sign, rfl⟩
    exact ⟨_, rfl, (hhas _).mpr (by cases sign <;> decide)⟩

/-- An item is a literal with white space around it. -/
theorem literalItem_fits {w : Text} : literalItem.fits w = true ↔ ∃ (before after : Text) (literal : Literal),
    w = before ++ literal.text ++ after ∧ (∀ c ∈ before, isBlank c = true) ∧ ∀ c ∈ after, isBlank c = true := by
  have hnumber := (takes_optional takes_sign_char).seq takes_plainNumber
  have htakes := (takes_gap.seq (takes_either takes_quotedText hnumber)).seq takes_gap
  refine (Pattern.fits_iff_of_takes htakes).trans ⟨?_, ?_⟩
  · rintro ⟨_, after, rfl, ⟨before, _, rfl, hbefore, hliteral⟩, hafter⟩
    rcases hliteral with ⟨content, rfl⟩ | ⟨_, _, rfl, ⟨sign, rfl⟩ | rfl, whole, fraction, rfl⟩
    · exact ⟨before, after, .quoted content, rfl, hbefore, hafter⟩
    · exact ⟨before, after, .number (some sign) whole fraction, rfl, hbefore, hafter⟩
    · exact ⟨before, after, .number none whole fraction, rfl, hbefore, hafter⟩
  · rintro ⟨before, after, literal, rfl, hbefore, hafter⟩
    refine ⟨_, after, rfl, ⟨before, _, rfl, hbefore, ?_⟩, hafter⟩
    cases literal with
    | quoted content => exact .inl ⟨content, rfl⟩
    | number sign whole fraction =>
      refine .inr ⟨(sign.map Sign.char).toList, _, rfl, ?_, whole, fraction, rfl⟩
      cases sign with
      | none => exact .inr rfl
      | some sign => exact .inl ⟨sign, rfl⟩

end QueryLint.Sql

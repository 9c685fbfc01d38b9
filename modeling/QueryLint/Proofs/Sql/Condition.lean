import QueryLint.Proofs.Sql.Identifier
import QueryLint.Proofs.Sql.Passage

/-! Conditions and the clauses that hold them. A condition is a chain of comparisons of numbers,
strings, columns and calls. A clause that holds one ends within it just where a name outside
parentheses has a word that ends the clause, after a point too and in front of a parenthesis. Main
statement: `condition_whole_iff`, when the clauses of WHERE and ON take a condition as a whole. -/
namespace QueryLint.Sql
set_option autoImplicit false
open Text

/-! ## The grammar -/

structure Numeral where
  whole : Digits
  fraction : Option Digits

structure Column where
  table : Identifier
  column : Identifier

inductive Term where
  | number (value : Numeral)
  | string (inside : Text) (not_mem : '\'' ∉ inside)
  | column (c : Column)
  | call (function : Identifier) (c : Column) (gap : Gap) (value : Numeral)

def operatorSigns : Text := "=<>!".toList

structure Operator where
  text : Text
  ne_nil : text ≠ []
  signs : ∀ c ∈ text, c ∈ operatorSigns

structure Comparison where
  left : Term
  before : Gap
  operator : Operator
  after : Gap
  right : Term

/-- One more comparison, after the word AND. -/
structure Conjunct where
  before : Gap
  word : Text
  after : Gap
  comparison : Comparison
  before_ne_nil : before.text ≠ []
  isAnd : sameLetters "and".toList word = true
  after_ne_nil : after.text ≠ []

structure Condition where
  first : Comparison
  others : List Conjunct

/-! ## Digits -/

theorem isDigit_of_ascii {c d : Char} (hc : c.toNat < 0x80) (hdigit : isDigit c = false)
    (h : sameLetter c d = true) : isDigit d = false := by
  rcases ascii_or_mem_asciiVariants hc h with hd | hd
  · have hfold := sameLetter_iff.mp h
    rw [foldCase_of_ascii hc, foldCase_of_ascii hd] at hfold
    rw [← isDigit_toLower d, ← hfold, isDigit_toLower, hdigit]
  · have hvariants : ∀ n ∈ asciiVariants, isDigit (Char.ofNat n) = false := by decide +kernel
    rw [← Char.ofNat_toNat d]
    exact hvariants _ hd

theorem noSign_of_isDigit {c : Char} (h : isDigit c = true) :
    isQuote c = false ∧ c ≠ '(' ∧ c ≠ ')' ∧ c ≠ ';' := noSign_of_class (by decide) h

/-! ## Their texts -/

def Numeral.text (n : Numeral) : Text :=
  n.whole.text ++ n.fraction.elim [] fun digits => '.' :: digits.text

def Column.text (c : Column) : Text := c.table.text ++ (['.'] ++ c.column.text)

def argumentsText (c : Column) (gap : Gap) (value : Numeral) : Text :=
  c.text ++ (',' :: gap.text ++ value.text)

def Term.text : Term → Text
  | number value => value.text
  | string inside _ => '\'' :: (inside ++ ['\''])
  | column c => c.text
  | call function c gap value => function.text ++ '(' :: (argumentsText c gap value ++ [')'])

def Comparison.sign (c : Comparison) : Text := c.before.text ++ (c.operator.text ++ c.after.text)

def Comparison.text (c : Comparison) : Text := c.left.text ++ (c.sign ++ c.right.text)

def Conjunct.sign (c : Conjunct) : Text := c.before.text ++ (c.word ++ c.after.text)

def Conjunct.text (c : Conjunct) : Text := c.sign ++ c.comparison.text

def Condition.text (b : Condition) : Text := b.first.text ++ b.others.flatMap Conjunct.text

theorem Numeral.digit_or_point (n : Numeral) : ∀ c ∈ n.text, isDigit c = true ∨ c = '.' := by
  obtain ⟨whole, fraction⟩ := n
  intro c hc
  rcases List.mem_append.mp hc with hc | hc
  · exact .inl (whole.all_digits c hc)
  · cases fraction with
    | none => exact absurd hc List.not_mem_nil
    | some digits => exact (List.mem_cons.mp hc).symm.imp_left (digits.all_digits c)

theorem Numeral.items (n : Numeral) : Items n.text := by
  have hchar : ∀ c ∈ n.text, isQuote c = false ∧ c ≠ '(' ∧ c ≠ ')' ∧ c ≠ ';' := by
    intro c hc
    rcases n.digit_or_point c hc with hdigit | rfl
    · exact noSign_of_isDigit hdigit
    · decide
  refine Plain.items (fun c hc => ?_) fun c hc => (hchar c hc).1
  obtain ⟨-, hopen, hclose, -⟩ := hchar c hc
  exact ⟨hopen, hclose⟩

theorem Comparison.isSign (c : Comparison) : ∀ d ∈ c.sign, IsSign d := by
  have hsigns : ∀ d ∈ operatorSigns, IsSign d := forall_of_all (by decide)
  intro d hd
  rcases List.mem_append.mp hd with hd | hd
  · exact isSign_of_isBlank (c.before.blank d hd)
  · rcases List.mem_append.mp hd with hd | hd
    · exact hsigns d (c.operator.signs d hd)
    · exact isSign_of_isBlank (c.after.blank d hd)

theorem Comparison.exists_operator (c : Comparison) : ∃ d ∈ c.sign, isBlank d = false := by
  have hnot : ∀ d ∈ operatorSigns, isBlank d = false := forall_of_all (by decide)
  obtain ⟨d, hd⟩ := List.exists_mem_of_ne_nil _ c.operator.ne_nil
  exact ⟨d, List.mem_append_right _ (List.mem_append_left _ hd), hnot d (c.operator.signs d hd)⟩

/-! ## Their names outside quotes and parentheses -/

def Identifier.bareNames : Identifier → List Text
  | bare name => [name.text]
  | quoted _ => []

def Term.bareNames : Term → List Text
  | number _ | string _ _ => []
  | column c => c.table.bareNames ++ c.column.bareNames
  | call function _ _ _ => function.bareNames

def Comparison.bareNames (c : Comparison) : List Text := c.left.bareNames ++ c.right.bareNames

def Condition.bareNames (b : Condition) : List Text :=
  b.first.bareNames ++ b.others.flatMap fun c => c.comparison.bareNames

/-! ## Endings that are no part of the grammar -/

/-- Words that end a clause: none of them is as short as AND or begins with a digit, and the second
word of an ending is shorter than AND. -/
structure ClauseWords (endings : List Ending) : Prop where
  words : ∀ e ∈ endings, e.IsWords
  longer : ∀ e ∈ endings, 3 < e.first.toList.length
  noDigit : ∀ e ∈ endings, ∀ c ∈ e.first.toList.head?, c.toNat < 0x80 ∧ isDigit c = false
  shorter : ∀ e ∈ endings, ∀ second ∈ e.second?, second.toList.length < 3

theorem clauseWords_of_all {endings : List Ending} (hwords : ∀ e ∈ endings, e.IsWords)
    (h : endings.all (fun e => decide (3 < e.first.toList.length) &&
      (e.first.toList.head?.all (fun c => decide (c.toNat < 0x80) && !isDigit c) &&
        e.second?.all fun second => decide (second.toList.length < 3))) = true) :
    ClauseWords endings := by
  have hall : ∀ e ∈ endings, 3 < e.first.toList.length ∧
      (∀ c ∈ e.first.toList.head?, c.toNat < 0x80 ∧ isDigit c = false) ∧
        ∀ second ∈ e.second?, second.toList.length < 3 := by
    intro e he
    simpa [Option.all_eq_true] using List.all_eq_true.mp h e he
  exact ⟨hwords, fun e he => (hall e he).1, fun e he => (hall e he).2.1, fun e he => (hall e he).2.2⟩

theorem clauseWords_where : ClauseWords whereEndings :=
  clauseWords_of_all whereTerminator_terminates.words (by decide)

theorem clauseWords_on : ClauseWords onEndings :=
  clauseWords_of_all onTerminator_terminates.words (by decide)

namespace ClauseWords

variable {endings : List Ending}

theorem not_over_digit (h : ClauseWords endings) {before : Option Char} {c : Char} {t : Text}
    (hc : isDigit c = true) : ¬Over endings before (c :: t) := by
  obtain ⟨-, -, hclose, hsemicolon⟩ := noSign_of_isDigit hc
  rintro (hsign | hsign | ⟨-, e, he, hbegins⟩)
  · exact hclose (Option.some.inj hsign)
  · exact hsemicolon (Option.some.inj hsign)
  · obtain ⟨d, hd, hword⟩ := hbegins.head? (h.words e he)
    obtain rfl := Option.some.inj hd
    have hsame := hbegins.1
    rw [leadingWord, List.takeWhile_cons_of_pos hword] at hsame
    obtain ⟨letter, letters, hletters⟩ := List.exists_cons_of_ne_nil (h.words e he).first.ne_nil
    obtain ⟨hascii, hdigit⟩ := h.noDigit e he letter (by rw [hletters]; rfl)
    rw [hletters, sameLetters, Bool.and_eq_true] at hsame
    exact absurd (hc.symm.trans (isDigit_of_ascii hascii hdigit hsame.1)) (by decide)

theorem passes_numeral (h : ClauseWords endings) {before : Option Char} {u rest : Text}
    (hu : ∀ c ∈ u, isDigit c = true ∨ c = '.') : Passes endings before u rest := by
  refine passes_of_forall fun c hc before' t => ?_
  rcases hu c hc with hdigit | rfl
  · exact h.not_over_digit hdigit
  · refine not_over_of_head? h.words fun d hd => ?_
    obtain rfl := Option.some.inj hd
    decide

theorem passes_short (h : ClauseWords endings) {before : Option Char} {w rest : Text}
    (hw : ∀ c ∈ w, isWord c = true) (hlength : w.length ≤ 3) (hrest : WordEnds rest) :
    Passes endings before w rest := by
  rintro u v rfl hne - hover
  obtain ⟨c, v, rfl⟩ := List.exists_cons_of_ne_nil hne
  have hv : ∀ d ∈ c :: v, isWord d = true := fun d hd => hw d (List.mem_append_right u hd)
  obtain ⟨-, -, hclose, hsemicolon⟩ := noSign_of_isWord (hv c List.mem_cons_self)
  rcases hover with hsign | hsign | ⟨-, e, he, hsame, -⟩
  · exact hclose (Option.some.inj hsign)
  · exact hsemicolon (Option.some.inj hsign)
  · rw [leadingWord_append hv hrest] at hsame
    have hlonger := h.longer e he
    have hletters := length_eq_of_sameLetters hsame
    rw [List.length_append] at hlength
    omega

end ClauseWords

/-! ## Links between names -/

/-- What may stand between two names: a clause passes it, a name can end before it and begin after it. -/
structure Link (endings : List Ending) (s : Text) : Prop where
  items : Items s
  passes : ∀ before rest, Passes endings before s rest
  unpaired : ∀ rest, Unpaired endings (s ++ rest)
  last : ∃ c, s.getLast? = some c ∧ isWord c = false

namespace ClauseWords

variable {endings : List Ending}

theorem unpaired (h : ClauseWords endings) {rest : Text} (hends : WordEnds rest)
    (hword : leadingWord (rest.dropWhile isBlank) = []) : Unpaired endings rest := by
  refine ⟨hends, fun e he second hsecond => ?_⟩
  rw [hword]
  refine Bool.eq_false_iff.mpr fun hsame => ?_
  exact ((h.words e he).second second hsecond).ne_nil_of_sameLetters hsame rfl

theorem link_signs (h : ClauseWords endings) {s : Text} (hs : ∀ c ∈ s, IsSign c)
    (hsign : ∃ c ∈ s, isBlank c = false) : Link endings s := by
  have hne : s ≠ [] := by
    rintro rfl
    simp at hsign
  exact ⟨items_signs hs, fun _ _ => passes_signs h.words hs,
    fun _ => h.unpaired (wordEnds_signs hne hs) (leadingWord_dropWhile_signs hs hsign),
    exists_last_sign hne hs⟩

theorem link_and (h : ClauseWords endings) {gap w gap' : Text} (hgap : ∀ c ∈ gap, isBlank c = true)
    (hne : gap ≠ []) (hw : sameLetters "and".toList w = true) (hgap' : ∀ c ∈ gap', isBlank c = true)
    (hne' : gap' ≠ []) : Link endings (gap ++ (w ++ gap')) := by
  have hand := isWordName "and"
  have hword : ∀ c ∈ w, isWord c = true := hand.isWord_of_sameLetters hw
  have hthree : 3 = w.length := length_eq_of_sameLetters hw
  have hsigns : ∀ c ∈ gap, IsSign c := fun c hc => isSign_of_isBlank (hgap c hc)
  have hsigns' : ∀ c ∈ gap', IsSign c := fun c hc => isSign_of_isBlank (hgap' c hc)
  have hitems : Items w := items_name fun c hc => .inl (hword c hc)
  refine ⟨(items_signs hsigns).append (hitems.append (items_signs hsigns')), fun before rest => ?_,
    fun rest => ?_, ?_⟩
  · rw [passes_append (items_signs hsigns).standing, passes_append hitems.standing]
    exact ⟨passes_signs h.words hsigns,
      h.passes_short hword (Nat.le_of_eq hthree.symm) (wordEnds_signs hne' hsigns'),
      passes_signs h.words hsigns'⟩
  · rw [List.append_assoc, List.append_assoc]
    refine ⟨wordEnds_signs hne hsigns, fun e he second hsecond => ?_⟩
    have hleading : leadingWord (w ++ (gap' ++ rest)) = w :=
      leadingWord_append hword (wordEnds_signs hne' hsigns')
    have hstart : (w ++ (gap' ++ rest)).dropWhile isBlank = w ++ (gap' ++ rest) :=
      dropWhile_isBlank_of_leadingWord fun hnil =>
        hand.ne_nil_of_sameLetters hw (hleading.symm.trans hnil)
    rw [List.dropWhile_append_of_pos hgap, hstart, hleading]
    refine Bool.eq_false_iff.mpr fun hsame => ?_
    have hlength := length_eq_of_sameLetters hsame
    have hshorter := h.shorter e he second hsecond
    omega
  · obtain ⟨c, hc, hend⟩ := exists_last_sign hne' hsigns'
    refine ⟨c, ?_, hend⟩
    rw [List.getLast?_append, List.getLast?_append, hc]
    rfl

end ClauseWords

/-! ## Parts of a condition -/

/-- Between other things a clause passes the text just under a condition, and nothing in it is open. -/
structure PassedIf (endings : List Ending) (p : Prop) (u : Text) : Prop where
  items : Items u
  passes_iff : ∀ before rest, (∀ c ∈ before, isWord c = false) → Unpaired endings rest →
    (Passes endings before u rest ↔ p)

namespace PassedIf

variable {endings : List Ending} {p q : Prop} {u v s : Text}

theorem join (hu : PassedIf endings p u) (hs : Link endings s) (hv : PassedIf endings q v) :
    PassedIf endings (p ∧ q) (u ++ (s ++ v)) := by
  refine ⟨hu.items.append (hs.items.append hv.items), fun before rest hbefore hrest => ?_⟩
  have hlast : ∀ before' : Option Char, ∀ c ∈ s.getLast?.or before', isWord c = false := by
    obtain ⟨c, hc, hend⟩ := hs.last
    intro before' d hd
    rw [hc, Option.some_or] at hd
    exact Option.some.inj hd ▸ hend
  have hfirst : Unpaired endings (s ++ v ++ rest) := by
    rw [List.append_assoc]
    exact hs.unpaired (v ++ rest)
  rw [passes_append hu.items.standing, passes_append hs.items.standing,
    hu.passes_iff before _ hbefore hfirst, hv.passes_iff _ rest (hlast _) hrest]
  exact and_congr_right fun _ => and_iff_right (hs.passes _ _)

theorem of_name (h : ClauseWords endings) (hu : ∀ c ∈ u, isWord c = true ∨ '$' = c) :
    PassedIf endings (¬HasEnding endings u) u :=
  ⟨items_name hu, fun _ _ hbefore hrest => passes_name h.words hbefore hu hrest⟩

theorem congr (hu : PassedIf endings p u) (h : p ↔ q) : PassedIf endings q u :=
  ⟨hu.items, fun before rest hbefore hrest => (hu.passes_iff before rest hbefore hrest).trans h⟩

theorem always (hu : Items u) (h : ∀ before rest, Passes endings before u rest) :
    PassedIf endings True u :=
  ⟨hu, fun before rest _ _ => iff_true_intro (h before rest)⟩

end PassedIf

def NoneEnds (endings : List Ending) (names : List Text) : Prop :=
  ∀ name ∈ names, ¬HasEnding endings name

namespace ClauseWords

variable {endings : List Ending}

theorem identifier (h : ClauseWords endings) (i : Identifier) :
    PassedIf endings (NoneEnds endings i.bareNames) i.text := by
  cases i with
  | bare name =>
    refine (PassedIf.of_name h fun c hc => name.word_or_dollar hc).congr ?_
    simp [NoneEnds, Identifier.bareNames]
  | quoted name =>
    have hitems : Items ('"' :: (name.inside ++ ['"'])) := .quoted (by decide) name.not_mem .nil
    refine (PassedIf.always hitems fun _ _ => passes_quoted h.words (by decide) name.not_mem).congr ?_
    simp [NoneEnds, Identifier.bareNames]

theorem column (h : ClauseWords endings) (c : Column) :
    PassedIf endings (NoneEnds endings (c.table.bareNames ++ c.column.bareNames)) c.text := by
  have hpoint : Link endings ['.'] := 
      h.link_signs (forall_of_all (by decide)) ⟨'.', List.mem_singleton_self _, by decide⟩
  refine ((h.identifier c.table).join hpoint (h.identifier c.column)).congr ?_
  simp only [NoneEnds, List.forall_mem_append]

theorem call (h : ClauseWords endings) (function : Identifier) {arguments : Text}
    (harguments : Items arguments) : PassedIf endings (NoneEnds endings function.bareNames)
      (function.text ++ '(' :: (arguments ++ [')'])) := by
  have hfunction := h.identifier function
  have hgroup : Items ('(' :: (arguments ++ [')'])) := .group harguments .nil
  refine ⟨hfunction.items.append hgroup, fun before rest hbefore _ => ?_⟩
  have hopen : Unpaired endings ('(' :: (arguments ++ [')']) ++ rest) :=
    h.unpaired (wordEnds_cons.mpr (by decide)) rfl
  rw [passes_append hfunction.items.standing, hfunction.passes_iff before _ hbefore hopen]
  exact and_iff_left (passes_group h.words harguments)

theorem term (h : ClauseWords endings) (t : Term) :
    PassedIf endings (NoneEnds endings t.bareNames) t.text := by
  cases t with
  | number value =>
    refine (PassedIf.always value.items fun _ _ => h.passes_numeral value.digit_or_point).congr ?_
    simp [NoneEnds, Term.bareNames]
  | string inside hinside =>
    have hitems : Items ('\'' :: (inside ++ ['\''])) := .quoted (by decide) hinside .nil
    refine (PassedIf.always hitems fun _ _ => passes_quoted h.words (by decide) hinside).congr ?_
    simp [NoneEnds, Term.bareNames]
  | column c => exact h.column c
  | call function c gap value =>
    have hgap : Items gap.text := items_signs fun d hd => isSign_of_isBlank (gap.blank d hd)
    have hcomma : Items [','] := items_signs (forall_of_all (by decide))
    exact h.call function ((h.column c).items.append (hcomma.append (hgap.append value.items)))

theorem comparison (h : ClauseWords endings) (c : Comparison) :
    PassedIf endings (NoneEnds endings c.bareNames) c.text := by
  refine ((h.term c.left).join (h.link_signs c.isSign c.exists_operator) (h.term c.right)).congr ?_
  simp only [NoneEnds, Comparison.bareNames, List.forall_mem_append]

/-- A condition is passed comparison by comparison, by induction on those after the first. -/
theorem conjuncts (h : ClauseWords endings) {p : Prop} {u : Text} (hu : PassedIf endings p u)
    (others : List Conjunct) :
    PassedIf endings (p ∧ NoneEnds endings (others.flatMap fun c => c.comparison.bareNames))
      (u ++ others.flatMap Conjunct.text) := by
  induction others generalizing p u with
  | nil =>
    rw [List.flatMap_nil, List.flatMap_nil, List.append_nil]
    exact hu.congr (by simp [NoneEnds])
  | cons c others ih =>
    have hlink := h.link_and c.before.blank c.before_ne_nil c.isAnd c.after.blank c.after_ne_nil
    have hjoined := ih (hu.join hlink (h.comparison c.comparison))
    rw [List.append_assoc, ← Conjunct.sign, ← Conjunct.text] at hjoined
    rw [List.flatMap_cons, List.flatMap_cons]
    refine hjoined.congr ?_
    simp only [NoneEnds, List.forall_mem_append, and_assoc]

theorem condition (h : ClauseWords endings) (b : Condition) :
    PassedIf endings (NoneEnds endings b.bareNames) b.text := by
  refine (h.conjuncts (h.comparison b.first) b.others).congr ?_
  simp only [NoneEnds, Condition.bareNames, List.forall_mem_append]

end ClauseWords

/-! ## Clauses that hold a condition -/

/-- A clause takes a condition as a whole just if none of the condition's names ends it. -/
theorem clauseAt_condition_iff {terminator : Pattern} {endings : List Ending}
    (hterm : Terminates terminator endings) (h : ClauseWords endings) {sql front : Text} {start : Nat}
    {b : Condition} (hsql : sql = front ++ ' ' :: b.text) (hstart : front.length = start) :
    clauseAt terminator sql start = ⟨start, ' ' :: b.text⟩ ↔ NoneEnds endings b.bareNames := by
  subst hsql hstart
  have hlength : front.length ≤ (front ++ ' ' :: b.text).length := by simp
  have hspace : ∀ c ∈ [' '], IsSign c := forall_of_all (by decide)
  have hbefore : ∀ c ∈ [' '].getLast?.or front.getLast?, isWord c = false := by
    intro c hc
    obtain rfl := Option.some.inj hc
    decide
  have hwhole := clauseAt_whole_iff hterm hlength
  rw [List.drop_left, clear_iff_passes] at hwhole
  rw [hwhole, ← List.singleton_append, passes_append (items_signs hspace).standing,
    (h.condition b).passes_iff _ _ hbefore (h.unpaired wordEnds_nil rfl)]
  exact and_iff_right (passes_signs h.words hspace)

def whereFront : Text := "SELECT * FROM t WHERE ".toList

def onFront : Text := "SELECT * FROM t JOIN u ON ".toList

theorem wordPlaces_whereFront (t : Text) : wordPlaces "where".toList (whereFront ++ t)
    = 16 :: (wordPlaces "where".toList t).map (22 + ·) := by
  have hplaces : wordPlaces "where".toList whereFront = [16] := by decide +kernel
  have hlast : whereFront.getLast? = some ' ' := by decide +kernel
  rw [wordPlaces_append (isWordName "where").ne_nil (forall_getLast? hlast (by decide)), hplaces]
  rfl

theorem onFront_last : ∀ c ∈ onFront.getLast?, isWord c = false :=
  forall_getLast? (show onFront.getLast? = some ' ' by decide +kernel) (by decide)

theorem wordPlaces_onFront (t : Text) : wordPlaces "on".toList (onFront ++ t)
    = 23 :: (wordPlaces "on".toList t).map (26 + ·) := by
  have hplaces : wordPlaces "on".toList onFront = [23] := by decide +kernel
  rw [wordPlaces_append (isWordName "on").ne_nil onFront_last, hplaces]
  rfl

theorem first?_onFront (t : Text) : joinKeyword.first? (onFront ++ t) = some (wordMatch 4 16) := by
  have hjoin := isWordName "join"
  have hplaces : wordPlaces "join".toList onFront = [16] := by decide +kernel
  rw [← Pattern.all_head?, joinKeyword, all_keyword hjoin,
    wordPlaces_append hjoin.ne_nil onFront_last, hplaces]
  rfl

theorem whereClauses_whereFront (t : Text) :
    (whereClauses (whereFront ++ t)).head? = some (clauseAt whereTerminator (whereFront ++ t) 21) := by
  rw [whereClauses, clauses, whereKeyword, all_keyword (isWordName "where"), wordPlaces_whereFront]
  rfl

theorem clauses_onFront (t : Text) : clauses onKeyword onTerminator (onFront ++ t)
    = clauseAt onTerminator (onFront ++ t) 25 ::
      (wordPlaces "on".toList t).map fun i => clauseAt onTerminator (onFront ++ t) (26 + i + 2) := by
  rw [clauses, onKeyword, all_keyword (isWordName "on"), wordPlaces_onFront, List.map_map, List.map_cons,
    List.map_map]
  rfl

/-- The condition begins one entry, and each ON in it another. -/
theorem joinConditions_onFront (t : Text) :
    joinConditions (onFront ++ t) = clauseAt onTerminator (onFront ++ t) 25 ::
      (wordPlaces "on".toList t).map fun i => clauseAt onTerminator (onFront ++ t) (26 + i + 2) := by
  rw [joinConditions, first?_onFront, clauses_onFront]
  refine List.filter_eq_self.mpr fun c hc => decide_eq_true ?_
  have hstop : (wordMatch 4 16).span.stop = 20 := rfl
  have hstart : 25 ≤ c.start := by
    rcases List.mem_cons.mp hc with rfl | hc
    · exact Nat.le_refl 25
    · obtain ⟨i, -, rfl⟩ := List.mem_map.mp hc
      simp only [clauseAt]
      omega
  omega

/-- WHERE and ON take a condition as a whole just if no name outside quotes and parentheses has a word
that ends the clause; and it is the only entry of ON just if there is no other ON in it. -/
theorem condition_whole_iff (b : Condition) :
    ((whereClauses (whereFront ++ b.text)).head? = some ⟨21, ' ' :: b.text⟩ ↔
      NoneEnds whereEndings b.bareNames) ∧
    (joinConditions (onFront ++ b.text) = [⟨25, ' ' :: b.text⟩] ↔
      NoneEnds onEndings b.bareNames ∧ wordPlaces "on".toList b.text = []) := by
  have hwhere : whereFront ++ b.text = "SELECT * FROM t WHERE".toList ++ ' ' :: b.text := by
    rw [show whereFront = "SELECT * FROM t WHERE".toList ++ [' '] by decide, List.append_assoc]
    rfl
  have hon : onFront ++ b.text = "SELECT * FROM t JOIN u ON".toList ++ ' ' :: b.text := by
    rw [show onFront = "SELECT * FROM t JOIN u ON".toList ++ [' '] by decide, List.append_assoc]
    rfl
  rw [whereClauses_whereFront, Option.some_inj, joinConditions_onFront, List.cons_eq_cons,
    List.map_eq_nil_iff]
  exact ⟨clauseAt_condition_iff whereTerminator_terminates clauseWords_where hwhere rfl,
    and_congr_left' (clauseAt_condition_iff onTerminator_terminates clauseWords_on hon rfl)⟩

def equation (left right : Term) : Condition where
  first := ⟨left, blankGap, ⟨['='], by decide, forall_of_all (by decide)⟩, blankGap, right⟩
  others := []

def one : Numeral := ⟨⟨'1', [], List.all_eq_true.mp (by decide)⟩, none⟩

/-- A column that is spelled like an ending of WHERE. -/
def offsetColumn : Column where
  table := .bare ⟨'e', [], by decide, no_others⟩
  column := .bare ⟨'o', "ffset".toList, by decide, List.all_eq_true.mp (by decide)⟩

def plainColumn : Column where
  table := .bare ⟨'t', [], nameStart_t, no_others⟩
  column := .bare ⟨'a', [], nameStart_a, no_others⟩

def leftCall : Term :=
  .call (.bare ⟨'l', "eft".toList, by decide, List.all_eq_true.mp (by decide)⟩) plainColumn
    blankGap one

def onString : Term := .string "x on y".toList (by decide)

theorem endings_cut_names :
    (equation (.column offsetColumn) (.number one)).text = "e.offset = 1".toList ∧
      (whereClauses (whereFront ++ "e.offset = 1".toList)).head? = some ⟨21, " e.".toList⟩ ∧
      (whereClauses (whereFront ++ "e.offset = 1".toList)).head? ≠ some ⟨21, " e.offset = 1".toList⟩ ∧
    (equation leftCall (.number one)).text = "left(t.a, 1) = 1".toList ∧
      joinConditions (onFront ++ "left(t.a, 1) = 1".toList) = [⟨25, " ".toList⟩] ∧
    (equation (.column plainColumn) onString).text = "t.a = 'x on y'".toList ∧
      joinConditions (onFront ++ "t.a = 'x on y'".toList)
        = [⟨25, " t.a = 'x on y'".toList⟩, ⟨37, " y'".toList⟩] := by
  have hoffset : (whereClauses (whereFront ++ "e.offset = 1".toList)).head?
      = some ⟨21, " e.".toList⟩ := by decide +kernel
  refine ⟨by decide, hoffset, ?_, by decide, by decide +kernel, by decide, by decide +kernel⟩
  rw [hoffset]
  decide

end QueryLint.Sql

import QueryLint.Proofs.Sql.Keyword
import QueryLint.Proofs.Sql.NameChain
import QueryLint.Sql.NamedQuery

/-! The heads of named queries: a name, perhaps with columns, AS, and the parenthesis that opens the
body. Main statements: `exists_blockHead`, a match of the pattern takes a head; and
`BlockHead.not_suffix`, where a head ends in a shorter one, the shorter one begins neither after a comma
nor at the end of a word. -/
namespace QueryLint.Sql
set_option autoImplicit false
open Text Shape

/-! ## The grammar -/

structure Spelled (word : String) where
  text : Text
  same : sameLetters word.toList text = true

structure Space extends Gap where
  ne_nil : text ≠ []

/-- The name of a block. Since the head is read without regard to case, a bare one may begin with a
character that is a letter by its case variants only. -/
inductive BlockName
  | bare (first : Char) (others : Text) (starts : nameStart.has true first = true)
      (goesOn : ∀ c ∈ others, columnPart.has true c = true)
  | quoted (name : QuotedName)

inductive ColumnList
  | unsaid
  | listed (before : Gap) (columns : Text) (plain : Plain columns)

inductive Materialization
  | unsaid
  | said (word : Spelled "materialized") (after : Gap)
  | denied (negation : Spelled "not") (between : Space) (word : Spelled "materialized") (after : Gap)

/-- The word AS and what stands between it and the body. -/
structure Opening where
  word : Spelled "as"
  after : Gap
  materialization : Materialization

structure BlockHead where
  before : Gap
  name : BlockName
  columns : ColumnList
  between : Space
  opening : Opening

namespace BlockName

def text : BlockName → Text
  | bare first others _ _ => first :: others
  | quoted name => '"' :: (name.inside ++ ['"'])

def named : BlockName → Text
  | bare first others _ _ => first :: others
  | quoted name => name.inside

end BlockName

def ColumnList.text : ColumnList → Text
  | unsaid => []
  | listed before columns _ => before.text ++ '(' :: (columns ++ [')'])

def Materialization.text : Materialization → Text
  | unsaid => []
  | said word after => word.text ++ after.text
  | denied negation between word after =>
    negation.text ++ (between.text ++ (word.text ++ after.text))

def Opening.text (o : Opening) : Text :=
  o.word.text ++ (o.after.text ++ (o.materialization.text ++ ['(']))

namespace BlockHead

def front (h : BlockHead) : Text :=
  h.before.text ++ (h.name.text ++ (h.columns.text ++ h.between.text))

def text (h : BlockHead) : Text := h.front ++ h.opening.text

theorem exists_init (h : BlockHead) : ∃ init, h.text = init ++ ['('] :=
  ⟨h.front ++ (h.opening.word.text ++ (h.opening.after.text ++ h.opening.materialization.text)), by
    simp [text, Opening.text]⟩

theorem text_ne_nil (h : BlockHead) : h.text ≠ [] := by
  obtain ⟨init, htext⟩ := h.exists_init
  simp [htext]

end BlockHead

/-! ## Names -/

theorem isWord_of_nameStart_blind {c : Char} (h : nameStart.has true c = true) :
    isWord c = true := by
  have hcases : isLetter (foldCase c) = true ∨ sameLetter '_' c = true := by
    simpa [nameStart, CharSet.has, CharKind.has] using h
  rcases hcases with hletter | hsame
  · exact isWord_of_isLetter_foldCase hletter
  · exact isWord_of_ascii (by decide) (by decide) hsame

theorem word_or_dollar_of_columnPart {c : Char} (h : columnPart.has true c = true) :
    isWord c = true ∨ c = '$' := by
  have hcases : isWord c = true ∨ sameLetter '$' c = true := by
    simpa [columnPart, CharSet.has, CharKind.has] using h
  exact hcases.imp_right (eq_of_sameLetter (by decide) (by decide))

namespace BlockName

theorem text_ne_nil (n : BlockName) : n.text ≠ [] := by
  cases n <;> exact List.cons_ne_nil _ _

theorem bare_chars {first : Char} {others : Text} (starts : nameStart.has true first = true)
    (goesOn : ∀ c ∈ others, columnPart.has true c = true) :
    ∀ c ∈ first :: others, isWord c = true ∨ c = '$' :=
  List.forall_mem_cons.mpr
    ⟨.inl (isWord_of_nameStart_blind starts), fun c hc => word_or_dollar_of_columnPart (goesOn c hc)⟩

theorem head?_text (n : BlockName) : ∀ c ∈ n.text.head?, isWord c = true ∨ c = '"' := by
  cases n with
  | bare first others starts goesOn => exact forall_head? (.inl (isWord_of_nameStart_blind starts))
  | quoted name => exact forall_head? (.inr rfl)

theorem getLast?_text (n : BlockName) :
    ∀ c ∈ n.text.getLast?, isWord c = true ∨ c = '$' ∨ c = '"' := by
  intro c hc
  cases n with
  | bare first others starts goesOn =>
    exact (bare_chars starts goesOn c (List.mem_of_getLast? hc)).imp_right .inl
  | quoted name =>
    rw [text, ← List.cons_append, List.getLast?_concat] at hc
    exact .inr (.inr (Option.some.inj hc).symm)

/-- What a head begins with up to its name stands at the end of no other name, after a comma or a word:
of a bare name no part begins a name there, and a quoted one has two quotes only. -/
theorem not_suffix {n n' : BlockName} {gap v : Text} (hgap : ∀ d ∈ gap, isBlank d = true) {c : Char}
    (hc : v.getLast? = some c) (hplace : c = ',' ∨ isWord c = true ∧ WordEnds (gap ++ n'.text)) :
    n.text ≠ v ++ (gap ++ n'.text) := by
  intro heq
  cases n with
  | bare first others starts goesOn =>
    have hchars : ∀ d ∈ v ++ (gap ++ n'.text), isWord d = true ∨ d = '$' :=
      heq ▸ bare_chars starts goesOn
    obtain ⟨hbefore, hafter⟩ := List.forall_mem_append.mp hchars
    have hcomma : c ≠ ',' := by
      rintro rfl
      exact absurd (hbefore _ (List.mem_of_getLast? hc)) (by decide)
    obtain ⟨-, hends⟩ := hplace.resolve_left hcomma
    obtain ⟨d, hd⟩ := Option.isSome_iff_exists.mp (List.isSome_head?.mpr
      (List.append_ne_nil_of_right_ne_nil gap n'.text_ne_nil))
    obtain rfl := (hafter d (List.mem_of_mem_head? hd)).resolve_left (by simp [hends d hd])
    cases gap with
    | nil => exact absurd (n'.head?_text _ hd) (by decide)
    | cons b gap => exact absurd (hgap _ (List.mem_of_mem_head? hd)) (by decide)
  | quoted name =>
    cases v with
    | nil => cases hc
    | cons b v =>
      obtain ⟨-, hrest⟩ := List.cons.inj heq
      cases n' with
      | bare first' others' starts' goesOn' =>
        have hlast : (v ++ (gap ++ (first' :: others'))).getLast? = some '"' := by
          rw [← List.getLast?_concat (l := name.inside) (a := '"'), hrest]
          rfl
        rw [← List.append_assoc, List.getLast?_append_of_ne_nil _ (List.cons_ne_nil _ _)] at hlast
        exact absurd (bare_chars starts' goesOn' _ (List.mem_of_getLast? hlast)) (by decide)
      | quoted name' =>
        have hclosed : name.inside ++ ['"'] = (v ++ (gap ++ ('"' :: name'.inside))) ++ ['"'] := by
          simpa [text] using hrest
        exact name.not_mem (by simp [List.append_cancel_right hclosed])

theorem plainIdentifier_text (n : BlockName) : plainIdentifier n.text = lower n.named := by
  cases n with
  | bare first others starts goesOn =>
    refine plainIdentifier_bare fun hmem => ?_
    rcases List.mem_cons.mp hmem with rfl | hmem
    · exact absurd (isWord_of_nameStart_blind starts) (by decide)
    · exact absurd (word_or_dollar_of_columnPart (goesOn _ hmem)) (by decide)
  | quoted name => exact plainIdentifier_quoted name.not_mem

end BlockName

/-! ## The letters after white space -/

def NoLetterA (b c : Char) : Prop := isBlank b = true → sameLetter 'a' c = false

theorem isBlank_of_spelled {word : String} (hword : IsWordName word.toList) (w : Spelled word) :
    ∀ c ∈ w.text, isBlank c = false :=
  fun c hc => not_blank_of_isWord (hword.isWord_of_sameLetters w.same c hc)

theorem isChain_word {w rest : Text} (hw : ∀ c ∈ w, isBlank c = false)
    (hrest : rest.IsChain NoLetterA) : (w ++ rest).IsChain NoLetterA := by
  have hnot : ∀ {b c}, b ∈ w → NoLetterA b c := fun hb hblank => nomatch (hw _ hb).symm.trans hblank
  have hall : w.Pairwise NoLetterA := List.pairwise_of_forall_mem_list fun _ hb _ _ => hnot hb
  exact List.isChain_append.mpr ⟨hall.isChain, hrest, fun _ hb _ _ => hnot (List.mem_of_getLast? hb)⟩

theorem isChain_gap {gap rest : Text} (hgap : ∀ c ∈ gap, isBlank c = true)
    (hrest : rest.IsChain NoLetterA) (hfirst : ∀ c ∈ rest.head?, sameLetter 'a' c = false) :
    (gap ++ rest).IsChain NoLetterA := by
  have hnot : ∀ c ∈ gap, sameLetter 'a' c = false := by
    intro c hc
    cases hsame : sameLetter 'a' c with
    | false => rfl
    | true =>
      have hword := isWord_of_ascii (by decide) (by decide) hsame
      exact nomatch (not_blank_of_isWord hword).symm.trans (hgap c hc)
  have hall : gap.Pairwise NoLetterA := List.pairwise_of_forall_mem_list fun _ _ c hc _ => hnot c hc
  exact List.isChain_append.mpr ⟨hall.isChain, hrest, fun _ _ c hc _ => hfirst c hc⟩

theorem head?_spelled {word : String} {first : Char} (w : Spelled word)
    (hfirst : word.toList.head? = some first) : ∃ c ∈ w.text.head?, sameLetter first c = true := by
  obtain ⟨text, hsame⟩ := w
  cases hword : word.toList with
  | nil => exact nomatch hword ▸ hfirst
  | cons d word =>
    rw [hword] at hfirst hsame
    obtain rfl := Option.some.inj hfirst
    cases text with
    | nil => exact nomatch hsame
    | cons c text => exact ⟨c, rfl, (Bool.and_eq_true_iff.mp hsame).1⟩

theorem head?_ne_a {word : String} {first : Char} (w : Spelled word)
    (hfirst : word.toList.head? = some first) (hne : sameLetter 'a' first = false) (rest : Text) :
    ∀ c ∈ (w.text ++ rest).head?, sameLetter 'a' c = false := by
  obtain ⟨d, hd, hsame⟩ := head?_spelled w hfirst
  intro c hc
  rw [List.head?_append, hd, Option.some_or] at hc
  obtain rfl := Option.some.inj hc
  cases ha : sameLetter 'a' d with
  | false => rfl
  | true =>
    have hfold := (sameLetter_iff.mp ha).trans (sameLetter_iff.mp hsame).symm
    exact nomatch hne.symm.trans (sameLetter_iff.mpr hfold)

theorem isChain_paren {gap : Text} (hgap : ∀ c ∈ gap, isBlank c = true) :
    (gap ++ ['(']).IsChain NoLetterA :=
  isChain_gap hgap (List.isChain_singleton '(') (forall_head? (by decide))

theorem isChain_materialized (word : Spelled "materialized") (after : Gap) :
    (word.text ++ (after.text ++ ['('])).IsChain NoLetterA :=
  isChain_word (isBlank_of_spelled (isWordName "materialized") word) (isChain_paren after.blank)

namespace Opening

theorem isChain (o : Opening) : o.text.IsChain NoLetterA := by
  have hother : ∀ (word : Spelled "materialized") (rest : Text),
      ∀ c ∈ (word.text ++ rest).head?, sameLetter 'a' c = false := fun word rest =>
    head?_ne_a word rfl (by decide) rest
  obtain ⟨word, after, materialization⟩ := o
  refine isChain_word (isBlank_of_spelled (isWordName "as") word) ?_
  cases materialization with
  | unsaid => exact isChain_paren after.blank
  | said word' after' =>
    simp only [Materialization.text, List.append_assoc]
    exact isChain_gap after.blank (isChain_materialized word' after') (hother word' _)
  | denied negation between word' after' =>
    simp only [Materialization.text, List.append_assoc]
    refine isChain_gap after.blank ?_ (head?_ne_a negation rfl (by decide) _)
    refine isChain_word (isBlank_of_spelled (isWordName "not") negation) ?_
    exact isChain_gap between.blank (isChain_materialized word' after') (hother word' _)

/-- An opening that stands at the end of another one is all of it, or no white space is before it. -/
theorem not_after_blank {o o' : Opening} {v : Text} (h : o.text = v ++ o'.text) :
    ∀ b ∈ v.getLast?, isBlank b = false := by
  intro b hb
  obtain ⟨-, -, hjoin⟩ := List.isChain_append.mp (h ▸ o.isChain)
  obtain ⟨c, hc, hsame⟩ := head?_spelled o'.word rfl
  have hhead : c ∈ o'.text.head? := by
    rw [text, List.head?_append, hc]
    rfl
  cases hblank : isBlank b with
  | false => rfl
  | true => exact nomatch hsame.symm.trans (hjoin b hb c hhead hblank)

/-- Where an opening begins after white space is told by where it ends. -/
theorem append_inj {o o' : Opening} {u u' : Text} (hu : ∃ b ∈ u.getLast?, isBlank b = true)
    (hu' : ∃ b ∈ u'.getLast?, isBlank b = true) (h : u ++ o.text = u' ++ o'.text) : u = u' := by
  have heq : ∀ {u v : Text} {o o' : Opening}, (∃ b ∈ (u ++ v).getLast?, isBlank b = true) →
      o.text = v ++ o'.text → v = [] := by
    rintro u v o o' ⟨b, hb, hblank⟩ hsplit
    refine Classical.byContradiction fun hne => ?_
    rw [List.getLast?_append_of_ne_nil _ hne] at hb
    exact nomatch hblank.symm.trans (not_after_blank hsplit b hb)
  rcases List.append_eq_append_iff.mp h with ⟨v, rfl, hsplit⟩ | ⟨v, rfl, hsplit⟩
  · rw [heq hu' hsplit, List.append_nil]
  · rw [heq hu hsplit, List.append_nil]

end Opening

theorem ColumnList.listed_text (before : Gap) (columns : Text) (plain : Plain columns) :
    (ColumnList.listed before columns plain).text = (before.text ++ '(' :: columns) ++ [')'] := by
  rw [text, List.append_assoc, List.cons_append]

/-- Where columns begin, and white space after them, is told by where they end. -/
theorem ColumnList.append_inj {columns columns' : ColumnList} {between between' : Gap} {u u' : Text}
    (hu : ∀ c ∈ u.getLast?, isBlank c = false ∧ c ≠ ')')
    (hu' : ∀ c ∈ u'.getLast?, isBlank c = false ∧ c ≠ ')')
    (h : u ++ (columns.text ++ between.text) = u' ++ (columns'.text ++ between'.text)) : u = u' := by
  have hsolid : ∀ {u : Text}, (∀ c ∈ u.getLast?, isBlank c = false ∧ c ≠ ')') →
      ∀ c ∈ u.getLast?, isBlank c = false := fun hu c hc => (hu c hc).1
  have hclosed : ∀ s : Text, ∀ c ∈ (s ++ [')']).getLast?, isBlank c = false := by
    intro s c hc
    rw [List.getLast?_concat] at hc
    exact Option.some.inj hc ▸ by decide
  rw [← List.append_assoc, ← List.append_assoc] at h
  cases columns with
  | unsaid =>
    cases columns' with
    | unsaid =>
      simp only [text, List.append_nil] at h
      exact (append_inj_of_lastRun between.blank between'.blank (hsolid hu) (hsolid hu') h).1
    | listed before' columns' plain' =>
      rw [listed_text, text, List.append_nil, ← List.append_assoc] at h
      obtain ⟨rfl, -⟩ := append_inj_of_lastRun between.blank between'.blank (hsolid hu) (hclosed _) h
      exact absurd rfl (hu ')' List.getLast?_concat).2
  | listed before columns plain =>
    cases columns' with
    | unsaid =>
      rw [listed_text, text, List.append_nil, ← List.append_assoc] at h
      obtain ⟨rfl, -⟩ := append_inj_of_lastRun between.blank between'.blank (hclosed _) (hsolid hu') h
      exact absurd rfl ( hu' ')' List.getLast?_concat).2
    | listed before' columns' plain' =>
      rw [listed_text, listed_text, ← List.append_assoc u, ← List.append_assoc u'] at h
      obtain ⟨hlists, -⟩ := append_inj_of_lastRun between.blank between'.blank (hclosed _) (hclosed _) h
      have hopen : ∀ {columns : Text}, Plain columns → ∀ c ∈ columns, (c != '(') = true :=
        fun plain c hc => bne_iff_ne.mpr (plain c hc).1
      have hcolumns : (u ++ before.text ++ ['(']) ++ columns = (u' ++ before'.text ++ ['(']) ++ columns' := by
        simpa using List.append_cancel_right hlists
      obtain ⟨hfronts, -⟩ :=
        append_inj_of_lastRun (hopen plain) (hopen plain') (by simp) (by simp) hcolumns
      have hgaps := List.append_cancel_right hfronts
      exact (append_inj_of_lastRun before.blank before'.blank (hsolid hu) (hsolid hu') hgaps).1

/-! ## Where a head begins -/

namespace BlockHead

theorem front_getLast? (h : BlockHead) : ∃ b ∈ h.front.getLast?, isBlank b = true := by
  have hlast := List.getLast?_eq_some_getLast h.between.ne_nil
  refine ⟨_, ?_, h.between.blank _ (List.mem_of_getLast? hlast)⟩
  rw [front, List.getLast?_append, List.getLast?_append, List.getLast?_append, hlast]
  rfl

theorem front_eq (h : BlockHead) :
    h.front = (h.before.text ++ h.name.text) ++ (h.columns.text ++ h.between.text) :=
  (List.append_assoc _ _ _).symm

theorem named_getLast? (h : BlockHead) :
    ∀ c ∈ (h.before.text ++ h.name.text).getLast?, isBlank c = false ∧ c ≠ ')' := by
  intro c hc
  rw [List.getLast?_append_of_ne_nil _ h.name.text_ne_nil] at hc
  rcases h.name.getLast?_text c hc with hword | rfl | rfl
  · exact ⟨not_blank_of_isWord hword, (noSign_of_class (by decide) hword).2.2.1⟩
  · decide
  · decide

/-- Where a head ends in a shorter one, the shorter one begins neither after a comma nor at the end of a
word. -/
theorem not_suffix {h h' : BlockHead} {u : Text} (hu : u ≠ [])
    (hplace : ∀ c ∈ u.getLast?, c = ',' ∨ isWord c = true ∧ WordEnds h'.text) :
    h.text ≠ u ++ h'.text := by
  intro heq
  have hfront : h.front = u ++ h'.front := by
    rw [text, text, ← List.append_assoc] at heq
    refine Opening.append_inj h.front_getLast? ?_ heq
    obtain ⟨b, hb, hblank⟩ := h'.front_getLast?
    refine ⟨b, ?_, hblank⟩
    rw [List.getLast?_append, hb]
    rfl
  have hname : h.before.text ++ h.name.text = u ++ (h'.before.text ++ h'.name.text) := by
    rw [front_eq, front_eq, ← List.append_assoc u] at hfront
    refine ColumnList.append_inj h.named_getLast? (fun c hc => ?_) hfront
    rw [List.getLast?_append_of_ne_nil _ (List.append_ne_nil_of_right_ne_nil _ h'.name.text_ne_nil)] at hc
    exact h'.named_getLast? c hc
  have hends : WordEnds h'.text → WordEnds (h'.before.text ++ h'.name.text) := by
    intro hends d hd
    refine hends d ?_
    rw [text, front_eq, List.append_assoc, List.head?_append, hd]
    rfl
  obtain ⟨c, hc⟩ := Option.isSome_iff_exists.mp (List.getLast?_isSome.mpr hu)
  have hsolid : isBlank c = false := by
    rcases hplace c hc with rfl | ⟨hword, -⟩
    · decide
    · exact not_blank_of_isWord hword
  have hnotBefore : c ∉ h.before.text := fun hmem => nomatch hsolid.symm.trans (h.before.blank c hmem)
  rcases List.append_eq_append_iff.mp hname with ⟨v, rfl, hsuffix⟩ | ⟨v, hbefore, -⟩
  · cases v with
    | nil => exact hnotBefore (List.mem_of_getLast? (by simpa using hc))
    | cons d v =>
      refine BlockName.not_suffix h'.before.blank ?_ ((hplace c hc).imp_right (And.imp_right hends)) hsuffix
      rwa [List.getLast?_append_of_ne_nil _ (List.cons_ne_nil d v)] at hc
  · exact hnotBefore (by simp [hbefore, List.mem_of_getLast? hc])

end BlockHead

/-! ## What the pattern takes -/

theorem exists_blockName {p q : Progress} (h : q ∈ identifier.ends true p) :
    ∃ n : BlockName, n.text <+: p.cursor.rest ∧ q = p.past n.text :=
  identifier_takes (fun name => ⟨.quoted name, rfl⟩)
    (fun first others hstart hpart => ⟨.bare first others hstart hpart, rfl⟩) h

theorem takes_spelled (word : String) : (lit word).Takes fun w => ∃ s : Spelled word, w = s.text := by
  refine (takes_chars word.toList).congr fun w => ⟨fun h => ⟨⟨w, h⟩, rfl⟩, ?_⟩
  rintro ⟨s, rfl⟩
  exact s.same

theorem takes_blanks : gap.Takes fun w => ∃ g : Gap, w = g.text := by
  refine takes_gap.congr fun w => ⟨fun h => ⟨⟨w, h⟩, rfl⟩, ?_⟩
  rintro ⟨g, rfl⟩
  exact g.blank

theorem takes_spaces : space.Takes fun w => ∃ s : Space, w = s.text := by
  refine takes_space.congr fun w => ⟨fun h => ⟨⟨⟨w, h.2⟩, h.1⟩, rfl⟩, ?_⟩
  rintro ⟨s, rfl⟩
  exact ⟨s.ne_nil, s.blank⟩

theorem takes_materialization : materialization.Takes fun w => ∃ m : Materialization, w = m.text := by
  have hnegation := takes_optional ((takes_spelled "not").seq takes_spaces)
  have hall := takes_optional ((hnegation.seq (takes_spelled "materialized")).seq takes_blanks)
  refine hall.congr fun w => ⟨?_, ?_⟩
  · rintro (⟨_, _, rfl, ⟨_, _, rfl, ⟨_, _, rfl, ⟨negation, rfl⟩, between, rfl⟩ | rfl, word, rfl⟩,
      after, rfl⟩ | rfl)
    · exact ⟨.denied negation between word after, by simp [Materialization.text]⟩
    · exact ⟨.said word after, rfl⟩
    · exact ⟨.unsaid, rfl⟩
  · rintro ⟨m, rfl⟩
    cases m with
    | unsaid => exact .inr rfl
    | said word after => exact .inl ⟨_, after.text, rfl, ⟨[], _, rfl, .inr rfl, word, rfl⟩, after, rfl⟩
    | denied negation between word after =>
      refine .inl ⟨(negation.text ++ between.text) ++ word.text, after.text, ?_, ?_, after, rfl⟩
      · simp [Materialization.text]
      · exact ⟨_, _, rfl, .inl ⟨_, _, rfl, ⟨negation, rfl⟩, between, rfl⟩, word, rfl⟩

theorem takes_opening : (lit "as" ++ (gap ++ (materialization ++ char '('))).Takes
    fun w => ∃ o : Opening, w = o.text := by
  have hparen := takes_sign (c := '(') (by decide) (by decide)
  have hall := (takes_spelled "as").seq (takes_blanks.seq (takes_materialization.seq hparen))
  refine hall.congr fun w => ⟨?_, ?_⟩
  · rintro ⟨_, _, rfl, ⟨word, rfl⟩, _, _, rfl, ⟨after, rfl⟩, _, _, rfl, ⟨m, rfl⟩, rfl⟩
    exact ⟨⟨word, after, m⟩, rfl⟩
  · rintro ⟨⟨word, after, m⟩, rfl⟩
    exact ⟨_, _, rfl, ⟨word, rfl⟩, _, _, rfl, ⟨after, rfl⟩, _, _, rfl, ⟨m, rfl⟩, rfl⟩

theorem exists_columns {p q : Progress}
    (h : q ∈ (optional (gap ++ char '(' ++ many0 (except "()") ++ char ')')).ends true p) :
    ∃ columns : ColumnList, columns.text <+: p.cursor.rest ∧ q = p.past columns.text := by
  rcases mem_ends_either.mp h with h | h
  · obtain ⟨r, hinside, hclose⟩ := mem_ends_seq.mp h
    obtain ⟨r', hopen, hinside⟩ := mem_ends_seq.mp hinside
    obtain ⟨r'', hbefore, hopen⟩ := mem_ends_seq.mp hopen
    obtain ⟨before, hbefore, hr''⟩ := exists_gap hbefore
    obtain ⟨hopen, hr'⟩ := sign_taken (by decide) (by decide) hopen
    obtain ⟨columns, hcolumns, hnot, hr⟩ := mem_ends_many.mp hinside
    obtain ⟨hclose, hq⟩ := sign_taken (by decide) (by decide) hclose
    obtain ⟨hopen, hr'⟩ := Progress.past_append hbefore hr'' hopen hr'
    obtain ⟨hclose, hq⟩ := Progress.past_append hcolumns hr hclose hq
    have hall := Progress.past_append hopen hr' hclose hq
    have hplain : Plain columns := by
      intro c hc
      constructor <;> rintro rfl <;> exact absurd (hnot _ hc) (by decide)
    rw [List.append_assoc] at hall
    exact ⟨.listed before columns hplain, hall⟩
  · obtain rfl := List.mem_singleton.mp h
    exact ⟨.unsaid, List.nil_prefix, rfl⟩

theorem exists_blockHead {p q : Progress} (h : q ∈ blockHead.shape.ends true p) :
    ∃ head : BlockHead, head.text <+: p.cursor.rest ∧ q.cursor = p.cursor.past head.text ∧
      q.groups = (1, ⟨p.cursor.position + head.before.text.length,
        p.cursor.position + head.before.text.length + head.name.text.length⟩) :: p.groups := by
  obtain ⟨r₁, h, hopening⟩ : ∃ r ∈ (gap ++ group 1 identifier
      ++ optional (gap ++ char '(' ++ many0 (except "()") ++ char ')') ++ space).ends true p,
      q ∈ (lit "as" ++ (gap ++ (materialization ++ char '('))).ends true r := by
    rw [← mem_ends_seq, ← ends_assoc, ← ends_assoc, ← ends_assoc]
    exact h
  obtain ⟨r₂, h, hbetween⟩ := mem_ends_seq.mp h
  obtain ⟨r₃, h, hcolumns⟩ := mem_ends_seq.mp h
  obtain ⟨r₄, hgap, hgroup⟩ := mem_ends_seq.mp h
  obtain ⟨r₅, hidentifier, hr₃⟩ := mem_ends_group.mp hgroup
  obtain ⟨before, hbefore, rfl⟩ := exists_gap hgap
  obtain ⟨name, hname, rfl⟩ := exists_blockName hidentifier
  obtain ⟨columns, hcolumns, hr₂⟩ := exists_columns hcolumns
  obtain ⟨_, ⟨between, rfl⟩, hbetween, hr₁⟩ := (takes_spaces _ _).mp hbetween
  obtain ⟨_, ⟨opening, rfl⟩, hopening, hq⟩ := (takes_opening _ _).mp hopening
  obtain ⟨hrest, hq⟩ := Progress.past_append hbetween hr₁ hopening hq
  obtain ⟨hrest, rfl⟩ := Progress.past_append hcolumns hr₂ hrest hq
  subst hr₃
  have hname := (prefix_drop_iff hbefore).mp hname
  simp only [Progress.keep, Progress.past_cursor, Cursor.past_past, Cursor.past_rest] at hrest
  have hrest := (prefix_drop_iff hname).mp hrest
  let head : BlockHead := ⟨before, name, columns, between, opening⟩
  have htext : head.text
      = (before.text ++ name.text) ++ (columns.text ++ (between.text ++ opening.text)) := by
    simp [head, BlockHead.text, BlockHead.front]
  refine ⟨head, htext ▸ hrest, ?_, rfl⟩
  rw [htext, ← Cursor.past_past]
  exact congrArg (Cursor.past · _) (Cursor.past_past p.cursor before.text name.text)

theorem exists_head_of_matchAt? {sql : Text} {position : Nat} (hposition : position ≤ sql.length)
    {m : Match} (h : blockHead.matchAt? (Cursor.seek sql position) = some m) :
    ∃ head : BlockHead, head.text <+: sql.drop position ∧
      m.span.stop = position + head.text.length ∧ m.groupText sql 1 = head.name.text := by
  rw [Cursor.seek_eq hposition] at h
  obtain ⟨q, hq, rfl⟩ := Pattern.exists_end_of_matchAt? h
  obtain ⟨head, hbegins, hcursor, hgroups⟩ := exists_blockHead hq
  refine ⟨head, hbegins, ?_, ?_⟩
  · rw [hcursor, Cursor.past_position]
  · have hname : head.name.text <+: sql.drop (position + head.before.text.length) := by
      have hfront : head.before.text ++ head.name.text <+: head.text :=
        ⟨head.columns.text ++ head.between.text ++ head.opening.text, by
          simp [BlockHead.text, BlockHead.front]⟩
      have hbefore : head.before.text <+: sql.drop position :=
        (List.prefix_append _ _).trans (hfront.trans hbegins)
      rw [← List.drop_drop]
      exact (prefix_drop_iff hbefore).mpr (hfront.trans hbegins)
    have hgroup : List.lookup 1 q.groups = some ⟨position + head.before.text.length,
        position + head.before.text.length + head.name.text.length⟩ := by
      rw [hgroups]
      rfl
    rw [Match.groupText, Match.group?, hgroup, Option.map_some, Option.getD_some]
    exact Text.slice_of_begins hname

end QueryLint.Sql

import QueryLint.Checks.Tree
import QueryLint.Proofs.Sql.NameChain
import QueryLint.Proofs.Sql.Keyword

/-! The word JOIN in front of a table. For a source that the grammar gives no label the text is searched
for JOIN and the table's name. Main statement: `matchAt?_joinOf`, the search hits just where the word is
written with the name after it, in any letter case and with or without quotes. -/
namespace QueryLint
set_option autoImplicit false
open Text

namespace Checks
open Shape Sql

/-! ## Names as they are written -/

/-- A part of a name in any letter case; a quote may stand before it and after it. -/
def WritesPart (part w : Text) : Prop :=
  ∃ opening name closing, w = opening ++ (name ++ closing) ∧ (opening = ['"'] ∨ opening = []) ∧
    sameLetters part name = true ∧ (closing = ['"'] ∨ closing = [])

/-- The parts of a name, one after the other, with points and white space between them. -/
inductive WritesName : List Text → Text → Prop
  | last {part w : Text} (h : WritesPart part w) : WritesName [part] w
  | part {part w v : Text} {others : List Text} (h : WritesPart part w) (before after : Gap)
      (hothers : WritesName others v) :
      WritesName (part :: others) (w ++ (before.text ++ '.' :: (after.text ++ v)))

theorem takes_looseName (part : Text) : (looseName part).Takes (WritesPart part) := by
  have hquote := takes_optional (takes_sign (c := '"') (by decide) (by decide))
  refine ((hquote.seq (takes_chars part)).seq hquote).congr fun w => ?_
  constructor
  · rintro ⟨_, closing, rfl, ⟨opening, name, rfl, hopening, hname⟩, hclosing⟩
    exact ⟨opening, name, closing, List.append_assoc .., hopening, hname, hclosing⟩
  · rintro ⟨opening, name, closing, rfl, hopening, hname, hclosing⟩
    exact ⟨_, closing, (List.append_assoc ..).symm, ⟨opening, name, rfl, hopening, hname⟩, hclosing⟩

theorem takes_looseNames {parts : List Text} (hne : parts ≠ []) :
    (looseNames parts).Takes (WritesName parts) := by
  induction parts with
  | nil => exact absurd rfl hne
  | cons part others ih =>
    cases others with
    | nil =>
      refine (takes_looseName part).congr fun w => ⟨.last, ?_⟩
      rintro (h | ⟨_, _, _, hothers⟩)
      · exact h
      · exact nomatch hothers
    | cons next others =>
      have hpoint := takes_sign (c := '.') (by decide) (by decide)
      refine (((((takes_looseName part).seq takes_gap).seq hpoint).seq takes_gap).seq
        (ih (List.cons_ne_nil next others))).congr fun w => ?_
      constructor
      · rintro ⟨_, v, rfl, ⟨_, after, rfl, ⟨_, _, rfl, ⟨w, before, rfl, hw, hbefore⟩, rfl⟩, hafter⟩,
          hv⟩
        have hname := WritesName.part hw ⟨before, hbefore⟩ ⟨after, hafter⟩ hv
        simpa only [List.append_assoc, List.cons_append, List.nil_append] using hname
      · rintro (_ | ⟨hw, before, after, hv⟩)
        rename_i w v
        refine ⟨_, v, ?_, ⟨_, after.text, rfl, ⟨_, _, rfl, ⟨w, before.text, rfl, hw, before.blank⟩,
          rfl⟩, after.blank⟩, hv⟩
        simp only [List.append_assoc, List.cons_append, List.nil_append]

theorem pointPieces_eq_splitOn {piece : Text} (h : '.' ∉ piece) (t : Text) :
    pointPieces piece t = (piece.reverse ++ t).splitOn '.' := by
  induction t generalizing piece with
  | nil => rw [pointPieces, List.append_nil, splitOn_of_not_mem (by simpa using h)]
  | cons c t ih =>
    rw [pointPieces]
    split
    · rename_i hc
      rw [hc, ih List.not_mem_nil, splitOn_point (by simpa using h)]
      rfl
    · rename_i hc
      have hnot : '.' ∉ c :: piece := by simp [h, Ne.symm hc]
      rw [ih hnot, List.reverse_cons, List.append_assoc, List.singleton_append]

/-! ## JOIN before a name -/

/-- What no name goes on with. -/
def NameOver (rest : Text) : Prop := ∀ c ∈ rest.head?, isWord c = false ∧ c ≠ '.'

/-- At a place of a text the word JOIN stands alone, and the table's name comes next. -/
def JoinAt (table sql : Text) (i : Nat) : Prop :=
  WordAt "join".toList sql i ∧ ∃ (space : Gap) (name rest : Text),
    sql.drop (i + 4) = space.text ++ (name ++ rest) ∧ space.text ≠ [] ∧
      WritesName (table.splitOn '.') name ∧ NameOver rest

theorem nameOver_iff {rest : Text} : NameOver rest ↔
    ∀ c ∈ rest.head?, CharSet.has true ⟨[.word, .char '.'], false⟩ c = false := by
  refine forall₂_congr fun c _ => ?_
  have hpoint : sameLetter '.' c = true ↔ c = '.' :=
    ⟨eq_of_sameLetter (by decide) (by decide), fun h => h ▸ beq_self_eq_true _⟩
  simp [CharSet.has, CharKind.has, ← hpoint]

/-- Where the pattern matches: at a word's edge, and the word, white space, the name and what may
follow it come next. -/
theorem exists_end_joinOf {table : Text} {p : Progress} :
    (∃ q, q ∈ (joinOf table).shape.ends true p) ↔
      wordEdge p.cursor.before p.cursor.rest.head? = true ∧
        ∃ word gap name rest, sameLetters "join".toList word = true ∧
          (gap ≠ [] ∧ ∀ c ∈ gap, isBlank c = true) ∧ WritesName (table.splitOn '.') name ∧
          NameOver rest ∧ p.cursor.rest = word ++ (gap ++ (name ++ rest)) := by
  have hnames : (looseNames (pointPieces [] table)).Takes (WritesName (table.splitOn '.')) := by
    rw [pointPieces_eq_splitOn List.not_mem_nil table]
    exact takes_looseNames (List.splitOn_ne_nil _ _)
  have htakes := (takes_chars "join".toList).seq (takes_space.seq hnames)
  have hover : ∀ {w rest : Text}, p.cursor.rest = w ++ rest →
      ((∃ q, q ∈ (notHere (of [.word, .char '.'])).ends true (p.past w)) ↔ NameOver rest) := by
    intro w rest hrest
    have hpast : (p.past w).cursor.rest = rest := by
      rw [Progress.past_cursor, Cursor.past_rest, hrest, List.drop_left]
    rw [nameOver_iff, ← hpast]
    constructor
    · rintro ⟨q, hq⟩
      exact (mem_ends_notHere.mp hq).1
    · intro h
      exact ⟨_, mem_ends_notHere.mpr ⟨h, rfl⟩⟩
  constructor
  · rintro ⟨q, hq⟩
    obtain ⟨r, hr, hq⟩ := mem_ends_seq.mp hq
    rw [ends_assoc, ends_assoc] at hr
    obtain ⟨_, hstart, htaken⟩ := mem_ends_seq.mp hr
    obtain ⟨hedge, rfl⟩ := mem_ends_edge.mp hstart
    obtain ⟨_, ⟨word, _, rfl, hword, gap, name, rfl, hgap, hname⟩, ⟨rest, hrest⟩, rfl⟩ :=
      (htakes _ _).mp htaken
    refine ⟨hedge, word, gap, name, rest, hword, hgap, hname, (hover hrest.symm).mp ⟨q, hq⟩, ?_⟩
    rw [← hrest, List.append_assoc, List.append_assoc]
  · rintro ⟨hedge, word, gap, name, rest, hword, hgap, hname, hafter, hrest⟩
    rw [← List.append_assoc gap, ← List.append_assoc] at hrest
    obtain ⟨q, hq⟩ := (hover hrest).mpr hafter
    refine ⟨q, mem_ends_seq.mpr ⟨p.past (word ++ (gap ++ name)), ?_, hq⟩⟩
    rw [ends_assoc, ends_assoc]
    refine mem_ends_seq.mpr ⟨p, mem_ends_edge.mpr ⟨hedge, rfl⟩, (htakes _ _).mpr ⟨_, ?_, ?_, rfl⟩⟩
    · exact ⟨word, _, rfl, hword, gap, name, rfl, hgap, hname⟩
    · exact ⟨rest, hrest.symm⟩

/-- A word and what comes after it, told from the beginning of the text or by cutting the text. -/
theorem leadingWord_split_iff {w t u : Text} (hw : IsWordName w) (hu : WordEnds u) :
    (sameLetters w (leadingWord t) = true ∧ t.drop w.length = u) ↔
      ∃ v, sameLetters w v = true ∧ t = v ++ u := by
  constructor
  · rintro ⟨hsame, rfl⟩
    refine ⟨leadingWord t, hsame, ?_⟩
    have hbegins : leadingWord t <+: t := List.takeWhile_prefix _
    rw [length_eq_of_sameLetters hsame, List.prefix_iff_eq_append.mp hbegins]
  · rintro ⟨v, hv, rfl⟩
    rw [leadingWord_append (hw.isWord_of_sameLetters hv) hu, length_eq_of_sameLetters hv,
      List.drop_left]
    exact ⟨hv, rfl⟩

theorem matchAt?_joinOf {table sql : Text} {c : Cursor} (hc : c.InText sql) :
    ((joinOf table).matchAt? c).isSome = true ↔ JoinAt table sql c.position := by
  have hdrop : sql.drop (c.position + 4) = c.rest.drop "join".toList.length := by
    rw [hc.rest_eq, List.drop_drop]
    rfl
  have hends : ∀ {gap u : Text}, gap ≠ [] → (∀ d ∈ gap, isBlank d = true) → WordEnds (gap ++ u) := by
    intro gap u hne hblank
    obtain ⟨d, gap, rfl⟩ := List.exists_cons_of_ne_nil hne
    exact wordEnds_cons.mpr (isWord_of_isBlank (hblank d List.mem_cons_self))
  rw [Pattern.isSome_matchAt?, JoinAt, WordAt, ← hc.before_eq, ← hc.rest_eq, hdrop]
  refine exists_end_joinOf.trans ?_
  constructor
  · rintro ⟨hedge, word, gap, name, rest, hword, ⟨hne, hblank⟩, hname, hafter, hrest⟩
    obtain ⟨hleading, hrest'⟩ := (leadingWord_split_iff (isWordName "join") (hends hne hblank)).mpr
      ⟨word, hword, hrest⟩
    have hbefore := (wordEdge_before_word (isWordName "join") hword ⟨_, hrest.symm⟩).mp hedge
    exact ⟨⟨hbefore, hleading⟩, ⟨gap, hblank⟩, name, rest, hrest', hne, hname, hafter⟩
  · rintro ⟨⟨hbefore, hleading⟩, ⟨gap, hblank⟩, name, rest, hrest, hne, hname, hafter⟩
    obtain ⟨word, hword, hsplit⟩ := (leadingWord_split_iff (isWordName "join") (hends hne hblank)).mp
      ⟨hleading, hrest⟩
    refine ⟨?_, word, gap, name, rest, hword, ⟨hne, hblank⟩, hname, hafter, hsplit⟩
    exact (wordEdge_before_word (isWordName "join") hword ⟨_, hsplit.symm⟩).mpr hbefore

/-! ## Where JOIN is written before a table -/

theorem JoinAt.le_length {table sql : Text} {i : Nat} (h : JoinAt table sql i) : i ≤ sql.length := by
  by_contra hbeyond
  have hempty := h.1.2
  rw [List.drop_eq_nil_of_le (Nat.le_of_not_le hbeyond)] at hempty
  exact nomatch hempty

theorem joinAt_iff {table sql : Text} {i : Nat} : JoinAt table sql i ↔
    i ≤ sql.length ∧ ((joinOf table).matchAt? (Cursor.seek sql i)).isSome = true := by
  by_cases hi : i ≤ sql.length
  · have hposition : (Cursor.seek sql i).position = i := by rw [Cursor.seek_eq hi]
    rw [matchAt?_joinOf (Cursor.seek_inText sql i), hposition, and_iff_right hi]
  · exact ⟨fun h => absurd h.le_length hi, fun h => absurd h.1 hi⟩

instance (table sql : Text) (i : Nat) : Decidable (JoinAt table sql i) :=
  decidable_of_iff _ joinAt_iff.symm

/-- The places where JOIN is written before a table, from left to right. -/
def joinPlaces (table sql : Text) : List Nat :=
  (List.range (sql.length + 1)).filter fun i => JoinAt table sql i

theorem mem_joinPlaces {table sql : Text} {i : Nat} : i ∈ joinPlaces table sql ↔ JoinAt table sql i := by
  rw [joinPlaces, List.mem_filter, List.mem_range, Nat.lt_succ_iff, decide_eq_true_iff]
  exact and_iff_right_of_imp JoinAt.le_length

theorem occursIn_joinOf {table sql : Text} :
    (joinOf table).occursIn sql = true ↔ ∃ i, JoinAt table sql i := by
  rw [Pattern.occursIn]
  constructor
  · intro h
    obtain ⟨m, hm⟩ := Option.isSome_iff_exists.mp h
    obtain ⟨c, hc, hmatch⟩ := Pattern.of_first? hm
    exact ⟨c.position, (matchAt?_joinOf hc).mp (Option.isSome_of_eq_some hmatch)⟩
  · rintro ⟨i, hi⟩
    obtain ⟨m, hm⟩ := Option.isSome_iff_exists.mp (joinAt_iff.mp hi).2
    exact Option.isSome_iff_exists.mpr
      (Pattern.exists_first?_of_matchAt? (Cursor.seek_inText sql i) hm)

end Checks

/-- Somewhere in the text JOIN is written before the table of the source. -/
def Source.FollowsJoin (sql : Text) (f : Source) : Prop :=
  ∃ table, f.table = some table ∧ table ≠ "" ∧ ∃ i, Checks.JoinAt table.toList sql i

theorem Source.followsJoin_iff {sql : Text} {f : Source} : f.FollowsJoin sql ↔
    ((nonempty f.table).any fun table => (Checks.joinOf table.toList).occursIn sql) = true := by
  simp only [FollowsJoin, nonempty, Option.any_eq_true, Option.filter_eq_some_iff,
    decide_eq_true_iff, Checks.occursIn_joinOf, and_assoc]

instance (sql : Text) (f : Source) : Decidable (f.FollowsJoin sql) :=
  decidable_of_iff _ Source.followsJoin_iff.symm

/-- The text has a JOIN for a source that the grammar gives neither a label nor a condition. -/
theorem Checks.isSome_bareJoin? {sql : Text} {f : Source} : (bareJoin? sql f).isSome = true ↔
    f.join = none ∧ f.hasCondition = false ∧ f.FollowsJoin sql := by
  rw [Source.followsJoin_iff, bareJoin?]
  cases hjoin : f.join <;> cases hcondition : f.hasCondition <;>
    cases htable : nonempty f.table <;> simp [Pattern.occursIn]

end QueryLint

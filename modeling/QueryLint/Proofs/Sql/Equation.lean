import QueryLint.Proofs.Sql.PlainName
import QueryLint.Sql.Vocabulary.Condition

/-! Equations of two qualified columns, with AND between them. Each is matched as a whole, with its
qualifiers in two groups, and nothing else is. Main statement: `reads_equations`. -/
namespace QueryLint.Sql
set_option autoImplicit false
open Text Shape

/-! ## Their texts -/

/-- What stands after the point of a qualified name: word characters, but neither FROM nor JOIN. -/
structure ColumnName where
  text : Text
  ne_nil : text ≠ []
  isWord : ∀ c ∈ text, Text.isWord c = true
  free : ¬IsFromOrJoin text

def qualified (table : PlainName) (column : ColumnName) : Text := table.text ++ ('.' :: column.text)

structure Equation where
  left : PlainName
  leftColumn : ColumnName
  right : PlainName
  rightColumn : ColumnName

namespace Equation

def qualifiers (e : Equation) : List PlainName := [e.left, e.right]

def text (e : Equation) : Text :=
  qualified e.left e.leftColumn ++ (" = ".toList ++ qualified e.right e.rightColumn)

theorem text_ne_nil (e : Equation) : e.text ≠ [] := List.cons_ne_nil _ _

/-- The equations after the first, each with AND before it. -/
def othersText (others : List Equation) : Text := others.flatMap fun e => " AND ".toList ++ e.text

theorem othersText_cons (e : Equation) (others : List Equation) :
    othersText (e :: others) = " AND ".toList ++ (e.text ++ othersText others) := by
  rw [othersText, List.flatMap_cons, List.append_assoc, othersText]

theorem intercalate_text (e : Equation) (others : List Equation) :
    List.intercalate " AND ".toList ((e :: others).map text) = e.text ++ othersText others := by
  rw [List.map_cons, intercalate_cons, List.flatMap_map, othersText]

/-! ## What a match of one says -/

/-- The groups of the match are the qualifiers of the equation. -/
def Reads (t : Text) (m : Match) (e : Equation) : Prop :=
  m.groupText t 1 = e.left.text ∧ m.groupText t 3 = e.right.text

end Equation

theorem ColumnName.prefers_word {blind : Bool} {p : Progress} {rest : Text} (x : ColumnName)
    (hrest : p.cursor.rest = x.text ++ rest) (hstop : WordEnds rest) :
    Prefers blind (many1 word) p x.text := by
  have hset : ∀ c, CharSet.has blind ⟨[.word], false⟩ c = Text.isWord c := by
    intro c
    simp [CharSet.has, CharKind.has]
  obtain ⟨c, w, htext⟩ := List.exists_cons_of_ne_nil x.ne_nil
  have hall := x.isWord
  rw [htext] at hrest hall ⊢
  obtain ⟨hc, hw⟩ := List.forall_mem_cons.mp hall
  have hfirst : Prefers blind word p [c] := prefers_set hrest ((hset c).trans hc)
  exact hfirst.seq (prefers_many (rest_past hrest) (fun d hd => (hset d).trans (hw d hd))
    fun d hd => (hset d).trans (hstop d hd))

/-- A qualified column, its table kept in one group and its name in another. -/
theorem head?_ends_qualified {a : Shape} {p r : Progress} {rest : Text} (number number' : Nat)
    {q : PlainName} {x : ColumnName} (ha : (a.ends true p).head? = some r)
    (hrest : r.cursor.rest = qualified q x ++ rest) (hstop : WordEnds rest) :
    ((a ++ group number plainName ++ char '.' ++ group number' (many1 word)).ends true p).head?
      = some ⟨r.cursor.past (qualified q x),
          (number', ⟨r.cursor.position + (q.text.length + 1),
            r.cursor.position + (qualified q x).length⟩) ::
          (number, ⟨r.cursor.position, r.cursor.position + q.text.length⟩) :: r.groups⟩ := by
  rw [qualified, List.append_assoc, List.cons_append] at hrest
  have hafter := rest_past hrest
  have hname := head?_ends_seq ha (head?_ends_group number
    (q.prefers_plainName hrest (forall_head? (by decide))))
  have hpoint := head?_ends_seq hname (prefers_char hafter)
  have hcolumn := head?_ends_seq hpoint (head?_ends_group number'
    (x.prefers_word (rest_past hafter) hstop))
  rw [hcolumn]
  simp [Progress.keep, Progress.past, qualified]

theorem qualified_begins (q : PlainName) (x : ColumnName) : q.text <+: qualified q x := List.prefix_append _ _

/-- Where an equation stands alone, it is matched as a whole. -/
theorem Equation.exists_match (e : Equation) {c : Cursor} {rest : Text}
    (hbefore : ∀ d ∈ c.before, Text.isWord d = false) (hrest : c.rest = e.text ++ rest)
    (hstop : WordEnds rest) : ∃ m, qualifiedEquality.matchAt? c = some m ∧
      m.span.stop = c.position + e.text.length ∧
      ∀ t, t.drop c.position = c.rest → e.Reads t m := by
  have hblank : ∀ d ∈ [' '], isBlank d = true := List.forall_mem_singleton.mpr (by decide)
  have hedge : (edge.ends true ⟨c, []⟩).head? = some ⟨c, []⟩ := by
    have hhead : c.rest.head? = some e.left.name.first := by
      rw [hrest]
      rfl
    have hword := e.left.isWord _ List.mem_cons_self
    rw [ends, if_pos, List.head?_cons]
    rw [hhead, wordEdge, Option.any_some, hword, any_isWord_eq_false.mpr hbefore]
    rfl
  have hfront : c.rest = qualified e.left e.leftColumn ++
      ([' '] ++ (['='] ++ ([' '] ++ (qualified e.right e.rightColumn ++ rest)))) := by
    rw [hrest, text, List.append_assoc]
    rfl
  have hleft := head?_ends_qualified 1 2 hedge hfront (forall_head? (by decide))
  have r₁ := rest_past (p := ⟨c, []⟩) hfront
  have hgap := head?_ends_seq hleft (prefers_gap r₁ hblank (forall_head? (by decide)))
  have r₂ := rest_past r₁
  have hsign := head?_ends_seq hgap (prefers_char r₂)
  have r₃ := rest_past r₂
  have hgap' := head?_ends_seq hsign (prefers_gap r₃ hblank (by
    rw [qualified, List.append_assoc]
    exact e.right.head?_solid))
  have hright := head?_ends_qualified 3 4 hgap' (rest_past r₃) hstop
  refine ⟨_, Pattern.matchAt?_of_head? hright, ?_, fun t ht => ⟨?_, ?_⟩⟩
  · simp [text]
  · refine slice_of_begins ?_
    rw [ht, hfront]
    exact (qualified_begins _ _).trans (List.prefix_append _ _)
  · have hposition : t.drop (c.position + (qualified e.left e.leftColumn).length + 3)
        = qualified e.right e.rightColumn ++ rest := by
      rw [← List.drop_drop, ← List.drop_drop, ht, hfront, List.drop_left]
      rfl
    have hbegins : e.right.text <+: t.drop (c.position + (qualified e.left e.leftColumn).length + 3) := by
      rw [hposition]
      exact (qualified_begins _ _).trans (List.prefix_append _ _)
    exact slice_of_begins hbegins

/-! ## All matches -/

theorem exists_of_mem_ends_plainName {p q : Progress} (h : q ∈ plainName.ends true p) :
    ∃ w, w ≠ [] ∧ (∀ c ∈ w, isWord c = true) ∧ w <+: p.cursor.rest ∧ q = p.past w := by
  obtain ⟨r, hfirst, hothers⟩ := mem_ends_seq.mp h
  obtain ⟨x, hx, hstart, rfl⟩ := mem_ends_set.mp hfirst
  obtain ⟨w, hw, hword, rfl⟩ := mem_ends_many.mp hothers
  have hfirstWord : isWord x = true := by
    have hcases : isLetter (foldCase x) = true ∨ sameLetter '_' x = true := by
      simpa [CharSet.has, CharKind.has] using hstart
    rcases hcases with hletter | hsame
    · exact isWord_of_isLetter_foldCase hletter
    · exact isWord_of_ascii (by decide) (by decide) hsame
  refine ⟨x :: w, List.cons_ne_nil _ _, List.forall_mem_cons.mpr ⟨hfirstWord, fun d hd => ?_⟩,
    (prefix_drop_iff hx).mp hw, Progress.past_past p [x] w⟩
  simpa [CharSet.has, CharKind.has] using hword d hd

/-- A match begins with a name that stands alone, and a point. -/
theorem exists_point_of_matchAt? {c : Cursor} {m : Match} (h : qualifiedEquality.matchAt? c = some m) :
    (∀ d ∈ c.before, isWord d = false) ∧ leadingWord c.rest ≠ [] ∧
      ∃ after, c.rest = leadingWord c.rest ++ ('.' :: after) := by
  obtain ⟨q, hq, -⟩ := Pattern.exists_end_of_matchAt? h
  obtain ⟨r₉, h₉, -⟩ := mem_ends_seq.mp hq
  obtain ⟨r₈, h₈, -⟩ := mem_ends_seq.mp h₉
  obtain ⟨r₇, h₇, -⟩ := mem_ends_seq.mp h₈
  obtain ⟨r₆, h₆, -⟩ := mem_ends_seq.mp h₇
  obtain ⟨r₅, h₅, -⟩ := mem_ends_seq.mp h₆
  obtain ⟨r₄, h₄, -⟩ := mem_ends_seq.mp h₅
  obtain ⟨r₃, h₃, -⟩ := mem_ends_seq.mp h₄
  obtain ⟨r₂, h₂, hpoint⟩ := mem_ends_seq.mp h₃
  obtain ⟨r₁, hr₁, hname⟩ := mem_ends_seq.mp h₂
  obtain ⟨hedge, rfl⟩ := mem_ends_edge.mp hr₁
  obtain ⟨r, hr, rfl⟩ := mem_ends_group.mp hname
  obtain ⟨w, hne, hword, hbegins, rfl⟩ := exists_of_mem_ends_plainName hr
  obtain ⟨hpoint, -⟩ := sign_taken (by decide) (by decide) hpoint
  obtain ⟨after, hafter⟩ : w ++ ['.'] <+: c.rest := (prefix_drop_iff hbegins).mp hpoint
  rw [List.append_assoc, List.singleton_append] at hafter
  have hleading : leadingWord c.rest = w := by
    rw [← hafter]
    exact leadingWord_append hword (forall_head? (by decide))
  refine ⟨?_, hleading ▸ hne, after, by rw [hleading, hafter]⟩
  obtain ⟨x, w, rfl⟩ := List.exists_cons_of_ne_nil hne
  have hhead : c.rest.head? = some x := by rw [← hafter]; rfl
  have hx := hword x List.mem_cons_self
  simp only [hhead, wordEdge, Option.any_some, hx] at hedge
  exact any_isWord_eq_false.mp (by simpa using hedge)

theorem matchAt?_of_blank {before : Option Char} {position : Nat} {rest : Text} :
    qualifiedEquality.matchAt? ⟨before, position, ' ' :: rest⟩ = none := by
  refine Option.eq_none_iff_forall_ne_some.mpr fun m hm => ?_
  exact (exists_point_of_matchAt? hm).2.1 rfl

theorem matchAt?_after_word {x : Char} (hx : isWord x = true) {position : Nat} {rest : Text} :
    qualifiedEquality.matchAt? ⟨some x, position, rest⟩ = none := by
  refine Option.eq_none_iff_forall_ne_some.mpr fun m hm => ?_
  exact nomatch hx.symm.trans ((exists_point_of_matchAt? hm).1 x rfl)

theorem matchAt?_and {before : Option Char} {position : Nat} {rest : Text} :
    qualifiedEquality.matchAt? ⟨before, position, 'A' :: 'N' :: 'D' :: ' ' :: rest⟩ = none := by
  refine Option.eq_none_iff_forall_ne_some.mpr fun m hm => ?_
  obtain ⟨-, -, after, hafter⟩ := exists_point_of_matchAt? hm
  have hleading : leadingWord ("AND".toList ++ (' ' :: rest)) = "AND".toList :=
    leadingWord_append (forall_of_all (by decide)) (forall_head? (by decide))
  rw [show leadingWord ('A' :: 'N' :: 'D' :: ' ' :: rest) = "AND".toList from hleading] at hafter
  simp at hafter

/-- Between two equations nothing is matched. -/
theorem allAmong_and {resume position : Nat} {before : Option Char} {rest : Text} :
    qualifiedEquality.allAmong resume (Cursor.onward before position (" AND ".toList ++ rest))
      = qualifiedEquality.allAmong resume (Cursor.onward (some ' ') (position + 5) rest) := by
  show qualifiedEquality.allAmong resume
    (Cursor.onward before position (' ' :: 'A' :: 'N' :: 'D' :: ' ' :: rest)) = _
  rw [Pattern.allAmong_cons_of_none matchAt?_of_blank, Pattern.allAmong_cons_of_none matchAt?_and,
    Pattern.allAmong_cons_of_none (matchAt?_after_word (by decide)),
    Pattern.allAmong_cons_of_none (matchAt?_after_word (by decide)),
    Pattern.allAmong_cons_of_none matchAt?_of_blank]

theorem wordEnds_othersText (others : List Equation) : WordEnds (Equation.othersText others) := by
  cases others with
  | nil => exact wordEnds_nil
  | cons e others =>
    rw [Equation.othersText_cons]
    exact forall_head? (by decide)

theorem Equation.exists_allAmong (e : Equation) {t : Text} {before : Option Char}
    {position resume : Nat} {rest : Text} (hbefore : ∀ d ∈ before, isWord d = false)
    (ht : t.drop position = e.text ++ rest) (hresume : resume ≤ position) (hstop : WordEnds rest) :
    ∃ m, qualifiedEquality.allAmong resume (Cursor.onward before position (e.text ++ rest))
        = m :: qualifiedEquality.allAmong (position + e.text.length)
          (Cursor.onward (e.text.getLast?.or before) (position + e.text.length) rest) ∧
      e.Reads t m := by
  obtain ⟨m, hm, hend, hreads⟩ := e.exists_match (c := ⟨before, position, e.text ++ rest⟩) hbefore rfl hstop
  refine ⟨m, ?_, hreads t ht⟩
  rw [Pattern.allAmong_hit hresume e.text_ne_nil hm hend, hend]

/-- The matches of a chain of equations are one for each, in order; by induction on the chain. -/
theorem reads_equations {t : Text} (e : Equation) (others : List Equation) {before : Option Char}
    {position resume : Nat} (hbefore : ∀ d ∈ before, isWord d = false)
    (ht : t.drop position = e.text ++ Equation.othersText others) (hresume : resume ≤ position) :
    List.Forall₂ (fun m (e : Equation) => e.Reads t m)
      (qualifiedEquality.allAmong resume
        (Cursor.onward before position (e.text ++ Equation.othersText others))) (e :: others) := by
  obtain ⟨m, hall, hreads⟩ :=
    e.exists_allAmong hbefore ht hresume (wordEnds_othersText others)
  rw [hall]
  refine .cons hreads ?_
  induction others generalizing e before position resume m with
  | nil =>
    have hnone : qualifiedEquality.matchAt? ⟨e.text.getLast?.or before, position + e.text.length, []⟩ = none :=
      Option.eq_none_iff_forall_ne_some.mpr fun m hm => (exists_point_of_matchAt? hm).2.1 rfl
    rw [Equation.othersText, List.flatMap_nil, Cursor.onward, Pattern.allAmong_eq_nil]
    · exact .nil
    · exact List.forall_mem_singleton.mpr hnone
  | cons e' others ih =>
    have hnext : t.drop (position + e.text.length + 5) = e'.text ++ Equation.othersText others := by
      rw [← List.drop_drop, ← List.drop_drop, ht, List.drop_left, Equation.othersText_cons]
      rfl
    have hspace : ∀ d ∈ some ' ', isWord d = false := by simp; decide
    obtain ⟨m', hall', hreads'⟩ := e'.exists_allAmong hspace hnext (Nat.le_add_right _ _)
      (wordEnds_othersText others)
    rw [Equation.othersText_cons, allAmong_and, hall']
    exact .cons hreads' (ih e' hspace hnext (Nat.le_add_right _ _) m' hall' hreads')

end QueryLint.Sql

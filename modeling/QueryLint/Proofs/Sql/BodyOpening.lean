import QueryLint.Proofs.Pattern.Leftmost
import QueryLint.Proofs.Sql.NamedQuery

/-! Where the bodies of named queries are opened. An opening runs to the first parenthesis after it, so
openings that overlap end at one place, and the search for openings finds where every block begins. Main
statement: `exists_opening_of_mem`. -/
namespace QueryLint.Sql
set_option autoImplicit false
open Text Shape

/-! ## The text of an opening -/

theorem Materialization.open_not_mem (m : Materialization) : '(' ∉ m.text := by
  have hword : ∀ {word : String}, IsWordName word.toList → ∀ w : Spelled word, '(' ∉ w.text :=
    fun hname w hmem => nomatch hname.isWord_of_sameLetters w.same _ hmem
  have hgap : ∀ gap : Gap, '(' ∉ gap.text := fun gap hmem => absurd (gap.blank _ hmem) (by decide)
  cases m with
  | unsaid => exact List.not_mem_nil
  | said word after => simp [text, hword (isWordName "materialized") word, hgap after]
  | denied negation between word after =>
    simp [text, hword (isWordName "not") negation, hgap between.toGap, hword (isWordName "materialized") word,
      hgap after]

theorem Opening.exists_init (o : Opening) : ∃ init, o.text = init ++ ['('] ∧ '(' ∉ init := by
  have hword : '(' ∉ o.word.text :=
    fun hmem => nomatch (isWordName "as").isWord_of_sameLetters o.word.same _ hmem
  have hgap : '(' ∉ o.after.text := fun hmem => absurd (o.after.blank _ hmem) (by decide)
  refine ⟨o.word.text ++ (o.after.text ++ o.materialization.text), by simp [text], ?_⟩
  simp [hword, hgap, o.materialization.open_not_mem]

/-- An opening leads from one place of the text to another. -/
def Opens (sql : Text) (position stop : Nat) : Prop :=
  ∃ o : Opening, o.text <+: sql.drop position ∧ stop = position + o.text.length

/-- It leads to the first parenthesis that is opened. -/
theorem Opens.first_paren {sql : Text} {position stop : Nat} (h : Opens sql position stop) :
    ∃ k, position ≤ k ∧ stop = k + 1 ∧ sql[k]? = some '(' ∧
      ∀ n, position ≤ n → n < k → sql[n]? ≠ some '(' := by
  obtain ⟨o, ⟨rest, hrest⟩, rfl⟩ := h
  obtain ⟨init, htext, hinit⟩ := o.exists_init
  rw [htext, List.append_assoc] at hrest
  refine ⟨position + init.length, by omega, by simp [htext, Nat.add_assoc], ?_, ?_⟩
  · rw [← List.getElem?_drop, ← hrest]
    simp
  · intro n hle hlt hchar
    obtain ⟨i, rfl⟩ := Nat.exists_eq_add_of_le hle
    rw [← List.getElem?_drop, ← hrest, List.getElem?_append_left (by omega)] at hchar
    exact hinit (List.mem_of_getElem? hchar)

theorem Opens.lt {sql : Text} {position stop : Nat} (h : Opens sql position stop) : position < stop := by
  obtain ⟨k, hk, rfl, -⟩ := h.first_paren
  omega

/-- Openings that overlap end at one place. -/
theorem Opens.stop_eq {sql : Text} {i j stop stop' : Nat} (h : Opens sql i stop) (h' : Opens sql j stop')
    (hle : i ≤ j) (hlt : j < stop) : stop = stop' := by
  obtain ⟨k, hk, rfl, hopen, hfree⟩ := h.first_paren
  obtain ⟨k', hk', rfl, hopen', hfree'⟩ := h'.first_paren
  rcases Nat.lt_trichotomy k k' with hk | rfl | hk
  · exact absurd hopen (hfree' k (by omega) hk)
  · rfl
  · exact absurd hopen' (hfree k' (by omega) hk)

/-! ## What the pattern takes -/

theorem mem_ends_namedQueryOpen {p q : Progress} : q ∈ namedQueryOpen.shape.ends true p ↔
    wordEdge p.cursor.before p.cursor.rest.head? = true ∧
      ∃ o : Opening, o.text <+: p.cursor.rest ∧ q = p.past o.text := by
  have hshape : namedQueryOpen.shape.ends true p
      = (edge ++ (lit "as" ++ (gap ++ (materialization ++ char '(')))).ends true p := by
    rw [← ends_assoc, ← ends_assoc, ← ends_assoc]
    rfl
  rw [hshape, mem_ends_seq]
  constructor
  · rintro ⟨r, hedge, hopening⟩
    obtain ⟨hedge, rfl⟩ := mem_ends_edge.mp hedge
    obtain ⟨_, ⟨o, rfl⟩, hbegins, hq⟩ := (takes_opening _ _).mp hopening
    exact ⟨hedge, o, hbegins, hq⟩
  · rintro ⟨hedge, o, hbegins, hq⟩
    exact ⟨p, mem_ends_edge.mpr ⟨hedge, rfl⟩, (takes_opening _ _).mpr ⟨_, ⟨o, rfl⟩, hbegins, hq⟩⟩

theorem opens_of_matchAt? {sql : Text} {c : Cursor} (hc : c.InText sql) {m : Match}
    (h : namedQueryOpen.matchAt? c = some m) : Opens sql c.position m.span.stop := by
  obtain ⟨q, hq, rfl⟩ := Pattern.exists_end_of_matchAt? h
  obtain ⟨-, o, hbegins, rfl⟩ := mem_ends_namedQueryOpen.mp hq
  exact ⟨o, hc.rest_eq ▸ hbegins, rfl⟩

theorem Opening.isSome_matchAt? (o : Opening) {before : Option Char}
    (hbefore : ∀ d ∈ before, isWord d = false) (position : Nat) (rest : Text) :
    (namedQueryOpen.matchAt? ⟨before, position, o.text ++ rest⟩).isSome = true := by
  have hbegins : o.text <+: o.text ++ rest := List.prefix_append _ _
  have hedge := (wordEdge_before_word (isWordName "as") o.word.same
    ((List.prefix_append _ _).trans hbegins)).mpr hbefore
  exact Pattern.isSome_matchAt?.mpr ⟨_, mem_ends_namedQueryOpen.mpr ⟨hedge, o, hbegins, rfl⟩⟩

/-! ## Openings of blocks -/

/-- Where an opening ends a match is listed that ends there, be it one that begins earlier. -/
theorem exists_mem_all_of_opening {u rest : Text} {o : Opening}
    (hbefore : ∀ d ∈ u.getLast?, isWord d = false) :
    ∃ m ∈ namedQueryOpen.all (u ++ (o.text ++ rest)), m.span.stop = u.length + o.text.length := by
  have hc := Cursor.inText_of_append u (o.text ++ rest)
  have hopens : Opens (u ++ (o.text ++ rest)) u.length (u.length + o.text.length) :=
    ⟨o, by rw [List.drop_left]; exact List.prefix_append _ _, rfl⟩
  obtain ⟨m, hm⟩ := Option.isSome_iff_exists.mp (o.isSome_matchAt? hbefore u.length rest)
  obtain ⟨m', hlisted, hplace⟩ := Pattern.exists_mem_all hc hm
  refine ⟨m', hlisted, ?_⟩
  rcases hplace with rfl | ⟨hle, hlt⟩
  · have hfound := opens_of_matchAt? hc hm
    exact hfound.stop_eq hopens (Nat.le_refl _) hfound.lt
  · obtain ⟨c, hc', hm'⟩ := Pattern.of_mem_all hlisted
    rw [Pattern.start_of_matchAt? hm'] at hle
    exact (opens_of_matchAt? hc' hm').stop_eq hopens (Nat.le_of_lt hle) hlt

/-- The search finds where the body of each block begins. -/
theorem exists_opening_of_mem {sql : Text} {b : NamedQuery} (h : b ∈ namedQueries sql) :
    ∃ m ∈ namedQueryOpen.all sql, m.span.stop = b.span.start := by
  obtain ⟨place, -, head, ⟨⟨rest, hrest⟩, hstart, -⟩⟩ := exists_blockAt_of_mem h
  have hplace : place ≤ sql.length := by
    by_contra hlt
    rw [List.drop_eq_nil_of_le (by omega)] at hrest
    exact head.text_ne_nil (List.append_eq_nil_iff.mp hrest).1
  have hsplit : sql = (sql.take place ++ head.front) ++ (head.opening.text ++ rest) := by
    rw [List.append_assoc, ← List.append_assoc head.front, ← BlockHead.text, hrest,
      List.take_append_drop]
  obtain ⟨d, hd, hblank⟩ := head.front_getLast?
  have hbefore : ∀ c ∈ (sql.take place ++ head.front).getLast?, isWord c = false := by
    intro c hc
    rw [List.getLast?_append, hd, Option.some_or] at hc
    exact Option.some.inj hc ▸ isWord_of_isBlank hblank
  obtain ⟨m, hm, hstop⟩ := exists_mem_all_of_opening hbefore
  rw [← hsplit] at hm
  refine ⟨m, hm, ?_⟩
  rw [hstop, hstart, BlockHead.text, List.length_append, List.length_append,
    List.length_take_of_le hplace, Nat.add_assoc]

end QueryLint.Sql

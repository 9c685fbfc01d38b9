import QueryLint.Checks.Subquery
import QueryLint.Proofs.Sql.Balance
import QueryLint.Proofs.Sql.Equation

/-! Subqueries that compare the columns of their own tables. The tables a subquery reads are looked for
after FROM and JOIN alone, so of a list with commas only the first is found, and an equation that names
another one is taken for one with the query around. Main statement: `correlatedSubquery_comparing`. -/
namespace QueryLint.Checks
set_option autoImplicit false
open Text Shape Sql

/-! ## Lists of tables -/

structure Listed where
  table : PlainName
  given : PlainName

def Listed.text (l : Listed) : Text := l.table.text ++ (' ' :: l.given.text)

def Listed.names (l : Listed) : List Text := [lower l.table.text, lower l.given.text]

/-- The tables after the first, each with a comma before it. -/
def othersText (others : List Listed) : Text := others.flatMap fun l => ", ".toList ++ l.text

/-- A selection from a list of tables that compares columns. -/
def comparing (first : Listed) (others : List Listed) (e : Equation) (es : List Equation) : Text :=
  "SELECT 1 FROM ".toList ++ (List.intercalate ", ".toList ((first :: others).map Listed.text) ++
    (" WHERE ".toList ++ List.intercalate " AND ".toList ((e :: es).map Equation.text)))

def whereExists (body : Text) : Text := "SELECT 1 FROM o WHERE EXISTS ".toList ++ ('(' :: (body ++ [')']))

theorem comparing_eq (first : Listed) (others : List Listed) (e : Equation) (es : List Equation) :
    comparing first others e es = "SELECT 1 FROM ".toList ++ (first.text ++ (othersText others ++
      (" WHERE ".toList ++ (e.text ++ Equation.othersText es)))) := by
  unfold comparing
  rw [Equation.intercalate_text, List.map_cons, intercalate_cons, List.flatMap_map]
  simp only [othersText, List.append_assoc]

/-! ## The places of words -/

section Words

variable {w : Text} (hw : w ≠ [])

include hw

theorem Listed.lacks (l : Listed) {s rest : Text} (htable : sameLetters w l.table.text = false)
    (hgiven : sameLetters w l.given.text = false) (hne : s ≠ []) (hs : ∀ c ∈ s, isWord c = false)
    (h : Lacks w rest) : Lacks w (l.text ++ (s ++ rest)) := by
  have hname := h.word_append hw l.given.isWord hne hs hgiven
  have hboth := hname.word_append hw l.table.isWord (List.cons_ne_nil ' ' [])
    (List.forall_mem_singleton.mpr (by decide)) htable
  rwa [text, List.append_assoc, List.cons_append]

/-- No word stands among the names of a list but they; by induction on the list. -/
theorem lacks_listed {first : Listed} {others : List Listed} (hfree : ∀ l ∈ first :: others,
    sameLetters w l.table.text = false ∧ sameLetters w l.given.text = false) :
    Lacks w (first.text ++ (othersText others ++ [' '])) := by
  induction others generalizing first with
  | nil =>
    obtain ⟨htable, hgiven⟩ := hfree first List.mem_cons_self
    exact first.lacks hw (s := [' ']) htable hgiven (by decide) (forall_of_all (by decide)) (lacks_nil hw)
  | cons next others ih =>
    obtain ⟨⟨htable, hgiven⟩, hothers⟩ := List.forall_mem_cons.mp hfree
    have hlater := first.lacks hw (s := ", ".toList) htable hgiven (by decide) (forall_of_all (by decide))
      (ih hothers)
    rwa [othersText, List.flatMap_cons, ← othersText, List.append_assoc, List.append_assoc]

theorem lacks_equation {e : Equation} {tail : Text}
    (hfree : ∀ q ∈ e.qualifiers, sameLetters w q.text = false)
    (hcolumn : sameLetters w e.leftColumn.text = false) (h : Lacks w (e.rightColumn.text ++ tail)) :
    Lacks w (e.text ++ tail) := by
  have hleft := hfree e.left (by simp [Equation.qualifiers])
  have hright := hfree e.right (by simp [Equation.qualifiers])
  have h₃ := h.word_append hw e.right.isWord (by decide) (forall_of_all (t := ['.']) (by decide)) hright
  have h₂ := h₃.word_append hw e.leftColumn.isWord (by decide)
    (forall_of_all (t := " = ".toList) (by decide)) hcolumn
  have h₁ := h₂.word_append hw e.left.isWord (by decide) (forall_of_all (t := ['.']) (by decide)) hleft
  simpa only [Equation.text, qualified, List.append_assoc, List.cons_append, List.nil_append] using h₁

theorem lacks_equations (hand : sameLetters w "AND".toList = false) {e : Equation} {es : List Equation}
    (hfree : ∀ e' ∈ e :: es, (∀ q ∈ e'.qualifiers, sameLetters w q.text = false) ∧
      sameLetters w e'.leftColumn.text = false ∧ sameLetters w e'.rightColumn.text = false) :
    Lacks w (e.text ++ Equation.othersText es) := by
  induction es generalizing e with
  | nil =>
    obtain ⟨hnames, hleft, hright⟩ := hfree e List.mem_cons_self
    exact lacks_equation hw hnames hleft
      (lacks_word hw e.rightColumn.isWord (fun c hc => nomatch hc) hright)
  | cons next es ih =>
    obtain ⟨⟨hnames, hleft, hright⟩, hothers⟩ := List.forall_mem_cons.mp hfree
    have hlater := (ih hothers).word_append hw (forall_of_all (t := "AND".toList) (by decide))
      (by decide) (forall_of_all (t := [' ']) (by decide)) hand
    have hnext := hlater.word_append hw e.rightColumn.isWord (by decide)
      (forall_of_all (t := [' ']) (by decide)) hright
    rw [Equation.othersText_cons]
    exact lacks_equation hw hnames hleft hnext

end Words

/-! ## The tables that are found -/

section Found

variable (first : Listed) (others : List Listed) (e : Equation) (es : List Equation)

def afterFirst : Text :=
  othersText others ++ (" WHERE ".toList ++ (e.text ++ Equation.othersText es))

theorem nameEnds_afterFirst : NameEnds (afterFirst others e es) := by
  cases others with
  | nil => exact forall_head? (by decide)
  | cons l others => exact forall_head? (by decide)

theorem comparing_eq_append : comparing first others e es
    = "SELECT 1 FROM ".toList ++ (first.table.text ++ (' ' :: (first.given.text ++ afterFirst others e es))) := by
  rw [comparing_eq, Listed.text, List.append_assoc first.table.text]
  rfl

def beforeWhere : Text := "SELECT 1 FROM ".toList ++ (first.text ++ (othersText others ++ [' ']))

theorem comparing_eq_where : comparing first others e es
    = beforeWhere first others ++ ("WHERE".toList ++ ([' '] ++ (e.text ++ Equation.othersText es))) := by
  have hwhere : " WHERE ".toList = [' '] ++ ("WHERE".toList ++ [' ']) := by decide
  unfold beforeWhere
  rw [comparing_eq, hwhere]
  simp only [List.append_assoc]

theorem not_sameLetters_column {x : ColumnName} {w : Text} (hw : w ∈ ["from".toList, "join".toList]) :
    sameLetters w x.text = false := by
  refine Bool.eq_false_iff.mpr fun h => x.free ?_
  rcases List.mem_cons.mp hw with rfl | hw
  · exact .inl h
  · exact .inr (List.mem_singleton.mp hw ▸ h)

theorem getLast?_beforeWhere : (beforeWhere first others).getLast? = some ' ' := by
  unfold beforeWhere
  rw [← List.append_assoc, ← List.append_assoc, List.getLast?_concat]

theorem lacks_beforeWhere {w : Text} {places : List Nat} (hw : w ∈ keywords.map String.toList)
    (hselect : wordPlaces w "SELECT 1 FROM ".toList = places) :
    wordPlaces w (beforeWhere first others) = places := by
  obtain ⟨k, hk, rfl⟩ := List.mem_map.mp hw
  have hne : k.toList ≠ [] := by
    have hall : ∀ k ∈ keywords, k.toList ≠ [] := by decide
    exact hall k hk
  have hlist : Lacks k.toList (first.text ++ (othersText others ++ [' '])) :=
    lacks_listed hne fun l _ => ⟨l.table.free k hk, l.given.free k hk⟩
  have hlast : ∀ c ∈ "SELECT 1 FROM ".toList.getLast?, isWord c = false :=
    forall_getLast? (c := ' ') (by decide) (by decide)
  unfold beforeWhere
  rw [wordPlaces_append hne hlast, hlist, hselect, List.map_nil, List.append_nil]

/-- FROM stands at the ninth character and nowhere else, and JOIN nowhere. -/
theorem wordPlaces_comparing {w : Text} (hw : w ∈ ["from".toList, "join".toList]) :
    wordPlaces w (comparing first others e es) = if w = "from".toList then [9] else [] := by
  have hkey : w ∈ keywords.map String.toList := by
    have hall : ∀ w ∈ ["from".toList, "join".toList], w ∈ keywords.map String.toList := by decide
    exact hall w hw
  have hne : w ≠ [] := by
    rintro rfl
    exact absurd hw (by decide)
  have hfront : wordPlaces w (beforeWhere first others) = if w = "from".toList then [9] else [] := by
    refine lacks_beforeWhere first others hkey ?_
    have hall : ∀ w ∈ ["from".toList, "join".toList],
        wordPlaces w "SELECT 1 FROM ".toList = if w = "from".toList then [9] else [] := by
      decide +kernel
    exact hall w hw
  have hwords : sameLetters w "WHERE".toList = false ∧ sameLetters w "AND".toList = false := by
    have hall : ∀ w ∈ ["from".toList, "join".toList],
        sameLetters w "WHERE".toList = false ∧ sameLetters w "AND".toList = false := by decide
    exact hall w hw
  have hequations : Lacks w (e.text ++ Equation.othersText es) := by
    refine lacks_equations hne hwords.2 fun e' _ =>
      ⟨fun q _ => ?_, not_sameLetters_column hw, not_sameLetters_column hw⟩
    obtain ⟨k, hk, rfl⟩ := List.mem_map.mp hkey
    exact q.free k hk
  have hback := hequations.word_append hne (forall_of_all (t := "WHERE".toList) (by decide))
    (by decide) (forall_of_all (t := [' ']) (by decide)) hwords.1
  rw [comparing_eq_where, wordPlaces_append hne
    (forall_getLast? (getLast?_beforeWhere first others) (by decide)), hfront, hback, List.map_nil,
    List.append_nil]

/-- The tables of a list are found up to the first comma. -/
theorem mem_tableRefs_comparing (hparens : '(' ∉ comparing first others e es) {r : TableRef} :
    r ∈ tableRefs (comparing first others e es) ↔ r = ⟨[lower first.table.text],
      some (lower first.given.text), ⟨14, 14 + first.table.text.length⟩⟩ := by
  have hread : namedAt? (comparing first others e es) 14 = some ⟨[lower first.table.text],
      some (lower first.given.text), ⟨14, 14 + first.table.text.length⟩⟩ := by
    rw [comparing_eq_append]
    exact namedAt?_plain first.table first.given _ (nameEnds_afterFirst others e es)
  have htext : comparing first others e es = "SELECT 1 ".toList ++ ("FROM".toList ++
      ([' '] ++ (first.table.text ++ (' ' :: (first.given.text ++ afterFirst others e es))))) := by
    have hfront : "SELECT 1 FROM ".toList = "SELECT 1 ".toList ++ ("FROM".toList ++ [' ']) := by decide
    rw [comparing_eq_append, hfront, List.append_assoc, List.append_assoc]
  rw [mem_tableRefs_iff, maskCalls_of_not_mem hparens]
  constructor
  · rintro ⟨before, word, gap, after, hsplit, htable, -, hr⟩
    obtain ⟨name, hname, hplace⟩ := htable.mem_wordPlaces
    rw [← hsplit, wordPlaces_comparing first others e es hname] at hplace
    split at hplace
    · have hlength : before.length = "SELECT 1 ".toList.length := List.mem_singleton.mp hplace
      obtain ⟨-, hrest⟩ := List.append_inj (hsplit.symm.trans htext) hlength
      obtain ⟨-, hrest⟩ := List.append_inj hrest htable.isWord.length_eq
      obtain ⟨rfl, -⟩ := append_inj_of_run (p := isBlank) htable.gap_blank
        (List.forall_mem_singleton.mpr (by decide)) htable.after_solid first.table.head?_solid hrest
      have hposition : (before ++ (word ++ [' '])).length = 14 := by
        rw [List.length_append, List.length_append, hlength, htable.isWord.length_eq]
        rfl
      rw [hposition, hread] at hr
      exact (Option.some.inj hr).symm
    · exact absurd hplace List.not_mem_nil
  · rintro rfl
    refine ⟨_, _, _, _, htext, ⟨.inl (by decide), ?_, List.cons_ne_nil _ _, ?_, first.table.head?_solid⟩,
      fun hnot => ?_, hread⟩
    · exact forall_getLast? (c := ' ') (by decide) (by decide)
    · exact List.forall_mem_singleton.mpr (by decide)
    · have hends : EndsInDistinct ("SELECT 1 ".toList.take 9) := hnot.2
      exact absurd ((isSome_distinctBefore (by decide)).mpr hends) (by decide +kernel)

theorem mem_definedNames_comparing (hparens : '(' ∉ comparing first others e es) {x : Text} :
    x ∈ definedNames (comparing first others e es) ↔ x ∈ first.names := by
  rw [definedNames, List.mem_flatMap]
  constructor
  · rintro ⟨r, hr, hx⟩
    obtain rfl := (mem_tableRefs_comparing first others e es hparens).mp hr
    exact hx
  · intro hx
    exact ⟨_, (mem_tableRefs_comparing first others e es hparens).mpr rfl, hx⟩

/-- The WHERE that is found first is that of the selection. -/
theorem first?_whereKeyword : whereKeyword.first? (comparing first others e es)
    = some (wordMatch 5 (beforeWhere first others).length) := by
  have hwhere := isWordName "where"
  have hfront : wordPlaces "where".toList (beforeWhere first others) = [] :=
    lacks_beforeWhere first others (by decide) (by decide +kernel)
  have hback : wordPlaces "where".toList ("WHERE".toList ++ [' ']) = [0] := by decide +kernel
  rw [← Pattern.all_head?, whereKeyword, all_keyword hwhere, comparing_eq_where,
    wordPlaces_append (by decide) (forall_getLast? (getLast?_beforeWhere first others) (by decide)),
    hfront, ← List.append_assoc "WHERE".toList,
    wordPlaces_append (by decide) (forall_getLast? (c := ' ') (by decide) (by decide)), hback]
  rfl

theorem any_eq_of_forall₂ {α β : Type} {R : α → β → Prop} {f : α → Bool} {g : β → Bool} {as : List α}
    {bs : List β} (h : List.Forall₂ R as bs) (hfg : ∀ a b, R a b → f a = g b) : as.any f = bs.any g := by
  induction h with
  | nil => rfl
  | cons hab _ ih => rw [List.any_cons, List.any_cons, hfg _ _ hab, ih]

/-- Whether a qualifier of an equation names neither the table nor its alias. -/
def IsOuter (e : Equation) : Bool := e.qualifiers.any fun q => !first.names.contains (lower q.text)

theorem isCorrelated_comparing (hparens : '(' ∉ comparing first others e es) :
    isCorrelated (comparing first others e es) = (e :: es).any (IsOuter first) := by
  have hnames : ∀ x, (definedNames (comparing first others e es)).contains x = first.names.contains x := by
    intro x
    rw [Bool.eq_iff_iff, List.contains_iff_mem, List.contains_iff_mem,
      mem_definedNames_comparing first others e es hparens]
  have htext : comparing first others e es = (beforeWhere first others ++ "WHERE".toList) ++
      (' ' :: (e.text ++ Equation.othersText es)) := by
    rw [comparing_eq_where, List.append_assoc]
    rfl
  have hstop : (wordMatch 5 (beforeWhere first others).length).span.stop
      = (beforeWhere first others ++ "WHERE".toList).length := by
    rw [List.length_append]
    rfl
  have hdrop : (comparing first others e es).drop ((beforeWhere first others ++ "WHERE".toList).length + 1)
      = e.text ++ Equation.othersText es := by
    rw [htext, List.drop_length_add_append]
    rfl
  have hspace : ∀ d ∈ some ' ', isWord d = false := by simp; decide
  have hreads := reads_equations e es hspace hdrop (Nat.zero_le _)
  rw [isCorrelated, first?_whereKeyword]
  simp only
  rw [hstop, Pattern.allFrom, htext, Cursor.seek_append]
  simp only
  rw [Pattern.allAmong_cons_of_none matchAt?_of_blank, ← htext]
  refine any_eq_of_forall₂ hreads fun m e' h => ?_
  rw [isOuterEquation, IsOuter, Equation.qualifiers]
  simp only [List.any_cons, List.any_nil, h.1, h.2, hnames]

end Found

/-! ## The check -/

/-- A match is an opening parenthesis with no other in it. -/
theorem exists_of_subqueryOpen {c : Cursor} {m : Match} (h : subqueryOpen.matchAt? c = some m) :
    ∃ w, '(' :: w <+: c.rest ∧ '(' ∉ w ∧ m.span = ⟨c.position, c.position + (w.length + 1)⟩ := by
  have htakes := ((takes_sign (c := '(') (by decide) (by decide)).seq takes_gap).seq (takes_chars "select".toList)
  have hselect := isWordName "select"
  obtain ⟨q, hq, rfl⟩ := Pattern.exists_end_of_matchAt? h
  obtain ⟨r, hr, hedge⟩ := mem_ends_seq.mp hq
  obtain ⟨-, rfl⟩ := mem_ends_edge.mp hedge
  obtain ⟨_, ⟨_, word, rfl, ⟨_, gap, rfl, rfl, hgap⟩, hword⟩, hbegins, rfl⟩ := (htakes _ _).mp hr
  refine ⟨gap ++ word, by simpa using hbegins, fun hmem => ?_, ?_⟩
  · rcases List.mem_append.mp hmem with hmem | hmem
    · exact absurd (hgap _ hmem) (by decide)
    · exact absurd (hselect.isWord_of_sameLetters hword _ hmem) (by decide)
  · simp [Nat.add_comm]

theorem getElem?_of_subqueryOpen {t : Text} {m : Match} (h : m.Of subqueryOpen t) :
    t[m.span.start]? = some '(' := by
  obtain ⟨c, hc, hm⟩ := h
  obtain ⟨w, ⟨rest, hrest⟩, -, -⟩ := exists_of_subqueryOpen hm
  rw [Pattern.start_of_matchAt? hm, ← Nat.add_zero c.position, ← hc.getElem?_rest, ← hrest]
  rfl

theorem start_of_mem_subqueryOpen {front body after : Text} (hfront : '(' ∉ front) (hbody : '(' ∉ body ++ after)
    {m : Match} (h : m.Of subqueryOpen (front ++ '(' :: (body ++ after))) : m.span.start = front.length := by
  have hchar := getElem?_of_subqueryOpen h
  rcases Nat.lt_trichotomy m.span.start front.length with hlt | heq | hgt
  · rw [List.getElem?_append_left hlt] at hchar
    exact absurd (List.mem_of_getElem? hchar) hfront
  · exact heq
  · rw [List.getElem?_append_right (Nat.le_of_lt hgt), List.getElem?_cons,
      if_neg (Nat.sub_ne_zero_of_lt hgt)] at hchar
    exact absurd (List.mem_of_getElem? hchar) hbody

theorem findSome?_of_forall {α β : Type} {f : α → Option β} {v : Option β} {l : List α} (hne : l ≠ [])
    (h : ∀ a ∈ l, f a = v) : l.findSome? f = v := by
  induction l with
  | nil => exact absurd rfl hne
  | cons a l ih =>
    obtain ⟨ha, hl⟩ := List.forall_mem_cons.mp h
    rw [List.findSome?_cons, ha]
    cases v with
    | some x => rfl
    | none => exact List.findSome?_eq_none_iff.mpr hl

/-- Wherever a subquery opens one is found. -/
theorem exists_mem_subqueryOpen {t front rest : Text} (ht : t = front ++ '(' :: ("SELECT ".toList ++ rest)) :
    ∃ m ∈ subqueryOpen.all t, m.span.start = front.length := by
  let p : Progress := ⟨⟨front.getLast?, front.length, '(' :: ("SELECT ".toList ++ rest)⟩, []⟩
  have hselect : "SELECT".toList <+: (p.past ['(']).cursor.rest := ⟨' ' :: rest, rfl⟩
  have hmatch : (subqueryOpen.matchAt? p.cursor).isSome = true := by
    refine Pattern.isSome_matchAt?.mpr ⟨(p.past ['(']).past "SELECT".toList,
      mem_ends_seq.mpr ⟨(p.past ['(']).past "SELECT".toList, mem_ends_seq.mpr ⟨p.past ['('],
        mem_ends_seq.mpr ⟨p.past ['('], ?_, ?_⟩, ?_⟩, ?_⟩⟩
    · exact mem_ends_char.mpr ⟨'(', ⟨_, rfl⟩, by decide, rfl⟩
    · exact mem_ends_gap.mpr ⟨[], List.nil_prefix, by simp, (Progress.past_nil _).symm⟩
    · exact mem_ends_chars.mpr ⟨_, by decide, hselect, rfl⟩
    · exact mem_ends_edge.mpr ⟨show wordEdge (some 'T') (some ' ') = true by decide, rfl⟩
  obtain ⟨m, hm⟩ := Option.isSome_iff_exists.mp hmatch
  obtain ⟨m', hm', rfl | ⟨hlt, hgt⟩⟩ := Pattern.exists_mem_all (ht ▸ Cursor.inText_of_append _ _) hm
  · exact ⟨m', hm', Pattern.start_of_matchAt? hm⟩
  · obtain ⟨c, hc, hfound⟩ := Pattern.of_mem_all hm'
    obtain ⟨w, hbegins, hopen, hspan⟩ := exists_of_subqueryOpen hfound
    have hplace : p.cursor.position = front.length := rfl
    rw [hspan, hplace] at hlt hgt
    obtain ⟨k, hk⟩ : ∃ k, front.length = c.position + (k + 1) := ⟨front.length - c.position - 1, by simp only at hlt; omega⟩
    have hin : k < w.length := by simp only at hgt; omega
    have hchar : t[front.length]? = some '(' := by
      rw [ht, List.getElem?_append_right (Nat.le_refl _), Nat.sub_self]
      rfl
    rw [hk, ← hc.getElem?_rest, List.prefix_iff_getElem?.mp hbegins (k + 1) (Nat.succ_lt_succ hin),
      List.getElem_cons_succ] at hchar
    exact absurd (Option.some.inj hchar ▸ List.getElem_mem hin) hopen

/-- What stands before the subquery. -/
def existsHead : Text := "SELECT 1 FROM o WHERE EXISTS ".toList

theorem whereExists_eq (body : Text) : whereExists body = existsHead ++ '(' :: (body ++ [')']) := rfl

theorem opensDerivedTable_whereExists (body : Text) :
    opensDerivedTable (whereExists body) existsHead.length = false := by
  have hslice : (whereExists body).slice ⟨existsHead.length - derivedTableReach, existsHead.length⟩
      = "FROM o WHERE EXISTS ".toList := by
    rw [slice, whereExists_eq, List.take_left]
    decide
  rw [opensDerivedTable, hslice]
  decide +kernel

theorem closingParen?_whereExists {body : Text} (hitems : Items body) :
    closingParen? (whereExists body) existsHead.length = some (existsHead.length + body.length + 2) := by
  rw [whereExists_eq, closingParen?_front, closingFrom_items hitems (by decide), closingFrom_close,
    if_pos (by decide)]
  congr 1
  omega

theorem slice_whereExists (body : Text) :
    (whereExists body).slice ⟨existsHead.length + 1, existsHead.length + body.length + 2 - 1⟩ = body := by
  have hbegins : body <+: (whereExists body).drop (existsHead.length + 1) := by
    rw [whereExists_eq, List.drop_length_add_append]
    exact List.prefix_append _ _
  have hslice := slice_of_begins hbegins
  rwa [show existsHead.length + 1 + body.length = existsHead.length + body.length + 2 - 1 by omega]
    at hslice

/-- Of a query with one subquery it is that which is looked at. -/
theorem correlatedSubquery_whereExists {body : Text} (hselect : "SELECT ".toList <+: body)
    (hplain : Plain body) (hquotes : QuoteFree body) : correlatedSubquery (whereExists body)
      = if isCorrelated body then [correlatedSubqueryAdvice.located ⟨29, 31 + body.length⟩] else [] := by
  have hopen : '(' ∉ body := fun h => (hplain _ h).1 rfl
  have hlength : existsHead.length = 29 := by decide
  have hitems : Items body := by simpa using hplain.items_append hquotes .nil
  have hcorrelated : ∀ m ∈ subqueryOpen.all (whereExists body), correlated? (whereExists body) m
      = if isCorrelated body then some ⟨29, 31 + body.length⟩ else none := by
    intro m hm
    have hstart : m.span.start = existsHead.length :=
      start_of_mem_subqueryOpen (by decide) (by simp [hopen]) (Pattern.of_mem_all hm)
    have hstop : existsHead.length + body.length + 2 = 31 + body.length := by omega
    rw [correlated?, hstart, opensDerivedTable_whereExists, closingParen?_whereExists hitems]
    simp only [Bool.false_eq_true, if_false]
    rw [slice_whereExists, hstop, hlength]
  have hne : subqueryOpen.all (whereExists body) ≠ [] := by
    obtain ⟨rest, rfl⟩ := hselect
    have hopens : whereExists ("SELECT ".toList ++ rest)
        = existsHead ++ '(' :: ("SELECT ".toList ++ (rest ++ [')'])) := by
      rw [whereExists_eq, List.append_assoc]
    obtain ⟨m, hm, -⟩ := exists_mem_subqueryOpen hopens
    exact List.ne_nil_of_mem hm
  rw [correlatedSubquery, findSome?_of_forall hne hcorrelated]
  split <;> rfl

/-- What the characters of a list of tables and of equations are. -/
def isListed (c : Char) : Bool := isWord c || " ,.=".toList.contains c

theorem isListed_comparing (first : Listed) (others : List Listed) (e : Equation) (es : List Equation) :
    ∀ c ∈ comparing first others e es, isListed c = true := by
  have hword : ∀ {v : Text}, (∀ c ∈ v, isWord c = true) → ∀ c ∈ v, isListed c = true :=
    fun hv c hc => by simp [isListed, hv c hc]
  have hlisted : ∀ l : Listed, ∀ c ∈ l.text, isListed c = true := fun l =>
    List.forall_mem_append.mpr ⟨hword l.table.isWord,
      List.forall_mem_cons.mpr ⟨by decide, hword l.given.isWord⟩⟩
  have hqualified : ∀ (q : PlainName) (x : ColumnName), ∀ c ∈ qualified q x, isListed c = true := fun q x =>
    List.forall_mem_append.mpr ⟨hword q.isWord, List.forall_mem_cons.mpr ⟨by decide, hword x.isWord⟩⟩
  have hequation : ∀ e : Equation, ∀ c ∈ e.text, isListed c = true := fun e =>
    List.forall_mem_append.mpr ⟨hqualified _ _,
      List.forall_mem_append.mpr ⟨List.all_eq_true.mp (by decide), hqualified _ _⟩⟩
  rw [comparing_eq]
  refine List.forall_mem_append.mpr ⟨List.all_eq_true.mp (by decide), List.forall_mem_append.mpr
    ⟨hlisted first, List.forall_mem_append.mpr ⟨?_, List.forall_mem_append.mpr
      ⟨List.all_eq_true.mp (by decide), List.forall_mem_append.mpr ⟨hequation e, ?_⟩⟩⟩⟩⟩
  · intro c hc
    obtain ⟨l, -, hl⟩ := List.mem_flatMap.mp hc
    exact List.forall_mem_append.mpr ⟨List.all_eq_true.mp (by decide), hlisted l⟩ c hl
  · intro c hc
    obtain ⟨e', -, he'⟩ := List.mem_flatMap.mp hc
    exact List.forall_mem_append.mpr ⟨List.all_eq_true.mp (by decide), hequation e'⟩ c he'

/-- A subquery that reads a list of tables and compares columns is reported just if a qualifier names
neither the first table of the list nor its alias, be it one of the others. -/
theorem correlatedSubquery_comparing (first : Listed) (others : List Listed) (e : Equation)
    (es : List Equation) : correlatedSubquery (whereExists (comparing first others e es))
      = if ∀ e' ∈ e :: es, ∀ q ∈ e'.qualifiers, lower q.text ∈ first.names then []
        else [correlatedSubqueryAdvice.located ⟨29, 31 + (comparing first others e es).length⟩] := by
  have hsigns := fun c hc => noSign_of_class (p := isListed) (by decide)
    (isListed_comparing first others e es c hc)
  have hplain : Plain (comparing first others e es) := fun c hc => ⟨(hsigns c hc).2.1, (hsigns c hc).2.2.1⟩
  have hselect : "SELECT ".toList <+: comparing first others e es := by
    rw [comparing_eq]
    exact (List.prefix_append _ _).trans (List.prefix_append _ _)
  have houter : (e :: es).any (IsOuter first) = true
      ↔ ¬∀ e' ∈ e :: es, ∀ q ∈ e'.qualifiers, lower q.text ∈ first.names := by
    simp only [IsOuter, List.any_eq_true, Bool.not_eq_true', List.contains_eq_mem, decide_eq_false_iff_not,
      not_forall, exists_prop]
  rw [correlatedSubquery_whereExists hselect hplain fun c hc => (hsigns c hc).1,
    isCorrelated_comparing first others e es fun h => (hplain _ h).1 rfl]
  by_cases hall : ∀ e' ∈ e :: es, ∀ q ∈ e'.qualifiers, lower q.text ∈ first.names
  · rw [if_pos hall, if_neg fun h => houter.mp h hall]
  · rw [if_neg hall, if_pos (houter.mpr hall)]

def letter (c : Char) (hstart : nameStart.has false c = true)
    (hfree : ∀ k ∈ keywords, sameLetters k.toList [c] = false) : PlainName :=
  ⟨⟨c, [], hstart, fun _ h => nomatch h⟩, hfree⟩

def tableT : Listed := ⟨letter 't' (by decide) (by decide), letter 'a' (by decide) (by decide)⟩

def tableS : Listed := ⟨letter 's' (by decide) (by decide), letter 'b' (by decide) (by decide)⟩

def joiningEquation : Equation :=
  ⟨tableT.given, ⟨['x'], by decide, forall_of_all (by decide), by decide⟩,
    tableS.given, ⟨['y'], by decide, forall_of_all (by decide), by decide⟩⟩

/-- The second table of a list is taken for one of the query around. -/
theorem secondListed_reported :
    (∀ q ∈ joiningEquation.qualifiers, q.text ∈ [tableT, tableS].map fun l => l.given.text) ∧
    whereExists (comparing tableT [tableS] joiningEquation []) =
      "SELECT 1 FROM o WHERE EXISTS (SELECT 1 FROM t a, s b WHERE a.x = b.y)".toList ∧
    correlatedSubquery (whereExists (comparing tableT [tableS] joiningEquation [])) ≠ [] := by
  refine ⟨by decide, by decide, ?_⟩
  decide +kernel

end QueryLint.Checks

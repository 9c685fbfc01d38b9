import QueryLint.Proofs.Sql.TableWord

/-! Names without quotes that are no keyword, and what is read of them. Main statement: `namedAt?_plain`,
a table with an alias is read as it stands. -/
namespace QueryLint.Sql
set_option autoImplicit false
open Text Shape

/-! ## Plain names -/

def plainPart : CharSet := ⟨[.word], false⟩

/-- The words that the reading of a FROM clause knows. -/
def keywords : List String := "from" :: (notTables ++ notAliases)

/-- A name without quotes that is no keyword in any letter case. -/
structure PlainName where
  name : Name plainPart
  free : ∀ k ∈ keywords, sameLetters k.toList name.text = false

theorem nameStart_blind {c : Char} (h : nameStart.has false c = true) (blind : Bool) :
    nameStart.has blind c = true := by
  cases blind with
  | false => exact h
  | true =>
    have hcases : isLetter c = true ∨ '_' = c := by
      simpa [nameStart, CharSet.has, CharKind.has] using h
    rcases hcases with hletter | rfl
    · have hfold : isLetter (foldCase c) = true := by
        rw [foldCase_of_ascii (toNat_lt_of_isLetter hletter), isLetter_toLower, hletter]
      simp [nameStart, CharSet.has, CharKind.has, hfold]
    · decide

theorem columnPart_eq_false {c : Char} :
    columnPart.has false c = false ↔ Text.isWord c = false ∧ '$' ≠ c := by
  simp [columnPart, CharSet.has, CharKind.has]

theorem NameEnds.wordEnds {rest : Text} (h : NameEnds rest) : WordEnds rest :=
  fun c hc => (columnPart_eq_false.mp (h c hc)).1

theorem columnPart_blind {c : Char} (h : columnPart.has false c = false) (blind : Bool) :
    columnPart.has blind c = false := by
  cases blind with
  | false => exact h
  | true =>
    obtain ⟨hword, hdollar⟩ := columnPart_eq_false.mp h
    have hsame : sameLetter '$' c = false := by
      refine Bool.eq_false_iff.mpr fun hsame => hdollar ?_
      exact (eq_of_sameLetter (by decide) (by decide) hsame).symm
    simp [columnPart, CharSet.has, CharKind.has, hword, hsame]

namespace PlainName

variable (n : PlainName)

def text : Text := n.name.text

theorem isWord : ∀ c ∈ n.text, Text.isWord c = true := by
  intro c hc
  rcases List.mem_cons.mp hc with rfl | hc
  · exact isWord_of_nameStart n.name.first_has
  · simpa [plainPart, CharSet.has, CharKind.has] using n.name.others_has c hc

theorem not_mem {c : Char} (hc : Text.isWord c = false) : c ∉ n.text :=
  fun hmem => nomatch (n.isWord c hmem).symm.trans hc

theorem head?_solid {rest : Text} : ∀ c ∈ (n.text ++ rest).head?, isBlank c = false :=
  forall_head? (not_blank_of_isWord (n.isWord _ List.mem_cons_self))

end PlainName

/-- Keywords are written in small letters, so a name in lower case is none of them. -/
theorem PlainName.lower_ne (n : PlainName) {k : String} (hk : k ∈ keywords) :
    String.ofList (lower n.text) ≠ k := by
  rintro rfl
  have hsmall : ∀ k ∈ keywords,
      k.toList.all (fun c => decide (c.toNat < 0x80 ∧ foldCase c = c)) = true := by decide
  have hchars : ∀ c ∈ lower n.text, c.toNat < 0x80 ∧ foldCase c = c := by
    have hall := hsmall _ hk
    rw [String.toList_ofList] at hall
    exact forall_of_all hall
  have hfree := n.free _ hk
  rw [String.toList_ofList] at hfree
  exact nomatch (sameLetters_of_lower rfl hchars).symm.trans hfree

/-! ## Reading a name -/

section Reading

variable {blind : Bool} {p : Progress} {rest : Text}

theorem PlainName.prefers_plainName (n : PlainName) (hrest : p.cursor.rest = n.text ++ rest)
    (hstop : ∀ c ∈ rest.head?, Text.isWord c = false) : Prefers blind plainName p n.text := by
  have hset : ∀ c, CharSet.has blind plainPart c = Text.isWord c := by
    intro c
    simp [plainPart, CharSet.has, CharKind.has]
  have hfirst : Prefers blind (Shape.one nameStart) p [n.name.first] :=
    prefers_set hrest (nameStart_blind n.name.first_has blind)
  refine hfirst.seq (prefers_many (rest_past hrest) (fun c hc => ?_) fun c hc => ?_)
  · exact (hset c).trans (n.isWord c (List.mem_cons_of_mem _ hc))
  · exact (hset c).trans (hstop c hc)

theorem PlainName.prefers_identifier (n : PlainName) (hrest : p.cursor.rest = n.text ++ rest)
    (hstop : NameEnds rest) :
    Prefers blind identifier p n.text := by
  have hquoted : (char '"' ++ many1 (except "\"") ++ char '"').ends blind p = [] := by
    refine List.eq_nil_iff_forall_not_mem.mpr fun q hq => ?_
    obtain ⟨r, hr, -⟩ := mem_ends_seq.mp hq
    obtain ⟨r', hr', -⟩ := mem_ends_seq.mp hr
    obtain ⟨⟨after, hafter⟩, -⟩ := sign_taken (by decide) (by decide) hr'
    rw [hrest] at hafter
    exact n.not_mem (c := '"') (by decide) ((List.cons.inj hafter).1 ▸ List.mem_cons_self)
  have hbare : Prefers blind (of [.letter, .char '_'] ++ many0 (of [.word, .char '$'])) p n.text := by
    have hfirst : Prefers blind (Shape.one nameStart) p [n.name.first] :=
      prefers_set hrest (nameStart_blind n.name.first_has blind)
    refine hfirst.seq (prefers_many (rest_past hrest) (fun c hc => ?_) fun c hc => ?_)
    · have hword := n.isWord c (List.mem_cons_of_mem _ hc)
      simp [CharSet.has, CharKind.has, hword]
    · exact columnPart_blind (hstop c hc) blind
  rw [Prefers, identifier, ends, hquoted, List.nil_append]
  exact hbare

/-- Where a name without points ends the search for further parts ends too. -/
theorem PlainName.matchAt?_qualifiedName (n : PlainName) {c : Cursor}
    (hrest : c.rest = n.text ++ rest) (hstop : NameEnds rest)
    (hpoint : (rest.dropWhile isBlank).head? ≠ some '.') :
    qualifiedName.matchAt? c = some ⟨⟨c.position, c.position + n.text.length⟩, []⟩ := by
  have hname : Prefers false identifier ⟨c, []⟩ n.text := n.prefers_identifier hrest hstop
  have hothers : Prefers false (atMost 2 (gap ++ char '.' ++ gap ++ identifier))
      (Progress.past ⟨c, []⟩ n.text) [] := by
    refine prefers_optional_nil (ends_seq_eq_nil (ends_seq_eq_nil (ends_seq_eq_nil ?_)))
    refine ends_gap_char_eq_nil (by decide) ?_
    rwa [rest_past (p := ⟨c, []⟩) hrest]
  have hboth := hname.seq hothers
  rw [List.append_nil] at hboth
  exact Pattern.matchAt?_of_prefers hboth

/-- An alias that stands after one blank is read up to its end. -/
theorem PlainName.matchAt?_aliasAfter (n : PlainName) {c : Cursor}
    (hrest : c.rest = ' ' :: (n.text ++ rest))
    (hstop : NameEnds rest) :
    aliasAfter.matchAt? c = some ⟨⟨c.position, c.position + 1 + n.text.length⟩,
      [(1, ⟨c.position + 1, c.position + 1 + n.text.length⟩)]⟩ := by
  have hspace : Prefers true space ⟨c, []⟩ [' '] := by
    refine prefers_space hrest (List.cons_ne_nil _ _) ?_ n.head?_solid
    exact List.forall_mem_singleton.mpr (by decide)
  have hnext : (Progress.past ⟨c, []⟩ [' ']).cursor.rest = n.text ++ rest :=
    rest_past (p := ⟨c, []⟩) hrest
  -- AS is no part of the name, as it would be the whole of it.
  have has : (lit "as" ++ space).ends true (Progress.past ⟨c, []⟩ [' ']) = [] := by
    refine List.eq_nil_iff_forall_not_mem.mpr fun q hq => ?_
    obtain ⟨r, hr, hq⟩ := mem_ends_seq.mp hq
    obtain ⟨v, hv, ⟨after, hafter⟩, rfl⟩ := mem_ends_chars.mp hr
    obtain ⟨g, hne, hbegins, hblank, -⟩ := mem_ends_space.mp hq
    rw [rest_past hafter.symm] at hbegins
    have hvword : ∀ d ∈ v, Text.isWord d = true :=
      (isWordName "as").isWord_of_sameLetters hv
    have hends : WordEnds after := by
      obtain ⟨d, g, rfl⟩ := List.exists_cons_of_ne_nil hne
      obtain ⟨later, rfl⟩ := hbegins
      exact wordEnds_cons.mpr (isWord_of_isBlank (hblank d List.mem_cons_self))
    have hleading := leadingWord_append hvword hends
    rw [hafter, hnext, leadingWord_append n.isWord hstop.wordEnds] at hleading
    have hfree := n.free "as" (by decide)
    rw [show n.name.text = v from hleading] at hfree
    exact nomatch hfree.symm.trans hv
  have hoptional := (hspace.seq (prefers_optional_nil has))
  rw [List.append_nil] at hoptional
  have hname := head?_ends_group 1 (n.prefers_identifier hnext hstop : Prefers true identifier _ _)
  exact Pattern.matchAt?_of_head? (p := aliasAfter) (head?_ends_seq hoptional hname)

theorem PlainName.pieces_nameDot (n : PlainName) :
    (nameDot.pieces n.text).map plainIdentifier = [lower n.text] := by
  have hsolid : ∀ c ∈ n.text, isBlank c = false := fun c hc => not_blank_of_isWord (n.isWord c hc)
  rw [Sql.pieces_nameDot (fun c hc => hsolid c (List.mem_of_mem_head? hc))
      fun c hc => hsolid c (List.mem_of_getLast? hc),
    splitOn_of_not_mem (n.not_mem (by decide)), List.map_singleton, List.map_singleton, trim,
    trimBy_eq_self hsolid, plainIdentifier_bare (n.not_mem (by decide))]

theorem aliasAt?_plain (given : PlainName) (front : Text) (hstop : NameEnds rest) :
    aliasAt? (front ++ (' ' :: (given.text ++ rest))) front.length = some (lower given.text) := by
  have hslice : (front ++ (' ' :: (given.text ++ rest))).slice
      ⟨front.length + 1, front.length + 1 + given.text.length⟩ = given.text := by
    refine slice_of_begins ?_
    rw [List.drop_length_add_append]
    exact List.prefix_append _ _
  have hfree : String.ofList (lower given.text) ∉ notAliases :=
    fun hmem => given.lower_ne (List.mem_cons_of_mem _ (List.mem_append_right _ hmem)) rfl
  have hmatch := given.matchAt?_aliasAfter
    (c := ⟨front.getLast?, front.length, ' ' :: (given.text ++ rest)⟩) rfl hstop
  rw [aliasAt?, Cursor.seek_append, hmatch]
  simp only [Match.groupText, Match.group?, List.lookup_cons, beq_self_eq_true, Option.map_some,
    Option.getD_some, hslice, plainIdentifier_bare (given.not_mem (c := '"') (by decide))]
  rw [if_neg (by simpa using hfree)]

/-- A table and its alias are read as they stand. -/
theorem namedAt?_plain (table given : PlainName) (front : Text) (hstop : NameEnds rest) :
    namedAt? (front ++ (table.text ++ (' ' :: (given.text ++ rest)))) front.length
      = some ⟨[lower table.text], some (lower given.text),
          ⟨front.length, front.length + table.text.length⟩⟩ := by
  have hdrop : (' ' :: (given.text ++ rest)).dropWhile isBlank = given.text ++ rest := by
    rw [List.dropWhile_cons_of_pos (by decide)]
    exact dropWhile_eq_self given.head?_solid
  have hother : ∀ {d : Char}, Text.isWord d = false →
      ((' ' :: (given.text ++ rest)).dropWhile isBlank).head? ≠ some d := by
    intro d hd
    rw [hdrop]
    refine head?_ne ?_
    rintro rfl
    exact given.not_mem hd List.mem_cons_self
  have hname := table.matchAt?_qualifiedName
    (c := ⟨front.getLast?, front.length, table.text ++ (' ' :: (given.text ++ rest))⟩) rfl
    (forall_head? (by decide)) (hother (by decide))
  have hsplit : front ++ (table.text ++ (' ' :: (given.text ++ rest)))
      = (front ++ table.text) ++ (' ' :: (given.text ++ rest)) := (List.append_assoc _ _ _).symm
  have hparen : openParen.matchAt? (Cursor.seek (front ++ (table.text ++ (' ' :: (given.text ++ rest))))
      (front ++ table.text).length) = none := by
    rw [hsplit, Cursor.seek_append, Pattern.matchAt?_eq_head?]
    exact congrArg (fun ends => List.head? (List.map _ ends)) (ends_gap_char_eq_nil (by decide) (hother (by decide)))
  have hgiven : aliasAt? (front ++ (table.text ++ (' ' :: (given.text ++ rest))))
      (front ++ table.text).length = some (lower given.text) := by
    rw [hsplit]
    exact aliasAt?_plain given _ hstop
  have hslice : (front ++ (table.text ++ (' ' :: (given.text ++ rest)))).slice
      ⟨front.length, (front ++ table.text).length⟩ = table.text := by
    rw [List.length_append]
    exact slice_of_begins (by rw [List.drop_left]; exact List.prefix_append _ _)
  have hfree : String.ofList (lower table.text) ∉ notTables :=
    fun hmem => table.lower_ne (List.mem_cons_of_mem _ (List.mem_append_left _ hmem)) rfl
  rw [List.length_append] at hparen hgiven hslice
  unfold namedAt?
  rw [Cursor.seek_append, hname]
  simp only [hparen, Option.isSome_none, Bool.false_eq_true, if_false, Match.text, hslice,
    table.pieces_nameDot, hgiven]
  simp [hfree]

end Reading

end QueryLint.Sql

import QueryLint.Proofs.Checks.Correlation
import QueryLint.Proofs.Sql.Clause
import QueryLint.Proofs.Sql.TableLayout

/-! Subqueries after FROM. The check looks back a fixed number of characters for the word before a subquery,
so that a derived table is taken for a correlated subquery where much white space stands after its FROM. No
other subquery of the text is judged otherwise for that white space. Main statement:
`derivedTable_agree_iff`. -/
namespace QueryLint.Checks
set_option autoImplicit false
open Text Shape Sql Layout

/-! ## The word before a subquery -/

def tableWords : List String := ["from", "join", "as", "lateral", "materialized"]

/-- One of the words after which a subquery is a derived table. -/
def IsTableWord (w : Text) : Prop := ∃ name ∈ tableWords, sameLetters name.toList w = true

def EndsInTableWord (t : Text) : Prop := ∃ front word gap, WordEnding t front word gap ∧ IsTableWord word

theorem takes_anyOf (names : List String) :
    (anyOf names).Takes fun w => ∃ name ∈ names, sameLetters name.toList w = true := by
  intro p q
  rw [anyOf, mem_ends_oneOf]
  constructor
  · rintro ⟨s, hs, hq⟩
    obtain ⟨name, hname, rfl⟩ := List.mem_map.mp hs
    obtain ⟨w, hw⟩ := mem_ends_chars.mp hq
    exact ⟨w, ⟨name, hname, hw.1⟩, hw.2⟩
  · rintro ⟨w, ⟨name, hname, hsame⟩, hw⟩
    exact ⟨lit name, List.mem_map_of_mem hname, mem_ends_chars.mpr ⟨w, hsame, hw⟩⟩

theorem isWordName_tableWords {name : String} (hname : name ∈ tableWords) : IsWordName name.toList := by
  have hascii : ∀ name ∈ tableWords, IsAsciiName name.toList := by decide
  exact (hascii name hname).isWordName

theorem occursIn_derivedTablePrefix {t : Text} : derivedTablePrefix.occursIn t = true ↔ EndsInTableWord t := by
  have hmatch : ∀ {c : Cursor}, (derivedTablePrefix.matchAt? c).isSome = true ↔ ∃ word gap,
      c.rest = word ++ gap ∧ IsTableWord word ∧ (∀ d ∈ c.before, isWord d = false) ∧
        ∀ d ∈ gap, isBlank d = true :=
    isSome_matchAt?_lastWord (takes_anyOf tableWords)
      fun _ ⟨name, hname, hsame⟩ => ⟨_, isWordName_tableWords hname, hsame⟩
  rw [Pattern.occursIn]
  constructor
  · intro h
    obtain ⟨m, hm⟩ := Option.isSome_iff_exists.mp h
    obtain ⟨c, hc, hm⟩ := Pattern.of_first? hm
    obtain ⟨word, gap, hrest, hword, hbefore, hblank⟩ := hmatch.mp (by rw [hm]; rfl)
    obtain ⟨name, hname, hsame⟩ := id hword
    have hname := isWordName_tableWords hname
    refine ⟨t.take c.position, word, gap, ⟨?_, hname.ne_nil_of_sameLetters hsame,
      hname.isWord_of_sameLetters hsame, hc.before_eq ▸ hbefore, hblank⟩, hword⟩
    rw [← hrest, hc.rest_eq, List.take_append_drop]
  · rintro ⟨front, word, gap, h, hword⟩
    obtain ⟨m, hm⟩ := Option.isSome_iff_exists.mp (hmatch (c := ⟨front.getLast?, front.length, word ++ gap⟩).mpr
      ⟨word, gap, rfl, hword, h.alone, h.blank⟩)
    rw [h.text]
    exact Option.isSome_iff_exists.mpr
      (Pattern.exists_first?_of_matchAt? (Cursor.inText_of_append front (word ++ gap)) hm)

theorem endsInTableWord_append_open (u v : Text) :
    EndsInTableWord (u ++ '(' :: v) ↔ EndsInTableWord ('(' :: v) := by
  have hedge : (u.getLast?.any isWord && ('(' :: v).head?.any isWord) = false := by
    rw [List.head?_cons, Option.any_some, show isWord '(' = false by decide, Bool.and_false]
  exact exists_wordEnding_append hedge fun hall => absurd (hall '(' List.mem_cons_self) (by decide)

/-- After a parenthesis what stands before it does not matter. -/
theorem opensDerivedTable_after_open (u v : Text) (k : Nat) :
    opensDerivedTable (u ++ '(' :: v) (u.length + (k + 1)) = true ↔
      EndsInTableWord (('(' :: v.take k).drop (k + 1 - derivedTableReach)) := by
  rw [opensDerivedTable, occursIn_derivedTablePrefix, slice, List.take_length_add_append, List.take_succ_cons]
  simp only
  rcases Nat.le_total (k + 1) derivedTableReach with hle | hge
  · rw [List.drop_append_of_le_length (by omega), endsInTableWord_append_open, Nat.sub_eq_zero_of_le hle,
      List.drop_zero]
  · rw [Nat.add_sub_assoc hge, List.drop_length_add_append]

/-! ## A subquery after FROM -/

/-- A text in which a subquery follows a FROM. -/
def derivedTable (before gap rest : Text) : Text :=
  before ++ ("FROM".toList ++ (gap ++ ("(SELECT ".toList ++ rest)))

theorem derivedTable_eq (before gap rest : Text) :
    derivedTable before gap rest = (before ++ ("FROM".toList ++ gap)) ++ ("(SELECT ".toList ++ rest) := by
  simp only [derivedTable, List.append_assoc]

def openingOf (before gap : Text) : Nat := (before ++ ("FROM".toList ++ gap)).length

/-- Whether the subquery compares with a table of the query around it. -/
def comparesOuter (rest : Text) : Bool :=
  match closingParen? ("(SELECT ".toList ++ rest) 0 with
  | none => false
  | some stop => isCorrelated (Text.slice ("(SELECT ".toList ++ rest) ⟨1, stop - 1⟩)

def othersReported (before gap rest : Text) : Bool :=
  (subqueryOpen.all (derivedTable before gap rest)).any fun head =>
    head.span.start != openingOf before gap && (correlated? (derivedTable before gap rest) head).isSome

/-- What is left of FROM is none of the words, nor does it end in one. -/
theorem not_endsInTableWord_drop {gap : Text} (hgap : ∀ c ∈ gap, isBlank c = true) {k : Nat} (hk : 0 < k) :
    ¬EndsInTableWord ("FROM".toList.drop k ++ gap) := by
  rintro ⟨front, word, gap', h, name, hname, hsame⟩
  have hsolid : ∀ c ∈ "FROM".toList, isBlank c = false := forall_of_all (by decide)
  obtain ⟨hfrom, -⟩ := h.split (fun c hc => hsolid c (List.mem_of_mem_drop (List.mem_of_getLast? hc))) hgap
  obtain ⟨i, hi⟩ : ∃ i, k + front.length = i + 1 := ⟨k + front.length - 1, by omega⟩
  have hleft : word = "FROM".toList.drop (i + 1) := by
    rw [← hi, ← List.drop_drop, hfrom, List.drop_left]
  have hlt : i < 3 := by
    have hpos := List.length_pos_iff.mpr h.ne_nil
    rw [hleft, List.length_drop, show "FROM".toList.length = 4 from rfl] at hpos
    omega
  have hnone : ∀ name ∈ tableWords, ∀ i < 3, sameLetters name.toList ("FROM".toList.drop (i + 1)) = false := by
    decide
  rw [hleft, hnone name hname i hlt] at hsame
  exact Bool.noConfusion hsame

/-- FROM is seen just if at most sixteen blanks stand after it. -/
theorem opensDerivedTable_openingOf {before gap : Text} (hbefore : ∀ c ∈ before.getLast?, isBlank c = true)
    (hgap : ∀ c ∈ gap, isBlank c = true) (rest : Text) :
    opensDerivedTable (derivedTable before gap rest) (openingOf before gap) = true ↔ gap.length ≤ 16 := by
  have htake : (derivedTable before gap rest).take (openingOf before gap)
      = before ++ ("FROM".toList ++ gap) := by
    rw [derivedTable_eq, openingOf, List.take_left]
  have hlength : openingOf before gap = before.length + (4 + gap.length) := by
    simp only [openingOf, List.length_append]
    rfl
  rw [opensDerivedTable, occursIn_derivedTablePrefix, slice, htake]
  simp only [hlength, derivedTableReach]
  constructor
  · intro h
    refine Nat.le_of_not_lt fun hwide => ?_
    have hdrop : before.length + (4 + gap.length) - 20 = before.length + (gap.length - 16) := by omega
    rw [hdrop, List.drop_length_add_append, List.drop_append] at h
    exact not_endsInTableWord_drop (fun c hc => hgap c (List.mem_of_mem_drop hc)) (by omega) h
  · intro hnarrow
    rw [List.drop_append_of_le_length (by omega)]
    refine ⟨_, "FROM".toList, gap, ⟨rfl, List.cons_ne_nil _ _, forall_of_all (by decide), fun c hc => ?_, hgap⟩,
      "from", by decide, by decide⟩
    rw [List.getLast?_drop] at hc
    split at hc
    · cases hc
    · exact isWord_of_isBlank (hbefore c hc)

/-! ## What a subquery compares -/

section Relations

variable {α β : Type} {R : α → β → Prop}

theorem forall₂_toList {a : Option α} {b : Option β} (h : Option.Rel R a b) :
    List.Forall₂ R a.toList b.toList := by
  cases h with
  | none => exact .nil
  | some h => exact .cons h .nil

theorem rel_getLast? {as : List α} {bs : List β} (h : List.Forall₂ R as bs) :
    Option.Rel R as.getLast? bs.getLast? := by
  have hreverse := List.rel_reverse h
  rw [← List.head?_reverse, ← List.head?_reverse]
  generalize as.reverse = as' at hreverse ⊢
  generalize bs.reverse = bs' at hreverse ⊢
  cases hreverse with
  | nil => exact .none
  | cons h _ => exact .some h

end Relations

theorem definedNames_arranged {t t' : Text} (h : Arranged t t') :
    List.Forall₂ Alike (definedNames t) (definedNames t') := by
  rw [definedNames, definedNames]
  exact List.rel_flatMap (tableRefs_arranged h) fun r r' hr =>
    List.rel_append (forall₂_toList (rel_getLast? hr.parts)) (forall₂_toList hr.givenName)

theorem isOuterEquation_facing {l : Layout} {m m' : Match} (hsame : l.SameMatch m m')
    (hof : m.Of qualifiedEquality l.text) {names names' : List Text}
    (hnames : List.Forall₂ Alike names names') :
    isOuterEquation l.text names m = isOuterEquation l.text' names' m' := by
  have hbare : qualifiedEquality.shape.bareGroups qualifiedEquality.ignoreCase = true := by decide +kernel
  have hnumber : ∀ number, (!names.contains (lower (m.groupText l.text number)))
      = !names'.contains (lower (m'.groupText l.text' number)) := by
    intro number
    have hsolid := hof.groupText_solid hbare number
    have hany : (lower (m.groupText l.text number)).any isBlank = false := by
      rw [any_isBlank_lower, List.any_eq_false]
      exact fun c hc => by simp [hsolid c hc]
    rw [← (Respaced.alike (hsame.groupText hof number)).eq_of_solid hsolid, contains_alike hnames hany]
  simp only [isOuterEquation, hnumber]

/-- The white space after a FROM with a subquery does not change whether a text compares with another. -/
theorem isCorrelated_arranged {t t' : Text} (h : Arranged t t') : isCorrelated t = isCorrelated t' := by
  have hnames := definedNames_arranged h
  obtain ⟨l, rfl, rfl, -⟩ := h
  have hsteady : whereKeyword.steady = true := by decide +kernel
  have hrooted : whereKeyword.rooted = true := by decide +kernel
  have hequality : qualifiedEquality.steady = true := by decide +kernel
  have hequality' : qualifiedEquality.rooted = true := by decide +kernel
  rw [isCorrelated, isCorrelated]
  rcases rel_cases (first?_facing (l := l) hsteady hrooted) with ⟨hm, hm'⟩ | ⟨m, m', hm, hm', hsame⟩
  · rw [hm, hm']
  · have hall := allFrom_facing hequality hequality' hsame.span.stop (Pattern.of_first? hm).stop_le_length
    have hof : ∀ e ∈ qualifiedEquality.allFrom l.text m.span.stop, e.Of qualifiedEquality l.text := by
      intro e he
      obtain ⟨c, hc, he⟩ := Pattern.exists_of_mem_allAmong he
      exact ⟨c, ((Cursor.seek_inText _ _).onward hc).1, he⟩
    rw [hm, hm']
    exact any_eq_of_forall₂ ((List.forall₂_and_left _ _).mpr ⟨hof, hall⟩)
      fun e e' he => isOuterEquation_facing he.2 he.1 hnames

/-! ## The subqueries of two texts -/

section Facing

variable {l : Layout} (hselect : "(SELECT ".toList <+: l.back)

include hselect

theorem opensDerivedTable_facing {i i' : Nat} (h : l.Opposite i i') (hne : i ≠ l.stop) :
    opensDerivedTable l.text i = opensDerivedTable l.text' i' := by
  cases h with
  | left hle =>
    rw [opensDerivedTable, opensDerivedTable, slice, slice, take_left hle, take_left' hle]
  | right k =>
    cases k with
    | zero => exact absurd rfl hne
    | succ k =>
      obtain ⟨rest, hrest⟩ := hselect
      have hopens : ∀ m : Layout, m.back = l.back → (opensDerivedTable m.text (m.stop + (k + 1)) = true ↔
          EndsInTableWord (('(' :: ("SELECT ".toList ++ rest).take k).drop (k + 1 - derivedTableReach))) := by
        intro m hm
        have htext : m.text = (m.front ++ m.gap) ++ '(' :: ("SELECT ".toList ++ rest) := by
          rw [Layout.text, hm, ← hrest, List.append_assoc]
          rfl
        rw [htext, Layout.stop, ← List.length_append, opensDerivedTable_after_open]
      exact Bool.eq_iff_iff.mpr ((hopens l rfl).trans (hopens l.swap rfl).symm)

variable (hfrom : l.front.getLast? = some 'M')

include hfrom

/-- Subqueries at opposite places compare with the same tables. -/
theorem isCorrelated_body {i i' stop stop' : Nat} (h : l.Opposite i i') (hstop : l.Opposite stop stop')
    (hopen : l.text[i]? = some '(') (hclose : closingParen? l.text i = some stop) :
    isCorrelated (l.text.slice ⟨i + 1, stop - 1⟩) = isCorrelated (l.text'.slice ⟨i' + 1, stop' - 1⟩) := by
  have hlt := (closingParen?_bounds hclose).1
  obtain ⟨j, rfl⟩ : ∃ j, stop = j + 1 := ⟨stop - 1, by omega⟩
  have hlast : l.text[j]? = some ')' := by
    have hchar := closingFrom_last hclose
    rwa [List.getElem?_drop, Nat.add_sub_cancel, Nat.add_sub_cancel' (Nat.le_of_lt_succ hlt)] at hchar
  have hne : i ≠ j := by
    rintro rfl
    exact absurd (hopen.symm.trans hlast) (by decide)
  obtain ⟨j', rfl, hlastOpposite⟩ := hstop.pred hlast (by decide)
  have hspan : l.OppositeSpan ⟨i + 1, j⟩ ⟨i' + 1, j'⟩ := ⟨h.succ hopen (by decide), hlastOpposite⟩
  rw [Nat.add_sub_cancel, Nat.add_sub_cancel]
  rcases hspan.slice_cases (Nat.lt_of_le_of_ne (Nat.le_of_lt_succ hlt) hne) with
    hsame | ⟨k, hstart, hk, hslice, hslice'⟩
  · rw [hsame]
  · refine isCorrelated_arranged ⟨l.part (i + 1) k, hslice, hslice', .inr ⟨?_, ?_⟩⟩
    · show (l.front.drop (i + 1)).getLast?.or none = some 'M'
      simp only at hstart
      rw [List.getLast?_drop, if_neg, hfrom, Option.or_none]
      intro hle
      have hi : l.front.length - 1 = i := by omega
      rw [getElem?_left (by omega), ← hi, ← List.getLast?_eq_getElem?, hfrom] at hopen
      exact absurd hopen (by decide)
    · show "(SELECT ".toList <+: l.back.take k
      refine List.prefix_take_iff.mpr ⟨hselect, Nat.le_of_not_lt fun hlt => ?_⟩
      simp only at hk
      rw [hk, getElem?_right, List.prefix_iff_getElem?.mp hselect k hlt] at hlast
      have hmem : ')' ∈ "(SELECT ".toList := Option.some.inj hlast ▸ List.getElem_mem hlt
      exact absurd hmem (by decide)

/-- A subquery elsewhere is reported in both texts or in neither. -/
theorem correlated?_facing {m m' : Match} (hsame : l.SameMatch m m') (hof : m.Of subqueryOpen l.text)
    (hne : m.span.start ≠ l.stop) :
    (correlated? l.text m).isSome = (correlated? l.text' m').isSome := by
  rw [correlated?, correlated?, opensDerivedTable_facing hselect hsame.span.start hne]
  split
  · rfl
  · rcases rel_cases (closingParen?_opposite hsame.span.start) with
      ⟨hstop, hstop'⟩ | ⟨stop, stop', hstop, hstop', hopposite⟩
    · rw [hstop, hstop']
    · have hopen := getElem?_of_subqueryOpen hof
      have hbody := isCorrelated_body hselect hfrom hsame.span.start hopposite hopen hstop
      rw [hstop, hstop']
      simp only [hbody]
      split <;> rfl

end Facing

theorem othersReported_eq {before gap gap' : Text} (hne : gap ≠ []) (hne' : gap' ≠ [])
    (hgap : ∀ c ∈ gap, isBlank c = true) (hgap' : ∀ c ∈ gap', isBlank c = true) (rest : Text) :
    othersReported before gap rest = othersReported before gap' rest := by
  let l : Layout := ⟨before ++ "FROM".toList, gap, gap', "(SELECT ".toList ++ rest, hne, hne', hgap, hgap'⟩
  have htext : ∀ gap : Text, derivedTable before gap rest
      = (before ++ "FROM".toList) ++ (gap ++ ("(SELECT ".toList ++ rest)) := fun _ => (List.append_assoc ..).symm
  have hopening : ∀ gap : Text, openingOf before gap = (before ++ "FROM".toList).length + gap.length := by
    intro gap
    rw [openingOf, ← List.append_assoc, List.length_append]
  have hsteady : subqueryOpen.steady = true := by decide +kernel
  have hrooted : subqueryOpen.rooted = true := by decide +kernel
  have hselect : "(SELECT ".toList <+: l.back := List.prefix_append _ _
  have hfrom : l.front.getLast? = some 'M' := by
    rw [show l.front = before ++ "FROM".toList from rfl, List.getLast?_append]
    rfl
  have hall : List.Forall₂ (fun m m' => m.Of subqueryOpen l.text ∧ l.SameMatch m m') (subqueryOpen.all l.text)
      (subqueryOpen.all l.text') := (List.forall₂_and_left _ _).mpr
    ⟨fun m hm => Pattern.of_mem_all hm, all_facing hsteady hrooted⟩
  rw [othersReported, othersReported, htext, htext, hopening, hopening]
  refine any_eq_of_forall₂ hall fun m m' h => ?_
  obtain ⟨hof, hsame⟩ := h
  show (m.span.start != l.stop && (correlated? l.text m).isSome)
    = (m'.span.start != l.swap.stop && (correlated? l.text' m').isSome)
  by_cases hstart : m.span.start = l.stop
  · rw [bne_eq_false_iff_eq.mpr hstart, bne_eq_false_iff_eq.mpr (hsame.span.start.eq_stop_iff.mp hstart),
      Bool.false_and, Bool.false_and]
  · have hstart' : m'.span.start ≠ l.swap.stop := fun h => hstart (hsame.span.start.eq_stop_iff.mpr h)
    rw [bne_iff_ne.mpr hstart, bne_iff_ne.mpr hstart', correlated?_facing hselect hfrom hsame hof hstart]

/-! ## The subquery itself -/

section Itself

variable {before gap : Text} (hbefore : ∀ c ∈ before.getLast?, isBlank c = true)
    (hgap : ∀ c ∈ gap, isBlank c = true) (rest : Text)

include hbefore hgap

theorem correlated?_openingOf {head : Match} (hstart : head.span.start = openingOf before gap) :
    (correlated? (derivedTable before gap rest) head).isSome = true ↔
      16 < gap.length ∧ comparesOuter rest = true := by
  have hclose : closingParen? (derivedTable before gap rest) (openingOf before gap)
      = (closingParen? ("(SELECT ".toList ++ rest) 0).map (openingOf before gap + ·) := by
    rw [closingParen?, closingParen?, derivedTable_eq, openingOf, List.drop_left, List.drop_zero]
    exact closingFrom_shift (before ++ ("FROM".toList ++ gap)).length 0 ("(SELECT ".toList ++ rest)
  have hopens := opensDerivedTable_openingOf hbefore hgap rest
  rw [correlated?, hstart, hclose, comparesOuter]
  by_cases hnarrow : gap.length ≤ 16
  · rw [if_pos (hopens.mpr hnarrow)]
    exact iff_of_false Bool.false_ne_true fun h => Nat.not_lt_of_le hnarrow h.1
  · rw [if_neg (fun h => hnarrow (hopens.mp h))]
    cases hstop : closingParen? ("(SELECT ".toList ++ rest) 0 with
    | none => simp
    | some stop =>
      have hpos := (closingParen?_bounds hstop).1
      have hbody : (derivedTable before gap rest).slice
          ⟨openingOf before gap + 1, openingOf before gap + stop - 1⟩
            = Text.slice ("(SELECT ".toList ++ rest) ⟨1, stop - 1⟩ := by
        rw [derivedTable_eq, openingOf, Text.slice, Text.slice, Nat.add_sub_assoc hpos,
          List.take_length_add_append, List.drop_length_add_append]
      simp only [Option.map_some, hbody]
      split
      · rename_i hcorrelated
        exact iff_of_true rfl ⟨Nat.lt_of_not_le hnarrow, hcorrelated⟩
      · rename_i hcorrelated
        exact iff_of_false Bool.false_ne_true fun h => hcorrelated h.2

/-- The text is reported for another subquery, or for this one if its FROM is out of sight. -/
theorem reported_iff : correlatedSubquery (derivedTable before gap rest) ≠ [] ↔
    othersReported before gap rest = true ∨ (16 < gap.length ∧ comparesOuter rest = true) := by
  have hreported : correlatedSubquery (derivedTable before gap rest) ≠ [] ↔
      ∃ head ∈ subqueryOpen.all (derivedTable before gap rest),
        (correlated? (derivedTable before gap rest) head).isSome = true := by
    rw [correlatedSubquery, ← List.findSome?_isSome_iff, Option.isSome_iff_ne_none]
    exact not_congr (Option.toList_eq_nil_iff.trans Option.map_eq_none_iff)
  rw [hreported]
  constructor
  · rintro ⟨head, hmem, hhead⟩
    by_cases hstart : head.span.start = openingOf before gap
    · exact .inr ((correlated?_openingOf hbefore hgap rest hstart).mp hhead)
    · refine .inl (List.any_eq_true.mpr ⟨head, hmem, ?_⟩)
      rw [bne_iff_ne.mpr hstart, hhead, Bool.and_true]
  · rintro (hothers | hitself)
    · obtain ⟨head, hmem, hhead⟩ := List.any_eq_true.mp hothers
      rw [Bool.and_eq_true] at hhead
      exact ⟨head, hmem, hhead.2⟩
    · obtain ⟨head, hmem, hstart⟩ := exists_mem_subqueryOpen (derivedTable_eq before gap rest)
      exact ⟨head, hmem, (correlated?_openingOf hbefore hgap rest hstart).mpr hitself⟩

end Itself

/-! ## Two white spaces -/

/-- The white space after FROM makes no difference just if FROM is seen through both or through neither,
if the subquery compares with no table of the query around it, or if another subquery is reported anyway. -/
theorem derivedTable_agree_iff {before gap gap' : Text} (hbefore : ∀ c ∈ before.getLast?, isBlank c = true)
    (hne : gap ≠ []) (hne' : gap' ≠ []) (hgap : ∀ c ∈ gap, isBlank c = true)
    (hgap' : ∀ c ∈ gap', isBlank c = true) (rest : Text) :
    (correlatedSubquery (derivedTable before gap rest) ≠ [] ↔
        correlatedSubquery (derivedTable before gap' rest) ≠ []) ↔
      (16 < gap.length ↔ 16 < gap'.length) ∨ comparesOuter rest = false ∨
        othersReported before gap rest = true := by
  rw [reported_iff hbefore hgap, reported_iff hbefore hgap', ← othersReported_eq hne hne' hgap hgap']
  cases othersReported before gap rest <;> cases comparesOuter rest <;> simp

def outerComparison : Text := "1 FROM t WHERE t.x = o.y)".toList

/-- A line break and an indentation of fifteen blanks are no more than a blank. -/
theorem indented_agree : (∀ c ∈ "SELECT 1 ".toList.getLast?, isBlank c = true) ∧
    (∀ c ∈ [' '], isBlank c = true) ∧ (∀ c ∈ '\n' :: blanks 15, isBlank c = true) ∧
    (correlatedSubquery (derivedTable "SELECT 1 ".toList [' '] outerComparison) ≠ [] ↔
      correlatedSubquery (derivedTable "SELECT 1 ".toList ('\n' :: blanks 15) outerComparison) ≠ []) := by
  have hbefore : ∀ c ∈ "SELECT 1 ".toList.getLast?, isBlank c = true := forall_getLast? (c := ' ') rfl rfl
  have hgap : ∀ c ∈ [' '], isBlank c = true := List.forall_mem_singleton.mpr rfl
  have hgap' : ∀ c ∈ '\n' :: blanks 15, isBlank c = true := List.forall_mem_cons.mpr ⟨rfl, blanks_blank 15⟩
  exact ⟨hbefore, hgap, hgap', (derivedTable_agree_iff hbefore (List.cons_ne_nil _ _) (List.cons_ne_nil _ _)
    hgap hgap' outerComparison).mpr (.inl (by decide))⟩

theorem seventeenBlanks_reported :
    (∀ c ∈ "SELECT 1 ".toList.getLast?, isBlank c = true) ∧ (∀ c ∈ blanks 17, isBlank c = true) ∧
      correlatedSubquery (derivedTable "SELECT 1 ".toList [' '] outerComparison) = [] ∧
      correlatedSubquery (derivedTable "SELECT 1 ".toList (blanks 17) outerComparison) ≠ [] := by
  refine ⟨forall_getLast? (c := ' ') rfl rfl, blanks_blank 17, ?_, ?_⟩
  · decide +kernel
  · decide +kernel

end QueryLint.Checks

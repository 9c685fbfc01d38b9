import Mathlib.Data.List.Chain
import QueryLint.Proofs.Sql.Call
import QueryLint.Proofs.Sql.Cast
import QueryLint.Proofs.Sql.PlainForm

/-! The plain form of a selection of casts, for every list of columns and types. A cast goes as a whole,
unless its type has a precision and an array marker as well; the steps after that have nothing to
rewrite in a selection. Main statement: `plainForm_selectFrom`. -/
namespace QueryLint.Sql
set_option autoImplicit false
open Text Shape

/-! ## Selections of casts -/

/-- What a column's name goes on with. -/
def columnPart : CharSet := ⟨[.word, .char '$'], false⟩

/-- A column and the type to which it is cast. -/
structure CastColumn where
  column : Name columnPart
  type : CastType

def CastColumn.text (c : CastColumn) : Text := c.column.text ++ ("::".toList ++ c.type.text)

/-- The column with what is left of its cast. -/
def CastColumn.uncast (c : CastColumn) : Text := c.column.text ++ c.type.left

def selectFrom (items : List Text) : Text :=
  "SELECT ".toList ++ (List.intercalate ", ".toList items ++ " FROM t".toList)

def otherItems (items : List Text) : Text :=
  items.flatMap (", ".toList ++ ·) ++ " FROM t".toList

theorem selectFrom_nil : selectFrom [] = "SELECT ".toList ++ " FROM t".toList := by
  unfold selectFrom
  rw [List.intercalate_nil, List.nil_append (" FROM t".toList)]

theorem intercalate_cons (separator item : Text) (items : List Text) :
    List.intercalate separator (item :: items) = item ++ items.flatMap (separator ++ ·) := by
  induction items generalizing item with
  | nil => rw [List.intercalate_singleton, List.flatMap_nil, List.append_nil]
  | cons next items ih =>
    rw [List.intercalate_cons_cons, ih, List.flatMap_cons, List.append_assoc, List.append_assoc]

theorem selectFrom_cons (item : Text) (items : List Text) :
    selectFrom (item :: items) = "SELECT ".toList ++ (item ++ otherItems items) := by
  unfold selectFrom
  rw [intercalate_cons, otherItems, List.append_assoc item]

theorem otherItems_cons (item : Text) (items : List Text) :
    otherItems (item :: items) = ", ".toList ++ (item ++ otherItems items) := by
  rw [otherItems, List.flatMap_cons, List.append_assoc, List.append_assoc, otherItems]

/-! ## Characters of names -/

theorem isWord_of_nameStart {c : Char} (h : nameStart.has false c = true) : isWord c = true := by
  have hcases : isLetter c = true ∨ '_' = c := by
    simpa [nameStart, CharSet.has, CharKind.has] using h
  rcases hcases with hletter | rfl
  · exact isWord_of_isLetter hletter
  · decide

theorem Name.word_or_dollar (name : Name columnPart) {c : Char} (h : c ∈ name.text) :
    isWord c = true ∨ '$' = c := by
  rcases List.mem_cons.mp h with rfl | h
  · exact .inl (isWord_of_nameStart name.first_has)
  · simpa [columnPart, CharSet.has, CharKind.has] using name.others_has c h

theorem Name.not_mem (name : Name columnPart) {c : Char} (hword : isWord c = false) (hc : c ≠ '$') :
    c ∉ name.text := by
  intro h
  rcases name.word_or_dollar h with h | h
  · exact nomatch h.symm.trans hword
  · exact hc h.symm

/-! ## Leaving the casts out -/

theorem apart_otherItems (items : List Text) : Apart (otherItems items) := by
  cases items with
  | nil => exact ⟨forall_head? (by decide), by decide, by decide⟩
  | cons item items =>
    have hcomma : (otherItems (item :: items)).dropWhile isBlank = otherItems (item :: items) :=
      List.dropWhile_cons_of_neg (by decide)
    refine ⟨forall_head? (by decide), head?_ne (by decide), ?_⟩
    rw [hcomma]
    exact head?_ne (by decide)

namespace Uncasts

variable {rest made : Text}

theorem column (c : CastColumn) (hrest : Apart rest) (h : Uncasts rest made) :
    Uncasts (c.text ++ rest) (c.uncast ++ made) := by
  have hcolumn : ':' ∉ c.column.text := c.column.not_mem (by decide) (by decide)
  have hcast := (h.cast c.type hrest).keep hcolumn
  simpa only [CastColumn.text, CastColumn.uncast, List.append_assoc] using hcast

/-- The casts are left out one by one, by induction on the columns. -/
theorem otherColumns (columns : List CastColumn) :
    Uncasts (otherItems (columns.map CastColumn.text))
      (otherItems (columns.map CastColumn.uncast)) := by
  induction columns with
  | nil => exact nil.keep (u := " FROM t".toList) (by decide)
  | cons c columns ih =>
    rw [List.map_cons, List.map_cons, otherItems_cons, otherItems_cons]
    exact (ih.column c (apart_otherItems _)).keep (u := ", ".toList) (by decide)

theorem selection (columns : List CastColumn) :
    Uncasts (selectFrom (columns.map CastColumn.text))
      (selectFrom (columns.map CastColumn.uncast)) := by
  cases columns with
  | nil => exact nil.keep (u := "SELECT  FROM t".toList) (by decide)
  | cons c columns =>
    rw [List.map_cons, List.map_cons, selectFrom_cons, selectFrom_cons]
    exact ((otherColumns columns).column c (apart_otherItems _)).keep (u := "SELECT ".toList) (by decide)

end Uncasts

theorem uncast_selectFrom (columns : List CastColumn) :
    uncast (selectFrom (columns.map CastColumn.text)) = selectFrom (columns.map CastColumn.uncast) :=
  (Uncasts.selection columns none).replaceAll_eq

/-! ## Texts without parentheses -/

theorem called_of_not_mem {sql : Text} (h : '(' ∉ uncast sql) : called sql = uncast sql := by
  rw [called]
  generalize uncast sql = t at h
  induction placeholders with
  | nil => rfl
  | cons entry entries ih =>
    have hentry : replaceCalls entry.1.toList entry.2.toList t = t := replaceCalls_of_not_mem h
    rw [List.foldl_cons]
    simp only [hentry]
    exact ih

theorem unpivoted_of_not_mem {sql : Text} (h : '(' ∉ called sql) : unpivoted sql = called sql := by
  refine Pattern.replaceAll_of_noMatch fun c hc => ?_
  exact Pattern.matchAt?_of_not_needed (x := '(') (by decide) rfl (by decide) h hc

/-! ## Selections have no clause to unpivot -/

/-- Where a clause to unpivot begins, the letters of UNPIVOT come next, white space, a table, white
space again, and the letters of ON. -/
theorem exists_of_unpivotClause {c : Cursor} {m : Match} (h : unpivotClause.matchAt? c = some m) :
    ∃ word gap table gap' on, word ++ gap ++ table ++ gap' ++ on <+: c.rest ∧
      sameLetters "UNPIVOT".toList word = true ∧ sameLetters "ON".toList on = true ∧
      gap ≠ [] ∧ (∀ d ∈ gap, isBlank d = true) ∧ gap' ≠ [] ∧ (∀ d ∈ gap', isBlank d = true) := by
  obtain ⟨q, hq, -⟩ := Pattern.exists_end_of_matchAt? h
  obtain ⟨r₈, h₈, -⟩ := mem_ends_seq.mp hq
  obtain ⟨r₇, h₇, -⟩ := mem_ends_seq.mp h₈
  obtain ⟨r₆, h₆, -⟩ := mem_ends_seq.mp h₇
  obtain ⟨r₅, h₅, hon⟩ := mem_ends_seq.mp h₆
  obtain ⟨r₄, h₄, hgap'⟩ := mem_ends_seq.mp h₅
  obtain ⟨r₃, h₃, htable⟩ := mem_ends_seq.mp h₄
  obtain ⟨r₂, h₂, hgap⟩ := mem_ends_seq.mp h₃
  obtain ⟨r₁, hedge, hword⟩ := mem_ends_seq.mp h₂
  obtain ⟨-, rfl⟩ := mem_ends_edge.mp hedge
  obtain ⟨word, hletters, hwordIn, rfl⟩ := mem_ends_chars.mp hword
  obtain ⟨gap, hne, hgapIn, hblank, rfl⟩ := mem_ends_space.mp hgap
  obtain ⟨table, htableIn, htablePast⟩ := ends_past htable
  obtain ⟨gap', hne', hgapIn', hblank', rfl⟩ := mem_ends_space.mp hgap'
  obtain ⟨on, honLetters, honIn, -⟩ := mem_ends_chars.mp hon
  rw [Progress.past_cursor, htablePast] at honIn
  rw [htablePast] at hgapIn'
  have hfirst := (prefix_drop_iff hwordIn).mp hgapIn
  simp only [Progress.past_cursor, Cursor.past_past, Cursor.past_rest] at htableIn hgapIn' honIn
  have hsecond := (prefix_drop_iff hfirst).mp htableIn
  have hthird := (prefix_drop_iff hsecond).mp hgapIn'
  exact ⟨word, gap, table, gap', on, (prefix_drop_iff hthird).mp honIn, hletters, honLetters, hne,
    hblank, hne', hblank'⟩

/-- Every white space comes right after a comma. -/
def Spaced (t : Text) : Prop := ∀ x, List.IsChain (fun y z => isBlank z = true → y = ',') (x :: t)

theorem Spaced.item {item rest : Text} (hitem : ∀ c ∈ item, isBlank c = false) (h : Spaced rest) :
    Spaced (item ++ rest) := by
  induction item with
  | nil => exact h
  | cons c item ih =>
    obtain ⟨hc, hitem⟩ := List.forall_mem_cons.mp hitem
    exact fun x => List.isChain_cons_cons.mpr
      ⟨fun hblank => absurd (hblank.symm.trans hc) (by decide), ih hitem c⟩

theorem spaced_intercalate {items : List Text} (h : ∀ item ∈ items, ∀ c ∈ item, isBlank c = false) :
    Spaced (List.intercalate ", ".toList items) := by
  have hothers : ∀ others ⊆ items, Spaced (others.flatMap (", ".toList ++ ·)) := by
    intro others hsub
    induction others with
    | nil => exact fun x => List.isChain_singleton x
    | cons item others ih =>
      obtain ⟨hitem, hsub⟩ := List.cons_subset.mp hsub
      intro x
      have hlater := (ih hsub).item (h item hitem) ' '
      rw [List.flatMap_cons, List.append_assoc]
      exact List.isChain_cons_cons.mpr ⟨fun hblank => absurd hblank (by decide),
        List.isChain_cons_cons.mpr ⟨fun _ => rfl, hlater⟩⟩
  cases items with
  | nil => exact fun x => List.isChain_singleton x
  | cons item items =>
    rw [intercalate_cons]
    exact (hothers items (List.subset_cons_self _ _)).item (h item List.mem_cons_self)

/-- UNPIVOT and white space after it do not end before the last item does. -/
theorem Spaced.not_unpivot {items before word after : Text} {c : Char} (h : Spaced items)
    (hword : sameLetters "UNPIVOT".toList word = true) (hblank : isBlank c = true) :
    "SELECT ".toList ++ items ≠ before ++ word ++ c :: after := by
  intro heq
  obtain ⟨last, hlast, hfold⟩ : ∃ last, word.getLast? = some last ∧ foldCase 'T' = foldCase last := by
    have hmap := congrArg List.getLast? (sameLetters_iff.mp hword)
    rw [List.getLast?_map, List.getLast?_map] at hmap
    obtain ⟨last, hlast, hfold⟩ := Option.map_eq_some_iff.mp hmap.symm
    exact ⟨last, hlast, hfold.symm⟩
  obtain ⟨letters, rfl⟩ := List.getLast?_eq_some_iff.mp hlast
  have hsix : 6 ≤ (before ++ letters).length := by
    have hseven : 7 = (letters ++ [last]).length := length_eq_of_sameLetters hword
    simp only [List.length_append, List.length_singleton] at hseven ⊢
    omega
  have hcut : ' ' :: items = (before ++ letters).drop 6 ++ last :: c :: after := by
    have hdrop := congrArg (List.drop 6) heq
    rw [← List.append_assoc, List.append_assoc, List.drop_append_of_le_length hsix] at hdrop
    exact hdrop
  have hchain := (List.isChain_append.mp (hcut ▸ h ' ')).2.1
  obtain rfl : last = ',' := (List.isChain_cons_cons.mp hchain).1 hblank
  exact absurd hfold (by decide)

/-- After the last item there are no two gaps with two letters behind them. -/
theorem from_ne {before gap table gap' after : Text} (hgap : gap ≠ []) (hgap' : gap' ≠ [])
    (hblank : ∀ c ∈ gap', isBlank c = true) (hafter : 2 ≤ after.length) :
    " FROM t".toList ≠ before ++ (gap ++ (table ++ (gap' ++ after))) := by
  intro heq
  obtain ⟨b, gap', rfl⟩ := List.exists_cons_of_ne_nil hgap'
  have hinside : ∀ i < 5, i ≠ 0 → " FROM t".toList[i]?.map isBlank = some false := by decide
  have hsplit : " FROM t".toList = before ++ gap ++ table ++ b :: (gap' ++ after) := by
    simpa only [List.append_assoc, List.cons_append] using heq
  have hlength : 7 = (before ++ gap ++ table ++ b :: (gap' ++ after)).length :=
    congrArg List.length hsplit
  have hpositive := List.length_pos_iff.mpr hgap
  have hat : " FROM t".toList[(before ++ gap ++ table).length]? = some b := by
    rw [hsplit, List.getElem?_append_right (Nat.le_refl _), Nat.sub_self]
    rfl
  simp only [List.length_append, List.length_cons] at hlength
  have hnot := hinside (before ++ gap ++ table).length (by simp only [List.length_append]; omega)
    (by simp only [List.length_append]; omega)
  rw [hat, Option.map_some, hblank b List.mem_cons_self] at hnot
  exact absurd hnot (by decide)

theorem not_unpivotClause {items : List Text} (h : ∀ item ∈ items, ∀ c ∈ item, isBlank c = false)
    {c : Cursor} (hc : c.InText (selectFrom items)) : unpivotClause.matchAt? c = none := by
  cases hm : unpivotClause.matchAt? c with
  | none => rfl
  | some m =>
    obtain ⟨word, gap, table, gap', on, ⟨after, hafter⟩, hword, hon, hgap, hblank, hgap', hblank'⟩ :=
      exists_of_unpivotClause hm
    have htext := List.take_append_drop c.position (selectFrom items)
    rw [← hc.rest_eq, ← hafter] at htext
    have hsplit : ("SELECT ".toList ++ List.intercalate ", ".toList items) ++ " FROM t".toList
        = ((selectFrom items).take c.position ++ word) ++
          (gap ++ (table ++ (gap' ++ (on ++ after)))) := by
      refine (List.append_assoc ..).trans (htext.symm.trans ?_)
      simp only [List.append_assoc]
    have htwo : 2 ≤ (on ++ after).length := by
      have hlength : 2 = on.length := length_eq_of_sameLetters hon
      rw [List.length_append]
      omega
    have hend : ∀ between, " FROM t".toList ≠ between ++ (gap ++ (table ++ (gap' ++ (on ++ after)))) :=
      fun _ => from_ne hgap hgap' hblank' htwo
    -- The gap after UNPIVOT begins behind the items or among them.
    rcases List.append_eq_append_iff.mp hsplit with ⟨between, -, hfrom⟩ | ⟨between, hfront, hfrom⟩
    · exact absurd hfrom (hend between)
    · cases between with
      | nil => exact absurd hfrom.symm (hend [])
      | cons b between =>
        obtain ⟨d, gap, rfl⟩ := List.exists_cons_of_ne_nil hgap
        obtain ⟨rfl, -⟩ := List.cons.inj hfrom
        exact absurd hfront ((spaced_intercalate h).not_unpivot hword (hblank d List.mem_cons_self))

/-! ## The plain form of a selection -/

theorem mem_selectFrom {items : List Text} {c : Char} (h : c ∈ selectFrom items) :
    c ∈ "SELECT , FROM t".toList ∨ ∃ item ∈ items, c ∈ item := by
  have hselect : "SELECT ".toList ⊆ "SELECT , FROM t".toList := by decide
  have hcomma : ", ".toList ⊆ "SELECT , FROM t".toList := by decide
  have hfrom : " FROM t".toList ⊆ "SELECT , FROM t".toList := by decide
  cases items with
  | nil =>
    rw [selectFrom_nil] at h
    exact .inl ((List.mem_append.mp h).elim (hselect ·) (hfrom ·))
  | cons item items =>
    rw [selectFrom_cons, otherItems] at h
    simp only [List.mem_append, List.mem_flatMap] at h
    rcases h with h | h | ⟨other, hother, h | h⟩ | h
    · exact .inl (hselect h)
    · exact .inr ⟨item, List.mem_cons_self, h⟩
    · exact .inl (hcomma h)
    · exact .inr ⟨other, List.mem_cons_of_mem item hother, h⟩
    · exact .inl (hfrom h)

theorem subset_selectFrom {items : List Text} {item : Text} (h : item ∈ items) :
    item ⊆ selectFrom items := by
  cases items with
  | nil => exact absurd h List.not_mem_nil
  | cons first items =>
    intro c hc
    rw [selectFrom_cons, otherItems]
    simp only [List.mem_append, List.mem_flatMap]
    rcases List.mem_cons.mp h with rfl | h
    · exact .inr (.inl hc)
    · exact .inr (.inr (.inl ⟨item, h, .inr hc⟩))

theorem CastColumn.isBlank_uncast (c : CastColumn) {d : Char} (h : d ∈ c.uncast) :
    isBlank d = false := by
  have hmarker : "[]".toList.all (fun d => !isBlank d) = true := by decide
  rcases List.mem_append.mp h with h | h
  · cases hblank : isBlank d with
    | false => rfl
    | true =>
      refine absurd h (c.column.not_mem (isWord_of_isBlank hblank) ?_)
      rintro rfl
      exact absurd hblank (by decide)
  · simpa using List.all_eq_true.mp hmarker d (c.type.left_subset h)

theorem paren_not_mem_selectFrom (columns : List CastColumn) :
    '(' ∉ selectFrom (columns.map CastColumn.uncast) := by
  intro h
  rcases mem_selectFrom h with h | ⟨item, hitem, h⟩
  · exact absurd h (by decide)
  · obtain ⟨c, -, rfl⟩ := List.mem_map.mp hitem
    rcases List.mem_append.mp h with h | h
    · exact c.column.not_mem (by decide) (by decide) h
    · exact absurd (c.type.left_subset h) (by decide)

/-- No other step than the first has anything to rewrite. -/
theorem plainForm_eq_uncast (columns : List CastColumn) :
    plainForm (selectFrom (columns.map CastColumn.text))
      = selectFrom (columns.map CastColumn.uncast) := by
  have huncast := uncast_selectFrom columns
  have hparen := paren_not_mem_selectFrom columns
  have hcalled := called_of_not_mem (huncast ▸ hparen)
  have hunpivoted := unpivoted_of_not_mem (hcalled.trans huncast ▸ hparen)
  rw [plainForm_eq, hunpivoted, hcalled, huncast]
  refine Pattern.replaceAll_of_noMatch fun c hc => not_unpivotClause (fun item hitem d hd => ?_) hc
  obtain ⟨column, -, rfl⟩ := List.mem_map.mp hitem
  exact column.isBlank_uncast hd

/-- What is left of a cast shows in the selection. -/
theorem selectFrom_uncast_eq_iff (columns : List CastColumn) :
    selectFrom (columns.map CastColumn.uncast) = selectFrom (columns.map fun c => c.column.text) ↔
      ∀ c ∈ columns, c.type.left = [] := by
  constructor
  · intro heq c hc
    rw [c.type.left_eq]
    split
    · rename_i hboth
      have hbracket : '[' ∈ selectFrom (columns.map CastColumn.uncast) := by
        refine subset_selectFrom (List.mem_map_of_mem hc) (List.mem_append_right _ ?_)
        rw [c.type.left_eq, if_pos hboth]
        decide
      rw [heq] at hbracket
      rcases mem_selectFrom hbracket with h | ⟨item, hitem, h⟩
      · exact absurd h (by decide)
      · obtain ⟨d, -, rfl⟩ := List.mem_map.mp hitem
        exact absurd h (d.column.not_mem (by decide) (by decide))
    · rfl
  · intro h
    have hitems : columns.map CastColumn.uncast = columns.map fun c => c.column.text := by
      refine List.map_congr_left fun c hc => ?_
      rw [CastColumn.uncast, h c hc, List.append_nil]
    rw [hitems]

/-- In the plain form of a selection of casts, only the array marker of a type with a precision is left
of a cast. So nothing is left just if no type has both. -/
theorem plainForm_selectFrom (columns : List CastColumn) :
    plainForm (selectFrom (columns.map CastColumn.text))
      = selectFrom (columns.map CastColumn.uncast) ∧
    (plainForm (selectFrom (columns.map CastColumn.text))
        = selectFrom (columns.map fun c => c.column.text) ↔
      ∀ c ∈ columns, ¬(c.type.precision.isSome = true ∧ c.type.isArray = true)) := by
  have hplain := plainForm_eq_uncast columns
  refine ⟨hplain, ?_⟩
  rw [hplain, selectFrom_uncast_eq_iff]
  refine forall₂_congr fun c _ => ?_
  rw [c.type.left_eq]
  simp

/-- A cast of one column to a type with a precision and an array marker. -/
def preciseArray : CastColumn where
  column := ⟨'a', [], nameStart_a, no_others⟩
  type := {
    name := ⟨'D', "ECIMAL".toList, by decide, List.all_eq_true.mp (by decide)⟩
    precision := some ⟨⟨'1', ['0'], List.all_eq_true.mp (by decide)⟩,
      some ⟨'2', [], List.all_eq_true.mp (by decide)⟩⟩
    isArray := true }

theorem preciseArray_left :
    selectFrom [preciseArray.text] = "SELECT a::DECIMAL(10,2)[] FROM t".toList ∧
      plainForm (selectFrom [preciseArray.text]) = "SELECT a[] FROM t".toList ∧
      plainForm (selectFrom [preciseArray.text]) ≠ selectFrom [preciseArray.column.text] := by
  have hplain : plainForm (selectFrom [preciseArray.text]) = "SELECT a[] FROM t".toList := by
    decide +kernel
  refine ⟨by decide +kernel, hplain, ?_⟩
  rw [hplain]
  decide +kernel

end QueryLint.Sql

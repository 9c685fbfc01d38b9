import QueryLint.Checks.Filter
import QueryLint.Proofs.Pattern.Leftmost
import QueryLint.Proofs.Sql.Keyword
import QueryLint.Proofs.Sql.Literal
import QueryLint.Proofs.Sql.Rewriting

/-! Long lists of values. A list of literals is read by three readers, each with quotes of its own: one
looks for the parenthesis that closes the list, one cuts it at its commas, and one looks at each item. They
agree on every literal, so the list is found as a whole and all its values are counted. Main statement:
`largeInList_counts`. -/
namespace QueryLint.Checks
set_option autoImplicit false
open Text Sql

/-! ## Lists of literals -/

structure ListItem where
  before : Text
  literal : Literal
  after : Text
  before_blank : ∀ c ∈ before, isBlank c = true
  after_blank : ∀ c ∈ after, isBlank c = true

namespace ListItem

def text (item : ListItem) : Text := item.before ++ item.literal.text ++ item.after

theorem flat (item : ListItem) : Flat item.text :=
  ((Flat.of_blank item.before_blank).append item.literal.flat).append (.of_blank item.after_blank)

theorem fits (item : ListItem) : literalItem.fits item.text = true :=
  literalItem_fits.mpr ⟨_, _, _, rfl, item.before_blank, item.after_blank⟩

end ListItem

def listText (items : List ListItem) : Text := List.intercalate [','] (items.map ListItem.text)

def inList (items : List ListItem) : Text := "IN (".toList ++ (listText items ++ [')'])

theorem listText_cons_cons (item next : ListItem) (items : List ListItem) :
    listText (item :: next :: items) = item.text ++ (',' :: listText (next :: items)) := by
  rw [listText, List.map_cons, List.map_cons, List.intercalate_cons_cons, List.append_assoc]
  rfl

theorem items_listText (items : List ListItem) : Items (listText items) := by
  induction items with
  | nil => exact .nil
  | cons item items ih =>
    cases items with
    | nil =>
      rw [listText, List.map_cons, List.map_nil, List.intercalate_singleton, ← List.append_nil item.text]
      exact item.flat.items_append .nil
    | cons next items =>
      rw [listText_cons_cons]
      exact item.flat.items_append (.plain rfl (by decide) (by decide) ih)

/-- The commas between the items are all the commas at which the list is cut. -/
theorem splitTopLevel_listText (item : ListItem) (items : List ListItem) :
    splitTopLevel (· == ',') (listText (item :: items)) = (item :: items).map ListItem.text := by
  induction items generalizing item with
  | nil =>
    have hend := item.flat.splitFrom_append [] []
    rw [List.append_nil, List.append_nil] at hend
    rw [listText, List.map_cons, List.map_nil, List.intercalate_singleton, splitTopLevel, hend, splitFrom,
      List.reverse_reverse]
  | cons next items ih =>
    rw [listText_cons_cons, splitTopLevel, item.flat.splitFrom_append, splitFrom_comma, List.append_nil,
      List.reverse_reverse, List.map_cons, ← ih next]
    rfl

theorem literalCount_listText {items : List ListItem} (h : items ≠ []) :
    literalCount (listText items) = items.length := by
  obtain ⟨item, items, rfl⟩ := List.exists_cons_of_ne_nil h
  rw [literalCount, splitTopLevel_listText, List.filter_eq_self.mpr, List.length_map]
  exact List.forall_mem_map.mpr fun item _ => item.fits

/-! ## The first IN -/

def LacksIn (t : Text) : Prop :=
  ∀ before head after, t = before ++ (head ++ after) → ¬IsHead "in".toList before.getLast? head

theorem lacksIn_of_not_mem {t : Text} (h : '(' ∉ t) : LacksIn t := by
  rintro before _ after rfl ⟨word, gap, rfl, -⟩
  exact h (by simp)

theorem isHead_in {before : Option Char} (hbefore : ∀ c ∈ before, isBlank c = true) :
    IsHead "in".toList before "IN (".toList := by
  refine ⟨"IN".toList, [' '], rfl, by decide, by simp [isBlank], ?_⟩
  have hplain : before.any isWord = false := any_isWord_eq_false.mpr fun c hc => isWord_of_isBlank (hbefore c hc)
  rw [wordEdge, hplain]
  rfl

/-- After white space, no opening of an IN list begins in a text that has none. -/
theorem LacksIn.not_before {p v : Text} (hlacks : LacksIn p) (hp : ∀ c ∈ p.getLast?, isBlank c = true)
    (hv : ∀ c ∈ v.head?, isDelimiter c = false) {c : Cursor} (hc : c.InText (p ++ v)) {head : Text}
    (hhead : IsHead "in".toList c.before head) (hbegins : head <+: c.rest) : p.length ≤ c.position := by
  refine Nat.le_of_not_lt fun hlt => ?_
  rw [hc.before_eq, List.take_append_of_le_length (Nat.le_of_lt hlt)] at hhead
  rw [hc.rest_eq, List.drop_append_of_le_length (Nat.le_of_lt hlt)] at hbegins
  have hlast : ∀ d ∈ (p.drop c.position).getLast?, isBlank d = true := by
    rw [List.getLast?_drop, if_neg (Nat.not_le_of_lt hlt)]
    exact hp
  obtain ⟨after, hafter⟩ :=
    hhead.within_left (by decide) hbegins (List.drop_eq_nil_iff.not.mpr (Nat.not_le_of_lt hlt)) hlast hv
  exact hlacks _ head after (by rw [hafter, List.take_append_drop]) hhead

/-- The list is the first one that is found. -/
theorem all_inListOpen {p : Text} (hp : ∀ c ∈ p.getLast?, isBlank c = true) (hlacks : LacksIn p) (rest : Text) :
    ∃ m others, inListOpen.all (p ++ ("IN (".toList ++ rest)) = m :: others ∧
      m.span = ⟨p.length, p.length + 4⟩ := by
  have hhead := isHead_in hp
  have hplace := Cursor.inText_of_append p ("IN (".toList ++ rest)
  obtain ⟨m', hm', -⟩ := matchAt?_callHead (c := ⟨_, _, _⟩) hhead (List.prefix_append _ rest)
  obtain ⟨m, hfirst⟩ := Pattern.exists_first?_of_matchAt? (p := inListOpen) hplace hm'
  have hle := Pattern.start_le_of_first? hfirst hplace (Option.isSome_iff_exists.mpr ⟨m', hm'⟩)
  obtain ⟨c, hc, hm⟩ := Pattern.of_first? hfirst
  obtain ⟨head, hisHead, hbegins, hspan⟩ := exists_isHead_of_matchAt? hm
  rw [hspan] at hle
  have hnext : ∀ d ∈ ("IN (".toList ++ rest).head?, isDelimiter d = false := by
    intro d hd
    obtain rfl : 'I' = d := Option.some.inj hd
    decide
  have hposition : c.position = p.length :=
    Nat.le_antisymm hle (hlacks.not_before hp hnext hc hisHead hbegins)
  have hrest : c.rest = "IN (".toList ++ rest := by rw [hc.rest_eq, hposition, List.drop_left]
  obtain rfl := hisHead.unique hhead hbegins (hrest ▸ List.prefix_append _ rest)
  rw [← Pattern.all_head?] at hfirst
  obtain ⟨others, hothers⟩ := List.head?_eq_some_iff.mp hfirst
  exact ⟨m, others, hothers, by rw [hspan, hposition]; rfl⟩

/-! ## The finding -/

theorem length_inList (items : List ListItem) : (inList items).length = (listText items).length + 5 := by
  simp only [inList, List.length_append, List.length_singleton]
  exact Nat.add_comm 4 _

theorem closingParen?_inList (p : Text) (items : List ListItem) (q : Text) :
    closingParen? (p ++ (inList items ++ q)) (p.length + 3) = some (p.length + (inList items).length) := by
  have hgroup : Group ('(' :: (listText items ++ [')'])) := ⟨_, items_listText items, rfl⟩
  have hbegins : '(' :: (listText items ++ [')']) <+: (p ++ (inList items ++ q)).drop (p.length + 3) :=
    ⟨q, by rw [List.drop_length_add_append]; rfl⟩
  rw [closingParen?_of_group hgroup hbegins, length_inList, List.length_cons, List.length_append,
    List.length_singleton]
  congr 1
  omega

theorem slice_inList (p : Text) (items : List ListItem) (q : Text) :
    (p ++ (inList items ++ q)).slice ⟨p.length + 4, p.length + (inList items).length - 1⟩ = listText items := by
  have hbegins : listText items <+: (p ++ (inList items ++ q)).drop (p.length + 4) :=
    ⟨')' :: q, by
      rw [List.drop_length_add_append, inList, List.append_assoc, List.append_assoc]
      rfl⟩
  have hstop : p.length + (inList items).length - 1 = p.length + 4 + (listText items).length := by
    rw [length_inList]
    omega
  rw [hstop, Text.slice_of_begins hbegins]

/-- A list of fifty literals or more is reported with the number of its values, from its IN to its closing
parenthesis, whatever its quoted texts contain and whatever follows it. -/
theorem largeInList_counts {p : Text} (hp : ∀ c ∈ p.getLast?, isBlank c = true) (hlacks : LacksIn p)
    {items : List ListItem} (hmany : 50 ≤ items.length) (q : Text) :
    ∃ f, largeInList (p ++ (inList items ++ q)) = [f] ∧
      f = (largeInListAdvice items.length).located ⟨p.length, p.length + (inList items).length⟩ ∧
      f.title = s!"Large IN list ({items.length} values)" ∧
      f.offset = some ⟨p.length, p.length + (inList items).length⟩ := by
  refine ⟨_, ?_, rfl, rfl, rfl⟩
  have hne : items ≠ [] := by
    rintro rfl
    exact absurd hmany (by decide)
  obtain ⟨m, others, hall, hspan⟩ := all_inListOpen hp hlacks (listText items ++ [')'] ++ q)
  rw [← List.append_assoc "IN (".toList, ← inList] at hall
  have hfound : largeList? (p ++ (inList items ++ q)) m = some
      ((largeInListAdvice items.length).located ⟨p.length, p.length + (inList items).length⟩) := by
    simp only [largeList?, hspan]
    rw [show p.length + 4 - 1 = p.length + 3 by omega, closingParen?_inList]
    simp only [slice_inList, literalCount_listText hne]
    exact if_pos hmany
  rw [largeInList, hall, List.findSome?_cons, hfound]
  rfl

/-- A value that looks like a list itself, with a quote of each kind. -/
def listLikeItem : ListItem where
  before := [' ', ' ']
  literal := .quoted "it's \"IN (1, 2".toList
  after := ['\t']
  before_blank := by simp [isBlank]
  after_blank := by simp [isBlank]

theorem largeInList_listLikeItems :
    (∀ c ∈ "SELECT 1 WHERE x ".toList.getLast?, isBlank c = true) ∧ LacksIn "SELECT 1 WHERE x ".toList ∧
      ∃ f, largeInList ("SELECT 1 WHERE x ".toList ++
          (inList (List.replicate 60 listLikeItem) ++ " OR x = ')'".toList)) = [f] ∧
        f.title = "Large IN list (60 values)" := by
  have hblank : ∀ c ∈ "SELECT 1 WHERE x ".toList.getLast?, isBlank c = true :=
    @forall_getLast? _ _ ' ' rfl rfl
  have hlacks : LacksIn "SELECT 1 WHERE x ".toList := lacksIn_of_not_mem (by decide)
  have hmany : 50 ≤ (List.replicate 60 listLikeItem).length := by
    rw [List.length_replicate]
    decide
  obtain ⟨f, hf, -, htitle, -⟩ := largeInList_counts hblank hlacks hmany " OR x = ')'".toList
  exact ⟨hblank, hlacks, f, hf, by rw [htitle, List.length_replicate]; rfl⟩

end QueryLint.Checks

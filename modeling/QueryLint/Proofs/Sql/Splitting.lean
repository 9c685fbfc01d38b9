import Mathlib.Data.List.Basic
import QueryLint.Proofs.Sql.Group
import QueryLint.Proofs.Sql.Parted

/-! A text split at the separators that stand outside quotes and parentheses. A closing parenthesis
without an opening one counts as nothing here, so the depth is a number; the scan for a closing
parenthesis goes below, which inside a matched pair never happens. Main statement:
`splitTopLevel_pieces`, the pieces make up the text, none can be split again, each but the last leaves
nothing open, and the text with its nested parts blanked is split at the same places. -/
namespace QueryLint.Sql
set_option autoImplicit false
open Text

/-! ## What a text leaves open -/

/-- The open quote and the number of open parentheses at a place. -/
structure Nesting where
  quote : Option Char
  depth : Nat
deriving DecidableEq

namespace Nesting

def ground : Nesting := ⟨none, 0⟩

/-- After one more character. A closing parenthesis with none open changes nothing. -/
def after (s : Nesting) (c : Char) : Nesting where
  quote := quoteAfter s.quote c
  depth :=
    if isBare s.quote c then
      if c = '(' then s.depth + 1 else if c = ')' then s.depth - 1 else s.depth
    else s.depth

/-- What the blanked text has in place of a character: the character if no parenthesis is open before it
or none after it. -/
def shown (s : Nesting) (c : Char) : Char := if s.depth = 0 ∨ (s.after c).depth = 0 then c else ' '

section After

variable {quote : Option Char} {depth : Nat} {c : Char}

theorem after_open : (mk none depth).after '(' = ⟨none, depth + 1⟩ := rfl

theorem after_close : (mk none depth).after ')' = ⟨none, depth - 1⟩ := rfl

theorem after_plain (hquote : isQuote c = false) (hopen : c ≠ '(') (hclose : c ≠ ')') :
    (mk none depth).after c = ⟨none, depth⟩ := by
  simp [after, quoteAfter, hquote, hopen, hclose]

theorem after_hidden (h : ¬isBare quote c = true) : (mk quote depth).after c = ⟨quoteAfter quote c, depth⟩ := by
  simp [after, h]

end After

end Nesting

/-- What a text leaves open. -/
def nesting (t : Text) : Nesting := t.foldl Nesting.after .ground

def Separates (c : Char) : Prop := isQuote c = false ∧ c ≠ '(' ∧ c ≠ ')'

instance (c : Char) : Decidable (Separates c) := inferInstanceAs (Decidable (_ ∧ _))

theorem Separates.after_ground {c : Char} (h : Separates c) : Nesting.ground.after c = .ground :=
  Nesting.after_plain h.1 h.2.1 h.2.2

/-! ## The three scans, one character at a time -/

section Scans

variable {s : Nesting} {c sep : Char} {rest : Text}

theorem Nesting.not_ground_of_hidden {quote : Option Char} {depth : Nat} (hsep : Separates c)
    (h : ¬isBare quote c = true) : mk quote depth ≠ ground := by
  intro hground
  obtain ⟨rfl, -⟩ := Nesting.mk.inj hground
  exact h (by simp [isBare, hsep.1])

/-- A piece ends at a separator where nothing is open. -/
theorem splitFrom_cons (hsep : Separates sep) (piece : Text) :
    splitFrom (· == sep) s.depth s.quote piece (c :: rest)
      = if s = .ground ∧ c = sep then piece.reverse :: splitTopLevel (· == sep) rest
        else splitFrom (· == sep) (s.after c).depth (s.after c).quote (c :: piece) rest := by
  obtain ⟨quote, depth⟩ := s
  rw [splitFrom, splitTopLevel]
  cases charCase quote c with
  | hidden hhidden =>
    have hgo : ¬(Nesting.mk quote depth = .ground ∧ c = sep) := by
      rintro ⟨hground, rfl⟩
      exact Nesting.not_ground_of_hidden hsep hhidden hground
    rw [if_neg hhidden, if_neg hgo, Nesting.after_hidden hhidden]
  | opening =>
    have hgo : ¬(Nesting.mk none depth = .ground ∧ '(' = sep) := fun h => hsep.2.1 h.2.symm
    rw [if_neg hgo]
    rfl
  | closing =>
    have hgo : ¬(Nesting.mk none depth = .ground ∧ ')' = sep) := fun h => hsep.2.2 h.2.symm
    rw [if_neg hgo]
    rfl
  | plain hquote hopen hclose =>
    have hends : ((c == sep) && decide (depth = 0)) = true ↔ Nesting.mk none depth = .ground ∧ c = sep := by
      simp [Nesting.ground, and_comm]
    simp only [isBare, hquote, Option.isNone_none, Bool.not_false, Bool.and_self, if_true, beq_iff_eq, hopen,
      hclose, if_false, hends, Nesting.after_plain hquote hopen hclose]

theorem topLevelFrom_cons_nesting :
    topLevelFrom s.depth s.quote (c :: rest)
      = s.shown c :: topLevelFrom (s.after c).depth (s.after c).quote rest := by
  obtain ⟨quote, depth⟩ := s
  rw [topLevelFrom, Nesting.shown]
  cases charCase quote c with
  | hidden hhidden => simp [hhidden, Nesting.after_hidden hhidden]
  | opening => simp [isBare, isQuote, Nesting.after_open]
  | closing =>
    have hle : (depth = 0 ∨ depth - 1 = 0) ↔ depth ≤ 1 := by omega
    simp [isBare, isQuote, Nesting.after_close, hle]
  | plain hquote hopen hclose =>
    simp [isBare, hquote, hopen, hclose, Nesting.after_plain hquote hopen hclose]

theorem closingFrom_cons_nesting (position : Nat) :
    closingFrom (s.depth + 1 : Nat) s.quote position (c :: rest)
      = if s = .ground ∧ c = ')' then some (position + 1)
        else closingFrom ((s.after c).depth + 1 : Nat) (s.after c).quote (position + 1) rest := by
  obtain ⟨quote, depth⟩ := s
  cases charCase quote c with
  | hidden hhidden =>
    have hgo : ¬(Nesting.mk quote depth = .ground ∧ c = ')') := by
      rintro ⟨hground, rfl⟩
      obtain ⟨rfl, -⟩ := Nesting.mk.inj hground
      exact hhidden rfl
    rw [closingFrom, if_neg hhidden, if_neg hgo, Nesting.after_hidden hhidden]
  | opening =>
    have hgo : ¬(Nesting.mk none depth = .ground ∧ '(' = ')') := fun h => absurd h.2 (by decide)
    rw [if_neg hgo, closingFrom_open]
    rfl
  | closing =>
    rw [closingFrom_close]
    cases depth with
    | zero => rfl
    | succ depth =>
      have hgo : ¬(Nesting.mk none (depth + 1) = .ground ∧ ')' = ')') := fun h =>
        absurd (congrArg Nesting.depth h.1) (Nat.succ_ne_zero depth)
      have hlevel : ((depth + 1 + 1 : Nat) : Int) - 1 = (depth + 1 : Nat) := by omega
      rw [if_neg hgo, hlevel, if_neg (by omega)]
      rfl
  | plain hquote hopen hclose =>
    rw [closingFrom_plain hquote hopen hclose, if_neg fun h => hclose h.2,
      Nesting.after_plain hquote hopen hclose]

end Scans

/-! ## Pieces -/

/-- A text without a separator where nothing is open. -/
def Whole (sep : Char) (t : Text) : Prop := ∀ u v, t = u ++ sep :: v → nesting u ≠ .ground

/-- The text from a separator to the next, as often as nothing is open at one: a piece that leaves
nothing open and a separator come before the rest, and the last piece goes to the end. -/
inductive Pieces (sep : Char) : Text → List Text → Prop
  | last {piece : Text} (h : Whole sep piece) : Pieces sep piece [piece]
  | cons {piece rest : Text} {pieces : List Text} (h : Whole sep piece)
      (hclosed : nesting piece = .ground) (others : Pieces sep rest pieces) :
      Pieces sep (piece ++ sep :: rest) (piece :: pieces)

theorem whole_nil (sep : Char) : Whole sep [] := fun u v h => by simp at h

theorem Whole.concat {sep c : Char} {t : Text} (h : Whole sep t)
    (hc : ¬(nesting t = .ground ∧ c = sep)) : Whole sep (t ++ [c]) := by
  intro u v hsplit
  rcases List.eq_nil_or_concat v with rfl | ⟨v, d, rfl⟩
  · obtain ⟨rfl, hlast⟩ := List.append_inj' hsplit rfl
    exact fun hground => hc ⟨hground, List.head_eq_of_cons_eq hlast⟩
  · rw [List.concat_eq_append, ← List.cons_append, ← List.append_assoc] at hsplit
    exact h u v (List.append_inj' hsplit rfl).1

theorem pieces_splitFrom {sep : Char} (hsep : Separates sep) {piece : Text} (h : Whole sep piece.reverse) (t : Text) :
    Pieces sep (piece.reverse ++ t) (splitFrom (· == sep) (nesting piece.reverse).depth
      (nesting piece.reverse).quote piece t) := by
  -- What the scan keeps up: no separator in the present piece ends it, and what it leaves open is the state.
  induction t generalizing piece with
  | nil =>
    rw [List.append_nil]
    exact .last h
  | cons c rest ih =>
    rw [splitFrom_cons hsep]
    split
    · rename_i hends
      obtain ⟨hclosed, rfl⟩ := hends
      exact .cons h hclosed (@ih [] (whole_nil c))
    · rename_i hgo
      have hwhole : Whole sep (c :: piece).reverse := by
        rw [List.reverse_cons]
        exact h.concat hgo
      have hnext := ih hwhole
      rwa [List.reverse_cons, List.append_assoc, nesting, List.foldl_append] at hnext

theorem pieces_splitTopLevel {sep : Char} (hsep : Separates sep) (t : Text) :
    Pieces sep t (splitTopLevel (· == sep) t) := @pieces_splitFrom sep hsep [] (whole_nil sep) t

namespace Pieces

variable {sep : Char} {t : Text} {pieces : List Text}

theorem ne_nil (h : Pieces sep t pieces) : pieces ≠ [] := by
  cases h <;> exact List.cons_ne_nil _ _

theorem intercalate (h : Pieces sep t pieces) : List.intercalate [sep] pieces = t := by
  induction h with
  | last => exact List.intercalate_singleton
  | cons _ _ others ih =>
    rw [List.intercalate_cons_of_ne_nil others.ne_nil, ih, List.append_assoc, List.singleton_append]

theorem whole (h : Pieces sep t pieces) : ∀ p ∈ pieces, Whole sep p := by
  induction h with
  | last hpiece => exact List.forall_mem_singleton.mpr hpiece
  | cons hpiece _ _ ih => exact List.forall_mem_cons.mpr ⟨hpiece, ih⟩

theorem closed (h : Pieces sep t pieces) : ∀ p ∈ pieces.dropLast, nesting p = .ground := by
  induction h with
  | last => exact List.forall_mem_nil _
  | cons _ hclosed others ih =>
    rw [List.dropLast_cons_of_ne_nil others.ne_nil]
    exact List.forall_mem_cons.mpr ⟨hclosed, ih⟩

theorem eq_singleton (h : Pieces sep t pieces) (ht : Whole sep t) : pieces = [t] := by
  cases h with
  | last => rfl
  | cons _ hclosed _ => exact absurd hclosed (ht _ _ rfl)

end Pieces

theorem splitTopLevel_whole {sep : Char} (hsep : Separates sep) {t : Text} (h : Whole sep t) :
    splitTopLevel (· == sep) t = [t] := (pieces_splitTopLevel hsep t).eq_singleton h

/-! ## Pieces between parentheses -/

/-- The scan for a closing parenthesis within an open one ends in the front part of a text, or it goes on
after it with what is open there. -/
theorem closingFrom_append (s : Nesting) (position : Nat) (t rest : Text) :
    closingFrom (s.depth + 1 : Nat) s.quote position (t ++ rest)
      = (closingFrom (s.depth + 1 : Nat) s.quote position t).or
        (closingFrom ((t.foldl Nesting.after s).depth + 1 : Nat) (t.foldl Nesting.after s).quote
          (position + t.length) rest) := by
  induction t generalizing s position with
  | nil => rfl
  | cons c t ih =>
    rw [List.cons_append, closingFrom_cons_nesting, closingFrom_cons_nesting, ih]
    split
    · rfl
    · rw [List.foldl_cons, List.length_cons, Nat.add_assoc, Nat.add_comm 1]

theorem closingFrom_one_append (position : Nat) (t rest : Text) :
    closingFrom 1 none position (t ++ rest) = (closingFrom 1 none position t).or
      (closingFrom ((nesting t).depth + 1 : Nat) (nesting t).quote (position + t.length) rest) :=
  closingFrom_append .ground position t rest

/-- A text that can stand in parentheses of its own: nothing in it closes them, and it leaves nothing open. -/
structure Contained (t : Text) : Prop where
  unclosed : closingFrom 1 none 0 t = none
  closed : nesting t = .ground

theorem closingFrom_eq_none_iff (position : Nat) (t : Text) :
    closingFrom 1 none position t = none ↔ closingFrom 1 none 0 t = none := by
  rw [← Nat.add_zero position, closingFrom_shift, Option.map_eq_none_iff]

namespace Contained

theorem closingParen? {t : Text} (h : Contained t) :
    Sql.closingParen? ('(' :: (t ++ [')'])) 0 = some (t.length + 2) := by
  have hscan := closingFrom_one_append 1 t [')']
  rw [(closingFrom_eq_none_iff 1 t).mpr h.unclosed, Option.none_or, h.closed] at hscan
  rw [Sql.closingParen?, List.drop_zero, closingFrom_open, Int.zero_add, Nat.zero_add, hscan,
    closingFrom_cons_nesting, if_pos ⟨rfl, rfl⟩]
  congr 1
  omega

theorem of_items {t : Text} (h : Items t) : Contained t := by
  have hunclosed : closingFrom 1 none 0 t = none := by
    have hscan := closingFrom_items h Int.one_pos 0 []
    rwa [List.append_nil] at hscan
  refine ⟨hunclosed, ?_⟩
  -- With a parenthesis after the items the scan ends, so nothing is open before it.
  have hscan := closingFrom_one_append 0 t [')']
  rw [hunclosed, Option.none_or, closingFrom_cons_nesting, closingFrom_items h Int.one_pos, closingFrom_close,
    if_pos (Int.sub_self 1)] at hscan
  by_contra hopen
  rw [if_neg fun hends => hopen hends.1] at hscan
  exact absurd hscan (by simp [closingFrom])

theorem of_closingParen? {t : Text} {start stop : Nat} (hopen : t[start]? = some '(')
    (h : Sql.closingParen? t start = some stop) : Contained (t.slice ⟨start + 1, stop - 1⟩) := by
  obtain ⟨group, ⟨body, hbody, rfl⟩, ⟨rest, hbegins⟩, rfl⟩ := group_of_closingParen? hopen h
  have hinside : body <+: t.drop (start + 1) := by
    rw [← List.drop_drop, ← hbegins]
    exact ⟨')' :: rest, by simp⟩
  have hstop : start + ('(' :: (body ++ [')'])).length - 1 = start + 1 + body.length := by
    simp only [List.length_cons, List.length_append, List.length_nil]
    omega
  rw [hstop, Text.slice_of_begins hinside]
  exact of_items hbody

theorem of_separated {sep : Char} (hsep : Separates sep) {piece rest : Text} (h : Contained (piece ++ sep :: rest))
    (hclosed : nesting piece = .ground) : Contained piece ∧ Contained rest := by
  have hscan := closingFrom_one_append 0 piece (sep :: rest)
  rw [h.unclosed, hclosed, closingFrom_cons_nesting, if_neg fun hends => hsep.2.2 hends.2, hsep.after_ground] at hscan
  obtain ⟨hpiece, hrest⟩ := Option.or_eq_none_iff.mp hscan.symm
  have hafter := h.closed
  rw [nesting, List.foldl_append, ← nesting, hclosed, List.foldl_cons, hsep.after_ground] at hafter
  exact ⟨⟨hpiece, hclosed⟩, ⟨(closingFrom_eq_none_iff _ rest).mp hrest, hafter⟩⟩

end Contained

theorem Pieces.contained {sep : Char} (hsep : Separates sep) {t : Text} {pieces : List Text}
    (h : Pieces sep t pieces) (ht : Contained t) : ∀ p ∈ pieces, Contained p := by
  induction h with
  | last => exact List.forall_mem_singleton.mpr ht
  | cons _ hclosed _ ih =>
    obtain ⟨hpiece, hrest⟩ := ht.of_separated hsep hclosed
    exact List.forall_mem_cons.mpr ⟨hpiece, ih hrest⟩

/-! ## The split of a text with its nested parts blanked -/

namespace Nesting

/-- What the blanked text leaves open: one parenthesis at most, and no quote in it. -/
def flat (s : Nesting) : Nesting := if s.depth = 0 then s else ⟨none, 1⟩

theorem flat_eq_ground_iff {s : Nesting} : s.flat = ground ↔ s = ground := by
  rw [flat]
  split
  · rfl
  · rename_i hdepth
    refine iff_of_false (by decide) ?_
    rintro rfl
    exact hdepth rfl

theorem after_blank : (mk none 1).after ' ' = ⟨none, 1⟩ := rfl

theorem flat_after (s : Nesting) (c : Char) : s.flat.after (s.shown c) = (s.after c).flat := by
  obtain ⟨quote, depth⟩ := s
  cases charCase quote c with
  | hidden hhidden =>
    cases depth with
    | zero => simp [flat, shown, after_hidden hhidden]
    | succ depth => simp [flat, shown, after_hidden hhidden, after_blank]
  | opening => rcases depth with - | depth <;> rfl
  | closing => rcases depth with - | - | depth <;> rfl
  | plain hquote hopen hclose =>
    cases depth with
    | zero => simp [flat, shown, after_plain hquote hopen hclose]
    | succ depth => simp [flat, shown, after_plain hquote hopen hclose, after_blank]

end Nesting

theorem lengths_splitFrom {sep : Char} (hsep : Separates sep) (s : Nesting) {piece piece' : Text}
    (h : piece.length = piece'.length) (t : Text) :
    (splitFrom (· == sep) s.depth s.quote piece t).map List.length
      = (splitFrom (· == sep) s.flat.depth s.flat.quote piece' (topLevelFrom s.depth s.quote t)).map List.length := by
  -- The two scans stay in step, and they stand on the ground together.
  induction t generalizing s piece piece' with
  | nil => simp [splitFrom, topLevelFrom, h]
  | cons c rest ih =>
    have hends : (s.flat = .ground ∧ s.shown c = sep) ↔ (s = .ground ∧ c = sep) := by
      rw [Nesting.flat_eq_ground_iff]
      refine and_congr_right ?_
      rintro rfl
      rfl
    rw [topLevelFrom_cons_nesting, splitFrom_cons hsep, splitFrom_cons hsep]
    by_cases hgo : s = .ground ∧ c = sep
    · rw [if_pos hgo, if_pos (hends.mpr hgo)]
      obtain ⟨rfl, rfl⟩ := hgo
      rw [hsep.after_ground, List.map_cons, List.map_cons, List.length_reverse, List.length_reverse, h]
      exact congrArg _ (@ih .ground [] [] rfl)
    · rw [if_neg hgo, if_neg (hends.not.mpr hgo), Nesting.flat_after]
      exact ih (s.after c) (congrArg Nat.succ h)

/-! ## The split -/

/-- The pieces with the separator between them make up the text; none can be split again; each but the last ends
outside quotes with nothing open; those of a text that fills a matched pair of parentheses fill one of their own;
and the text with its nested parts blanked is split at the same places. -/
theorem splitTopLevel_pieces {sep : Char} (hsep : Separates sep) (body : Text) :
    List.intercalate [sep] (splitTopLevel (· == sep) body) = body ∧
    (∀ p ∈ splitTopLevel (· == sep) body, splitTopLevel (· == sep) p = [p]) ∧
    (∀ p ∈ (splitTopLevel (· == sep) body).dropLast, nesting p = .ground) ∧
    (∀ t start stop, t[start]? = some '(' → closingParen? t start = some stop →
      body = t.slice ⟨start + 1, stop - 1⟩ →
        ∀ p ∈ splitTopLevel (· == sep) body, closingParen? ('(' :: (p ++ [')'])) 0 = some (p.length + 2)) ∧
    (splitTopLevel (· == sep) body).map List.length
      = (splitTopLevel (· == sep) (topLevel body)).map List.length := by
  have hpieces := pieces_splitTopLevel hsep body
  refine ⟨hpieces.intercalate, fun p hp => splitTopLevel_whole hsep (hpieces.whole p hp), hpieces.closed, ?_, ?_⟩
  · rintro t start stop hopen hclosing rfl p hp
    exact (hpieces.contained hsep (.of_closingParen? hopen hclosing) p hp).closingParen?
  · exact @lengths_splitFrom sep hsep .ground [] [] rfl body

/-- A list of three in parentheses, with commas in a group, in a text and in a name. -/
def commaList : Text := "(a, f(',', b), \"x,y\")".toList

theorem commaList_pieces :
    Separates ',' ∧ (splitTopLevel (· == ',') (commaList.slice ⟨1, 20⟩)).length = 3 ∧
      ∀ p ∈ splitTopLevel (· == ',') (commaList.slice ⟨1, 20⟩),
        splitTopLevel (· == ',') p = [p] ∧ closingParen? ('(' :: (p ++ [')'])) 0 = some (p.length + 2) := by
  have hsep : Separates ',' := by decide
  have hopen : commaList[0]? = some '(' := rfl
  have hclosing : closingParen? commaList 0 = some 21 := by decide
  obtain ⟨-, hsingle, -, hfill, -⟩ := splitTopLevel_pieces hsep (commaList.slice ⟨1, 20⟩)
  exact ⟨hsep, by decide, fun p hp => ⟨hsingle p hp, hfill commaList 0 21 hopen hclosing rfl p hp⟩⟩

end QueryLint.Sql

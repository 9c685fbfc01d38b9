import Mathlib.Data.List.Forall2
import QueryLint.Proofs.Pattern.Scan

/-! Two texts that differ in the white space at one place. Places outside of it face each other, and a
pattern of the right form matches alike at facing places: wherever a match comes into the white space, it
goes through it or fails. Main statements: `Layout.ends_steady` for shapes, by induction on the shape;
`Layout.allFrom_facing` and its like for searches; and `Layout.slice_facing`. -/
namespace QueryLint
set_option autoImplicit false

theorem rel_cases {α β : Type} {R : α → β → Prop} {a : Option α} {b : Option β} (h : Option.Rel R a b) :
    (a = none ∧ b = none) ∨ ∃ x y, a = some x ∧ b = some y ∧ R x y := by
  cases h with
  | none => exact .inl ⟨rfl, rfl⟩
  | some h => exact .inr ⟨_, _, rfl, rfl, h⟩

theorem Cursor.InText.head?_rest {t : Text} {c : Cursor} (h : c.InText t) :
    c.rest.head? = t[c.position]? := by
  rw [List.head?_eq_getElem?, h.getElem?_rest, Nat.add_zero]

/-! ## Two texts -/

/-- What stands before and after white space, and two choices for it. -/
structure Layout where
  front : Text
  gap : Text
  gap' : Text
  back : Text
  ne_nil : gap ≠ []
  ne_nil' : gap' ≠ []
  blank : ∀ c ∈ gap, Text.isBlank c = true
  blank' : ∀ c ∈ gap', Text.isBlank c = true

namespace Layout

variable (l : Layout)

def swap : Layout := ⟨l.front, l.gap', l.gap, l.back, l.ne_nil', l.ne_nil, l.blank', l.blank⟩

def text : Text := l.front ++ (l.gap ++ l.back)

def text' : Text := l.swap.text

/-- The same white space after a part of what stands before it. -/
def withFront (u : Text) : Layout := { l with front := u }

def stop : Nat := l.front.length + l.gap.length

/-- Positions from which both texts go on alike. -/
inductive Opposite : Nat → Nat → Prop
  | left {i : Nat} (h : i ≤ l.front.length) : Opposite i i
  | right (k : Nat) : Opposite (l.stop + k) (l.swap.stop + k)

/-- Whether no white space of the place stands on both sides. -/
def outside (i : Nat) : Bool := i ≤ l.front.length || l.stop ≤ i

/-- Cursors of the two texts at opposite positions. -/
structure Facing (c c' : Cursor) : Prop where
  inText : c.InText l.text
  inText' : c'.InText l.text'
  opposite : l.Opposite c.position c'.position

variable {l}

theorem text_withFront {u v : Text} (h : l.front = v ++ u) : l.text = v ++ (l.withFront u).text := by
  rw [text, h, List.append_assoc]
  rfl

theorem front_lt_stop (l : Layout) : l.front.length < l.stop :=
  Nat.lt_add_of_pos_right (List.length_pos_iff.mpr l.ne_nil)

theorem length_text : l.text.length = l.stop + l.back.length := by
  rw [text, stop, List.length_append, List.length_append, Nat.add_assoc]

theorem Opposite.swap {i i' : Nat} (h : l.Opposite i i') : l.swap.Opposite i' i := by
  cases h with
  | left h => exact .left h
  | right k => exact .right k

theorem Opposite.outside {i i' : Nat} (h : l.Opposite i i') : l.outside i = true := by
  cases h with
  | left h => simp [Layout.outside, h]
  | right k => simp [Layout.outside]

/-- What is opposite is in the same order. -/
theorem Opposite.lt_iff {i i' j j' : Nat} (hi : l.Opposite i i') (hj : l.Opposite j j') : i < j ↔ i' < j' := by
  have hlt := l.front_lt_stop
  have hlt' : l.front.length < l.swap.stop := l.swap.front_lt_stop
  cases hi <;> cases hj <;> omega

theorem Opposite.eq_stop_iff {i i' : Nat} (h : l.Opposite i i') : i = l.stop ↔ i' = l.swap.stop := by
  have hlt := l.front_lt_stop
  have hlt' : l.front.length < l.swap.stop := l.swap.front_lt_stop
  cases h <;> omega

theorem Facing.swap {c c' : Cursor} (h : l.Facing c c') : l.swap.Facing c' c :=
  ⟨h.inText', h.inText, h.opposite.swap⟩

theorem facing_atStart : l.Facing (.atStart l.text) (.atStart l.text') :=
  ⟨Cursor.atStart_inText _, Cursor.atStart_inText _, .left (Nat.zero_le _)⟩

/-! ## Characters -/

theorem getElem?_left {i : Nat} (h : i < l.front.length) : l.text[i]? = l.front[i]? :=
  List.getElem?_append_left h

theorem getElem?_right (k : Nat) : l.text[l.stop + k]? = l.back[k]? := by
  rw [text, stop, Nat.add_assoc, List.getElem?_append_right (Nat.le_add_right _ _), Nat.add_sub_cancel_left,
    List.getElem?_append_right (Nat.le_add_right _ _), Nat.add_sub_cancel_left]

theorem getElem?_within {i : Nat} (hi : l.front.length ≤ i) (hstop : i < l.stop) :
    ∃ x, l.text[i]? = some x ∧ Text.isBlank x = true := by
  have hlt : i - l.front.length < l.gap.length := by
    rw [stop] at hstop
    omega
  refine ⟨l.gap[i - l.front.length], ?_, l.blank _ (List.getElem_mem hlt)⟩
  rw [text, List.getElem?_append_right hi, List.getElem?_append_left hlt, List.getElem?_eq_getElem hlt]

/-- What comes after facing solid characters is opposite too. -/
theorem Opposite.succ {i i' : Nat} {c : Char} (h : l.Opposite i i') (hc : l.text[i]? = some c)
    (hsolid : Text.isBlank c = false) : l.Opposite (i + 1) (i' + 1) := by
  cases h with
  | left hle =>
    refine .left (Nat.lt_of_le_of_ne hle ?_)
    rintro rfl
    obtain ⟨x, hx, hblank⟩ := l.getElem?_within (Nat.le_refl _) l.front_lt_stop
    obtain rfl := Option.some.inj (hc.symm.trans hx)
    exact Bool.noConfusion (hsolid.symm.trans hblank)
  | right k => exact .right (k + 1)

/-- And what comes before opposite positions, if it is solid. -/
theorem Opposite.pred {i j' : Nat} {c : Char} (h : l.Opposite (i + 1) j') (hc : l.text[i]? = some c)
    (hsolid : Text.isBlank c = false) : ∃ i', j' = i' + 1 ∧ l.Opposite i i' := by
  have hlt := l.front_lt_stop
  generalize hj : i + 1 = j at h
  cases h with
  | left hle => exact ⟨i, hj.symm, .left (by omega)⟩
  | right k =>
    cases k with
    | zero =>
      obtain ⟨x, hx, hblank⟩ := l.getElem?_within (i := i) (by omega) (by omega)
      obtain rfl := Option.some.inj (hc.symm.trans hx)
      exact Bool.noConfusion (hsolid.symm.trans hblank)
    | succ k =>
      obtain rfl : i = l.stop + k := by omega
      exact ⟨l.swap.stop + k, rfl, .right k⟩

theorem exists_blank {c : Cursor} (h : c.InText l.text) (hfront : l.front.length ≤ c.position)
    (hstop : c.position < l.stop) : ∃ x rest, c.rest = x :: rest ∧ Text.isBlank x = true := by
  obtain ⟨x, hx, hblank⟩ := l.getElem?_within hfront hstop
  rw [← h.head?_rest] at hx
  obtain ⟨rest, hrest⟩ := List.head?_eq_some_iff.mp hx
  exact ⟨x, rest, hrest, hblank⟩

/-- Facing cursors are at the end, before the same character, or before the white space. -/
theorem Facing.cases {c c' : Cursor} (h : l.Facing c c') :
    (c.rest = [] ∧ c'.rest = []) ∨
    (∃ x rest rest', c.rest = x :: rest ∧ c'.rest = x :: rest' ∧
      l.Facing ⟨some x, c.position + 1, rest⟩ ⟨some x, c'.position + 1, rest'⟩) ∨
    (c.position = l.front.length ∧ c'.position = l.front.length) := by
  obtain ⟨hin, hin', hopposite⟩ := h
  have hnext : ∀ {x : Char}, l.text[c.position]? = some x → l.text'[c'.position]? = some x →
      l.Opposite (c.position + 1) (c'.position + 1) → ∃ x rest rest', c.rest = x :: rest ∧
        c'.rest = x :: rest' ∧
        l.Facing ⟨some x, c.position + 1, rest⟩ ⟨some x, c'.position + 1, rest'⟩ := by
    intro x hx hx' hstep
    rw [← hin.head?_rest] at hx
    rw [← hin'.head?_rest] at hx'
    obtain ⟨rest, hrest⟩ := List.head?_eq_some_iff.mp hx
    obtain ⟨rest', hrest'⟩ := List.head?_eq_some_iff.mp hx'
    exact ⟨x, rest, rest', hrest, hrest', hin.next hrest, hin'.next hrest', hstep⟩
  generalize hi : c.position = i at *
  generalize hi' : c'.position = i' at *
  cases hopposite with
  | left hle =>
    rcases Nat.eq_or_lt_of_le hle with heq | hlt
    · exact .inr (.inr ⟨heq, heq⟩)
    · have hx := List.getElem?_eq_getElem hlt
      refine .inr (.inl (hnext ((getElem?_left hlt).trans hx) ?_ (.left hlt)))
      exact (getElem?_left (l := l.swap) hlt).trans hx
  | right k =>
    cases hx : l.back[k]? with
    | none =>
      refine .inl ⟨?_, ?_⟩
      · rw [← List.head?_eq_none_iff, hin.head?_rest, hi, getElem?_right, hx]
      · rw [← List.head?_eq_none_iff, hin'.head?_rest, hi']
        exact (getElem?_right (l := l.swap) k).trans hx
    | some x =>
      refine .inr (.inl (hnext ((getElem?_right k).trans hx) ?_ (.right (k + 1))))
      exact (getElem?_right (l := l.swap) k).trans hx

/-- The characters before facing cursors are the same, or both are blank. -/
theorem Facing.isWord_before {c c' : Cursor} (h : l.Facing c c') :
    c.before.any Text.isWord = c'.before.any Text.isWord := by
  obtain ⟨hin, hin', hopposite⟩ := h
  generalize hi : c.position = i at *
  generalize hi' : c'.position = i' at *
  cases hopposite with
  | left hle =>
    have htake : l.text.take i = l.text'.take i := by
      rw [text, text', text, List.take_append_of_le_length hle]
      exact (List.take_append_of_le_length hle).symm
    rw [hin.before_eq, hin'.before_eq, hi, hi', htake]
  | right k =>
    have hspace : ∀ {m : Layout} {d : Cursor}, d.InText m.text → d.position = m.stop →
        d.before.any Text.isWord = false := by
      intro m d hd hposition
      have hlt := m.front_lt_stop
      rw [hd.before_eq_getElem? (k := m.stop - 1) (by omega)]
      obtain ⟨x, hx, hblank⟩ := getElem?_within (l := m) (i := m.stop - 1) (by omega) (by omega)
      rw [hx, Option.any_some, Text.isWord_of_isBlank hblank]
    cases k with
    | zero => rw [hspace hin hi, hspace (m := l.swap) hin' hi']
    | succ k =>
      rw [hin.before_eq_getElem? (k := l.stop + k) hi, hin'.before_eq_getElem? (k := l.swap.stop + k) hi',
        getElem?_right]
      exact congrArg (Option.any Text.isWord) (getElem?_right (l := l.swap) k).symm

theorem Facing.wordEdge {c c' : Cursor} (h : l.Facing c c') :
    Text.wordEdge c.before c.rest.head? = Text.wordEdge c'.before c'.rest.head? := by
  have hafter : c.rest.head?.any Text.isWord = c'.rest.head?.any Text.isWord := by
    rcases h.cases with ⟨hrest, hrest'⟩ | ⟨x, rest, rest', hrest, hrest', -⟩ | ⟨hi, hi'⟩
    · rw [hrest, hrest']
    · rw [hrest, hrest', List.head?_cons, List.head?_cons]
    · obtain ⟨x, rest, hrest, hx⟩ :=
        exists_blank h.inText (Nat.le_of_eq hi.symm) (hi ▸ l.front_lt_stop)
      obtain ⟨x', rest', hrest', hx'⟩ := exists_blank (l := l.swap) h.inText'
        (Nat.le_of_eq hi'.symm) (hi' ▸ l.swap.front_lt_stop)
      simp [hrest, hrest', Text.isWord_of_isBlank hx, Text.isWord_of_isBlank hx']
  rw [Text.wordEdge, Text.wordEdge, h.isWord_before, hafter]

/-! ## Progress -/

variable (l) in
structure OppositeSpan (s s' : Span) : Prop where
  start : l.Opposite s.start s'.start
  stop : l.Opposite s.stop s'.stop

variable (l) in
/-- Kept groups of one number at opposite positions. -/
def SameGroup (g g' : Nat × Span) : Prop := g.1 = g'.1 ∧ l.OppositeSpan g.2 g'.2

variable (l) in
structure Abreast (p p' : Progress) : Prop where
  cursor : l.Facing p.cursor p'.cursor
  groups : List.Forall₂ l.SameGroup p.groups p'.groups

variable (l) in
/-- The places that a match reaches without those among the white space. -/
def passed (ps : List Progress) : List Progress := ps.filter fun q => l.outside q.cursor.position

variable {p p' : Progress} {ps qs : List Progress}

@[simp] theorem passed_nil : l.passed [] = [] := rfl

@[simp] theorem passed_append : l.passed (ps ++ qs) = l.passed ps ++ l.passed qs := List.filter_append ..

theorem passed_eq_self (h : ∀ q ∈ ps, l.outside q.cursor.position = true) : l.passed ps = ps :=
  List.filter_eq_self.mpr h

theorem Abreast.outside (h : l.Abreast p p') : l.outside p.cursor.position = true := h.cursor.opposite.outside

theorem Abreast.passed (h : l.Abreast p p') :
    List.Forall₂ l.Abreast (l.passed [p]) (l.swap.passed [p']) := by
  rw [passed_eq_self (List.forall_mem_singleton.mpr h.outside),
    passed_eq_self (List.forall_mem_singleton.mpr h.cursor.swap.opposite.outside)]
  exact .cons h .nil

/-- What is reached only through the white space is reached from outside of it. -/
theorem passed_flatMap {f : Progress → List Progress}
    (h : ∀ q ∈ ps, l.outside q.cursor.position = false → l.passed (f q) = []) :
    l.passed (ps.flatMap f) = (l.passed ps).flatMap fun q => l.passed (f q) := by
  induction ps with
  | nil => rfl
  | cons q ps ih =>
    obtain ⟨hq, hothers⟩ := List.forall_mem_cons.mp h
    rw [List.flatMap_cons, passed_append, ih hothers, ← List.singleton_append, passed_append,
      List.flatMap_append]
    congr 1
    cases houtside : l.outside q.cursor.position with
    | true => rw [passed_eq_self (List.forall_mem_singleton.mpr houtside), List.flatMap_singleton]
    | false =>
      rw [hq houtside, Layout.passed, List.filter_cons_of_neg (by simp [houtside])]
      rfl

variable (l) in
/-- A place with some of the white space on either side. -/
structure Among (c : Cursor) : Prop where
  inText : c.InText l.text
  front_lt : l.front.length < c.position
  lt_stop : c.position < l.stop

theorem among_of_not_outside {c : Cursor} (h : c.InText l.text) (hc : l.outside c.position = false) :
    l.Among c := by
  simp only [Layout.outside, Bool.or_eq_false_iff, decide_eq_false_iff_not, Nat.not_le] at hc
  exact ⟨h, hc.1, hc.2⟩

theorem Among.not_outside {c : Cursor} (h : l.Among c) : l.outside c.position = false := by
  simp [Layout.outside, h.front_lt, h.lt_stop]

theorem Among.exists_blank {c : Cursor} (h : l.Among c) :
    ∃ x rest, c.rest = x :: rest ∧ Text.isBlank x = true :=
  Layout.exists_blank h.inText (Nat.le_of_lt h.front_lt) h.lt_stop

/-- No word begins or ends among white space. -/
theorem Among.wordEdge {c : Cursor} (h : l.Among c) : Text.wordEdge c.before c.rest.head? = false := by
  obtain ⟨x, rest, hrest, hx⟩ := h.exists_blank
  have hlt := h.front_lt
  obtain ⟨y, hy, hblank⟩ := getElem?_within (l := l) (i := c.position - 1) (by omega)
    (Nat.lt_of_le_of_lt (Nat.sub_le _ _) h.lt_stop)
  have hbefore : c.before = some y := by
    rw [h.inText.before_eq_getElem? (k := c.position - 1) (by omega), hy]
  simp [hrest, hbefore, Text.wordEdge, Text.isWord_of_isBlank hx, Text.isWord_of_isBlank hblank]

end Layout

/-! ## Shapes to which the layout does not matter -/

def Text.blankChars : Text := ([0x09, 0x0A, 0x0B, 0x0C, 0x0D, 0x1C, 0x1D, 0x1E, 0x1F, 0x20] ++ wideBlanks).map Char.ofNat

theorem Text.mem_blankChars {c : Char} (h : isBlank c = true) : c ∈ blankChars :=
  of_isBlank (P := fun c => c ∈ blankChars) (by decide +kernel) (by decide +kernel) h

def CharSet.refusesBlanks (blind : Bool) (set : CharSet) : Bool := Text.blankChars.all fun c => !set.has blind c

def CharSet.admitsBlanks (blind : Bool) (set : CharSet) : Bool := Text.blankChars.all (set.has blind)

theorem CharSet.has_of_refusesBlanks {blind : Bool} {set : CharSet} (h : set.refusesBlanks blind = true)
    {c : Char} (hc : Text.isBlank c = true) : set.has blind c = false := by
  simpa using List.all_eq_true.mp h c (Text.mem_blankChars hc)

theorem CharSet.has_of_admitsBlanks {blind : Bool} {set : CharSet} (h : set.admitsBlanks blind = true)
    {c : Char} (hc : Text.isBlank c = true) : set.has blind c = true :=
  List.all_eq_true.mp h c (Text.mem_blankChars hc)

namespace Shape

/-- Whether the two shapes one after the other are a run of characters that may be blank. -/
def isRun (blind : Bool) : Shape → Shape → Bool
  | one set, many true (one set') => set == set' && set.admitsBlanks blind
  | _, _ => false

/-- Whether nothing matches that begins among white space. -/
def dead (blind : Bool) : Shape → Bool
  | one set => set.refusesBlanks blind
  | seq a _ => a.dead blind
  | either a b => a.dead blind && b.dead blind
  | group _ body => body.dead blind
  | edge => true
  | nothing | many .. | finish | notHere _ | notAfter _ => false

/-- Whether a match that begins among white space does not leave it. -/
def trapped (blind : Bool) : Shape → Bool
  | one set => set.refusesBlanks blind
  | seq a b => a.dead blind || (a.trapped blind && b.trapped blind)
  | either a b => a.trapped blind && b.trapped blind
  | group _ body => body.trapped blind
  | nothing | edge => true
  | many .. | finish | notHere _ | notAfter _ => false

/-- Whether no match that begins outside of the white space ends in it. -/
def solid (blind : Bool) : Shape → Bool
  | one set | many _ (one set) => set.refusesBlanks blind
  | seq a b => b.solid blind && (a.solid blind || b.dead blind)
  | either a b => a.solid blind && b.solid blind
  | group _ body => body.solid blind
  | nothing | edge => true
  | many .. | finish | notHere _ | notAfter _ => false

/-- Whether matches from facing places end at facing places, but for those that end in the white space. -/
def steady (blind : Bool) : Shape → Bool
  | one set => set.refusesBlanks blind
  | many true (one set) => set.refusesBlanks blind || set.admitsBlanks blind
  | seq a b => isRun blind a b ||
      (a.steady blind && b.steady blind && (a.solid blind || b.trapped blind))
  | either a b => a.steady blind && b.steady blind
  | group _ body => body.steady blind
  | nothing | edge => true
  | many .. | finish | notHere _ | notAfter _ => false

/-- Whether the preferred match from outside of the white space does not end in it. -/
def led (blind : Bool) : Shape → Bool
  | seq a b => isRun blind a b || (seq a b).solid blind || (a.solid blind && b.led blind)
  | s => s.solid blind

variable {l : Layout} {blind : Bool} {s : Shape} {p p' : Progress} {set : CharSet} {x : Char} {rest : Text}

theorem not_leads_dead {q : Progress} (h : Leads blind s p q) (hs : s.dead blind = true) :
    ¬l.Among p.cursor := by
  intro hp
  induction h with
  | one hrest hhas =>
    obtain ⟨x, rest, hrest', hx⟩ := hp.exists_blank
    obtain rfl := (List.cons.inj (hrest.symm.trans hrest')).1
    exact Bool.noConfusion (hhas.symm.trans (CharSet.has_of_refusesBlanks hs hx))
  | seq _ _ ihfirst _ => exact ihfirst hs hp
  | left _ ih =>
    rw [dead, Bool.and_eq_true] at hs
    exact ih hs.1 hp
  | right _ ih =>
    rw [dead, Bool.and_eq_true] at hs
    exact ih hs.2 hp
  | group _ ih => exact ih hs hp
  | edge h => exact Bool.noConfusion (hp.wordEdge.symm.trans h)
  | nothing | done | more | finish | notHere | notAfter => exact Bool.noConfusion hs

theorem ends_dead (hs : s.dead blind = true) (hp : l.Among p.cursor) : s.ends blind p = [] :=
  List.eq_nil_iff_forall_not_mem.mpr fun _ hq => not_leads_dead (leads_of_mem_ends hq) hs hp

theorem ends_trapped (hs : s.trapped blind = true) (hp : l.Among p.cursor) :
    ∀ q ∈ s.ends blind p, l.Among q.cursor := by
  intro q hq
  replace hq := leads_of_mem_ends hq
  induction hq with
  | nothing | edge => exact hp
  | one hrest hhas => exact absurd hp (not_leads_dead (.one hrest hhas) hs)
  | seq hfirst _ ihfirst ihsecond =>
    rw [trapped, Bool.or_eq_true, Bool.and_eq_true] at hs
    rcases hs with hdead | ⟨ha, hb⟩
    · exact absurd hp (not_leads_dead hfirst hdead)
    · exact ihsecond hb (ihfirst ha hp)
  | left _ ih =>
    rw [trapped, Bool.and_eq_true] at hs
    exact ih hs.1 hp
  | right _ ih =>
    rw [trapped, Bool.and_eq_true] at hs
    exact ih hs.2 hp
  | group _ ih => exact ih hs hp
  | done | more | finish | notHere | notAfter => exact Bool.noConfusion hs

theorem outside_of_has {r : Cursor} (hr : r.InText l.text) (hrest : r.rest = x :: rest)
    (hx : set.has blind x = true) (hset : set.refusesBlanks blind = true)
    (houtside : l.outside r.position = true) : l.outside (r.position + 1) = true := by
  have hnot : ¬(l.front.length ≤ r.position ∧ r.position < l.stop) := by
    rintro ⟨hfront, hstop⟩
    obtain ⟨y, rest', hy, hblank⟩ := Layout.exists_blank hr hfront hstop
    obtain rfl := (List.cons.inj (hrest.symm.trans hy)).1
    exact Bool.noConfusion (hx.symm.trans (CharSet.has_of_refusesBlanks hset hblank))
  simp only [Layout.outside, Bool.or_eq_true, decide_eq_true_eq] at houtside ⊢
  omega

theorem ends_solid (hs : s.solid blind = true) (hp : p.cursor.InText l.text)
    (houtside : l.outside p.cursor.position = true) :
    ∀ q ∈ s.ends blind p, l.outside q.cursor.position = true := by
  intro q hq
  replace hq := leads_of_mem_ends hq
  induction hq with
  | nothing | done | edge => exact houtside
  | one hrest hhas => exact outside_of_has hp hrest hhas hs houtside
  | @seq a b p q r hfirst hsecond ihfirst ihsecond =>
    rw [solid, Bool.and_eq_true, Bool.or_eq_true] at hs
    have hin := (hfirst.forward hp).1
    cases hplace : l.outside r.cursor.position with
    | true => exact ihsecond hs.1 hin hplace
    | false =>
      rcases hs.2 with ha | hb
      · exact Bool.noConfusion (hplace.symm.trans (ihfirst ha hp houtside))
      · exact absurd (Layout.among_of_not_outside hin hplace) (not_leads_dead hsecond hb)
  | left _ ih =>
    rw [solid, Bool.and_eq_true] at hs
    exact ih hs.1 hp houtside
  | right _ ih =>
    rw [solid, Bool.and_eq_true] at hs
    exact ih hs.2 hp houtside
  | more honce _ ihonce ihagain =>
    cases honce with
    | one hrest hhas => exact ihagain hs (hp.next hrest) (ihonce hs hp houtside)
    | _ => exact Bool.noConfusion hs
  | group _ ih => exact ih hs hp houtside
  | finish | notHere | notAfter => exact Bool.noConfusion hs

/-! ## Runs of characters -/

theorem ends_many1_nil (hrest : p.cursor.rest = []) : (many1 (one set)).ends blind p = [] := by
  show ((one set).ends blind p).flatMap _ = []
  rw [ends, hrest, List.flatMap_nil]

theorem ends_many1_cons (hrest : p.cursor.rest = x :: rest) (hx : set.has blind x = true) :
    (many1 (one set)).ends blind p
      = (many true (one set)).ends blind ⟨⟨some x, p.cursor.position + 1, rest⟩, p.groups⟩ := by
  show ((one set).ends blind p).flatMap _ = _
  rw [ends, hrest]
  simp only [hx, if_true, List.flatMap_singleton]

theorem ends_many1_of_not (hrest : p.cursor.rest = x :: rest) (hx : set.has blind x = false) :
    (many1 (one set)).ends blind p = [] := by
  show ((one set).ends blind p).flatMap _ = []
  rw [ends, hrest]
  simp only [hx, Bool.false_eq_true, if_false, List.flatMap_nil]

theorem ends_many (p : Progress) :
    (many true (one set)).ends blind p = (many1 (one set)).ends blind p ++ [p] := by
  cases hrest : p.cursor.rest with
  | nil => rw [ends_many1_nil hrest, ends, hrest, repeated, List.nil_append]
  | cons x rest =>
    rw [ends, hrest, repeated, ends, hrest]
    cases hx : set.has blind x with
    | false => simp [ends_many1_of_not hrest hx, hx]
    | true =>
      rw [ends_many1_cons hrest hx, ends]
      simp [hx, Progress.movedTo]

/-- Where a run leaves the white space. -/
def reach (l : Layout) (groups : List (Nat × Span)) : Progress := ⟨Cursor.seek l.text l.stop, groups⟩

variable {groups : List (Nat × Span)}

theorem reach_position : (reach l groups).cursor.position = l.stop := by
  have hle : l.stop ≤ l.text.length := l.length_text ▸ Nat.le_add_right _ _
  rw [reach, Cursor.seek_eq hle]

theorem passed_ends_right (hp : p.cursor.InText l.text) (hstop : l.stop ≤ p.cursor.position) :
    l.passed (s.ends blind p) = s.ends blind p := by
  refine l.passed_eq_self fun q hq => ?_
  have hle := (ends_forward hp hq).2
  simp only [Layout.outside, Bool.or_eq_true, decide_eq_true_eq]
  omega

/-- A run that admits white space and comes into it goes through it. -/
theorem passed_ends_many {p : Progress} (hset : set.admitsBlanks blind = true) (hp : p.cursor.InText l.text)
    (hfront : l.front.length < p.cursor.position) (hstop : p.cursor.position ≤ l.stop) :
    l.passed ((many true (one set)).ends blind p) = (many true (one set)).ends blind (reach l p.groups) := by
  have hreach : (reach l p.groups).cursor.InText l.text := Cursor.seek_inText _ _
  rcases Nat.eq_or_lt_of_le hstop with heq | hlt
  · have hsame : reach l p.groups = p := by
      have hcursor := hp.eq_of_position hreach (heq.trans reach_position.symm)
      rw [reach, show Cursor.seek l.text l.stop = p.cursor from hcursor.symm]
    rw [passed_ends_right hp (Nat.le_of_eq heq.symm), hsame]
  · obtain ⟨x, rest, hrest, hx⟩ := Layout.exists_blank hp (Nat.le_of_lt hfront) hlt
    have hnext := hp.next hrest
    have hlater := passed_ends_many (p := ⟨⟨some x, p.cursor.position + 1, rest⟩, p.groups⟩) hset hnext
      (Nat.lt_succ_of_lt hfront) hlt
    have hamong : l.outside p.cursor.position = false :=
      Layout.Among.not_outside ⟨hp, hfront, hlt⟩
    rw [ends_many, ends_many1_cons hrest (CharSet.has_of_admitsBlanks hset hx), Layout.passed_append,
      hlater, Layout.passed, List.filter_cons_of_neg (by simp [hamong]), List.filter_nil, List.append_nil]
termination_by l.stop - p.cursor.position

theorem reach_abreast {groups' : List (Nat × Span)} (h : List.Forall₂ l.SameGroup groups groups') :
    l.Abreast (reach l groups) (reach l.swap groups') := by
  refine ⟨⟨Cursor.seek_inText _ _, Cursor.seek_inText _ _, ?_⟩, h⟩
  rw [reach_position, reach_position]
  exact .right 0

theorem length_rest_reach (hp : p.cursor.InText l.text) (hlt : p.cursor.position < l.stop) :
    (reach l p.groups).cursor.rest.length < p.cursor.rest.length := by
  have hlength := hp.length_rest
  have hreach : (reach l p.groups).cursor.InText l.text := Cursor.seek_inText _ _
  have hlength' := hreach.length_rest
  rw [reach_position] at hlength'
  omega

/-- A run that takes all blanks or none ends alike from facing places, by induction on what is left. -/
theorem many1_steady {p p' : Progress} (hset : (set.refusesBlanks blind || set.admitsBlanks blind) = true)
    (h : l.Abreast p p') :
    List.Forall₂ l.Abreast (l.passed ((many1 (one set)).ends blind p))
      (l.swap.passed ((many1 (one set)).ends blind p')) := by
  rcases h.cursor.cases with ⟨hrest, hrest'⟩ | ⟨x, rest, rest', hrest, hrest', hnext⟩ | ⟨hi, hi'⟩
  · rw [ends_many1_nil hrest, ends_many1_nil hrest']
    exact .nil
  · cases hx : set.has blind x with
    | false =>
      rw [ends_many1_of_not hrest hx, ends_many1_of_not hrest' hx]
      exact .nil
    | true =>
      have hstep : l.Abreast ⟨⟨some x, p.cursor.position + 1, rest⟩, p.groups⟩
          ⟨⟨some x, p'.cursor.position + 1, rest'⟩, p'.groups⟩ := ⟨hnext, h.groups⟩
      rw [ends_many1_cons hrest hx, ends_many1_cons hrest' hx, ends_many, ends_many, Layout.passed_append,
        Layout.passed_append]
      exact List.rel_append (many1_steady hset hstep) hstep.passed
  · have hlt := l.front_lt_stop
    have hlt' := l.swap.front_lt_stop
    obtain ⟨x, rest, hrest, hx⟩ := Layout.exists_blank h.cursor.inText (Nat.le_of_eq hi.symm) (hi ▸ hlt)
    obtain ⟨x', rest', hrest', hx'⟩ := Layout.exists_blank (l := l.swap) h.cursor.inText'
      (Nat.le_of_eq hi'.symm) (hi' ▸ hlt')
    rcases Bool.or_eq_true_iff.mp hset with hrefuses | hadmits
    · rw [ends_many1_of_not hrest (CharSet.has_of_refusesBlanks hrefuses hx),
        ends_many1_of_not hrest' (CharSet.has_of_refusesBlanks hrefuses hx')]
      exact .nil
    · have hshorter := length_rest_reach h.cursor.inText (hi ▸ hlt)
      have hreach := reach_abreast h.groups
      rw [ends_many1_cons hrest (CharSet.has_of_admitsBlanks hadmits hx),
        ends_many1_cons hrest' (CharSet.has_of_admitsBlanks hadmits hx'),
        passed_ends_many hadmits (p := ⟨⟨some x, p.cursor.position + 1, rest⟩, p.groups⟩)
          (h.cursor.inText.next hrest) (hi ▸ Nat.lt_succ_self _) (hi ▸ hlt),
        passed_ends_many (l := l.swap) hadmits (p := ⟨⟨some x', p'.cursor.position + 1, rest'⟩, p'.groups⟩)
          (h.cursor.inText'.next hrest') (hi' ▸ Nat.lt_succ_self _) (hi' ▸ hlt'),
        ← passed_ends_right hreach.cursor.inText (Nat.le_of_eq reach_position.symm),
        ← passed_ends_right (l := l.swap) hreach.cursor.inText' (Nat.le_of_eq reach_position.symm),
        ends_many, ends_many, Layout.passed_append, Layout.passed_append]
      exact List.rel_append (many1_steady hset hreach) hreach.passed
termination_by p.cursor.rest.length
decreasing_by
  · rw [hrest]
    exact Nat.lt_succ_self _
  · exact hshorter

/-! ## Every shape -/

theorem exists_of_isRun {a b : Shape} (h : isRun blind a b = true) :
    ∃ set : CharSet, seq a b = many1 (one set) ∧ set.admitsBlanks blind = true := by
  unfold isRun at h
  split at h
  · rename_i set set'
    rw [Bool.and_eq_true, beq_iff_eq] at h
    obtain ⟨rfl, hset⟩ := h
    exact ⟨set, rfl, hset⟩
  · cases h

/-- From facing places a shape has facing ends, and no others outside of the white space. -/
theorem ends_steady (hs : s.steady blind = true) (h : l.Abreast p p') :
    List.Forall₂ l.Abreast (l.passed (s.ends blind p)) (l.swap.passed (s.ends blind p')) := by
  induction s generalizing p p' with
  | nothing => exact h.passed
  | one set =>
    rcases h.cursor.cases with ⟨hrest, hrest'⟩ | ⟨x, rest, rest', hrest, hrest', hnext⟩ | ⟨hi, hi'⟩
    · rw [ends, ends, hrest, hrest']
      exact .nil
    · rw [ends, ends, hrest, hrest']
      simp only
      split
      · exact Layout.Abreast.passed ⟨hnext, h.groups⟩
      · exact .nil
    · obtain ⟨x, rest, hrest, hx⟩ := Layout.exists_blank h.cursor.inText (Nat.le_of_eq hi.symm)
        (hi ▸ l.front_lt_stop)
      obtain ⟨x', rest', hrest', hx'⟩ := Layout.exists_blank (l := l.swap) h.cursor.inText'
        (Nat.le_of_eq hi'.symm) (hi' ▸ l.swap.front_lt_stop)
      rw [ends, ends, hrest, hrest']
      simp [CharSet.has_of_refusesBlanks hs hx, CharSet.has_of_refusesBlanks hs hx']
  | seq a b iha ihb =>
    rw [steady, Bool.or_eq_true] at hs
    rcases hs with hrun | hs
    · obtain ⟨set, hshape, hset⟩ := exists_of_isRun hrun
      rw [hshape]
      exact many1_steady (by rw [hset, Bool.or_true]) h
    · simp only [Bool.and_eq_true, Bool.or_eq_true] at hs
      obtain ⟨⟨ha, hb⟩, hlost⟩ := hs
      -- what comes into the white space in the first part does not leave it in the second
      have hnone : ∀ (m : Layout) (r : Progress), r.cursor.InText m.text →
          m.outside r.cursor.position = true → ∀ q ∈ a.ends blind r,
          m.outside q.cursor.position = false → m.passed (b.ends blind q) = [] := by
        intro m r hr houtside q hq hwithin
        rcases hlost with hsolid | htrapped
        · exact Bool.noConfusion (hwithin.symm.trans (ends_solid hsolid hr houtside q hq))
        · refine List.filter_eq_nil_iff.mpr fun q' hq' => ?_
          have hamong := Layout.among_of_not_outside (ends_forward hr hq).1 hwithin
          simp [(ends_trapped htrapped hamong q' hq').not_outside]
      rw [ends, ends, Layout.passed_flatMap (hnone l p h.cursor.inText h.outside),
        Layout.passed_flatMap (hnone l.swap p' h.cursor.inText' h.cursor.swap.opposite.outside)]
      exact List.rel_flatMap (iha ha h) fun _ _ hq => ihb hb hq
  | either a b iha ihb =>
    rw [steady, Bool.and_eq_true] at hs
    rw [ends, ends, Layout.passed_append, Layout.passed_append]
    exact List.rel_append (iha hs.1 h) (ihb hs.2 h)
  | many greedy body _ =>
    cases greedy with
    | false => cases body <;> exact absurd hs Bool.false_ne_true
    | true =>
      cases body with
      | one set =>
        rw [ends_many, ends_many, Layout.passed_append, Layout.passed_append]
        exact List.rel_append (many1_steady hs h) h.passed
      | _ => exact absurd hs Bool.false_ne_true
  | group number body ih =>
    have hkeep : ∀ (m : Layout) (start : Nat) (qs : List Progress),
        m.passed (qs.map (·.keep number start)) = (m.passed qs).map (·.keep number start) :=
      fun m start qs => List.filter_map
    rw [ends, ends, hkeep, hkeep, List.forall₂_map_left_iff, List.forall₂_map_right_iff]
    exact (ih hs h).imp fun q q' hq =>
      ⟨hq.cursor, .cons ⟨rfl, h.cursor.opposite, hq.cursor.opposite⟩ hq.groups⟩
  | edge =>
    rw [ends, ends, h.cursor.wordEdge]
    split
    · exact h.passed
    · exact .nil
  | finish | notHere | notAfter => exact absurd hs Bool.false_ne_true

/-- A run that admits white space goes on to the end of it. -/
theorem exists_head_many {p : Progress} (hset : set.admitsBlanks blind = true) (hp : p.cursor.InText l.text) :
    ∃ q ∈ ((many true (one set)).ends blind p).head?, l.outside q.cursor.position = true := by
  have hself : ((many1 (one set)).ends blind p = [] → l.outside p.cursor.position = true) →
      (many1 (one set)).ends blind p = [] →
      ∃ q ∈ ((many true (one set)).ends blind p).head?, l.outside q.cursor.position = true := by
    intro houtside hnone
    rw [ends_many, hnone]
    exact ⟨p, rfl, houtside hnone⟩
  cases hrest : p.cursor.rest with
  | nil =>
    refine hself (fun _ => Bool.not_eq_false _ ▸ fun hwithin => ?_) (ends_many1_nil hrest)
    obtain ⟨x, rest, hcons, -⟩ := (Layout.among_of_not_outside hp hwithin).exists_blank
    exact nomatch hrest.symm.trans hcons
  | cons x rest =>
    cases hx : set.has blind x with
    | false =>
      refine hself (fun _ => Bool.not_eq_false _ ▸ fun hwithin => ?_) (ends_many1_of_not hrest hx)
      obtain ⟨y, rest', hcons, hy⟩ := (Layout.among_of_not_outside hp hwithin).exists_blank
      obtain rfl := (List.cons.inj (hrest.symm.trans hcons)).1
      exact nomatch hx.symm.trans (CharSet.has_of_admitsBlanks hset hy)
    | true =>
      obtain ⟨q, hq, houtside⟩ := exists_head_many (p := ⟨⟨some x, p.cursor.position + 1, rest⟩, p.groups⟩)
        hset (hp.next hrest)
      refine ⟨q, ?_, houtside⟩
      rw [ends_many, ends_many1_cons hrest hx, List.head?_append, hq]
      rfl
termination_by p.cursor.rest.length
decreasing_by
  rw [hrest]
  exact Nat.lt_succ_self _

theorem head?_passed {q : Progress} {ps : List Progress} (hq : q ∈ ps.head?)
    (houtside : l.outside q.cursor.position = true) : ps.head? = (l.passed ps).head? := by
  obtain ⟨others, rfl⟩ := List.head?_eq_some_iff.mp hq
  rw [← List.singleton_append, Layout.passed_append,
    Layout.passed_eq_self (List.forall_mem_singleton.mpr houtside)]
  rfl

theorem head?_flatMap_congr {f g : Progress → List Progress} {ps : List Progress}
    (h : ∀ q ∈ ps, (f q).head? = (g q).head?) : (ps.flatMap f).head? = (ps.flatMap g).head? := by
  induction ps with
  | nil => rfl
  | cons q ps ih =>
    obtain ⟨hq, hothers⟩ := List.forall_mem_cons.mp h
    rw [List.flatMap_cons, List.flatMap_cons, List.head?_append, List.head?_append, hq, ih hothers]

/-- The preferred end is none among the white space. -/
theorem ends_led (hs : s.led blind = true) (hp : p.cursor.InText l.text)
    (houtside : l.outside p.cursor.position = true) :
    (s.ends blind p).head? = (l.passed (s.ends blind p)).head? := by
  induction s generalizing p with
  | seq a b _ ihb =>
    simp only [led, Bool.or_eq_true, Bool.and_eq_true] at hs
    rcases hs with (hrun | hsolid) | ⟨ha, hb⟩
    · obtain ⟨set, hshape, hset⟩ := exists_of_isRun hrun
      rw [hshape]
      cases hrest : p.cursor.rest with
      | nil => rw [ends_many1_nil hrest, Layout.passed_nil]
      | cons x rest =>
        cases hx : set.has blind x with
        | false => rw [ends_many1_of_not hrest hx, Layout.passed_nil]
        | true =>
          rw [ends_many1_cons hrest hx]
          obtain ⟨q, hq, hout⟩ := exists_head_many
            (p := ⟨⟨some x, p.cursor.position + 1, rest⟩, p.groups⟩) hset (hp.next hrest)
          exact head?_passed hq hout
    · rw [Layout.passed_eq_self (ends_solid hsolid hp houtside)]
    · have hfirst := ends_solid ha hp houtside
      rw [ends, Layout.passed_flatMap (fun q hq hwithin => absurd (hfirst q hq) (by simp [hwithin])),
        Layout.passed_eq_self hfirst]
      exact head?_flatMap_congr fun q hq => ihb hb (ends_forward hp hq).1 (hfirst q hq)
  | _ => rw [Layout.passed_eq_self (ends_solid hs hp houtside)]

end Shape

/-! ## Searches -/

/-- Whether a pattern matches alike at facing places. -/
def Pattern.steady (p : Pattern) : Bool := p.shape.steady p.ignoreCase && p.shape.led p.ignoreCase

/-- Whether no match of a pattern begins among white space, and each takes a character. -/
def Pattern.rooted (p : Pattern) : Bool := p.shape.dead p.ignoreCase && decide (0 < p.shape.least)

namespace Layout

variable (l : Layout)

structure SameMatch (m m' : Match) : Prop where
  span : l.OppositeSpan m.span m'.span
  groups : List.Forall₂ l.SameGroup m.groups m'.groups

variable {l} {p : Pattern} {c c' : Cursor}

theorem matchAt?_facing (hp : p.steady = true) (h : l.Facing c c') :
    Option.Rel l.SameMatch (p.matchAt? c) (p.matchAt? c') := by
  rw [Pattern.steady, Bool.and_eq_true] at hp
  have hstart : l.Abreast ⟨c, []⟩ ⟨c', []⟩ := ⟨h, .nil⟩
  have hends := Shape.ends_steady hp.1 hstart
  rw [Pattern.matchAt?_eq_head?, Pattern.matchAt?_eq_head?, List.head?_map, List.head?_map,
    Shape.ends_led hp.2 (p := ⟨c, []⟩) h.inText hstart.outside,
    Shape.ends_led (l := l.swap) hp.2 (p := ⟨c', []⟩) h.inText' h.swap.opposite.outside]
  generalize l.passed (p.shape.ends p.ignoreCase ⟨c, []⟩) = ends at hends ⊢
  generalize l.swap.passed (p.shape.ends p.ignoreCase ⟨c', []⟩) = ends' at hends ⊢
  cases hends with
  | nil => exact .none
  | cons hq _ => exact .some ⟨⟨h.opposite, hq.cursor.opposite⟩, hq.groups⟩

theorem isSome_matchAt?_facing (hp : p.steady = true) (h : l.Facing c c') :
    (p.matchAt? c).isSome = (p.matchAt? c').isSome := by
  rcases rel_cases (matchAt?_facing hp h) with ⟨hm, hm'⟩ | ⟨m, m', hm, hm', -⟩
  · rw [hm, hm']
  · rw [hm, hm', Option.isSome_some, Option.isSome_some]

theorem matchAt?_among (hp : p.rooted = true) (hc : l.Among c) : p.matchAt? c = none := by
  rw [Pattern.rooted, Bool.and_eq_true] at hp
  rw [Pattern.matchAt?_eq_head?, Shape.ends_dead hp.1 (p := ⟨c, []⟩) hc]
  rfl

theorem allAmong_cons_facing {cs cs' : List Cursor} {r r' : Nat} (hsteady : p.steady = true)
    (hrooted : p.rooted = true) (hc : l.Facing c c')
    (hothers : ∀ r r', l.Opposite r r' →
      List.Forall₂ l.SameMatch (p.allAmong r cs) (p.allAmong r' cs'))
    (hr : l.Opposite r r') :
    List.Forall₂ l.SameMatch (p.allAmong r (c :: cs)) (p.allAmong r' (c' :: cs')) := by
  rw [Pattern.allAmong, Pattern.allAmong]
  by_cases hpassed : c.position < r
  · rw [if_pos hpassed, if_pos ((hc.opposite.lt_iff hr).mp hpassed)]
    exact hothers r r' hr
  · rw [if_neg hpassed, if_neg fun h => hpassed ((hc.opposite.lt_iff hr).mpr h)]
    have hmatch := matchAt?_facing hsteady hc
    have htakes : ∀ {t : Text} {d : Cursor} {m : Match}, d.InText t → p.matchAt? d = some m →
        max m.span.stop (d.position + 1) = m.span.stop := by
      intro t d m hd hm
      rw [Pattern.rooted, Bool.and_eq_true, decide_eq_true_eq] at hrooted
      have hle := Match.Of.add_least_le_stop ⟨d, hd, hm⟩
      rw [Pattern.start_of_matchAt? hm] at hle
      omega
    rcases rel_cases hmatch with ⟨hm, hm'⟩ | ⟨m, m', hm, hm', hsame⟩
    · rw [hm, hm']
      exact hothers r r' hr
    · rw [hm, hm']
      simp only
      rw [htakes hc.inText hm, htakes hc.inText' hm']
      exact .cons hsame (hothers _ _ hsame.span.stop)

theorem onward_cons {x : Char} {rest : Text} (hrest : c.rest = x :: rest) :
    Cursor.onward c.before c.position c.rest
      = c :: Cursor.onward (some x) (c.position + 1) rest := by
  obtain ⟨before, position, rest'⟩ := c
  obtain rfl : rest' = x :: rest := hrest
  rfl

theorem onward_nil (hrest : c.rest = []) : Cursor.onward c.before c.position c.rest = [c] := by
  obtain ⟨before, position, rest'⟩ := c
  obtain rfl : rest' = [] := hrest
  rfl

/-- A search that comes into the white space goes on behind it. -/
theorem allAmong_through {c : Cursor} (hrooted : p.rooted = true) (hc : c.InText l.text)
    (hfront : l.front.length < c.position) (hstop : c.position ≤ l.stop) (r : Nat) {d : Cursor}
    (hd : d.InText l.text) (hposition : d.position = l.stop) :
    p.allAmong r (Cursor.onward c.before c.position c.rest)
      = p.allAmong r (Cursor.onward d.before d.position d.rest) := by
  rcases Nat.eq_or_lt_of_le hstop with heq | hlt
  · rw [hc.eq_of_position hd (heq.trans hposition.symm)]
  · obtain ⟨x, rest, hrest, -⟩ := exists_blank hc (Nat.le_of_lt hfront) hlt
    have hlater := allAmong_through (c := ⟨some x, c.position + 1, rest⟩) hrooted (hc.next hrest)
      (Nat.lt_succ_of_lt hfront) hlt r hd hposition
    rw [onward_cons hrest, Pattern.allAmong, matchAt?_among hrooted ⟨hc, hfront, hlt⟩, ← hlater]
    exact ite_self _
termination_by l.stop - c.position

/-- A search has matches at opposite places, by induction on what is left. -/
theorem allAmong_facing {c c' : Cursor} (hsteady : p.steady = true) (hrooted : p.rooted = true)
    (h : l.Facing c c') {r r' : Nat} (hr : l.Opposite r r') :
    List.Forall₂ l.SameMatch (p.allAmong r (Cursor.onward c.before c.position c.rest))
      (p.allAmong r' (Cursor.onward c'.before c'.position c'.rest)) := by
  rcases h.cases with ⟨hrest, hrest'⟩ | ⟨x, rest, rest', hrest, hrest', hnext⟩ | ⟨hi, hi'⟩
  · rw [onward_nil hrest, onward_nil hrest']
    exact allAmong_cons_facing hsteady hrooted h (fun _ _ _ => .nil) hr
  · rw [onward_cons hrest, onward_cons hrest']
    exact allAmong_cons_facing hsteady hrooted h (fun _ _ hr => allAmong_facing hsteady hrooted hnext hr) hr
  · have hlt := l.front_lt_stop
    have hlt' := l.swap.front_lt_stop
    obtain ⟨x, rest, hrest, -⟩ := exists_blank h.inText (Nat.le_of_eq hi.symm) (hi ▸ hlt)
    obtain ⟨x', rest', hrest', -⟩ := exists_blank (l := l.swap) h.inText'
      (Nat.le_of_eq hi'.symm) (hi' ▸ hlt')
    have hreach : l.Abreast (Shape.reach l []) (Shape.reach l.swap []) := Shape.reach_abreast .nil
    have hshorter := Shape.length_rest_reach (p := ⟨c, []⟩) h.inText (hi ▸ hlt)
    rw [onward_cons hrest, onward_cons hrest']
    refine allAmong_cons_facing hsteady hrooted h (fun r r' hr => ?_) hr
    have hthrough := allAmong_through (c := ⟨some x, c.position + 1, rest⟩) hrooted (h.inText.next hrest)
      (hi ▸ Nat.lt_succ_self _) (hi ▸ hlt) r hreach.cursor.inText Shape.reach_position
    have hthrough' := allAmong_through (c := ⟨some x', c'.position + 1, rest'⟩) (l := l.swap) hrooted
      (h.inText'.next hrest') (hi' ▸ Nat.lt_succ_self _) (hi' ▸ hlt') r' hreach.cursor.inText'
      Shape.reach_position
    rw [hthrough, hthrough']
    exact allAmong_facing hsteady hrooted hreach.cursor hr
termination_by c.rest.length
decreasing_by
  · rw [hrest]
    exact Nat.lt_succ_self _
  · exact hshorter

theorem Opposite.le_length {i i' : Nat} (h : l.Opposite i i') (hi : i ≤ l.text.length) :
    i' ≤ l.text'.length := by
  rw [length_text] at hi
  have hlength : l.text'.length = l.swap.stop + l.back.length := length_text (l := l.swap)
  have hlt : l.front.length < l.swap.stop := l.swap.front_lt_stop
  cases h <;> omega

theorem facing_seek {i i' : Nat} (h : l.Opposite i i') (hi : i ≤ l.text.length) :
    l.Facing (Cursor.seek l.text i) (Cursor.seek l.text' i') := by
  refine ⟨Cursor.seek_inText _ _, Cursor.seek_inText _ _, ?_⟩
  rw [Cursor.seek_eq hi, Cursor.seek_eq (h.le_length hi)]
  exact h

theorem allFrom_facing (hsteady : p.steady = true) (hrooted : p.rooted = true) {i i' : Nat}
    (h : l.Opposite i i') (hi : i ≤ l.text.length) :
    List.Forall₂ l.SameMatch (p.allFrom l.text i) (p.allFrom l.text' i') :=
  allAmong_facing hsteady hrooted (facing_seek h hi) (.left (Nat.zero_le _))

theorem all_facing (hsteady : p.steady = true) (hrooted : p.rooted = true) :
    List.Forall₂ l.SameMatch (p.all l.text) (p.all l.text') :=
  allAmong_facing hsteady hrooted facing_atStart (.left (Nat.zero_le _))

theorem first?_facing (hsteady : p.steady = true) (hrooted : p.rooted = true) :
    Option.Rel l.SameMatch (p.first? l.text) (p.first? l.text') := by
  have hall := all_facing (l := l) hsteady hrooted
  rw [← Pattern.all_head?, ← Pattern.all_head?]
  generalize p.all l.text = found at hall ⊢
  generalize p.all l.text' = found' at hall ⊢
  cases hall with
  | nil => exact .none
  | cons hm _ => exact .some hm

/-! ## Texts of matches -/

variable (l) in
/-- The same text, or one that has the white space in it. -/
inductive Respaced : Text → Text → Prop
  | same (t : Text) : Respaced t t
  | across (u v : Text) : Respaced (u ++ (l.gap ++ v)) (u ++ (l.gap' ++ v))

theorem take_left {i : Nat} (h : i ≤ l.front.length) : l.text.take i = l.front.take i :=
  List.take_append_of_le_length h

theorem take_left' {i : Nat} (h : i ≤ l.front.length) : l.text'.take i = l.front.take i :=
  take_left (l := l.swap) h

theorem take_right (k : Nat) : l.text.take (l.stop + k) = l.front ++ (l.gap ++ l.back.take k) := by
  rw [text, stop, ← List.append_assoc, ← List.length_append, List.take_length_add_append, List.append_assoc]

theorem drop_right (k : Nat) : l.text.drop (l.stop + k) = l.back.drop k := by
  rw [text, stop, ← List.append_assoc, ← List.length_append, List.drop_length_add_append]

theorem slice_across {i : Nat} (h : i ≤ l.front.length) (k : Nat) :
    l.text.slice ⟨i, l.stop + k⟩ = l.front.drop i ++ (l.gap ++ l.back.take k) := by
  rw [Text.slice, take_right, List.drop_append_of_le_length h]

theorem slice_right (j k : Nat) :
    l.text.slice ⟨l.stop + j, l.stop + k⟩ = l.back.slice ⟨j, k⟩ := by
  rw [Text.slice_eq_take_drop, drop_right, Text.slice_eq_take_drop]
  congr 1
  simp only
  omega

variable (l) in
def part (i k : Nat) : Layout := { l with front := l.front.drop i, back := l.back.take k }

/-- Opposite slices are the same, or have the white space in them. -/
theorem OppositeSpan.slice_cases {s s' : Span} (h : l.OppositeSpan s s') (hle : s.start ≤ s.stop) :
    l.text.slice s = l.text'.slice s' ∨ ∃ k, s.start ≤ l.front.length ∧ s.stop = l.stop + k ∧
      l.text.slice s = (l.part s.start k).text ∧ l.text'.slice s' = (l.part s.start k).text' := by
  obtain ⟨start, stop⟩ := s
  obtain ⟨start', stop'⟩ := s'
  obtain ⟨hstart, hstop⟩ := h
  have hlt := l.front_lt_stop
  simp only at hstart hstop hle
  cases hstart with
  | left hi =>
    cases hstop with
    | left hj =>
      exact .inl (by rw [Text.slice, Text.slice, take_left hj, take_left' hj])
    | right k => exact .inr ⟨k, hi, rfl, slice_across hi k, slice_across (l := l.swap) hi k⟩
  | right j =>
    cases hstop with
    | left hj => omega
    | right k =>
      have hright' : l.text'.slice ⟨l.swap.stop + j, l.swap.stop + k⟩ = _ := slice_right (l := l.swap) j k
      exact .inl ((slice_right j k).trans hright'.symm)

theorem OppositeSpan.slice {s s' : Span} (h : l.OppositeSpan s s') (hle : s.start ≤ s.stop) :
    l.Respaced (l.text.slice s) (l.text'.slice s') := by
  rcases h.slice_cases hle with hsame | ⟨k, -, -, hacross, hacross'⟩
  · rw [hsame]
    exact .same _
  · rw [hacross, hacross']
    exact .across _ _

theorem lookup_sameGroup {groups groups' : List (Nat × Span)} (h : List.Forall₂ l.SameGroup groups groups')
    (number : Nat) : Option.Rel l.OppositeSpan (groups.lookup number) (groups'.lookup number) := by
  induction h with
  | nil => exact .none
  | @cons g g' _ _ hg _ ih =>
    obtain ⟨n, s⟩ := g
    obtain ⟨n', s'⟩ := g'
    obtain ⟨rfl, hspan⟩ := hg
    rw [List.lookup_cons, List.lookup_cons]
    cases number == n with
    | true => exact .some hspan
    | false => exact ih

/-- A group has the same text, or one with the white space in it. -/
theorem SameMatch.groupText {m m' : Match} (h : l.SameMatch m m') (hm : m.Of p l.text) (number : Nat) :
    l.Respaced (m.groupText l.text number) (m'.groupText l.text' number) := by
  have hgroup : Option.Rel l.OppositeSpan (m.group? number) (m'.group? number) :=
    lookup_sameGroup h.groups number
  rw [Match.groupText, Match.groupText]
  rcases rel_cases hgroup with ⟨hs, hs'⟩ | ⟨s, s', hs, hs', hspan⟩
  · rw [hs, hs']
    exact .same _
  · rw [hs, hs']
    exact hspan.slice (hm.group_within hs).2.1

end Layout
end QueryLint

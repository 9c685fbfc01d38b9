import QueryLint.Proofs.Pattern.Place
import QueryLint.Proofs.Text.Variant

/-! The texts that matches take. From a place on, a match takes a beginning of what follows, and ends
where that is passed. Main statements: `Shape.ends_past` for every shape; `Shape.mem_ends_chars` and
`Shape.mem_ends_many`, which say what the letters of a word and a run of characters take. -/
namespace QueryLint
set_option autoImplicit false

/-! ## Passing a text -/

/-- The place after a text that comes next. -/
def Cursor.past (c : Cursor) (w : Text) : Cursor :=
  ⟨w.getLast?.or c.before, c.position + w.length, c.rest.drop w.length⟩

def Progress.past (p : Progress) (w : Text) : Progress := { p with cursor := p.cursor.past w }

section Past

variable (c : Cursor) (p : Progress) (v w : Text)

@[simp] theorem Cursor.past_nil : c.past [] = c := rfl

@[simp] theorem Cursor.past_past : (c.past v).past w = c.past (v ++ w) := by
  simp only [past, List.getLast?_append, List.length_append, Option.or_assoc, List.drop_drop,
    Nat.add_assoc]

@[simp] theorem Cursor.past_rest : (c.past w).rest = c.rest.drop w.length := rfl

@[simp] theorem Cursor.past_position : (c.past w).position = c.position + w.length := rfl

@[simp] theorem Cursor.past_before : (c.past w).before = w.getLast?.or c.before := rfl

@[simp] theorem Progress.past_nil : p.past [] = p := rfl

@[simp] theorem Progress.past_past : (p.past v).past w = p.past (v ++ w) := by
  simp only [past, Cursor.past_past]

@[simp] theorem Progress.past_cursor : (p.past w).cursor = p.cursor.past w := rfl

@[simp] theorem Progress.past_groups : (p.past w).groups = p.groups := rfl

end Past

theorem Cursor.past_single {c : Cursor} {x : Char} {rest : Text} (h : c.rest = x :: rest) :
    [x] <+: c.rest ∧ Cursor.mk (some x) (c.position + 1) rest = c.past [x] := by
  refine ⟨⟨rest, h.symm⟩, ?_⟩
  rw [Cursor.past, h]
  rfl

theorem getLast?_cons_or (c : Char) (t : Text) (before : Option Char) :
    (c :: t).getLast?.or before = t.getLast?.or (some c) := by
  rw [List.getLast?_cons]
  cases t.getLast? <;> rfl

theorem prefix_drop_iff {v w rest : Text} (hv : v <+: rest) :
    w <+: rest.drop v.length ↔ v ++ w <+: rest := by
  obtain ⟨after, rfl⟩ := hv
  rw [List.drop_left, List.prefix_append_right_inj]

theorem Progress.past_append {p q r : Progress} {v w : Text} (hv : v <+: p.cursor.rest) (hr : r = p.past v)
    (hw : w <+: r.cursor.rest) (hq : q = r.past w) : v ++ w <+: p.cursor.rest ∧ q = p.past (v ++ w) := by
  subst hr hq
  exact ⟨(prefix_drop_iff hv).mp hw, Progress.past_past p v w⟩

theorem CharSet.eq_of_has_single {blind : Bool} {c d : Char} (hc : c.toNat < 0x80)
    (halpha : c.isAlpha = false) (h : has blind ⟨[.char c], false⟩ d = true) : d = c := by
  cases blind with
  | true =>
    refine Text.eq_of_sameLetter hc halpha ?_
    simpa [has, CharKind.has] using h
  | false =>
    have hcd : (c == d) = true := by simpa [has, CharKind.has] using h
    exact (eq_of_beq hcd).symm

namespace Shape

variable {blind greedy : Bool}

/-! ## Single shapes -/

theorem mem_ends_set {set : CharSet} {p q : Progress} : q ∈ (one set).ends blind p ↔
    ∃ c, [c] <+: p.cursor.rest ∧ set.has blind c = true ∧ q = p.past [c] := by
  constructor
  · intro h
    obtain ⟨c, rest, hrest, hc, rfl⟩ := mem_ends_one h
    obtain ⟨hbegins, hpast⟩ := Cursor.past_single hrest
    exact ⟨c, hbegins, hc, by rw [hpast, Progress.past]⟩
  · rintro ⟨c, ⟨rest, hrest⟩, hc, rfl⟩
    rw [ends, ← hrest]
    simp [hc, Progress.past, Cursor.past, ← hrest]

theorem mem_ends_seq {a b : Shape} {p q : Progress} :
    q ∈ (a ++ b).ends blind p ↔ ∃ r ∈ a.ends blind p, q ∈ b.ends blind r := by
  show q ∈ (a.ends blind p).flatMap (b.ends blind) ↔ _
  exact List.mem_flatMap

theorem ends_assoc {a b c : Shape} (p : Progress) :
    ((a ++ b) ++ c).ends blind p = (a ++ (b ++ c)).ends blind p := List.flatMap_assoc

theorem mem_ends_either {a b : Shape} {p q : Progress} :
    q ∈ (either a b).ends blind p ↔ q ∈ a.ends blind p ∨ q ∈ b.ends blind p := by
  rw [ends, List.mem_append]

theorem mem_ends_edge {p q : Progress} : q ∈ edge.ends blind p ↔
    Text.wordEdge p.cursor.before p.cursor.rest.head? = true ∧ q = p := by
  rw [ends, List.mem_ite_nil_right, List.mem_singleton]

theorem mem_ends_finish {p q : Progress} : q ∈ finish.ends blind p ↔ atFinish p.cursor.rest = true ∧ q = p := by
  rw [ends, List.mem_ite_nil_right, List.mem_singleton]

theorem mem_ends_notHere {set : CharSet} {p q : Progress} :
    q ∈ (notHere (one set)).ends blind p ↔
      (∀ c ∈ p.cursor.rest.head?, set.has blind c = false) ∧ q = p := by
  rw [ends, ends]
  cases p.cursor.rest with
  | nil => simp
  | cons c rest => cases hc : set.has blind c <;> simp [hc]

theorem mem_ends_group {number : Nat} {a : Shape} {p q : Progress} :
    q ∈ (group number a).ends blind p ↔
      ∃ r ∈ a.ends blind p, q = r.keep number p.cursor.position := by
  rw [ends, List.mem_map]
  exact exists_congr fun r => and_congr_right fun _ => eq_comm

theorem sign_taken {c : Char} (hc : c.toNat < 0x80) (halpha : c.isAlpha = false)
    {p q : Progress} (h : q ∈ (char c).ends blind p) : [c] <+: p.cursor.rest ∧ q = p.past [c] := by
  obtain ⟨d, hd, hhas, rfl⟩ := mem_ends_set.mp h
  obtain rfl := CharSet.eq_of_has_single hc halpha hhas
  exact ⟨hd, rfl⟩

/-! ## Words -/

theorem mem_ends_char {c : Char} {p q : Progress} : q ∈ (char c).ends true p ↔
    ∃ d, [d] <+: p.cursor.rest ∧ Text.sameLetter c d = true ∧ q = p.past [d] := by
  rw [char, mem_ends_set]
  simp [CharSet.has, CharKind.has]

theorem mem_ends_chars_cons {c : Char} {w : Text} {p q : Progress} :
    q ∈ (chars (c :: w)).ends true p ↔
      ∃ r ∈ (char c).ends true p, q ∈ (chars w).ends true r := by
  cases w with
  | nil => simp [chars, ends]
  | cons d w => exact mem_ends_seq

theorem mem_ends_chars {w : Text} {p q : Progress} : q ∈ (chars w).ends true p ↔
    ∃ v, Text.sameLetters w v = true ∧ v <+: p.cursor.rest ∧ q = p.past v := by
  induction w generalizing p q with
  | nil =>
    rw [chars, ends, List.mem_singleton]
    constructor
    · rintro rfl
      exact ⟨[], rfl, List.nil_prefix, rfl⟩
    · rintro ⟨v, hv, -, rfl⟩
      obtain rfl := List.length_eq_zero_iff.mp (Text.length_eq_of_sameLetters hv).symm
      rfl
  | cons c w ih =>
    rw [mem_ends_chars_cons]
    constructor
    · rintro ⟨r, hr, hq⟩
      obtain ⟨d, hd, hsame, rfl⟩ := mem_ends_char.mp hr
      obtain ⟨v, hv, hbegins, rfl⟩ := ih.mp hq
      refine ⟨d :: v, ?_, (prefix_drop_iff hd).mp hbegins, Progress.past_past p [d] v⟩
      rw [Text.sameLetters, hsame, hv]
      rfl
    · rintro ⟨v, hv, hbegins, rfl⟩
      cases v with
      | nil => exact absurd hv Bool.false_ne_true
      | cons d v =>
        rw [Text.sameLetters, Bool.and_eq_true] at hv
        have hd : [d] <+: p.cursor.rest := (List.prefix_append [d] v).trans hbegins
        refine ⟨p.past [d], mem_ends_char.mpr ⟨d, hd, hv.1, rfl⟩, ih.mpr ⟨v, hv.2, ?_, ?_⟩⟩
        · exact (prefix_drop_iff hd).mpr hbegins
        · exact (Progress.past_past p [d] v).symm

/-! ## Runs -/

/-- A run takes any number of the characters that come next, as long as they are in the set. The
fuel suffices if it is no shorter than what comes next. -/
theorem mem_repeated_set {set : CharSet} {fuel : Text} {p q : Progress}
    (hfuel : p.cursor.rest.length ≤ fuel.length) :
    q ∈ repeated ((one set).ends blind) greedy fuel p ↔
      ∃ w, w <+: p.cursor.rest ∧ (∀ c ∈ w, set.has blind c = true) ∧ q = p.past w := by
  induction fuel generalizing p with
  | nil =>
    have hrest : p.cursor.rest = [] := List.length_eq_zero_iff.mp (Nat.le_zero.mp hfuel)
    rw [repeated, List.mem_singleton, hrest]
    constructor
    · rintro rfl
      exact ⟨[], List.nil_prefix, by simp, rfl⟩
    · rintro ⟨w, hw, -, rfl⟩
      rw [List.prefix_nil.mp hw]
      rfl
  | cons x fuel ih =>
    rw [mem_repeated_cons]
    have hshorter : ∀ {c}, [c] <+: p.cursor.rest → (p.past [c]).cursor.rest.length ≤ fuel.length := by
      intro c hc
      have hlength := hc.length_le
      simp only [List.length_cons, List.length_nil] at hfuel hlength
      simp only [Progress.past_cursor, Cursor.past_rest, List.length_drop, List.length_cons,
        List.length_nil]
      omega
    constructor
    · rintro (rfl | ⟨r, hr, -, hq⟩)
      · exact ⟨[], List.nil_prefix, by simp, rfl⟩
      · obtain ⟨c, hc, hhas, rfl⟩ := mem_ends_set.mp hr
        obtain ⟨w, hw, hall, rfl⟩ := (ih (hshorter hc)).mp hq
        exact ⟨c :: w, (prefix_drop_iff hc).mp hw, List.forall_mem_cons.mpr ⟨hhas, hall⟩,
          Progress.past_past p [c] w⟩
    · rintro ⟨w, hw, hall, rfl⟩
      cases w with
      | nil => exact .inl rfl
      | cons c w =>
        obtain ⟨hhas, hall⟩ := List.forall_mem_cons.mp hall
        have hc : [c] <+: p.cursor.rest := (List.prefix_append [c] w).trans hw
        refine .inr ⟨p.past [c], mem_ends_set.mpr ⟨c, hc, hhas, rfl⟩, by simp [Progress.movedTo], ?_⟩
        exact (ih (hshorter hc)).mpr
          ⟨w, (prefix_drop_iff hc).mpr hw, hall, (Progress.past_past p [c] w).symm⟩

theorem mem_ends_many {set : CharSet} {p q : Progress} :
    q ∈ (many greedy (one set)).ends blind p ↔
      ∃ w, w <+: p.cursor.rest ∧ (∀ c ∈ w, set.has blind c = true) ∧ q = p.past w := by
  rw [ends]
  exact mem_repeated_set (Nat.le_refl _)

theorem mem_ends_gap {p q : Progress} : q ∈ gap.ends blind p ↔
    ∃ w, w <+: p.cursor.rest ∧ (∀ c ∈ w, Text.isBlank c = true) ∧ q = p.past w := by
  rw [gap, many0, blank, of, mem_ends_many]
  simp [CharSet.has, CharKind.has]

theorem mem_ends_space {p q : Progress} : q ∈ space.ends blind p ↔
    ∃ w, w ≠ [] ∧ w <+: p.cursor.rest ∧ (∀ c ∈ w, Text.isBlank c = true) ∧ q = p.past w := by
  rw [space, many1, mem_ends_seq]
  constructor
  · rintro ⟨r, hr, hq⟩
    obtain ⟨c, hc, hblank, rfl⟩ := mem_ends_set.mp hr
    obtain ⟨w, hw, hall, rfl⟩ := mem_ends_gap.mp hq
    refine ⟨c :: w, List.cons_ne_nil c w, (prefix_drop_iff hc).mp hw, ?_, Progress.past_past p [c] w⟩
    exact List.forall_mem_cons.mpr ⟨by simpa [CharSet.has, CharKind.has] using hblank, hall⟩
  · rintro ⟨w, hne, hw, hall, rfl⟩
    obtain ⟨c, w, rfl⟩ := List.exists_cons_of_ne_nil hne
    obtain ⟨hblank, hall⟩ := List.forall_mem_cons.mp hall
    have hc : [c] <+: p.cursor.rest := (List.prefix_append [c] w).trans hw
    refine ⟨p.past [c], mem_ends_set.mpr ⟨c, hc, by simpa [CharSet.has, CharKind.has] using hblank, rfl⟩,
      mem_ends_gap.mpr ⟨w, (prefix_drop_iff hc).mpr hw, hall, (Progress.past_past p [c] w).symm⟩⟩

/-! ## Every shape -/

/-- A match ends where a beginning of what comes next is passed. -/
theorem Leads.past {s : Shape} {p q : Progress} (h : Leads blind s p q) :
    ∃ w, w <+: p.cursor.rest ∧ q.cursor = p.cursor.past w := by
  induction h with
  | nothing | done | edge | finish | notHere | notAfter => exact ⟨[], List.nil_prefix, rfl⟩
  | one hrest hhas =>
    obtain ⟨hc, hpast⟩ := Cursor.past_single hrest
    exact ⟨_, hc, hpast⟩
  | seq _ _ ihfirst ihsecond | more _ _ ihfirst ihsecond =>
    obtain ⟨v, hv, hrv⟩ := ihfirst
    obtain ⟨w, hw, hqw⟩ := ihsecond
    rw [hrv] at hw hqw
    exact ⟨v ++ w, (prefix_drop_iff hv).mp hw, hqw.trans (Cursor.past_past _ v w)⟩
  | left _ ih | right _ ih | group _ ih => exact ih

theorem ends_past {s : Shape} {p q : Progress} (h : q ∈ s.ends blind p) :
    ∃ w, w <+: p.cursor.rest ∧ q.cursor = p.cursor.past w :=
  (leads_of_mem_ends h).past

/-! ## Texts that a shape takes -/

/-- At every place the shape takes those beginnings of what comes next that are texts of the kind. -/
def Takes (s : Shape) (W : Text → Prop) : Prop :=
  ∀ p q, q ∈ s.ends true p ↔ ∃ w, W w ∧ w <+: p.cursor.rest ∧ q = p.past w

section Takes

variable {a b : Shape} {V W : Text → Prop}

theorem Takes.congr (h : a.Takes V) (hVW : ∀ w, V w ↔ W w) : a.Takes W := by
  intro p q
  simp only [h p q, hVW]

theorem Takes.seq (ha : a.Takes V) (hb : b.Takes W) :
    (a ++ b).Takes fun w => ∃ u v, w = u ++ v ∧ V u ∧ W v := by
  intro p q
  rw [mem_ends_seq]
  constructor
  · rintro ⟨r, hr, hq⟩
    obtain ⟨u, hu, hbegins, rfl⟩ := (ha p r).mp hr
    obtain ⟨v, hv, hnext, rfl⟩ := (hb _ q).mp hq
    exact ⟨u ++ v, ⟨u, v, rfl, hu, hv⟩, (prefix_drop_iff hbegins).mp hnext,
      Progress.past_past p u v⟩
  · rintro ⟨_, ⟨u, v, rfl, hu, hv⟩, hbegins, rfl⟩
    have hfirst : u <+: p.cursor.rest := (List.prefix_append u v).trans hbegins
    refine ⟨p.past u, (ha p _).mpr ⟨u, hu, hfirst, rfl⟩, (hb _ _).mpr ⟨v, hv, ?_, ?_⟩⟩
    · exact (prefix_drop_iff hfirst).mpr hbegins
    · exact (Progress.past_past p u v).symm

theorem takes_chars (part : Text) : (chars part).Takes fun w => Text.sameLetters part w = true :=
  fun _ _ => mem_ends_chars

theorem takes_set (set : CharSet) : (one set).Takes fun w => ∃ c, w = [c] ∧ set.has true c = true := by
  intro p q
  rw [mem_ends_set]
  constructor
  · rintro ⟨c, hbegins, hc, rfl⟩
    exact ⟨[c], ⟨c, rfl, hc⟩, hbegins, rfl⟩
  · rintro ⟨_, ⟨c, rfl, hc⟩, hbegins, rfl⟩
    exact ⟨c, hbegins, hc, rfl⟩

theorem takes_run {greedy : Bool} (set : CharSet) :
    (many greedy (one set)).Takes fun w => ∀ c ∈ w, set.has true c = true := by
  intro p q
  rw [mem_ends_many]
  exact exists_congr fun w => and_left_comm

theorem takes_run1 (set : CharSet) :
    (many1 (one set)).Takes fun w => w ≠ [] ∧ ∀ c ∈ w, set.has true c = true := by
  refine ((takes_set set).seq (takes_run set)).congr fun w => ⟨?_, ?_⟩
  · rintro ⟨_, w, rfl, ⟨c, rfl, hc⟩, hw⟩
    exact ⟨List.cons_ne_nil c w, List.forall_mem_cons.mpr ⟨hc, hw⟩⟩
  · rintro ⟨hne, hw⟩
    obtain ⟨c, w, rfl⟩ := List.exists_cons_of_ne_nil hne
    obtain ⟨hc, hw⟩ := List.forall_mem_cons.mp hw
    exact ⟨[c], w, rfl, ⟨c, rfl, hc⟩, hw⟩

theorem takes_gap : gap.Takes fun w => ∀ c ∈ w, Text.isBlank c = true :=
  (takes_run _).congr fun w => by simp [CharSet.has, CharKind.has]

theorem takes_space : space.Takes fun w => w ≠ [] ∧ ∀ c ∈ w, Text.isBlank c = true :=
  (takes_run1 _).congr fun w => by simp [CharSet.has, CharKind.has]

theorem takes_sign {c : Char} (hc : c.toNat < 0x80) (halpha : c.isAlpha = false) :
    (char c).Takes fun w => w = [c] := by
  intro p q
  constructor
  · intro h
    obtain ⟨hbegins, rfl⟩ := sign_taken hc halpha h
    exact ⟨[c], rfl, hbegins, rfl⟩
  · rintro ⟨_, rfl, hbegins, rfl⟩
    exact mem_ends_char.mpr ⟨c, hbegins, beq_self_eq_true _, rfl⟩

theorem takes_either (ha : a.Takes V) (hb : b.Takes W) : (either a b).Takes fun w => V w ∨ W w := by
  intro p q
  rw [mem_ends_either, ha p q, hb p q, ← exists_or]
  exact exists_congr fun w => or_and_right.symm

theorem past_mem_repeated {greedy : Bool} (h : a.Takes W) {ws : List Text} (hws : ∀ w ∈ ws, W w) {p : Progress}
    {fuel : Text} (hfuel : p.cursor.rest.length ≤ fuel.length) (hbegins : ws.flatten <+: p.cursor.rest) :
    p.past ws.flatten ∈ repeated (a.ends true) greedy fuel p := by
  induction ws generalizing p fuel with
  | nil =>
    cases fuel with
    | nil => exact List.mem_singleton.mpr rfl
    | cons y fuel => exact mem_repeated_cons.mpr (.inl rfl)
  | cons w ws ih =>
    obtain ⟨hw, hws⟩ := List.forall_mem_cons.mp hws
    rw [List.flatten_cons] at hbegins ⊢
    -- a repetition that takes nothing is none
    by_cases hne : w = []
    · rw [hne, List.nil_append] at hbegins ⊢
      exact ih hws hfuel hbegins
    · have hfirst : w <+: p.cursor.rest := (List.prefix_append w _).trans hbegins
      have hpos := List.length_pos_iff.mpr hne
      have hle := hfirst.length_le
      cases fuel with
      | nil =>
        rw [List.length_nil] at hfuel
        omega
      | cons y fuel =>
        refine mem_repeated_cons.mpr (.inr ⟨p.past w, (h p _).mpr ⟨w, hw, hfirst, rfl⟩, ?_, ?_⟩)
        · simpa [Progress.movedTo] using hpos
        · rw [← Progress.past_past]
          refine ih hws ?_ ((prefix_drop_iff hfirst).mpr hbegins)
          simp only [Progress.past_cursor, Cursor.past_rest, List.length_drop, List.length_cons] at hfuel ⊢
          omega

theorem exists_pieces_of_mem_repeated {greedy : Bool} (h : a.Takes W) {fuel : Text} {p q : Progress}
    (hq : q ∈ repeated (a.ends true) greedy fuel p) :
    ∃ ws : List Text, (∀ w ∈ ws, W w) ∧ ws.flatten <+: p.cursor.rest ∧ q = p.past ws.flatten := by
  induction fuel generalizing p with
  | nil =>
    obtain rfl := List.mem_singleton.mp hq
    exact ⟨[], by simp, List.nil_prefix, rfl⟩
  | cons x fuel ih =>
    rcases mem_repeated_cons.mp hq with rfl | ⟨r, hr, -, hqr⟩
    · exact ⟨[], by simp, List.nil_prefix, rfl⟩
    · obtain ⟨w, hw, hbegins, rfl⟩ := (h p r).mp hr
      obtain ⟨ws, hws, hnext, rfl⟩ := ih hqr
      exact ⟨w :: ws, List.forall_mem_cons.mpr ⟨hw, hws⟩, (prefix_drop_iff hbegins).mp hnext,
        Progress.past_past p w ws.flatten⟩

/-- Repetitions take texts of the kind one after the other. -/
theorem takes_many {greedy : Bool} (h : a.Takes W) :
    (many greedy a).Takes fun w => ∃ ws : List Text, (∀ v ∈ ws, W v) ∧ w = ws.flatten := by
  intro p q
  constructor
  · intro hq
    rw [ends] at hq
    obtain ⟨ws, hws, hbegins, rfl⟩ := exists_pieces_of_mem_repeated h hq
    exact ⟨ws.flatten, ⟨ws, hws, rfl⟩, hbegins, rfl⟩
  · rintro ⟨_, ⟨ws, hws, rfl⟩, hbegins, rfl⟩
    rw [ends]
    exact past_mem_repeated h hws (Nat.le_refl _) hbegins

theorem takes_optional (h : a.Takes W) : (optional a).Takes fun w => W w ∨ w = [] := by
  intro p q
  have hnothing : q ∈ nothing.ends true p ↔ q = p := by rw [ends, List.mem_singleton]
  rw [optional, mem_ends_either, h p q, hnothing]
  constructor
  · rintro (⟨w, hw, hbegins, rfl⟩ | rfl)
    · exact ⟨w, .inl hw, hbegins, rfl⟩
    · exact ⟨[], .inr rfl, List.nil_prefix, rfl⟩
  · rintro ⟨w, hw | rfl, hbegins, rfl⟩
    · exact .inl ⟨w, hw, hbegins, rfl⟩
    · exact .inr rfl

end Takes

end Shape

/-- A pattern fits just the texts that its shape takes. -/
theorem Pattern.fits_iff_of_takes {s : Shape} {W : Text → Prop} (h : s.Takes W) {t : Text} :
    (Pattern.anyCase s).fits t = true ↔ W t := by
  rw [fits, Shape.run_eq_findSome?, List.findSome?_isSome_iff]
  constructor
  · rintro ⟨q, hq, hend⟩
    obtain ⟨w, hw, hbegins, rfl⟩ := (h _ q).mp hq
    have hrest : t.drop w.length = [] := by simpa [Cursor.atStart] using hend
    have hlength : t.length ≤ w.length := List.drop_eq_nil_iff.mp hrest
    obtain rfl : w = t := hbegins.eq_of_length (Nat.le_antisymm hbegins.length_le hlength)
    exact hw
  · intro ht
    refine ⟨_, (h _ _).mpr ⟨t, ht, List.prefix_refl t, rfl⟩, ?_⟩
    simp [Cursor.atStart]

/-! ## The first match from a place on -/

namespace Pattern

variable {p : Pattern} {before : Option Char} {position : Nat} {rest : Text}

theorem matchAt?_of_findSome?_none
    (h : (Cursor.onward before position rest).findSome? p.matchAt? = none) (v w : Text)
    (hsplit : rest = v ++ w) : p.matchAt? ⟨v.getLast?.or before, position + v.length, w⟩ = none := by
  induction v generalizing before position rest with
  | nil =>
    obtain rfl : rest = w := hsplit
    cases rest <;> exact List.findSome?_eq_none_iff.mp h _ List.mem_cons_self
  | cons c v ih =>
    subst hsplit
    rw [List.cons_append, Cursor.onward, List.findSome?_cons] at h
    split at h
    · cases h
    · have hlater := ih h rfl
      rwa [Nat.add_assoc, Nat.add_comm 1, ← getLast?_cons_or] at hlater

theorem exists_of_findSome?_some {m : Match}
    (h : (Cursor.onward before position rest).findSome? p.matchAt? = some m) :
    ∃ u w, rest = u ++ w ∧ p.matchAt? ⟨u.getLast?.or before, position + u.length, w⟩ = some m ∧
      ∀ v v', u = v ++ v' → v' ≠ [] →
        p.matchAt? ⟨v.getLast?.or before, position + v.length, v' ++ w⟩ = none := by
  induction rest generalizing before position with
  | nil =>
    rw [Cursor.onward, List.findSome?_singleton] at h
    exact ⟨[], [], rfl, h,
      fun v v' hsplit hv' => absurd (List.append_eq_nil_iff.mp hsplit.symm).2 hv'⟩
  | cons c rest ih =>
    rw [Cursor.onward, List.findSome?_cons] at h
    split at h
    · rename_i m' hm
      obtain rfl := Option.some.inj h
      exact ⟨[], c :: rest, rfl, hm,
        fun v v' hsplit hv' => absurd (List.append_eq_nil_iff.mp hsplit.symm).2 hv'⟩
    · rename_i hnone
      obtain ⟨u, w, rfl, hm, hbefore⟩ := ih h
      refine ⟨c :: u, w, rfl, ?_, fun v v' hsplit hv' => ?_⟩
      · rwa [getLast?_cons_or, List.length_cons, Nat.add_comm u.length, ← Nat.add_assoc]
      · cases v with
        | nil =>
          rw [List.nil_append] at hsplit
          rw [← hsplit]
          exact hnone
        | cons d v =>
          obtain ⟨rfl, hu⟩ := List.cons.inj hsplit
          rw [getLast?_cons_or, List.length_cons, Nat.add_comm v.length, ← Nat.add_assoc]
          exact hbefore v v' hu hv'

end Pattern
end QueryLint

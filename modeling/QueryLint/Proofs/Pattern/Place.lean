import QueryLint.Pattern.Search

/-! Where matches stand. Matching moves a cursor forward in one text and keeps groups only on the
way. Main statements: `Shape.leads_of_mem_ends` for the way of a match, `Shape.ends_forward` for its end
and `Shape.ends_groups` for its groups; `Match.Of.add_least_le_stop` and `Match.Of.group_within` for
whatever a search comes up with. -/
namespace QueryLint
set_option autoImplicit false

/-! ## Guarded lists -/

section Guarded

variable {α : Type} {P : Prop} [Decidable P] {a b : α}

theorem eq_of_mem_when (h : a ∈ if P then [b] else []) : a = b :=
  List.mem_singleton.mp (List.mem_ite_nil_right.mp h).2

theorem eq_of_mem_unless (h : a ∈ if P then [] else [b]) : a = b :=
  List.mem_singleton.mp (List.mem_ite_nil_left.mp h).2

end Guarded

/-! ## Cursors of a text -/

structure Cursor.InText (t : Text) (c : Cursor) : Prop where
  position_le : c.position ≤ t.length
  rest_eq : c.rest = t.drop c.position
  before_eq : c.before = (t.take c.position).getLast?

namespace Cursor

theorem atStart_inText (t : Text) : (atStart t).InText t := ⟨Nat.zero_le _, rfl, rfl⟩

theorem seek_inText (t : Text) (position : Nat) : (seek t position).InText t := by
  have h : (t.take position).length = min position t.length := List.length_take
  refine ⟨by simp only [seek]; omega, ?_, ?_⟩
  · by_cases hp : position ≤ t.length
    · simp only [seek, h, Nat.min_eq_left hp]
    · simp only [seek, h]
      rw [List.drop_eq_nil_of_le (by omega), List.drop_eq_nil_of_le (by omega)]
  · simp only [seek, h]
    rw [← List.take_eq_take_min]

theorem seek_eq {t : Text} {position : Nat} (h : position ≤ t.length) :
    seek t position = ⟨(t.take position).getLast?, position, t.drop position⟩ := by
  rw [seek, List.length_take, Nat.min_eq_left h]

theorem inText_of_append (u v : Text) : (mk u.getLast? u.length v).InText (u ++ v) := by
  refine ⟨?_, ?_, ?_⟩
  · rw [List.length_append]
    exact Nat.le_add_right _ _
  · rw [List.drop_left]
  · rw [List.take_left]

theorem seek_append (u v : Text) : seek (u ++ v) u.length = ⟨u.getLast?, u.length, v⟩ := by
  rw [seek, List.take_left, List.drop_left]

variable {t : Text} {c : Cursor}

theorem InText.before_eq_getElem? (h : c.InText t) {k : Nat}
    (hk : c.position = k + 1) : c.before = t[k]? := by
  have hle := h.position_le
  rw [h.before_eq, List.getLast?_eq_getElem?, List.length_take, List.getElem?_take_of_lt (by omega)]
  congr 1
  omega

theorem InText.getElem?_rest (h : c.InText t) (k : Nat) :
    c.rest[k]? = t[c.position + k]? := by
  rw [h.rest_eq, List.getElem?_drop]

theorem InText.length_rest (h : c.InText t) : c.position + c.rest.length = t.length := by
  have hp := h.position_le
  rw [h.rest_eq, List.length_drop]
  omega

theorem InText.next (h : c.InText t) {x : Char} {rest : Text} (hr : c.rest = x :: rest) :
    (Cursor.mk (some x) (c.position + 1) rest).InText t := by
  have hd : t.drop c.position = x :: rest := by rw [← h.rest_eq, hr]
  have hl : c.position < t.length := by
    have hn := congrArg List.length hd
    simp only [List.length_drop, List.length_cons] at hn
    omega
  have hx : t[c.position]? = some x := by
    rw [← List.head?_drop, hd]
    rfl
  refine ⟨hl, ?_, ?_⟩
  · show rest = t.drop (c.position + 1)
    rw [← List.drop_drop, hd]
    rfl
  · show some x = (t.take (c.position + 1)).getLast?
    rw [List.take_add_one, hx]
    simp

/-- The places from a cursor on are cursors of the same text, none of them before it. -/
theorem InText.onward (h : c.InText t) {d : Cursor}
    (hd : d ∈ onward c.before c.position c.rest) : d.InText t ∧ c.position ≤ d.position := by
  obtain ⟨before, position, rest⟩ := c
  induction rest generalizing before position with
  | nil =>
    rw [Cursor.onward, List.mem_singleton] at hd
    subst hd
    exact ⟨h, Nat.le_refl _⟩
  | cons x rest ih =>
    rw [Cursor.onward, List.mem_cons] at hd
    rcases hd with rfl | hd
    · exact ⟨h, Nat.le_refl _⟩
    · obtain ⟨hin, hle⟩ := ih (some x) (position + 1) (h.next rfl) hd
      exact ⟨hin, Nat.le_of_succ_le hle⟩

theorem all_inText {d : Cursor} (hd : d ∈ all t) : d.InText t := ((atStart_inText t).onward hd).1

end Cursor

/-! ## Ends of a match -/

namespace Shape

/-- The least number of characters that a match takes. -/
def least : Shape → Nat
  | one _ => 1
  | seq a b => a.least + b.least
  | either a b => min a.least b.least
  | group _ body => body.least
  | nothing | many .. | edge | finish | notHere _ | notAfter _ => 0

/-- Whether every group of the shape takes a character. -/
def fillsGroups : Shape → Bool
  | seq a b | either a b => a.fillsGroups && b.fillsGroups
  | many _ body => body.fillsGroups
  | group _ body => 0 < body.least && body.fillsGroups
  | nothing | one _ | edge | finish | notHere _ | notAfter _ => true

variable {t : Text} {blind greedy : Bool}

theorem mem_ends_one {set : CharSet} {p q : Progress} (h : q ∈ (one set).ends blind p) :
    ∃ c rest, p.cursor.rest = c :: rest ∧
      set.has blind c = true ∧ q = { p with cursor := ⟨some c, p.cursor.position + 1, rest⟩ } := by
  rw [ends] at h
  split at h
  · exact absurd h List.not_mem_nil
  · rename_i c rest hr
    split at h
    · rename_i hc
      exact ⟨c, rest, hr, hc, List.mem_singleton.mp h⟩
    · exact absurd h List.not_mem_nil

theorem mem_repeated_cons {step : Progress → List Progress} {x : Char} {fuel : Text}
    {p q : Progress} : q ∈ repeated step greedy (x :: fuel) p ↔
      q = p ∨ ∃ r ∈ step p, p.movedTo r = true ∧ q ∈ repeated step greedy fuel r := by
  have hlonger : ∀ r, (q ∈ if p.movedTo r then repeated step greedy fuel r else []) ↔
      p.movedTo r = true ∧ q ∈ repeated step greedy fuel r := by
    intro r
    split
    · rename_i h
      simp [h]
    · rename_i h
      simp [h]
  cases greedy with
  | true =>
    simp only [repeated, ite_true, List.mem_append, List.mem_singleton, List.mem_flatMap, hlonger]
    exact or_comm
  | false =>
    simp only [repeated, Bool.false_eq_true, ite_false, List.mem_cons, List.mem_flatMap, hlonger]

/-- Steps that agree under a map of places are repeated alike. -/
theorem repeated_map {f : Progress → Progress} {step : Progress → List Progress}
    (hstep : ∀ p, step (f p) = (step p).map f) (hmoved : ∀ p q, (f p).movedTo (f q) = p.movedTo q)
    {fuel fuel' : Text} (hfuel : fuel'.length = fuel.length) (p : Progress) :
    repeated step greedy fuel' (f p) = (repeated step greedy fuel p).map f := by
  induction fuel generalizing fuel' p with
  | nil =>
    obtain rfl := List.length_eq_zero_iff.mp hfuel
    rfl
  | cons x fuel ih =>
    obtain ⟨x', fuel', rfl⟩ := List.exists_cons_of_length_eq_add_one hfuel
    have hlonger : ((step (f p)).flatMap fun q =>
          if (f p).movedTo q then repeated step greedy fuel' q else [])
        = ((step p).flatMap fun q =>
          if p.movedTo q then repeated step greedy fuel q else []).map f := by
      rw [hstep, List.flatMap_map, List.map_flatMap]
      congr 1
      funext q
      rw [ih (Nat.succ.inj hfuel), hmoved, apply_ite (List.map f)]
      rfl
    rw [repeated, repeated, hlonger]
    cases greedy <;> simp

/-! ## Ways of a match -/

/-- The way of a match of the shape from one place to another. What holds of every match is shown by
induction on its way. -/
inductive Leads (blind : Bool) : Shape → Progress → Progress → Prop
  | nothing {p : Progress} : Leads blind nothing p p
  | one {set : CharSet} {p : Progress} {c : Char} {rest : Text} (hrest : p.cursor.rest = c :: rest)
      (hhas : set.has blind c = true) :
      Leads blind (one set) p { p with cursor := ⟨some c, p.cursor.position + 1, rest⟩ }
  | seq {a b : Shape} {p q r : Progress} (first : Leads blind a p r) (second : Leads blind b r q) :
      Leads blind (seq a b) p q
  | left {a b : Shape} {p q : Progress} (way : Leads blind a p q) : Leads blind (either a b) p q
  | right {a b : Shape} {p q : Progress} (way : Leads blind b p q) : Leads blind (either a b) p q
  | done {greedy : Bool} {body : Shape} {p : Progress} : Leads blind (many greedy body) p p
  | more {greedy : Bool} {body : Shape} {p q r : Progress} (once : Leads blind body p r)
      (again : Leads blind (many greedy body) r q) : Leads blind (many greedy body) p q
  | group {number : Nat} {body : Shape} {p q : Progress} (way : Leads blind body p q) :
      Leads blind (group number body) p (q.keep number p.cursor.position)
  | edge {p : Progress} (h : Text.wordEdge p.cursor.before p.cursor.rest.head? = true) :
      Leads blind edge p p
  | finish {p : Progress} (h : atFinish p.cursor.rest = true) : Leads blind finish p p
  | notHere {body : Shape} {p : Progress} (h : (body.ends blind p).isEmpty = true) :
      Leads blind (notHere body) p p
  | notAfter {set : CharSet} {p : Progress} (h : ¬p.cursor.before.any (set.has blind) = true) :
      Leads blind (notAfter set) p p

theorem leads_of_mem_repeated {body : Shape}
    (hbody : ∀ {p q : Progress}, q ∈ body.ends blind p → Leads blind body p q) {fuel : Text}
    {p q : Progress} (hq : q ∈ repeated (body.ends blind) greedy fuel p) :
    Leads blind (many greedy body) p q := by
  induction fuel generalizing p with
  | nil =>
    obtain rfl := List.mem_singleton.mp hq
    exact .done
  | cons x fuel ih =>
    rcases mem_repeated_cons.mp hq with rfl | ⟨r, hr, -, hqr⟩
    · exact .done
    · exact .more (hbody hr) (ih hqr)

theorem leads_of_mem_ends {s : Shape} {p q : Progress} (hq : q ∈ s.ends blind p) :
    Leads blind s p q := by
  induction s generalizing p q with
  | nothing =>
    obtain rfl := List.mem_singleton.mp hq
    exact .nothing
  | one set =>
    obtain ⟨c, rest, hrest, hhas, rfl⟩ := mem_ends_one hq
    exact .one hrest hhas
  | seq a b iha ihb =>
    obtain ⟨r, hr, hqr⟩ := List.mem_flatMap.mp hq
    exact .seq (iha hr) (ihb hqr)
  | either a b iha ihb =>
    rcases List.mem_append.mp hq with hq | hq
    · exact .left (iha hq)
    · exact .right (ihb hq)
  | many greedy body ih => exact leads_of_mem_repeated ih hq
  | group number body ih =>
    obtain ⟨r, hr, rfl⟩ := List.mem_map.mp hq
    exact .group (ih hr)
  | edge =>
    obtain ⟨h, hq⟩ := List.mem_ite_nil_right.mp hq
    obtain rfl := List.mem_singleton.mp hq
    exact .edge h
  | finish =>
    obtain ⟨h, hq⟩ := List.mem_ite_nil_right.mp hq
    obtain rfl := List.mem_singleton.mp hq
    exact .finish h
  | notHere body _ =>
    obtain ⟨h, hq⟩ := List.mem_ite_nil_right.mp hq
    obtain rfl := List.mem_singleton.mp hq
    exact .notHere h
  | notAfter set =>
    obtain ⟨h, hq⟩ := List.mem_ite_nil_left.mp hq
    obtain rfl := List.mem_singleton.mp hq
    exact .notAfter h

theorem Leads.forward {s : Shape} {p q : Progress} (h : Leads blind s p q) (hp : p.cursor.InText t) :
    q.cursor.InText t ∧ p.cursor.position + s.least ≤ q.cursor.position := by
  induction h with
  | nothing | done | edge | finish | notHere | notAfter => exact ⟨hp, Nat.le_refl _⟩
  | one hrest _ => exact ⟨hp.next hrest, Nat.le_refl _⟩
  | seq _ _ ihfirst ihsecond =>
    obtain ⟨hin, hle⟩ := ihfirst hp
    obtain ⟨hin', hle'⟩ := ihsecond hin
    exact ⟨hin', by simp only [least]; omega⟩
  | left _ ih | right _ ih =>
    obtain ⟨hin, hle⟩ := ih hp
    exact ⟨hin, by simp only [least]; omega⟩
  | more _ _ ihonce ihagain =>
    obtain ⟨hin, hle⟩ := ihonce hp
    obtain ⟨hin', hle'⟩ := ihagain hin
    exact ⟨hin', by simp only [least] at hle' ⊢; omega⟩
  | group _ ih => exact ih hp

/-- A match ends in the same text, at least as far on as its shape needs. -/
theorem ends_forward {s : Shape} {p q : Progress} (hp : p.cursor.InText t)
    (hq : q ∈ s.ends blind p) :
    q.cursor.InText t ∧ p.cursor.position + s.least ≤ q.cursor.position :=
  (leads_of_mem_ends hq).forward hp

/-! ## Groups of a match -/

/-- A kept group lies between two positions, and takes a character if it has to. -/
def GroupWithin (full : Bool) (start stop : Nat) (g : Nat × Span) : Prop :=
  start ≤ g.2.start ∧ g.2.start ≤ g.2.stop ∧ g.2.stop ≤ stop ∧
    (full = true → g.2.start < g.2.stop)

theorem GroupWithin.mono {full full' : Bool} {start stop start' stop' : Nat} {g : Nat × Span}
    (h : GroupWithin full start stop g) (hf : full' = true → full = true) (hs : start' ≤ start)
    (he : stop ≤ stop') : GroupWithin full' start' stop' g :=
  ⟨Nat.le_trans hs h.1, h.2.1, Nat.le_trans h.2.2.1 he, fun hfull => h.2.2.2 (hf hfull)⟩

/-- The groups at an end are those kept before and those that the match itself kept. -/
theorem ends_groups {s : Shape} {p q : Progress} (hp : p.cursor.InText t)
    (hq : q ∈ s.ends blind p) {g : Nat × Span} (hg : g ∈ q.groups) :
    g ∈ p.groups ∨ GroupWithin s.fillsGroups p.cursor.position q.cursor.position g := by
  replace hq := leads_of_mem_ends hq
  induction hq with
  | nothing | one | done | edge | finish | notHere | notAfter => exact .inl hg
  | seq hfirst hsecond ihfirst ihsecond =>
    obtain ⟨hin, hle⟩ := hfirst.forward hp
    obtain ⟨-, hle'⟩ := hsecond.forward hin
    simp only [fillsGroups]
    rcases ihsecond hin hg with hg | hg
    · refine (ihfirst hp hg).imp_right fun h => h.mono ?_ (Nat.le_refl _) (by omega)
      exact fun hf => (Bool.and_eq_true _ _ ▸ hf).1
    · exact .inr (hg.mono (fun hf => (Bool.and_eq_true _ _ ▸ hf).2) (by omega) (Nat.le_refl _))
  | left _ ih =>
    refine (ih hp hg).imp_right fun h => h.mono ?_ (Nat.le_refl _) (Nat.le_refl _)
    exact fun hf => (Bool.and_eq_true _ _ ▸ hf).1
  | right _ ih =>
    refine (ih hp hg).imp_right fun h => h.mono ?_ (Nat.le_refl _) (Nat.le_refl _)
    exact fun hf => (Bool.and_eq_true _ _ ▸ hf).2
  | more honce hagain ihonce ihagain =>
    obtain ⟨hin, hle⟩ := honce.forward hp
    obtain ⟨-, hle'⟩ := hagain.forward hin
    rcases ihagain hin hg with hg | hg
    · exact (ihonce hp hg).imp_right fun h => h.mono id (Nat.le_refl _) (by omega)
    · exact .inr (hg.mono id (by omega) (Nat.le_refl _))
  | group hway ih =>
    obtain ⟨-, hle⟩ := hway.forward hp
    rcases List.mem_cons.mp hg with rfl | hg
    · refine .inr ⟨Nat.le_refl _, by simp only; omega, Nat.le_refl _, fun hf => ?_⟩
      simp only [fillsGroups, Bool.and_eq_true, decide_eq_true_eq] at hf
      simp only
      omega
    · refine (ih hp hg).imp_right fun h => h.mono ?_ (Nat.le_refl _) (Nat.le_refl _)
      exact fun hf => (Bool.and_eq_true _ _ ▸ hf).2

end Shape

/-! ## What stands in a group -/

theorem Text.getElem?_slice (t : Text) (s : Span) (i : Nat) :
    (t.slice s)[i]? = if s.start + i < s.stop then t[s.start + i]? else none := by
  rw [slice, List.getElem?_drop, List.getElem?_take]

namespace Match

variable {m : Match} {number : Nat}

theorem mem_groups_of_group? {s : Span} (h : m.group? number = some s) : (number, s) ∈ m.groups := by
  obtain ⟨before, after, hgroups, -⟩ := List.lookup_eq_some_iff.mp h
  rw [hgroups]
  exact List.mem_append_right before List.mem_cons_self

theorem exists_of_mem_groupText {t : Text} {c : Char} (h : c ∈ m.groupText t number) :
    ∃ s, m.group? number = some s ∧ ∃ i, s.start ≤ i ∧ i < s.stop ∧ t[i]? = some c := by
  rw [groupText] at h
  cases hs : m.group? number with
  | none => exact absurd (hs ▸ h) List.not_mem_nil
  | some s =>
    rw [hs] at h
    obtain ⟨i, hi⟩ := List.mem_iff_getElem?.mp h
    rw [Option.map_some, Option.getD_some, Text.getElem?_slice] at hi
    obtain ⟨hlt, hi⟩ := Option.ite_none_right_eq_some.mp hi
    exact ⟨s, rfl, s.start + i, Nat.le_add_right _ i, hlt, hi⟩

end Match

/-! ## What a search comes up with -/

/-- The match begins at some place of the text. -/
def Match.Of (p : Pattern) (t : Text) (m : Match) : Prop :=
  ∃ c : Cursor, c.InText t ∧ p.matchAt? c = some m

namespace Pattern

variable {p : Pattern} {t : Text} {m : Match}

theorem exists_end_of_matchAt? {c : Cursor} (h : p.matchAt? c = some m) :
    ∃ q ∈ p.shape.ends p.ignoreCase ⟨c, []⟩, m = ⟨⟨c.position, q.cursor.position⟩, q.groups⟩ := by
  rw [matchAt?_eq_head?] at h
  obtain ⟨q, hq, hm⟩ := List.mem_map.mp (List.mem_of_mem_head? h)
  exact ⟨q, hq, hm.symm⟩

theorem isSome_matchAt? {c : Cursor} :
    (p.matchAt? c).isSome = true ↔ ∃ q, q ∈ p.shape.ends p.ignoreCase ⟨c, []⟩ := by
  rw [matchAt?_eq_head?, List.isSome_head?, ne_eq, List.map_eq_nil_iff, ← ne_eq]
  constructor
  · exact List.exists_mem_of_ne_nil _
  · rintro ⟨q, hq⟩
    exact List.ne_nil_of_mem hq

theorem of_first? (h : p.first? t = some m) : m.Of p t := by
  obtain ⟨c, hc, hm⟩ := List.exists_of_findSome?_eq_some h
  exact ⟨c, Cursor.all_inText hc, hm⟩

theorem of_firstFrom? {position : Nat} (h : p.firstFrom? t position = some m) : m.Of p t := by
  obtain ⟨c, hc, hm⟩ := List.exists_of_findSome?_eq_some h
  exact ⟨c, ((Cursor.seek_inText t position).onward hc).1, hm⟩

theorem exists_of_mem_allAmong {resume : Nat} {cursors : List Cursor}
    (h : m ∈ p.allAmong resume cursors) : ∃ c ∈ cursors, p.matchAt? c = some m := by
  induction cursors generalizing resume with
  | nil => exact absurd h List.not_mem_nil
  | cons c rest ih =>
    have later : ∀ {resume}, m ∈ p.allAmong resume rest →
        ∃ d ∈ c :: rest, p.matchAt? d = some m := by
      intro resume h
      obtain ⟨d, hd, hm⟩ := ih h
      exact ⟨d, List.mem_cons_of_mem c hd, hm⟩
    rw [allAmong] at h
    split at h
    · exact later h
    · split at h
      · exact later h
      · rename_i m' hm
        rcases List.mem_cons.mp h with rfl | h
        · exact ⟨c, List.mem_cons_self, hm⟩
        · exact later h

theorem of_mem_all (h : m ∈ p.all t) : m.Of p t := by
  obtain ⟨c, hc, hm⟩ := exists_of_mem_allAmong h
  exact ⟨c, Cursor.all_inText hc, hm⟩

theorem start_of_matchAt? {c : Cursor} (h : p.matchAt? c = some m) : m.span.start = c.position := by
  obtain ⟨q, -, rfl⟩ := exists_end_of_matchAt? h
  rfl

theorem resume_le_of_mem_allAmong {resume : Nat} {cursors : List Cursor}
    (h : m ∈ p.allAmong resume cursors) : resume ≤ m.span.start := by
  induction cursors generalizing resume with
  | nil => exact absurd h List.not_mem_nil
  | cons c rest ih =>
    rw [allAmong] at h
    split at h
    · exact ih h
    · split at h
      · exact ih h
      · rename_i hresume m' hm
        have hstart := start_of_matchAt? hm
        rcases List.mem_cons.mp h with rfl | h
        · omega
        · have hlater := ih h
          omega

theorem allAmong_pairwise (resume : Nat) (cursors : List Cursor) :
    (p.allAmong resume cursors).Pairwise fun a b => a.span.stop ≤ b.span.start := by
  induction cursors generalizing resume with
  | nil => exact List.Pairwise.nil
  | cons c rest ih =>
    rw [allAmong]
    split
    · exact ih resume
    · split
      · exact ih resume
      · refine List.Pairwise.cons (fun b hb => ?_) (ih _)
        have hlater := resume_le_of_mem_allAmong hb
        omega

theorem all_pairwise (p : Pattern) (t : Text) :
    (p.all t).Pairwise fun a b => a.span.stop ≤ b.span.start := allAmong_pairwise 0 _

/-- A text that a pattern matches as a whole is as long as the pattern needs. -/
theorem least_le_length_of_fits (h : p.fits t = true) : p.shape.least ≤ t.length := by
  rw [fits, Shape.run_eq_findSome?, List.findSome?_isSome_iff] at h
  obtain ⟨q, hq, -⟩ := h
  obtain ⟨hin, hle⟩ := Shape.ends_forward (Cursor.atStart_inText t) hq
  have h0 : (Cursor.atStart t).position = 0 := rfl
  have hp := hin.position_le
  simp only [h0] at hle
  omega

end Pattern

namespace Match.Of

variable {p : Pattern} {t : Text} {m : Match}

theorem add_least_le_stop (h : m.Of p t) : m.span.start + p.shape.least ≤ m.span.stop := by
  obtain ⟨c, hc, hm⟩ := h
  obtain ⟨q, hq, rfl⟩ := Pattern.exists_end_of_matchAt? hm
  exact (Shape.ends_forward hc hq).2

theorem stop_le_length (h : m.Of p t) : m.span.stop ≤ t.length := by
  obtain ⟨c, hc, hm⟩ := h
  obtain ⟨q, hq, rfl⟩ := Pattern.exists_end_of_matchAt? hm
  exact (Shape.ends_forward hc hq).1.position_le

theorem group_within (h : m.Of p t) {number : Nat} {s : Span} (hs : m.group? number = some s) :
    Shape.GroupWithin p.shape.fillsGroups m.span.start m.span.stop (number, s) := by
  obtain ⟨c, hc, hm⟩ := h
  obtain ⟨q, hq, rfl⟩ := Pattern.exists_end_of_matchAt? hm
  exact (Shape.ends_groups hc hq (mem_groups_of_group? hs)).resolve_left List.not_mem_nil

end Match.Of

/-- Each match of a pattern that takes a character ends after the ones before it. -/
theorem Pattern.all_stops_pairwise {p : Pattern} (hp : 0 < p.shape.least) (t : Text) :
    (p.all t).Pairwise fun a b => a.span.stop < b.span.stop := by
  refine (p.all_pairwise t).imp_of_mem fun {a b} _ hb hle => ?_
  have hleast := (of_mem_all hb).add_least_le_stop
  omega

end QueryLint

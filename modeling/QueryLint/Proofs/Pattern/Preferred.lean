import QueryLint.Proofs.Pattern.Taken
import QueryLint.Proofs.Text.Variant

/-! The match that a pattern prefers. A run takes all it can, and an optional part is taken if it can
be; each part is settled in turn, so long as the parts after it match there. Main statements:
`Prefers.seq`, `prefers_many`, and `matchAt?_of_prefers`; and for texts in which nothing is to be found,
`Leads.mem_rest`, the characters that a shape needs stand in what a match begins. -/
namespace QueryLint
set_option autoImplicit false

namespace Shape

section First

variable {blind : Bool} {a b : Shape} {p q r : Progress}

theorem head?_ends_seq (ha : (a.ends blind p).head? = some r) (hb : (b.ends blind r).head? = some q) :
    ((a ++ b).ends blind p).head? = some q := by
  obtain ⟨others, hothers⟩ := List.head?_eq_some_iff.mp ha
  show ((a.ends blind p).flatMap (b.ends blind)).head? = _
  rw [hothers, List.flatMap_cons, List.head?_append, hb, Option.some_or]

theorem head?_ends_group (number : Nat) (h : (a.ends blind p).head? = some q) :
    ((group number a).ends blind p).head? = some (q.keep number p.cursor.position) := by
  rw [ends, List.head?_map, h, Option.map_some]

/-- Where there is one end only, it is the first. -/
theorem head?_ends_of_forall (hq : q ∈ a.ends blind p) (h : ∀ r ∈ a.ends blind p, r = q) :
    (a.ends blind p).head? = some q := by
  obtain ⟨first, hfirst⟩ := Option.isSome_iff_exists.mp (List.isSome_head?.mpr (List.ne_nil_of_mem hq))
  rw [hfirst, h first (List.mem_of_mem_head? hfirst)]

end First

/-- At a place the shape prefers to take a text. -/
def Prefers (blind : Bool) (s : Shape) (p : Progress) (w : Text) : Prop :=
  (s.ends blind p).head? = some (p.past w)

variable {blind : Bool} {a b : Shape} {p : Progress} {v w rest : Text}

theorem rest_past (h : p.cursor.rest = w ++ rest) : (p.past w).cursor.rest = rest := by
  rw [Progress.past_cursor, Cursor.past_rest, h, List.drop_left]

theorem Prefers.seq (ha : Prefers blind a p v) (hb : Prefers blind b (p.past v) w) :
    Prefers blind (a ++ b) p (v ++ w) := by
  rw [Prefers, head?_ends_seq ha hb, Progress.past_past]

theorem Prefers.assoc {c : Shape} (h : Prefers blind (a ++ (b ++ c)) p w) :
    Prefers blind (a ++ b ++ c) p w := by
  rwa [Prefers, ends_assoc]

theorem ends_seq_eq_nil (h : a.ends blind p = []) : (a ++ b).ends blind p = [] := by
  show (a.ends blind p).flatMap (b.ends blind) = []
  rw [h, List.flatMap_nil]

theorem Prefers.optional (h : Prefers blind a p w) : Prefers blind (optional a) p w := by
  rw [Prefers, Shape.optional, ends, List.head?_append, h, Option.some_or]

theorem prefers_optional_nil (h : a.ends blind p = []) : Prefers blind (optional a) p [] := by
  rw [Prefers, Shape.optional, ends, h, List.nil_append, ends, List.head?_cons, Progress.past_nil]

/-! ## Characters -/

theorem forall_head? {P : Char → Prop} {c : Char} (h : P c) : ∀ d ∈ (c :: rest).head?, P d :=
  fun _ hd => Option.some.inj hd ▸ h

theorem head?_ne {c d : Char} (h : c ≠ d) : (c :: rest).head? ≠ some d :=
  fun heq => h (Option.some.inj heq)

theorem ends_set {set : CharSet} {c : Char} (hrest : p.cursor.rest = c :: rest)
    (hc : set.has blind c = true) : (one set).ends blind p = [p.past [c]] := by
  rw [ends, hrest]
  simp [hc, Progress.past, Cursor.past, hrest]

theorem ends_set_eq_nil {set : CharSet} (h : ∀ c ∈ p.cursor.rest.head?, set.has blind c = false) :
    (one set).ends blind p = [] := by
  rw [ends]
  cases hrest : p.cursor.rest with
  | nil => rfl
  | cons c rest =>
    have hc := h c (by rw [hrest]; rfl)
    simp [hc]

theorem prefers_set {set : CharSet} {c : Char} (hrest : p.cursor.rest = c :: rest)
    (hc : set.has blind c = true) : Prefers blind (one set) p [c] := by
  rw [Prefers, ends_set hrest hc, List.head?_cons]

theorem prefers_char {c : Char} (hrest : p.cursor.rest = c :: rest) : Prefers blind (char c) p [c] := by
  refine prefers_set hrest ?_
  cases blind <;> simp [CharSet.has, CharKind.has, Text.sameLetter]

theorem ends_char_eq_nil {c : Char} (h : p.cursor.rest.head? ≠ some c) :
    (char c).ends false p = [] := by
  refine ends_set_eq_nil fun d hd => ?_
  have hne : c ≠ d := fun heq => h (heq ▸ hd)
  simp [CharSet.has, CharKind.has, hne]

/-! ## Runs -/

theorem head?_repeated_set {set : CharSet} {fuel : Text} (hrest : p.cursor.rest = w ++ rest)
    (hfuel : p.cursor.rest.length ≤ fuel.length) (hw : ∀ c ∈ w, set.has blind c = true)
    (hstop : ∀ c ∈ rest.head?, set.has blind c = false) :
    (repeated ((one set).ends blind) true fuel p).head? = some (p.past w) := by
  induction fuel generalizing p w with
  | nil =>
    rw [hrest, List.length_append, List.length_nil] at hfuel
    obtain rfl : w = [] := List.length_eq_zero_iff.mp (by omega)
    rfl
  | cons x fuel ih =>
    rw [repeated, if_pos rfl]
    cases w with
    | nil =>
      rw [List.nil_append] at hrest
      rw [ends_set_eq_nil (by rwa [hrest])]
      rfl
    | cons c w =>
      obtain ⟨hc, hw⟩ := List.forall_mem_cons.mp hw
      have hnext : (p.past [c]).cursor.rest = w ++ rest := rest_past hrest
      have hlonger := ih hnext (by
        rw [hrest] at hfuel
        rw [hnext]
        simpa using hfuel) hw
      have hmoved : p.movedTo (p.past [c]) = true := by simp [Progress.movedTo]
      rw [ends_set hrest hc, List.flatMap_singleton, if_pos hmoved, List.head?_append, hlonger,
        Option.some_or, Progress.past_past, List.singleton_append]

theorem prefers_many {set : CharSet} (hrest : p.cursor.rest = w ++ rest)
    (hw : ∀ c ∈ w, set.has blind c = true) (hstop : ∀ c ∈ rest.head?, set.has blind c = false) :
    Prefers blind (many true (one set)) p w := by
  rw [Prefers, ends]
  exact head?_repeated_set hrest (Nat.le_refl _) hw hstop

theorem prefers_gap (hrest : p.cursor.rest = w ++ rest) (hw : ∀ c ∈ w, Text.isBlank c = true)
    (hstop : ∀ c ∈ rest.head?, Text.isBlank c = false) : Prefers blind gap p w := by
  have hset : ∀ c, CharSet.has blind ⟨[.blank], false⟩ c = Text.isBlank c := by
    intro c
    simp [CharSet.has, CharKind.has]
  exact prefers_many hrest (fun c hc => (hset c).trans (hw c hc)) fun c hc => (hset c).trans (hstop c hc)

theorem prefers_space (hrest : p.cursor.rest = w ++ rest) (hne : w ≠ [])
    (hw : ∀ c ∈ w, Text.isBlank c = true) (hstop : ∀ c ∈ rest.head?, Text.isBlank c = false) :
    Prefers blind space p w := by
  obtain ⟨c, w, rfl⟩ := List.exists_cons_of_ne_nil hne
  obtain ⟨hc, hw⟩ := List.forall_mem_cons.mp hw
  have hfirst : Prefers blind blank p [c] := prefers_set hrest (by simpa [CharSet.has, CharKind.has] using hc)
  exact hfirst.seq (prefers_gap (rest_past hrest) hw hstop)

theorem prefers_gap_nil (h : ∀ c ∈ p.cursor.rest.head?, Text.isBlank c = false) :
    Prefers blind gap p [] :=
  prefers_gap (List.nil_append _).symm (fun _ hc => absurd hc List.not_mem_nil) h

theorem prefers_gap_char {c : Char} (hblank : Text.isBlank c = false)
    (hrest : p.cursor.rest = c :: rest) : Prefers blind (gap ++ char c) p [c] := by
  refine (prefers_gap_nil ?_).seq (prefers_char hrest)
  rw [hrest]
  exact forall_head? hblank

theorem ends_gap_char_eq_nil {c : Char} (hblank : Text.isBlank c = false)
    (h : (p.cursor.rest.dropWhile Text.isBlank).head? ≠ some c) :
    (gap ++ char c).ends false p = [] := by
  refine List.eq_nil_iff_forall_not_mem.mpr fun q hq => h ?_
  obtain ⟨r, hr, hc⟩ := mem_ends_seq.mp hq
  obtain ⟨g, ⟨later, hlater⟩, hg, rfl⟩ := mem_ends_gap.mp hr
  obtain ⟨d, ⟨after, hafter⟩, hd, -⟩ := mem_ends_set.mp hc
  obtain rfl : c = d := by simpa [CharSet.has, CharKind.has] using hd
  rw [Progress.past_cursor, Cursor.past_rest, ← hlater, List.drop_left] at hafter
  rw [← hlater, ← hafter, List.dropWhile_append_of_pos hg, List.singleton_append,
    List.dropWhile_cons_of_neg (by simp [hblank]), List.head?_cons]

/-! ## What a match needs -/

/-- Whether every match takes the character. -/
def needs (x : Char) : Shape → Bool
  | one set => set == ⟨[.char x], false⟩
  | seq a b => a.needs x || b.needs x
  | either a b => a.needs x && b.needs x
  | group _ body => body.needs x
  | nothing | many .. | edge | finish | notHere _ | notAfter _ => false

/-- What the shape needs comes next, if that has no other letter case. -/
theorem Leads.mem_rest {x : Char} (hx : ∀ d, CharSet.has blind ⟨[.char x], false⟩ d = true → d = x)
    {s : Shape} {q : Progress} (h : Leads blind s p q) (hs : s.needs x = true) : x ∈ p.cursor.rest := by
  induction h with
  | one hrest hhas =>
    obtain rfl := eq_of_beq hs
    rw [hrest, ← hx _ hhas]
    exact List.mem_cons_self
  | seq hfirst _ ihfirst ihsecond =>
    rw [needs, Bool.or_eq_true] at hs
    rcases hs with hs | hs
    · exact ihfirst hs
    · obtain ⟨v, -, hpast⟩ := hfirst.past
      have hlater := ihsecond hs
      rw [hpast] at hlater
      exact List.drop_subset _ _ hlater
  | left _ ih =>
    rw [needs, Bool.and_eq_true] at hs
    exact ih hs.1
  | right _ ih =>
    rw [needs, Bool.and_eq_true] at hs
    exact ih hs.2
  | group _ ih => exact ih hs
  | nothing | done | more | edge | finish | notHere | notAfter => exact nomatch hs

end Shape

theorem Pattern.matchAt?_of_head? {p : Pattern} {c : Cursor} {q : Progress}
    (h : (p.shape.ends p.ignoreCase ⟨c, []⟩).head? = some q) :
    p.matchAt? c = some ⟨⟨c.position, q.cursor.position⟩, q.groups⟩ := by
  rw [matchAt?_eq_head?, List.head?_map, h, Option.map_some]

theorem Pattern.matchAt?_of_prefers {p : Pattern} {c : Cursor} {w : Text}
    (h : p.shape.Prefers p.ignoreCase ⟨c, []⟩ w) :
    p.matchAt? c = some ⟨⟨c.position, c.position + w.length⟩, []⟩ := by
  obtain ⟨others, hothers⟩ := List.head?_eq_some_iff.mp h
  rw [matchAt?_eq_head?, hothers, List.map_cons, List.head?_cons]
  rfl

/-- A pattern that needs a parenthesis matches nowhere in a text without one. -/
theorem Pattern.matchAt?_of_not_needed {p : Pattern} {x : Char} {t : Text} (hx : x.toNat < 0x80)
    (halpha : x.isAlpha = false) (hp : p.shape.needs x = true) (ht : x ∉ t) {c : Cursor}
    (hc : c.InText t) : p.matchAt? c = none := by
  cases hm : p.matchAt? c with
  | none => rfl
  | some m =>
    obtain ⟨q, hq, -⟩ := exists_end_of_matchAt? hm
    have hmem := (Shape.leads_of_mem_ends hq).mem_rest (fun d => CharSet.eq_of_has_single hx halpha) hp
    exact absurd (List.drop_subset _ _ (hc.rest_eq ▸ hmem)) ht

end QueryLint

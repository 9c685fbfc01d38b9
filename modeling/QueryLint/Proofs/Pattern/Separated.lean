import Mathlib.Data.List.Basic
import QueryLint.Proofs.Pattern.Place
import QueryLint.Proofs.Pattern.Taken

/-! Texts with a separator between them. A pattern that never takes the separator, and for which it is as
good as the outside of a text, matches in each of the texts as it does in that text alone. Main statements:
`Shape.ends_within` for shapes, `Pattern.all_separated` for all matches, and `Pattern.count_separated`. -/
namespace QueryLint
set_option autoImplicit false

/-! ## A text within another -/

/-- What a text has around it: a text before it that ends in a character, of a length, and a text after
it. -/
structure TextAround where
  before : Option Char
  length : Nat
  after : Text

namespace TextAround

variable (e : TextAround)

/-- The same place seen from the text around. -/
def cursor (c : Cursor) : Cursor := ⟨c.before.or e.before, e.length + c.position, c.rest ++ e.after⟩

def group (g : Nat × Span) : Nat × Span := (g.1, g.2.shift e.length)

def progress (p : Progress) : Progress := ⟨e.cursor p.cursor, p.groups.map e.group⟩

def found (m : Match) : Match := ⟨m.span.shift e.length, m.groups.map e.group⟩

@[simp] theorem cursor_position (c : Cursor) : (e.cursor c).position = e.length + c.position := rfl

@[simp] theorem movedTo_progress (p q : Progress) :
    (e.progress p).movedTo (e.progress q) = p.movedTo q := by
  simp [Progress.movedTo, progress, cursor]

/-- No word goes on into the text around, and it begins with a separator, if it is not empty. -/
structure Apart (separator : Char) : Prop where
  before : e.before.any Text.isWord = false
  after : e.after.head?.any Text.isWord = false
  separator : ∀ c ∈ e.after.head?, c = separator

variable {e} {separator : Char}

theorem Apart.wordEdge (h : e.Apart separator) (c : Cursor) :
    Text.wordEdge (e.cursor c).before (e.cursor c).rest.head? = Text.wordEdge c.before c.rest.head? := by
  obtain ⟨before, position, rest⟩ := c
  have hbefore : (before.or e.before).any Text.isWord = before.any Text.isWord := by
    cases before with
    | none => exact h.before
    | some c => rfl
  have hrest : (rest ++ e.after).head?.any Text.isWord = rest.head?.any Text.isWord := by
    cases rest with
    | nil => exact h.after
    | cons c rest => rfl
  rw [Text.wordEdge, Text.wordEdge, cursor, hbefore, hrest]

end TextAround

/-! ## Repetitions with more fuel than they need -/

namespace Shape

/-- A step that takes a character leaves less of the text. -/
theorem length_rest_lt {blind : Bool} {s : Shape} {p q : Progress} (hq : q ∈ s.ends blind p)
    (hmoved : p.movedTo q = true) : q.cursor.rest.length < p.cursor.rest.length := by
  obtain ⟨w, hbegins, hcursor⟩ := ends_past hq
  have hle := hbegins.length_le
  rw [Progress.movedTo, hcursor, Cursor.past_position, decide_eq_true_iff] at hmoved
  rw [hcursor, Cursor.past_rest, List.length_drop]
  omega

theorem repeated_at_end {blind greedy : Bool} {body : Shape} {p : Progress} (hrest : p.cursor.rest = [])
    (fuel : Text) : repeated (body.ends blind) greedy fuel p = [p] := by
  cases fuel with
  | nil => rfl
  | cons x fuel =>
    have hlonger : ((body.ends blind p).flatMap fun q =>
        if p.movedTo q then repeated (body.ends blind) greedy fuel q else []) = [] := by
      refine List.flatMap_eq_nil_iff.mpr fun q hq => if_neg fun hmoved => ?_
      have hlt := length_rest_lt hq hmoved
      rw [hrest] at hlt
      exact Nat.not_lt_zero _ hlt
    rw [repeated, hlonger]
    cases greedy <;> rfl

theorem repeated_fuel {blind greedy : Bool} {body : Shape} {fuel fuel' : Text} {p : Progress}
    (hfuel : p.cursor.rest.length ≤ fuel.length) (hfuel' : p.cursor.rest.length ≤ fuel'.length) :
    repeated (body.ends blind) greedy fuel p = repeated (body.ends blind) greedy fuel' p := by
  induction fuel generalizing fuel' p with
  | nil =>
    have hrest : p.cursor.rest = [] := List.length_eq_zero_iff.mp (Nat.le_zero.mp hfuel)
    rw [repeated_at_end hrest, repeated_at_end hrest]
  | cons x fuel ih =>
    cases fuel' with
    | nil =>
      have hrest : p.cursor.rest = [] := List.length_eq_zero_iff.mp (Nat.le_zero.mp hfuel')
      rw [repeated_at_end hrest, repeated_at_end hrest]
    | cons y fuel' =>
      have hlonger : ((body.ends blind p).flatMap fun q =>
            if p.movedTo q then repeated (body.ends blind) greedy fuel q else [])
          = (body.ends blind p).flatMap fun q =>
            if p.movedTo q then repeated (body.ends blind) greedy fuel' q else [] := by
        refine List.flatMap_congr fun q hq => ?_
        split
        · rename_i hmoved
          have hlt := length_rest_lt hq hmoved
          exact ih (Nat.le_of_lt_succ (Nat.lt_of_lt_of_le hlt hfuel))
            (Nat.le_of_lt_succ (Nat.lt_of_lt_of_le hlt hfuel'))
        · rfl
      rw [repeated, repeated, hlonger]

/-! ## Shapes that stop at the separator -/

/-- Whether the separator is as good as the outside of the text: no set holds it, and nothing asks for the
end of the text or for the character before. -/
def stopsAt (blind : Bool) (separator : Char) : Shape → Bool
  | one set => !set.has blind separator
  | seq a b | either a b => a.stopsAt blind separator && b.stopsAt blind separator
  | many _ body | group _ body | notHere body => body.stopsAt blind separator
  | nothing | edge => true
  | finish | notAfter _ => false

/-- A match has the same ends in the text around. -/
theorem ends_within {blind : Bool} {separator : Char} {s : Shape} (hs : s.stopsAt blind separator = true)
    {e : TextAround} (he : e.Apart separator) (p : Progress) :
    s.ends blind (e.progress p) = (s.ends blind p).map e.progress := by
  induction s generalizing p with
  | nothing => rfl
  | one set =>
    obtain ⟨⟨before, position, rest⟩, groups⟩ := p
    cases rest with
    | nil =>
      have hnone : ∀ c ∈ e.after.head?, set.has blind c = false := by
        intro c hc
        rw [he.separator c hc]
        simpa [stopsAt] using hs
      show (one set).ends blind ⟨⟨_, _, e.after⟩, _⟩ = []
      rw [ends]
      cases hafter : e.after with
      | nil => rfl
      | cons c after => exact if_neg (by simp [hnone c (by rw [hafter]; rfl)])
    | cons c rest =>
      simp only [ends, TextAround.progress, TextAround.cursor, List.cons_append]
      split <;> rfl
  | seq a b iha ihb =>
    obtain ⟨ha, hb⟩ := Bool.and_eq_true_iff.mp hs
    rw [ends, ends, iha ha, List.flatMap_map, List.map_flatMap]
    congr 1
    funext q
    exact ihb hb q
  | either a b iha ihb =>
    obtain ⟨ha, hb⟩ := Bool.and_eq_true_iff.mp hs
    rw [ends, ends, iha ha, ihb hb, List.map_append]
  | many greedy body ih =>
    -- there is more fuel in the text around, but no more of it is used
    rw [ends, repeated_map (fun q => ih hs q) e.movedTo_progress rfl, ends]
    refine congrArg (List.map e.progress) (repeated_fuel ?_ (Nat.le_refl _))
    exact (List.prefix_append p.cursor.rest e.after).length_le
  | group number body ih =>
    rw [ends, ends, ih hs, List.map_map, List.map_map]
    rfl
  | edge =>
    rw [ends, ends, show (e.progress p).cursor = e.cursor p.cursor from rfl, he.wordEdge]
    split <;> rfl
  | notHere body ih =>
    rw [ends, ends, ih hs, List.isEmpty_map]
    split <;> rfl
  | finish | notAfter => exact absurd hs Bool.false_ne_true

end Shape

namespace Pattern

variable {p : Pattern} {separator : Char}

theorem matchAt?_within (hp : p.shape.stopsAt p.ignoreCase separator = true) {e : TextAround}
    (he : e.Apart separator) (c : Cursor) : p.matchAt? (e.cursor c) = (p.matchAt? c).map e.found := by
  have hends := Shape.ends_within hp he ⟨c, []⟩
  rw [matchAt?_eq_head?, matchAt?_eq_head?, show (⟨e.cursor c, []⟩ : Progress) = e.progress ⟨c, []⟩ from rfl,
    hends, List.map_map, ← List.head?_map, List.map_map]
  rfl

theorem allAmong_within (hp : p.shape.stopsAt p.ignoreCase separator = true) {e : TextAround}
    (he : e.Apart separator) (resume : Nat) (cursors : List Cursor) :
    p.allAmong (e.length + resume) (cursors.map e.cursor) = (p.allAmong resume cursors).map e.found := by
  induction cursors generalizing resume with
  | nil => rfl
  | cons c cursors ih =>
    rw [List.map_cons, allAmong, allAmong, matchAt?_within hp he, TextAround.cursor_position]
    by_cases hpassed : c.position < resume
    · rw [if_pos (Nat.add_lt_add_left hpassed _), if_pos hpassed, ih]
    · rw [if_neg (by omega), if_neg hpassed]
      cases p.matchAt? c with
      | none => exact ih resume
      | some m =>
        have hresume : max (e.found m).span.stop (e.length + c.position + 1)
            = e.length + max m.span.stop (c.position + 1) := by
          rw [Nat.add_assoc, ← Nat.add_max_add_left]
          rfl
        simp only [Option.map_some, hresume, List.map_cons, ih]

/-! ## Two texts -/

theorem allAmong_resume {resume : Nat} {cursors : List Cursor} (h : ∀ c ∈ cursors, resume ≤ c.position) :
    p.allAmong resume cursors = p.allAmong 0 cursors := by
  induction cursors with
  | nil => rfl
  | cons c cursors ih =>
    obtain ⟨hc, hcursors⟩ := List.forall_mem_cons.mp h
    rw [allAmong, allAmong, if_neg (Nat.not_lt.mpr hc), if_neg (Nat.not_lt_zero _), ih hcursors]

/-- Matches among the first places that end before the others begin leave the search there as it is. -/
theorem allAmong_append {resume : Nat} {cursors others : List Cursor}
    (hresume : ∀ d ∈ others, resume ≤ d.position)
    (happart : ∀ c ∈ cursors, ∀ m, p.matchAt? c = some m → ∀ d ∈ others,
      m.span.stop ≤ d.position ∧ c.position < d.position) :
    p.allAmong resume (cursors ++ others) = p.allAmong resume cursors ++ p.allAmong 0 others := by
  induction cursors generalizing resume with
  | nil => exact allAmong_resume hresume
  | cons c cursors ih =>
    obtain ⟨hc, happart⟩ := List.forall_mem_cons.mp happart
    rw [List.cons_append, allAmong, allAmong]
    split
    · exact ih hresume happart
    · cases hm : p.matchAt? c with
      | none => exact ih hresume happart
      | some m =>
        refine congrArg (m :: ·) (ih (fun d hd => ?_) happart)
        have hapart := hc m hm d hd
        omega

/-- The first text, with the separator and the other text after it. -/
def inFront (separator : Char) (b : Text) : TextAround := ⟨none, 0, separator :: b⟩

/-- The second text, with the other one and the separator before it. -/
def behind (a : Text) (separator : Char) : TextAround := ⟨some separator, a.length + 1, []⟩

theorem apart_inFront (hseparator : Text.isWord separator = false) (b : Text) :
    (inFront separator b).Apart separator :=
  ⟨rfl, hseparator, fun _ hc => (Option.some.inj hc).symm⟩

theorem apart_behind (hseparator : Text.isWord separator = false) (a : Text) :
    (behind a separator).Apart separator :=
  ⟨hseparator, rfl, nofun⟩

theorem onward_separated (before : Option Char) (position : Nat) (a b : Text) :
    Cursor.onward before position (a ++ separator :: b)
      = (Cursor.onward before position a).map (inFront separator b).cursor ++
        Cursor.onward (some separator) (position + a.length + 1) b := by
  induction a generalizing before position with
  | nil => simp [Cursor.onward, inFront, TextAround.cursor]
  | cons c a ih =>
    rw [List.cons_append, Cursor.onward, ih, Cursor.onward, List.map_cons, List.cons_append, List.length_cons]
    simp [inFront, TextAround.cursor, Nat.add_assoc, Nat.add_comm 1]

theorem onward_behind (before : Option Char) (position : Nat) (a b : Text) :
    Cursor.onward (before.or (some separator)) (a.length + 1 + position) b
      = (Cursor.onward before position b).map (behind a separator).cursor := by
  induction b generalizing before position with
  | nil => rfl
  | cons c b ih =>
    rw [Cursor.onward, Cursor.onward, List.map_cons, ← ih]
    simp [behind, TextAround.cursor, Nat.add_assoc]

theorem cursors_separated (a b : Text) : Cursor.all (a ++ separator :: b)
    = (Cursor.all a).map (inFront separator b).cursor ++ (Cursor.all b).map (behind a separator).cursor := by
  have hbehind := @onward_behind separator none 0 a b
  rw [Option.none_or, Nat.add_zero] at hbehind
  rw [Cursor.all, onward_separated, Nat.zero_add, hbehind, Cursor.all, Cursor.all]

/-- The matches in two texts with a separator between them are those in each of the texts. -/
theorem all_separated (hp : p.shape.stopsAt p.ignoreCase separator = true)
    (hseparator : Text.isWord separator = false) (a b : Text) :
    p.all (a ++ separator :: b)
      = (p.all a).map (inFront separator b).found ++ (p.all b).map (behind a separator).found := by
  have hfront := apart_inFront hseparator b
  have hbehind := apart_behind hseparator a
  have hfirst := allAmong_within hp hfront 0 (Cursor.all a)
  have hlater : ∀ d ∈ (Cursor.all b).map (behind a separator).cursor, a.length < d.position := by
    refine List.forall_mem_map.mpr fun d _ => ?_
    exact Nat.lt_of_lt_of_le (Nat.lt_succ_self _) (Nat.le_add_right (a.length + 1) d.position)
  have hsecond : p.allAmong 0 ((Cursor.all b).map (behind a separator).cursor) = _ :=
    (allAmong_resume fun d hd => Nat.succ_le_of_lt (hlater d hd)).symm.trans
      (allAmong_within hp hbehind 0 (Cursor.all b))
  rw [all, cursors_separated, allAmong_append fun d _ => Nat.zero_le d.position, hsecond]
  · exact congrArg (· ++ _) hfirst
  · -- a match in the first text ends in it
    refine List.forall_mem_map.mpr fun c hc m hm d hd => ?_
    rw [matchAt?_within hp hfront] at hm
    obtain ⟨m', hm', rfl⟩ := Option.map_eq_some_iff.mp hm
    have hin := Cursor.all_inText hc
    have hstop : m'.span.stop ≤ a.length := Match.Of.stop_le_length ⟨c, hin, hm'⟩
    have hplace := hin.length_rest
    have hd := hlater d hd
    simp only [inFront, TextAround.found, Span.shift, TextAround.cursor_position]
    omega

theorem count_separated (hp : p.shape.stopsAt p.ignoreCase separator = true)
    (hseparator : Text.isWord separator = false) (a b : Text) :
    p.count (a ++ separator :: b) = p.count a + p.count b := by
  rw [count, all_separated hp hseparator, List.length_append, List.length_map, List.length_map, count, count]

end Pattern
end QueryLint

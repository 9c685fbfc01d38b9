import QueryLint.Proofs.Pattern.Place
import QueryLint.Proofs.Text.Spelling

/-! Patterns see no difference between the spellings of a text. Main statements: `Shape.ends_small`,
a match has the same ends, and `first?_small`, `all_small` and their like, every search comes up with
the same matches. -/
namespace QueryLint
set_option autoImplicit false
open Text

/-! ## Patterns that do not tell letters apart -/

def CharKind.isLetterChar : CharKind → Bool
  | .char d => d.isAlpha
  | _ => false

/-- Whether no set of a shape holds a single letter. -/
def Shape.lettersWhole : Shape → Bool
  | .one set | .notAfter set => !set.kinds.any CharKind.isLetterChar
  | .seq a b | .either a b => a.lettersWhole && b.lettersWhole
  | .many _ body | .group _ body | .notHere body => body.lettersWhole
  | .nothing | .edge | .finish => true

/-- Whether a pattern sees no difference between spellings: letter case does not count, or it asks
for no single letter. -/
def Pattern.caseless (p : Pattern) : Bool := p.ignoreCase || p.shape.lettersWhole

theorem CharKind.has_toLower {blind : Bool} {k : CharKind}
    (h : (blind || !k.isLetterChar) = true) (c : Char) : k.has blind c.toLower = k.has blind c := by
  cases k with
  | char d =>
    cases blind with
    | true => simp [CharKind.has, sameLetter]
    | false =>
      have hd : d.isAlpha = false := by simpa [isLetterChar] using h
      simp only [CharKind.has, Bool.false_eq_true, if_false]
      exact beq_toLower hd c
  | letter => cases blind <;> simp [CharKind.has]
  | digit | anyDigit | word | blank => simp [CharKind.has]

theorem CharSet.has_toLower {blind : Bool} {s : CharSet}
    (h : (blind || !s.kinds.any CharKind.isLetterChar) = true) (c : Char) :
    s.has blind c.toLower = s.has blind c := by
  have hkinds : ∀ k ∈ s.kinds, k.has blind c.toLower = k.has blind c := by
    intro k hk
    apply CharKind.has_toLower
    cases blind with
    | true => rfl
    | false =>
      simp only [Bool.false_or, Bool.not_eq_true', List.any_eq_false] at h ⊢
      simpa using h k hk
  have hany : s.kinds.any (·.has blind c.toLower) = s.kinds.any (·.has blind c) := by
    rw [Bool.eq_iff_iff, List.any_eq_true, List.any_eq_true]
    exact exists_congr fun k => and_congr_right fun hk => by rw [hkinds k hk]
  rw [CharSet.has, hany, CharSet.has]

/-! ## Places -/

def Cursor.small (c : Cursor) : Cursor :=
  ⟨c.before.map Char.toLower, c.position, Text.small c.rest⟩

def Progress.small (p : Progress) : Progress := { p with cursor := p.cursor.small }

theorem wordEdge_small (before after : Option Char) :
    wordEdge (before.map Char.toLower) (after.map Char.toLower) = wordEdge before after := by
  cases before <;> cases after <;> simp [wordEdge]

namespace Cursor

variable (t : Text) (c : Cursor)

@[simp] theorem small_position : c.small.position = c.position := rfl

theorem onward_small (before : Option Char) (position : Nat) :
    onward (before.map Char.toLower) position (Text.small t)
      = (onward before position t).map Cursor.small := by
  induction t generalizing before position with
  | nil => rfl
  | cons x rest ih =>
    rw [small_cons, onward, onward, List.map_cons, ← ih]
    rfl

theorem from_small : onward c.small.before c.small.position c.small.rest
    = (onward c.before c.position c.rest).map Cursor.small := onward_small c.rest c.before c.position

theorem all_small : all (Text.small t) = (all t).map Cursor.small := onward_small t none 0

theorem seek_small (position : Nat) : seek (Text.small t) position = (seek t position).small := by
  simp [seek, Cursor.small]

end Cursor

/-! ## Matching -/

namespace Shape

theorem atFinish_small (t : Text) : atFinish (Text.small t) = atFinish t := by
  match t with
  | [] => rfl
  | [c] => exact toLower_beq (by decide) c
  | _ :: _ :: _ => rfl

theorem lettersWhole_parts {blind : Bool} {a b : Shape}
    (h : (blind || (a.lettersWhole && b.lettersWhole)) = true) :
    (blind || a.lettersWhole) = true ∧ (blind || b.lettersWhole) = true := by
  cases blind with
  | true => exact ⟨rfl, rfl⟩
  | false => exact Bool.and_eq_true_iff.mp h

/-- A match has the same ends in both spellings. -/
theorem ends_small {blind : Bool} {s : Shape} (h : (blind || s.lettersWhole) = true)
    (p : Progress) : s.ends blind p.small = (s.ends blind p).map Progress.small := by
  induction s generalizing p with
  | nothing => rfl
  | one set =>
    obtain ⟨⟨before, position, rest⟩, groups⟩ := p
    cases rest with
    | nil => rfl
    | cons c rest =>
      simp only [ends, Progress.small, Cursor.small, small_cons, CharSet.has_toLower h]
      split <;> rfl
  | seq a b iha ihb =>
    obtain ⟨ha, hb⟩ := lettersWhole_parts h
    rw [ends, ends, iha ha, List.flatMap_map, List.map_flatMap]
    congr 1
    funext q
    exact ihb hb q
  | either a b iha ihb =>
    obtain ⟨ha, hb⟩ := lettersWhole_parts h
    rw [ends, ends, iha ha, ihb hb, List.map_append]
  -- The fuel of a repetition is the rest of the text, so it is respelled along with the place.
  | many greedy body ih => exact repeated_map (fun q => ih h q) (fun _ _ => rfl) (List.length_map _) p
  | group number body ih =>
    rw [ends, ends, ih h, List.map_map, List.map_map]
    rfl
  | edge =>
    have hedge : wordEdge p.small.cursor.before p.small.cursor.rest.head?
        = wordEdge p.cursor.before p.cursor.rest.head? := by
      simp only [Progress.small, Cursor.small, head?_small, wordEdge_small]
    rw [ends, ends, hedge]
    split <;> rfl
  | finish =>
    rw [ends, ends, show p.small.cursor.rest = Text.small p.cursor.rest from rfl, atFinish_small]
    split <;> rfl
  | notHere body ih =>
    rw [ends, ends, ih h, List.isEmpty_map]
    split <;> rfl
  | notAfter set =>
    have hbefore : p.small.cursor.before.any (set.has blind)
        = p.cursor.before.any (set.has blind) := by
      simp [Progress.small, Cursor.small, Option.any_map, CharSet.has_toLower h]
    rw [ends, ends, hbefore]
    split <;> rfl

end Shape

/-! ## Searches -/

namespace Pattern

section Caseless

variable {p : Pattern} (hp : p.caseless = true) (t : Text)

include hp

theorem matchAt?_small (c : Cursor) : p.matchAt? c.small = p.matchAt? c := by
  have hends := Shape.ends_small hp ⟨c, []⟩
  rw [matchAt?_eq_head?, matchAt?_eq_head?, show (⟨c.small, []⟩ : Progress) = Progress.small ⟨c, []⟩
    from rfl, hends, List.map_map]
  rfl

theorem findSome?_small (cursors : List Cursor) :
    (cursors.map Cursor.small).findSome? p.matchAt? = cursors.findSome? p.matchAt? := by
  rw [List.findSome?_map]
  congr 1
  funext c
  exact matchAt?_small hp c

theorem allAmong_small (resume : Nat) (cursors : List Cursor) :
    p.allAmong resume (cursors.map Cursor.small) = p.allAmong resume cursors := by
  induction cursors generalizing resume with
  | nil => rfl
  | cons c cursors ih =>
    simp only [List.map_cons, allAmong, matchAt?_small hp, Cursor.small_position, ih]

theorem first?_small : p.first? (Text.small t) = p.first? t := by
  rw [first?, Cursor.all_small, findSome?_small hp, first?]

theorem occursIn_small : p.occursIn (Text.small t) = p.occursIn t := by
  rw [occursIn, first?_small hp, occursIn]

theorem firstFrom?_small (position : Nat) :
    p.firstFrom? (Text.small t) position = p.firstFrom? t position := by
  unfold firstFrom?
  rw [Cursor.seek_small]
  dsimp only
  rw [Cursor.from_small, findSome?_small hp]

theorem firstWithin?_small (s : Span) : p.firstWithin? (Text.small t) s = p.firstWithin? t s := by
  rw [firstWithin?, take_small, firstFrom?_small hp, firstWithin?]

theorem all_small : p.all (Text.small t) = p.all t := by
  rw [all, Cursor.all_small, allAmong_small hp, all]

theorem count_small : p.count (Text.small t) = p.count t := by rw [count, all_small hp, count]

theorem allFrom_small (position : Nat) : p.allFrom (Text.small t) position = p.allFrom t position := by
  unfold allFrom
  rw [Cursor.seek_small]
  dsimp only
  rw [Cursor.from_small, allAmong_small hp]

theorem fits_small : p.fits (Text.small t) = p.fits t := by
  have hends := Shape.ends_small hp ⟨.atStart t, []⟩
  rw [fits, fits, Shape.run_eq_findSome?, Shape.run_eq_findSome?,
    show (⟨.atStart (Text.small t), []⟩ : Progress) = Progress.small ⟨.atStart t, []⟩ from rfl, hends,
    List.findSome?_map]
  congr 3
  funext q
  simp only [Function.comp_apply, Progress.small, Cursor.small, isEmpty_small]

theorem pieces_small : p.pieces (Text.small t) = (p.pieces t).map Text.small := by
  have hpieces : ∀ (found : List Match) (position : Nat),
      piecesFrom (Text.small t) position found
        = (piecesFrom t position found).map Text.small := by
    intro found
    induction found with
    | nil =>
      intro position
      rw [piecesFrom, piecesFrom, drop_small, List.map_singleton]
    | cons m rest ih =>
      intro position
      rw [piecesFrom, piecesFrom, slice_small, ih, List.map_cons]
  rw [pieces, all_small hp, hpieces, pieces]

end Caseless

end Pattern

/-! ## What stands at a match -/

namespace Match

@[simp] theorem text_small (m : Match) (t : Text) : m.text (Text.small t) = Text.small (m.text t) :=
  slice_small t m.span

@[simp] theorem groupText_small (m : Match) (t : Text) (number : Nat) :
    m.groupText (Text.small t) number = Text.small (m.groupText t number) := by
  rw [groupText, groupText]
  cases m.group? number with
  | none => rfl
  | some s => exact slice_small t s

end Match
end QueryLint

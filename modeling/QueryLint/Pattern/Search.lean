import QueryLint.Pattern.Matching

/-! Searching a text for a pattern: the leftmost match, all matches that do not overlap, a match of
the whole text, and cutting a text at its matches or replacing them. -/
namespace QueryLint
set_option autoImplicit false

/-- A match: the stretch it covers and its groups, the latest kept first. -/
structure Match where
  span : Span
  groups : List (Nat × Span)
deriving DecidableEq, Repr

namespace Match

/-- The stretch of a numbered group, if the group took part. -/
def group? (m : Match) (number : Nat) : Option Span := m.groups.lookup number

def text (m : Match) (t : Text) : Text := t.slice m.span

/-- The text of a group, empty if the group took no part. -/
def groupText (m : Match) (t : Text) (number : Nat) : Text :=
  ((m.group? number).map t.slice).getD []

end Match

namespace Pattern

/-- The preferred match that begins at a place. -/
def matchAt? (p : Pattern) (c : Cursor) : Option Match :=
  p.shape.run p.ignoreCase ⟨c, []⟩ fun q => some ⟨⟨c.position, q.cursor.position⟩, q.groups⟩

theorem matchAt?_eq_head? (p : Pattern) (c : Cursor) :
    p.matchAt? c = ((p.shape.ends p.ignoreCase ⟨c, []⟩).map fun q =>
      (⟨⟨c.position, q.cursor.position⟩, q.groups⟩ : Match)).head? := by
  rw [matchAt?, Shape.run_eq_findSome?]
  cases p.shape.ends p.ignoreCase ⟨c, []⟩ <;> simp

/-- Whether the pattern matches a text from its start to its end. -/
def fits (p : Pattern) (t : Text) : Bool :=
  (p.shape.run p.ignoreCase ⟨.atStart t, []⟩ fun q =>
    if q.cursor.rest.isEmpty then some () else none).isSome

/-! ## The leftmost match -/

def first? (p : Pattern) (t : Text) : Option Match := (Cursor.all t).findSome? p.matchAt?

def occursIn (p : Pattern) (t : Text) : Bool := (p.first? t).isSome

/-- The leftmost match that begins at a position or later; what stands before is still seen. -/
def firstFrom? (p : Pattern) (t : Text) (position : Nat) : Option Match :=
  let c := Cursor.seek t position
  (Cursor.onward c.before c.position c.rest).findSome? p.matchAt?

/-- The leftmost match inside a stretch; the text counts as finished where the stretch ends. -/
def firstWithin? (p : Pattern) (t : Text) (s : Span) : Option Match :=
  p.firstFrom? (t.take s.stop) s.start

/-! ## All matches -/

/-- The matches at the places given that begin at `resume` or later, each beginning where the one
before it ended or later. -/
def allAmong (p : Pattern) : (resume : Nat) → List Cursor → List Match
  | _, [] => []
  | resume, c :: rest =>
    if c.position < resume then p.allAmong resume rest
    else match p.matchAt? c with
      | none => p.allAmong resume rest
      | some m => m :: p.allAmong (max m.span.stop (c.position + 1)) rest

/-- The matches of a text from left to right, none overlapping another. -/
def all (p : Pattern) (t : Text) : List Match := p.allAmong 0 (Cursor.all t)

def allFrom (p : Pattern) (t : Text) (position : Nat) : List Match :=
  let c := Cursor.seek t position
  p.allAmong 0 (Cursor.onward c.before c.position c.rest)

def count (p : Pattern) (t : Text) : Nat := (p.all t).length

/-! ## Cutting and replacing at matches -/

/-- The text from a position on, with each of the matches that follow replaced. -/
def replaceFrom (t : Text) (f : Match → Text) : (position : Nat) → List Match → Text
  | position, [] => t.drop position
  | position, m :: rest =>
    t.slice ⟨position, m.span.start⟩ ++ f m ++ replaceFrom t f m.span.stop rest

def replaceAll (p : Pattern) (t : Text) (f : Match → Text) : Text := replaceFrom t f 0 (p.all t)

/-- The pieces of the text from a position on, cut at the matches that follow. -/
def piecesFrom (t : Text) : (position : Nat) → List Match → List Text
  | position, [] => [t.drop position]
  | position, m :: rest => t.slice ⟨position, m.span.start⟩ :: piecesFrom t m.span.stop rest

def pieces (p : Pattern) (t : Text) : List Text := piecesFrom t 0 (p.all t)

end Pattern
end QueryLint

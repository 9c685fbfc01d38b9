import QueryLint.Pattern.Basic

/-! What a shape matches. `Shape.ends` lists the places where a match that begins at a given place
can end, the preferred one first; `Shape.run` looks through that list for the first end that suits
a continuation, without building the list. Main statement: `run_eq_findSome?`. -/
namespace QueryLint
set_option autoImplicit false

/-! ## Places -/

/-- A place in a text: the character before it, its position, and what comes after it. -/
structure Cursor where
  before : Option Char
  position : Nat
  rest : Text
deriving DecidableEq, Repr

namespace Cursor

def atStart (t : Text) : Cursor := ⟨none, 0, t⟩

/-- The places from the one given to the end of the text. -/
def onward (before : Option Char) (position : Nat) : Text → List Cursor
  | [] => [⟨before, position, []⟩]
  | x :: rest => ⟨before, position, x :: rest⟩ :: onward (some x) (position + 1) rest

/-- Every place of a text from left to right, its end included. -/
def all (t : Text) : List Cursor := onward none 0 t

/-- The place at a position, or the end of the text if it has no such position. -/
def seek (t : Text) (position : Nat) : Cursor :=
  let passed := t.take position
  ⟨passed.getLast?, passed.length, t.drop position⟩

end Cursor

/-! ## Matching -/

/-- How far a match has got: its present end, and the groups kept so far, the latest first. -/
structure Progress where
  cursor : Cursor
  groups : List (Nat × Span)
deriving DecidableEq, Repr

namespace Progress

/-- Whether `later` has taken a character more than `earlier`. -/
def movedTo (earlier later : Progress) : Bool := earlier.cursor.position < later.cursor.position

def keep (number : Nat) (start : Nat) (p : Progress) : Progress :=
  { p with groups := (number, ⟨start, p.cursor.position⟩) :: p.groups }

end Progress

namespace Shape

/-- The ends of repetitions of a step, each of which has to take a character. The fuel is the text
that is left, since no more repetitions fit into it than it has characters. -/
def repeated (step : Progress → List Progress) (greedy : Bool) :
    (fuel : Text) → Progress → List Progress
  | [], p => [p]
  | _ :: fuel, p =>
    let longer := (step p).flatMap fun q =>
      if p.movedTo q then repeated step greedy fuel q else []
    if greedy then longer ++ [p] else p :: longer

/-- Whether a text that continues with `rest` counts as finished. -/
def atFinish : Text → Bool
  | [] => true
  | [c] => c == '\n'
  | _ => false

/-- Every way to match, in order of preference. -/
def ends (blind : Bool) : Shape → Progress → List Progress
  | nothing, p => [p]
  | one set, p =>
    match p.cursor.rest with
    | [] => []
    | c :: rest =>
      if set.has blind c then [{ p with cursor := ⟨some c, p.cursor.position + 1, rest⟩ }] else []
  | seq a b, p => (ends blind a p).flatMap (ends blind b)
  | either a b, p => ends blind a p ++ ends blind b p
  | many greedy body, p => repeated (ends blind body) greedy p.cursor.rest p
  | group number body, p => (ends blind body p).map (·.keep number p.cursor.position)
  | edge, p => if Text.wordEdge p.cursor.before p.cursor.rest.head? then [p] else []
  | finish, p => if atFinish p.cursor.rest then [p] else []
  | notHere body, p => if (ends blind body p).isEmpty then [p] else []
  | notAfter set, p => if p.cursor.before.any (set.has blind) then [] else [p]

/-! ## Search with a continuation -/

/-- Repetitions of a step that is itself given as a search. -/
def runRepeated {α : Type} (step : Progress → (Progress → Option α) → Option α) (greedy : Bool) :
    (fuel : Text) → Progress → (Progress → Option α) → Option α
  | [], p, k => k p
  | _ :: fuel, p, k =>
    if greedy then
      match step p fun q => if p.movedTo q then runRepeated step greedy fuel q k else none with
      | some r => some r
      | none => k p
    else
      match k p with
      | some r => some r
      | none => step p fun q => if p.movedTo q then runRepeated step greedy fuel q k else none

/-- The first answer of `k` on the ends of a match, in order of preference. -/
def run (blind : Bool) {α : Type} : Shape → Progress → (Progress → Option α) → Option α
  | nothing, p, k => k p
  | one set, p, k =>
    match p.cursor.rest with
    | [] => none
    | c :: rest =>
      if set.has blind c then k { p with cursor := ⟨some c, p.cursor.position + 1, rest⟩ } else none
  | seq a b, p, k => run blind a p fun q => run blind b q k
  | either a b, p, k =>
    match run blind a p k with
    | some r => some r
    | none => run blind b p k
  | many greedy body, p, k => runRepeated (run blind body) greedy p.cursor.rest p k
  | group number body, p, k => run blind body p fun q => k (q.keep number p.cursor.position)
  | edge, p, k => if Text.wordEdge p.cursor.before p.cursor.rest.head? then k p else none
  | finish, p, k => if atFinish p.cursor.rest then k p else none
  | notHere body, p, k =>
    if (run (α := Progress) blind body p some).isNone then k p else none
  | notAfter set, p, k => if p.cursor.before.any (set.has blind) then none else k p

/-! ## The search is a search through the ends -/

theorem findSome?_flatMap {α β γ : Type} (l : List α) (f : α → List β) (k : β → Option γ) :
    (l.flatMap f).findSome? k = l.findSome? fun a => (f a).findSome? k := by
  induction l with
  | nil => rfl
  | cons a l ih =>
    rw [List.flatMap_cons, List.findSome?_append, List.findSome?_cons, ih]
    cases (f a).findSome? k <;> rfl

theorem runRepeated_eq_findSome? {α : Type} {step : Progress → List Progress}
    {search : Progress → (Progress → Option α) → Option α}
    (h : ∀ p k, search p k = (step p).findSome? k) (greedy : Bool) (fuel : Text) (p : Progress)
    (k : Progress → Option α) :
    runRepeated search greedy fuel p k = (repeated step greedy fuel p).findSome? k := by
  induction fuel generalizing p with
  | nil => simp [runRepeated, repeated]
  | cons c fuel ih =>
    have hstep :
        (search p fun q => if p.movedTo q then runRepeated search greedy fuel q k else none)
        = ((step p).flatMap fun q =>
            if p.movedTo q then repeated step greedy fuel q else []).findSome? k := by
      rw [h, findSome?_flatMap]
      congr 1
      funext q
      by_cases hq : p.movedTo q <;> simp [hq, ih]
    cases greedy with
    | true =>
      simp only [runRepeated, repeated, ite_true, List.findSome?_append, hstep]
      cases List.findSome? k ((step p).flatMap fun q =>
        if p.movedTo q then repeated step true fuel q else []) <;> simp
    | false =>
      simp only [runRepeated, repeated, Bool.false_eq_true, ite_false, List.findSome?_cons, hstep]
      rfl

theorem run_eq_findSome? (blind : Bool) (s : Shape) {α : Type} (p : Progress)
    (k : Progress → Option α) : run blind s p k = (ends blind s p).findSome? k := by
  induction s generalizing α p with
  | nothing => simp [run, ends]
  | one set =>
    simp only [run, ends]
    split
    · rfl
    · split <;> simp
  | seq a b iha ihb =>
    simp only [run, ends, iha, findSome?_flatMap]
    congr 1
    funext q
    exact ihb q k
  | either a b iha ihb =>
    simp only [run, ends, iha, ihb, List.findSome?_append]
    cases List.findSome? k (ends blind a p) <;> simp
  | many greedy body ih =>
    simp only [run, ends]
    exact runRepeated_eq_findSome? (fun q j => ih q j) greedy _ p k
  | group number body ih => simp [run, ends, ih, List.findSome?_map, Function.comp_def]
  | edge => simp only [run, ends]; split <;> simp
  | finish => simp only [run, ends]; split <;> simp
  | notHere body ih =>
    simp only [run, ends, ih]
    cases h : ends blind body p <;> simp
  | notAfter set => simp only [run, ends]; split <;> simp

end Shape
end QueryLint

import QueryLint.Sql.Bracket
import QueryLint.Sql.Vocabulary.Clause

/-! Calls of a function by name: a head, which is the name and an opening parenthesis, and all up to
the parenthesis that closes it. A head that is never closed is no call. -/
namespace QueryLint.Sql
set_option autoImplicit false

/-- The name at the edge of a word and an opening parenthesis. -/
def callHead (name : Text) : Pattern := .anyCase (callOf (Shape.chars name))

/-- A head at a place: its length, and the length of the whole call if it is closed. -/
def headAt? (name : Text) (before : Option Char) (rest : Text) : Option (Nat × Option Nat) :=
  ((callHead name).matchAt? ⟨before, 0, rest⟩).map fun m =>
    (m.span.stop, closingParen? rest (m.span.stop - 1))

/-- The text after `before` with each call put through `f`. What `f` makes of a call is not searched
again, but it is what the next character sees before itself. -/
def mapCallsFrom (name : Text) (f : Text → Text) (before : Option Char) (rest : Text) : Text :=
  match rest with
  | [] => []
  | c :: tail =>
    match headAt? name before (c :: tail) with
    | none => c :: mapCallsFrom name f (some c) tail
    | some (head, none) =>
      let passed := c :: tail.take (head - 1)
      passed ++ mapCallsFrom name f passed.getLast? (tail.drop (head - 1))
    | some (_, some stop) =>
      let made := f (c :: tail.take (stop - 1))
      made ++ mapCallsFrom name f (made.getLast?.or before) (tail.drop (stop - 1))
termination_by rest.length
decreasing_by all_goals simp only [List.length_cons, List.length_drop]; omega

def mapCalls (name : Text) (f : Text → Text) (t : Text) : Text := mapCallsFrom name f none t

def replaceCalls (name replacement : Text) (t : Text) : Text :=
  mapCalls name (fun _ => replacement) t

/-- Every call of the function blanked with spaces, so that no other character moves. -/
def maskCall (name : Text) (t : Text) : Text :=
  mapCalls name (fun call => Text.blanks call.length) t

def maskCalls (names : List Text) (t : Text) : Text := names.foldl (fun t name => maskCall name t) t

end QueryLint.Sql

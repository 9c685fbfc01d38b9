import QueryLint.Text.Basic

/-! Parentheses and quotes, read without a grammar. Single quotes and double quotes each run to the
next quote of their kind; inside them parentheses and separators do not count. -/
namespace QueryLint.Sql
set_option autoImplicit false

def isQuote (c : Char) : Bool := c == '\'' || c == '"'

/-- The quote that is open after a character, given the one that was open before it. -/
def quoteAfter (quote : Option Char) (c : Char) : Option Char :=
  match quote with
  | some q => if c == q then none else some q
  | none => if isQuote c then some c else none

/-- Whether a character is neither quoted nor a quote itself. -/
def isBare (quote : Option Char) (c : Char) : Bool := quote.isNone && !isQuote c

/-! ## The parenthesis that closes another -/

/-- The position just past the parenthesis that brings `depth` back to zero. -/
def closingFrom (depth : Int) (quote : Option Char) (position : Nat) : Text → Option Nat
  | [] => none
  | c :: rest =>
    if isBare quote c then
      if c == '(' then closingFrom (depth + 1) quote (position + 1) rest
      else if c == ')' then
        if depth - 1 = 0 then some (position + 1)
        else closingFrom (depth - 1) quote (position + 1) rest
      else closingFrom depth quote (position + 1) rest
    else closingFrom depth (quoteAfter quote c) (position + 1) rest

/-- The position just past the parenthesis that closes the one at `start`, or nothing if it stays
open. -/
def closingParen? (t : Text) (start : Nat) : Option Nat := closingFrom 0 none start (t.drop start)

/-- As `closingParen?`, for a start that is counted from the end if it is negative. Reading then goes
on past the end at the beginning of the text, and positions count on from the start. The outer
nothing says that the start lies before the text. -/
def closingParenFrom? (t : Text) (start : Int) : Option (Option Int) :=
  if 0 ≤ start then some ((closingParen? t start.toNat).map Int.ofNat)
  else
    let back := (-start).toNat
    if t.length < back then none
    else
      let cut := t.length - back
      some ((closingFrom 0 none 0 (t.drop cut ++ t)).map fun p => start + Int.ofNat p)

/-! ## Blanking what is nested -/

def topLevelFrom (depth : Nat) (quote : Option Char) : Text → Text
  | [] => []
  | c :: rest =>
    if isBare quote c then
      if c == '(' then (if depth = 0 then c else ' ') :: topLevelFrom (depth + 1) quote rest
      else if c == ')' then (if depth ≤ 1 then c else ' ') :: topLevelFrom (depth - 1) quote rest
      else (if depth = 0 then c else ' ') :: topLevelFrom depth quote rest
    else (if depth = 0 then c else ' ') :: topLevelFrom depth (quoteAfter quote c) rest

/-- The text with a space for every character inside parentheses. -/
def topLevel (t : Text) : Text := topLevelFrom 0 none t

theorem length_topLevelFrom (depth : Nat) (quote : Option Char) (t : Text) :
    (topLevelFrom depth quote t).length = t.length := by
  induction t generalizing depth quote with
  | nil => rfl
  | cons c rest ih =>
    simp only [topLevelFrom]
    split
    · split
      · simp [ih]
      · split <;> simp [ih]
    · simp [ih]

theorem length_topLevel (t : Text) : (topLevel t).length = t.length := length_topLevelFrom 0 none t

/-! ## Splitting -/

/-- The pieces from here on, where `piece` holds the present one in reverse. -/
def splitFrom (separates : Char → Bool) (depth : Nat) (quote : Option Char) (piece : Text) :
    Text → List Text
  | [] => [piece.reverse]
  | c :: rest =>
    if isBare quote c then
      if c == '(' then splitFrom separates (depth + 1) quote (c :: piece) rest
      else if c == ')' then splitFrom separates (depth - 1) quote (c :: piece) rest
      else if separates c && depth = 0 then piece.reverse :: splitFrom separates 0 quote [] rest
      else splitFrom separates depth quote (c :: piece) rest
    else splitFrom separates depth (quoteAfter quote c) (c :: piece) rest

/-- The pieces between the separators that stand outside parentheses and quotes. -/
def splitTopLevel (separates : Char → Bool) (t : Text) : List Text :=
  splitFrom separates 0 none [] t

end QueryLint.Sql

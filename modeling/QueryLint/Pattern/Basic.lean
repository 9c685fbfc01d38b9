import QueryLint.Text.Basic
import QueryLint.Text.Word
import QueryLint.Text.Digit
import QueryLint.Text.LetterCase

/-! Patterns as data. A `Shape` says how a stretch of text is built from sets of characters; a
`Pattern` is a shape with the choice whether letter case counts. What a shape matches is said in
`QueryLint.Pattern.Matching`. -/
namespace QueryLint
set_option autoImplicit false

/-! ## Sets of characters -/

inductive CharKind where
  | char (c : Char)
  /-- A letter from a to z, in upper or lower case. -/
  | letter
  /-- A digit from 0 to 9. -/
  | digit
  /-- A decimal digit of any script. -/
  | anyDigit
  | word
  | blank
deriving DecidableEq, Repr

/-- The characters of any of the kinds, or of none of them if the set is negated. -/
structure CharSet where
  kinds : List CharKind
  negated : Bool
deriving DecidableEq, Repr

/-- With `blind` a character belongs to a kind if one that differs from it in case alone does. -/
def CharKind.has (blind : Bool) (c : Char) : CharKind → Bool
  | .char d => if blind then Text.sameLetter d c else d == c
  | .letter => Text.isLetter (if blind then Text.foldCase c else c)
  | .digit => c.isDigit
  | .anyDigit => Text.isDigit c
  | .word => Text.isWord c
  | .blank => Text.isBlank c

def CharSet.has (blind : Bool) (s : CharSet) (c : Char) : Bool :=
  s.kinds.any (·.has blind c) != s.negated

/-! ## Shapes -/

inductive Shape where
  /-- Matches at every place and takes nothing. -/
  | nothing
  | one (set : CharSet)
  | seq (first second : Shape)
  /-- Prefers the first alternative. -/
  | either (first second : Shape)
  /-- Any number of repetitions: as many as possible if `greedy`, else as few as possible. -/
  | many (greedy : Bool) (body : Shape)
  /-- Keeps the stretch that the body took under a number. -/
  | group (number : Nat) (body : Shape)
  /-- Holds where a word begins or ends. -/
  | edge
  /-- Holds at the end of the text and before a line feed that is its last character. -/
  | finish
  /-- Holds where the body does not match. -/
  | notHere (body : Shape)
  /-- Holds where the character before is none of the set. -/
  | notAfter (set : CharSet)
deriving DecidableEq, Repr

namespace Shape

instance : Append Shape := ⟨seq⟩

/-! ## Building shapes -/

def char (c : Char) : Shape := one ⟨[.char c], false⟩

def of (kinds : List CharKind) : Shape := one ⟨kinds, false⟩

def among (cs : String) : Shape := of (cs.toList.map .char)

def except (cs : String) : Shape := one ⟨cs.toList.map .char, true⟩

def any : Shape := one ⟨[], true⟩

def blank : Shape := of [.blank]

def word : Shape := of [.word]

def digit : Shape := of [.anyDigit]

def chars : List Char → Shape
  | [] => nothing
  | [c] => char c
  | c :: rest => char c ++ chars rest

def lit (s : String) : Shape := chars s.toList

def many0 (s : Shape) : Shape := many true s

def many1 (s : Shape) : Shape := s ++ many true s

def optional (s : Shape) : Shape := either s nothing

/-- The first of the shapes that leads to a match. -/
def oneOf : List Shape → Shape
  | [] => notHere nothing
  | [s] => s
  | s :: rest => either s (oneOf rest)

/-- One of the words listed, the earlier ones preferred. -/
def anyOf (names : List String) : Shape := oneOf (names.map lit)

def times : Nat → Shape → Shape
  | 0, _ => nothing
  | 1, s => s
  | n + 1, s => s ++ times n s

/-- At most `n` repetitions, as many as possible. -/
def atMost : Nat → Shape → Shape
  | 0, _ => nothing
  | n + 1, s => optional (s ++ atMost n s)

/-- White space that may be left out. -/
def gap : Shape := many0 blank

/-- White space, at least one character of it. -/
def space : Shape := many1 blank

/-- A word that stands alone. -/
def keyword (s : String) : Shape := edge ++ lit s ++ edge

/-- The largest number of a group in the shape, or 0. -/
def groupCount : Shape → Nat
  | seq a b | either a b => max a.groupCount b.groupCount
  | many _ s | notHere s => s.groupCount
  | group n s => max n s.groupCount
  | nothing | one _ | edge | finish | notAfter _ => 0

end Shape

/-- A shape with the choice whether it is compared without regard to case. -/
structure Pattern where
  shape : Shape
  ignoreCase : Bool
deriving DecidableEq, Repr

namespace Pattern

def anyCase (s : Shape) : Pattern := ⟨s, true⟩

def exactCase (s : Shape) : Pattern := ⟨s, false⟩

end Pattern

end QueryLint

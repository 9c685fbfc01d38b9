import QueryLint.Text.Blank

/-! Texts and stretches of them. A position is the number of characters before it. -/
namespace QueryLint
set_option autoImplicit false

/-- A text is the list of its characters. -/
abbrev Text := List Char

/-- The stretch of a text from `start` up to, but not including, `stop`. -/
structure Span where
  start : Nat
  stop : Nat
deriving DecidableEq, Repr

namespace Span

def length (s : Span) : Nat := s.stop - s.start

/-- The same stretch seen from a text in which the present one begins at `base`. -/
def shift (s : Span) (base : Nat) : Span := ⟨base + s.start, base + s.stop⟩

end Span

namespace Text

def slice (t : Text) (s : Span) : Text := (t.take s.stop).drop s.start

def blanks (n : Nat) : Text := List.replicate n ' '

/-! ## Trimming and words -/

/-- The text without the characters of a kind at its two ends. -/
def trimBy (drops : Char → Bool) (t : Text) : Text :=
  (((t.dropWhile drops).reverse).dropWhile drops).reverse

def trim (t : Text) : Text := trimBy isBlank t

/-- The words from here on, where `word` holds the present one in reverse. -/
def wordsFrom (word : Text) : Text → List Text
  | [] => if word.isEmpty then [] else [word.reverse]
  | c :: rest =>
    if isBlank c then
      if word.isEmpty then wordsFrom [] rest else word.reverse :: wordsFrom [] rest
    else wordsFrom (c :: word) rest

/-- The pieces between white space; none of them is empty. -/
def words (t : Text) : List Text := wordsFrom [] t

/-- The text with every run of white space made one space, and none left at the ends. -/
def oneLine (t : Text) : Text := List.intercalate [' '] (words t)

/-! ## Joining -/

/-- The strings one after the other with `between` in each gap. -/
def joinStrings (between : String) (parts : List String) : String :=
  String.ofList (List.intercalate between.toList (parts.map String.toList))

end Text
end QueryLint

import QueryLint.Text.Basic

/-! Shortening of texts that are too long to show. -/
namespace QueryLint.Text
set_option autoImplicit false

/-- The first characters of a text; a negative number says how many to leave out at its end. -/
def upTo (t : Text) (n : Int) : Text := t.take (if n < 0 then t.length + n else n).toNat

/-- The text if it has at most `limit` characters, or else its start and three points. -/
def shorten (t : Text) (limit : Int) : Text :=
  if t.length ≤ limit then t else upTo t (limit - 3) ++ ['.', '.', '.']

end QueryLint.Text

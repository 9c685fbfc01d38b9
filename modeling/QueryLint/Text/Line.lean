import QueryLint.Text.Basic

/-! Lines of a text: the line and column of an offset, and the first line of a message. -/
namespace QueryLint.Text
set_option autoImplicit false

/-! ## Line and column -/

/-- The line and column, both counted from 1, of the place after the characters of `passed`; only a
line feed begins a line. -/
def placeAfter (passed : Text) : Nat × Nat :=
  (passed.count '\n' + 1, (passed.reverse.takeWhile (· ≠ '\n')).length + 1)

/-- The line and column of an offset, which is first moved into the text. -/
def lineColumn (t : Text) (offset : Int) : Nat × Nat := placeAfter (t.take offset.toNat)

/-! ## Line breaks of messages -/

def isLineBreak (c : Char) : Bool :=
  let n := c.toNat
  (0x0A ≤ n && n ≤ 0x0D) || (0x1C ≤ n && n ≤ 0x1E) || n == 0x85 || n == 0x2028 || n == 0x2029

def firstLine (t : Text) : Text := t.takeWhile fun c => !isLineBreak c

/-- The text with each carriage return, and each carriage return with its line feed, made a single
line feed. -/
def unixLines : Text → Text
  | [] => []
  | '\r' :: '\n' :: rest => '\n' :: unixLines rest
  | c :: rest => (if c = '\r' then '\n' else c) :: unixLines rest

end QueryLint.Text

/-! White space: the characters that separate words and that trimming removes. -/
namespace QueryLint.Text
set_option autoImplicit false

/-- The blank code points: the controls that lay out or separate text, the space, and the separators
beyond ASCII. The signs of no width are not blank. -/
def isBlank (c : Char) : Bool :=
  let n := c.toNat
  if n < 0x80 then (0x09 ≤ n && n ≤ 0x0D) || (0x1C ≤ n && n ≤ 0x20)
  else n == 0x85 || n == 0xA0 || n == 0x1680 || (0x2000 ≤ n && n ≤ 0x200A)
    || n == 0x2028 || n == 0x2029 || n == 0x202F || n == 0x205F || n == 0x3000

end QueryLint.Text

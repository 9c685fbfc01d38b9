import QueryLint.Text.Basic
import QueryLint.Text.Lookup
import QueryLint.Text.PrintTable

/-! A text in quotes, as it is shown in messages. Single quotes are used unless the text has a
single quote and no double quote; what cannot be printed is shown by its code. -/
namespace QueryLint.Text
set_option autoImplicit false

/-- The digits of a code in base sixteen, padded with zeros to a width. -/
def hexDigits (width n : Nat) : Text :=
  let digits := Nat.toDigits 16 n
  List.replicate (width - digits.length) '0' ++ digits

/-- A character that shows nothing of its own when printed. The space is printed as it is. -/
def isUnprintable (c : Char) : Bool :=
  if c.toNat < 0x80 then c.toNat < 0x20 || c.toNat == 0x7F else inRuns unprintableRuns c.toNat

def quotedChar (quote c : Char) : Text :=
  if c = quote || c = '\\' then ['\\', c]
  else if c = '\n' then ['\\', 'n']
  else if c = '\r' then ['\\', 'r']
  else if c = '\t' then ['\\', 't']
  else if isUnprintable c then
    if c.toNat < 0x100 then '\\' :: 'x' :: hexDigits 2 c.toNat
    else if c.toNat < 0x10000 then '\\' :: 'u' :: hexDigits 4 c.toNat
    else '\\' :: 'U' :: hexDigits 8 c.toNat
  else [c]

def quoted (t : Text) : Text :=
  let quote := if t.contains '\'' && !t.contains '"' then '"' else '\''
  quote :: t.flatMap (quotedChar quote) ++ [quote]

end QueryLint.Text

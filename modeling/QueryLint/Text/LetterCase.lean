import QueryLint.Text.Lookup
import QueryLint.Text.CaseTable

/-! Letter case: lower and upper case of texts, and the comparison of characters without case. -/
namespace QueryLint.Text
set_option autoImplicit false

/-- The code point that a table of case runs gives for `n`, or `n` itself. -/
def mapRuns (runs : Array CaseRun) (n : Nat) : Nat :=
  match lastStarting? runs CaseRun.first n with
  | none => n
  | some run =>
    if n ≤ run.last && (n - run.first) % run.step == 0 then run.target + (n - run.first) else n

def lowerChar (c : Char) : Char :=
  if c.toNat < 0x80 then c.toLower else Char.ofNat (mapRuns lowerRuns c.toNat)

/-- The representative of the characters that are equal to `c` when case is ignored. -/
def foldCase (c : Char) : Char :=
  let l := lowerChar c
  if l.toNat < 0x80 then l
  else match lastStarting? foldPairs Prod.fst l.toNat with
    | none => l
    | some (letter, folded) => if letter = l.toNat then Char.ofNat folded else l

def sameLetter (c d : Char) : Bool := foldCase c == foldCase d

/-- Equality of texts, character by character, without regard to case. -/
def sameLetters : List Char → List Char → Bool
  | [], [] => true
  | c :: s, d :: t => sameLetter c d && sameLetters s t
  | _, _ => false

/-! ## Lower and upper case of a text -/

def isCased (c : Char) : Bool :=
  if c.toNat < 0x80 then c.isAlpha else inRuns casedRuns c.toNat

def isCaseIgnorable (c : Char) : Bool :=
  if c.toNat < 0x80 then c == '\'' || c == '.' || c == ':' || c == '^' || c == '`'
  else inRuns caseIgnorableRuns c.toNat

/-- Whether a cased letter comes next, signs inside a word passed over. -/
def startsCased : List Char → Bool
  | [] => false
  | c :: rest => if isCaseIgnorable c then startsCased rest else isCased c

/-- Lower case with what comes before, nearest first. A sigma that ends a word has a form of its
own, and the dotted capital i becomes an i and a dot. -/
def lowerFrom : (before rest : List Char) → List Char
  | _, [] => []
  | before, c :: rest =>
    let small : List Char :=
      if c.toNat = 0x3A3 then
        if startsCased before && !startsCased rest then [Char.ofNat 0x3C2] else [Char.ofNat 0x3C3]
      else if c.toNat = 0x130 then ['i', Char.ofNat 0x307]
      else [lowerChar c]
    small ++ lowerFrom (c :: before) rest

def lower (text : List Char) : List Char := lowerFrom [] text

/-- Upper case of one character, which may take several characters. -/
def upperChars (c : Char) : List Char :=
  if c.toNat < 0x80 then [c.toUpper]
  else match lastStarting? upperExpansions Prod.fst c.toNat with
    | some (code, letters) =>
      if code = c.toNat then letters.map Char.ofNat else [Char.ofNat (mapRuns upperRuns c.toNat)]
    | none => [Char.ofNat (mapRuns upperRuns c.toNat)]

def upper (text : List Char) : List Char := text.flatMap upperChars

end QueryLint.Text

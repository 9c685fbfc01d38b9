import QueryLint.Finding.Basic
import QueryLint.Pattern.Search
import QueryLint.Text.Line

/-! Where a finding stands in a text: the occurrences of its fragment, the ranges to highlight, and
the line and column to print. -/
namespace QueryLint
set_option autoImplicit false

/-! ## Occurrences of a literal -/

/-- The characters of a text, letter case aside. -/
def Pattern.literal (t : Text) : Pattern := .anyCase (Shape.chars t)

/-- The stretches where a text occurs, from left to right and without overlap. An empty text occurs
nowhere. -/
def occurrences (t literal : Text) : List Span :=
  if literal.isEmpty then [] else ((Pattern.literal literal).all t).map Match.span

def occurrence? (t literal : Text) : Option Span :=
  if literal.isEmpty then none else ((Pattern.literal literal).first? t).map Match.span

namespace Finding

def literal? (f : Finding) : Option Text := f.fragment.filter (!·.isEmpty)

/-- The ranges to highlight: every occurrence of the fragment, or else the offset. -/
def highlights (f : Finding) (t : Text) : List TextRange :=
  let found := match f.literal? with
    | none => []
    | some literal => (occurrences t literal).map Span.toRange
  if found.isEmpty then f.offset.toList else found

/-- The offset, or else the first occurrence of the fragment. -/
def range? (f : Finding) (t : Text) : Option TextRange :=
  match f.offset with
  | some r => some r
  | none => f.literal?.bind fun literal => (occurrence? t literal).map Span.toRange

/-- The line and column as they are printed, or a dash for a finding that stands nowhere. -/
def place (f : Finding) (t : Text) : String :=
  match f.range? t with
  | none => "-"
  | some r =>
    let (line, column) := Text.lineColumn t r.start
    toString line ++ ":" ++ toString column

end Finding
end QueryLint

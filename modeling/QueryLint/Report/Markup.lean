import QueryLint.Pattern.Search

/-! Markup of the console: what stands in brackets is a tag, so a text from outside is escaped. -/
namespace QueryLint.Markup
set_option autoImplicit false
open Shape

/-- Backslashes in group 1, and in group 2 what would be read as a tag. -/
def tag : Pattern :=
  .exactCase (group 1 (many0 (char '\\'))
    ++ group 2 (char '[' ++ among "abcdefghijklmnopqrstuvwxyz#/@" ++ many false (except "[")
      ++ char ']'))

def endsInBackslash (t : Text) : Bool :=
  match t.reverse with
  | ['\\'] => true
  | '\\' :: c :: _ => c ≠ '\\'
  | _ => false

/-- The text as it is shown: backslashes in front of a tag doubled and one more added, and one added
at the end, where it would escape what follows. -/
def escape (t : Text) : Text :=
  let shown := tag.replaceAll t fun m =>
    m.groupText t 1 ++ m.groupText t 1 ++ '\\' :: m.groupText t 2
  if endsInBackslash shown then shown ++ ['\\'] else shown

/-- What is seen of a text with markup: each pair of backslashes in front of a tag as one, and the
tag itself only if a backslash is left over. -/
def plain (t : Text) : Text :=
  tag.replaceAll t fun m =>
    let marks := (m.groupText t 1).length
    List.replicate (marks / 2) '\\' ++ if marks % 2 = 0 then [] else m.groupText t 2

def escapeString (s : String) : String := String.ofList (escape s.toList)

def plainString (s : String) : String := String.ofList (plain s.toList)

end QueryLint.Markup

import QueryLint.Sql.TableRef

/-! Named queries: the blocks of a WITH clause. -/
namespace QueryLint.Sql
set_option autoImplicit false
open Shape Pattern

def withKeyword : Pattern :=
  .anyCase (keyword "with" ++ optional (space ++ lit "recursive" ++ edge))

/-- The head of a block up to the parenthesis that opens its body, the name in group 1. -/
def blockHead : Pattern :=
  .anyCase (gap ++ group 1 identifier
    ++ optional (gap ++ char '(' ++ many0 (except "()") ++ char ')')
    ++ space ++ lit "as" ++ gap ++ materialization ++ char '(')

def listComma : Pattern := .exactCase (gap ++ char ',')

/-- A named query: its name, and the stretch between the parentheses of its body. -/
structure NamedQuery where
  name : Text
  body : Text
  span : Span
deriving DecidableEq, Repr

/-- The block at a position, if a head stands there and its body is closed. -/
def namedQueryAt? (sql : Text) (position : Nat) : Option NamedQuery :=
  match blockHead.matchAt? (Cursor.seek sql position) with
  | none => none
  | some head =>
    match closingParen? sql (head.span.stop - 1) with
    | none => none
    | some stop =>
      let inside : Span := ⟨head.span.stop, stop - 1⟩
      some ⟨plainIdentifier (head.groupText sql 1), sql.slice inside, inside⟩

/-- The blocks from a position on, each after the comma that follows the one before. -/
def namedQueriesFrom (sql : Text) (position : Nat) : List NamedQuery :=
  match namedQueryAt? sql position with
  | none => []
  | some block =>
    match listComma.matchAt? (Cursor.seek sql (block.span.stop + 1)) with
    | none => [block]
    | some comma =>
      if position < comma.span.stop ∧ comma.span.stop ≤ sql.length then
        block :: namedQueriesFrom sql comma.span.stop
      else [block]
termination_by sql.length - position

/-- The blocks of every WITH clause that has any, clause by clause. -/
def withClauses (sql : Text) : List (List NamedQuery) :=
  ((withKeyword.all sql).map fun m => namedQueriesFrom sql m.span.stop).filter (!·.isEmpty)

def namedQueries (sql : Text) : List NamedQuery := (withClauses sql).flatten

def queryNames (sql : Text) : List Text := ((namedQueries sql).map NamedQuery.name).eraseDups

end QueryLint.Sql

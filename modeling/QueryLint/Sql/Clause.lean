import QueryLint.Sql.Bracket
import QueryLint.Sql.Vocabulary.Clause

/-! Clauses cut out of a query: what stands between a keyword and the end of its clause. -/
namespace QueryLint.Sql
set_option autoImplicit false

structure Clause where
  start : Nat
  body : Text
deriving DecidableEq, Repr

/-- Where a clause ends: at a parenthesis that it did not open, or at its own level at a semicolon
or where a word begins that ends the clause. -/
def clauseEnd (terminator : Pattern) (depth : Nat) (quote : Option Char) (before : Option Char)
    (position : Nat) : Text → Nat
  | [] => position
  | c :: rest =>
    if isBare quote c then
      if c == '(' then clauseEnd terminator (depth + 1) quote (some c) (position + 1) rest
      else if c == ')' then
        if depth = 0 then position
        else clauseEnd terminator (depth - 1) quote (some c) (position + 1) rest
      else if depth = 0 && (c == ';' || (!before.any Text.isWord
          && (terminator.matchAt? ⟨before, position, c :: rest⟩).isSome)) then position
      else clauseEnd terminator depth quote (some c) (position + 1) rest
    else clauseEnd terminator depth (quoteAfter quote c) (some c) (position + 1) rest

def clauseAt (terminator : Pattern) (sql : Text) (start : Nat) : Clause :=
  let c := Cursor.seek sql start
  ⟨start, sql.slice ⟨start, clauseEnd terminator 0 none c.before c.position c.rest⟩⟩

/-- The clauses that a keyword begins, in the order of the text; one may lie inside another. -/
def clauses (keyword terminator : Pattern) (sql : Text) : List Clause :=
  (keyword.all sql).map fun m => clauseAt terminator sql m.span.stop

def whereClauses (sql : Text) : List Clause := clauses whereKeyword whereTerminator sql

/-- The conditions after ON, from the first JOIN on; an ON before it belongs to no join. -/
def joinConditions (sql : Text) : List Clause :=
  match joinKeyword.first? sql with
  | none => []
  | some join => (clauses onKeyword onTerminator sql).filter fun c => c.start > join.span.stop

end QueryLint.Sql

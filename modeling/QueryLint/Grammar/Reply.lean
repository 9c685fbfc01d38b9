import QueryLint.Grammar.Conversion
import QueryLint.Text.Line

/-! The grammar as the analysis sees it: it is asked about a text and replies with statements or
with an error. -/
namespace QueryLint
set_option autoImplicit false

/-- What one error of a grammar says, as far as it says anything. -/
structure ErrorDetail where
  description : Option String
  line : Option Int
  column : Option Int
deriving DecidableEq, Repr

inductive Reply where
  /-- The statements of the text; an empty statement is absent. -/
  | parsed (statements : List (Option Node))
  /-- The text is no query. -/
  | syntaxError (message : String) (details : List ErrorDetail)
  /-- The text is not even a sequence of tokens. -/
  | tokenError (message : String)
  /-- The grammar failed in some other way. -/
  | breakdown (message : String)

structure Request where
  sql : Text
  dialect : Option String
deriving DecidableEq, Repr

/-- A grammar replies to a request, given how many requests were made before it. -/
abbrev Grammar := Nat → Request → Reply

namespace Grammar

/-- The message of an error on one line: what its first detail says, with the place if both parts of
it are known, or else the first line of the message. -/
def describe (message : String) : List ErrorDetail → String
  | [] => String.ofList (Text.firstLine (Text.trim message.toList))
  | first :: _ =>
    let description := match first.description with
      | some text => if text = "" then message else text
      | none => message
    match first.line, first.column with
    | some line, some column =>
      description ++ " (line " ++ toString line ++ ", column " ++ toString column ++ ")"
    | _, _ => description

/-- Only a dialect of its own is named to the grammar. -/
def request (sql : Text) (dialect : String) : Request :=
  ⟨sql, if dialect = "ansi" then none else some dialect⟩

/-- The statements converted one after the other; an empty statement is left out. -/
def toStatements (limit : Option Nat) : List (Option Node) → Except Failure (List Query)
  | [] => .ok []
  | none :: rest => toStatements limit rest
  | some n :: rest => do
    let query ← toQuery? limit (.node n) 0
    let others ← toStatements limit rest
    return query.toList ++ others

def queriesOf (limit : Option Nat) : Reply → Except Failure (List Query)
  | .parsed statements => toStatements limit statements
  | .syntaxError message details => .error (.rejected (describe message details))
  | .tokenError message => .error (.rejected message)
  | .breakdown message => .error (.crashed message)

def queries (g : Grammar) (asked : Nat) (r : Request) : Except Failure (List Query) :=
  queriesOf (some maxConvertDepth) (g asked r)

end Grammar
end QueryLint

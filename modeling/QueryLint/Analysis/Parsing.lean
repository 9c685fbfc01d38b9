import QueryLint.Analysis.Event
import QueryLint.Grammar.Reply
import QueryLint.Sql.PlainForm

/-! Parsing as well as it goes: the text as it is, then its plain form. A grammar that is missing or
that fails leaves a message in place of statements; it never stops the analysis. -/
namespace QueryLint
set_option autoImplicit false

/-- What answers a request with queries or fails, given how many requests were made before it. A
grammar is one of them; the analysis relies on nothing else about it. -/
abbrev Parser := Nat → Request → Except Failure (List Query)

/-- What parsing has come to. There are no statements where there is an error. -/
structure ParseOutcome where
  statements : List Query
  error : Option String
  /-- Whether the statements are those of the plain form. -/
  isPlain : Bool

namespace ParseOutcome

def isOk (o : ParseOutcome) : Bool := o.error.isNone

def failed (message : String) : ParseOutcome := ⟨[], some message, false⟩

end ParseOutcome

/-- An outcome with the requests made to the grammar and the events on the way. -/
structure Parsing where
  outcome : ParseOutcome
  requests : List Request
  events : List Event

namespace Parsing

def unavailable : String := "SQL parser unavailable"

def generic : String := "Failed to parse SQL"

/-- The message of a failure, which is never empty. -/
def refusal (f : Failure) : String := if f.message = "" then generic else f.message

def ofPlainForm (p : Parser) (asked : Nat) (dialect : String) (sql : Text) : Parsing :=
  let r := Grammar.request (Sql.plainForm sql) dialect
  match p asked r with
  | .ok queries => ⟨⟨queries, none, true⟩, [r], [.converted queries.length]⟩
  | .error f => ⟨.failed (refusal f), [r], [.textRefused (refusal f)]⟩

/-- The text as it is put to the parser, and its plain form if that fails. -/
def ofRawText (p : Parser) (asked : Nat) (dialect : String) (sql : Text) : Parsing :=
  let r := Grammar.request sql dialect
  match p asked r with
  | .ok queries => ⟨⟨queries, none, false⟩, [r], [.converted queries.length]⟩
  | .error f =>
    let second := ofPlainForm p (asked + 1) dialect sql
    ⟨second.outcome, r :: second.requests, .rawTextRefused f.message :: second.events⟩

/-- The parsing of a text by a parser, if there is one, that was asked a number of times before. -/
def byParser (p : Option Parser) (asked : Nat) (dialect : String) (rawFirst : Bool) (sql : Text) :
    Parsing :=
  match p with
  | none => ⟨.failed unavailable, [], []⟩
  | some p => if rawFirst then ofRawText p asked dialect sql else ofPlainForm p asked dialect sql

def ofText (g : Option Grammar) (asked : Nat) (dialect : String) (rawFirst : Bool) (sql : Text) :
    Parsing :=
  byParser (g.map Grammar.queries) asked dialect rawFirst sql

end Parsing
end QueryLint

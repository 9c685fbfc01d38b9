import QueryLint.Finding.Basic
import QueryLint.Pattern.Search
import QueryLint.Query.Tree

/-! Checks: what they are, how they fail, and how a finding is made from advice and a match. -/
namespace QueryLint
set_option autoImplicit false

inductive Fault where
  /-- A number is written with more digits than are read. -/
  | tooManyDigits (count : Nat)
deriving DecidableEq, Repr

/-- A check of the text of a query, and the rules of which it reports findings. -/
structure TextCheck where
  name : String
  rules : List String
  summary : String
  run : Text → Except Fault (List Finding)

/-- A check of one parsed statement; the text tells where its findings stand. -/
structure TreeCheck where
  name : String
  rules : List String
  summary : String
  run : Query → Text → List Finding

/-- What a finding says, apart from where. -/
structure Advice where
  rule : String
  severity : Severity
  title : String
  message : String
  suggestion : String
  category : String

namespace Advice

def finding (a : Advice) (fragment : Option Text) (offset : Option Span) : Finding :=
  ⟨a.rule, a.severity, a.title, a.message, a.suggestion, a.category, fragment,
    offset.map Span.toRange⟩

/-- A finding that stands nowhere in particular. -/
def overall (a : Advice) : Finding := a.finding none none

def located (a : Advice) (s : Span) : Finding := a.finding none (some s)

/-- A finding about a match, whose text it quotes. -/
def quoting (a : Advice) (t : Text) (m : Match) : Finding :=
  a.finding (some (m.text t)) (some m.span)

end Advice

def adviseFirst (p : Pattern) (a : Advice) (sql : Text) : List Finding :=
  ((p.first? sql).map fun m => a.located m.span).toList

def quoteFirst (p : Pattern) (a : Advice) (sql : Text) : List Finding :=
  ((p.first? sql).map (a.quoting sql)).toList

/-- The first match is quoted, and the number of all matches is stated. -/
def quoteCounted (p : Pattern) (a : Nat → Advice) (sql : Text) : List Finding :=
  match p.all sql with
  | [] => []
  | first :: rest => [(a (rest.length + 1)).quoting sql first]

/-- If there are several matches, one of the first two is chosen, and the number of all is stated. -/
def adviseRepeated (p : Pattern) (a : Nat → Advice) (chosen : Match → Match → Match) (sql : Text) :
    List Finding :=
  match p.all sql with
  | first :: second :: rest => [(a (rest.length + 2)).located (chosen first second).span]
  | _ => []

/-- The first match that passes a test. -/
def advisePassing (p : Pattern) (passes : Match → Bool) (a : Advice) (sql : Text) : List Finding :=
  (((p.all sql).find? passes).map fun m => a.located m.span).toList

def Text.shown (t : Text) : String := String.ofList t

end QueryLint

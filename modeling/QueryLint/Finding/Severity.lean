import QueryLint.Text.LetterCase

/-! How much a finding matters. The analysis itself gives one of three levels; a finding that is
read from elsewhere may carry another name, which has no rank. -/
namespace QueryLint
set_option autoImplicit false

inductive Severity where
  | error
  | warning
  | info
  | other (name : String)
deriving DecidableEq, Repr

namespace Severity

def ofName : String → Severity
  | "error" => error
  | "warning" => warning
  | "info" => info
  | name => other name

def name : Severity → String
  | error => "error"
  | warning => "warning"
  | info => "info"
  | other name => name

/-- The place in the order of severity, the mildest first. -/
def rank? : Severity → Option Nat
  | info => some 1
  | warning => some 2
  | error => some 3
  | other _ => none

/-- The levels in the order in which they are counted. -/
def levels : List Severity := [error, warning, info]

/-! ## Display -/

def title (s : Severity) : String := String.ofList (Text.upper s.name.toList)

def color (level : String) : String :=
  match String.ofList (Text.upper level.toList) with
  | "ERROR" => "bold red"
  | "WARNING" => "yellow"
  | "INFO" => "cyan"
  | _ => "white"

def icon (level : String) : String :=
  match String.ofList (Text.upper level.toList) with
  | "ERROR" => "✖"
  | "WARNING" => "⚠"
  | "INFO" => "ℹ"
  | _ => ""

end Severity
end QueryLint

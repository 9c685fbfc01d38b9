/-! What the analysis reports about its own course. -/
namespace QueryLint
set_option autoImplicit false

inductive EventLevel where
  | debug
  | info
  | warning
deriving DecidableEq, Repr

namespace EventLevel

def name : EventLevel → String
  | debug => "DEBUG"
  | info => "INFO"
  | warning => "WARNING"

end EventLevel

inductive Reporter where
  | conversion
  | parsing
  | analysis
deriving DecidableEq, Repr

inductive Event where
  | shortened (length limit : Nat)
  | started (length : Nat)
  | converted (statements : Nat)
  | rawTextRefused (message : String)
  | textRefused (message : String)
  | plainFormUsed
  | checkFailed (name : String)
  | finished (findings : Nat) (refused : Bool)
deriving DecidableEq, Repr

namespace Event

def level : Event → EventLevel
  | shortened .. | checkFailed _ => .warning
  | started _ | textRefused _ | finished .. => .info
  | converted _ | rawTextRefused _ | plainFormUsed => .debug

def reporter : Event → Reporter
  | converted _ => .conversion
  | rawTextRefused _ | textRefused _ => .parsing
  | shortened .. | started _ | plainFormUsed | checkFailed _ | finished .. => .analysis

def message : Event → String
  | shortened length limit =>
    "Query is " ++ toString length ++ " characters, analyzing the first " ++ toString limit
      ++ " only"
  | started length => "Analyzing query (" ++ toString length ++ " characters)"
  | converted statements => "sqlglot produced " ++ toString statements ++ " statement(s)"
  | rawTextRefused message => "Raw parse failed, retrying on normalized text: " ++ message
  | textRefused message => "Could not parse query: " ++ message
  | plainFormUsed => "Parsed after rewriting DuckDB-specific syntax"
  | checkFailed name => "Rule " ++ name ++ " failed, skipping"
  | finished findings refused =>
    "Analysis complete: " ++ toString findings ++ " finding(s)"
      ++ if refused then ", parse failed" else ""

end Event
end QueryLint

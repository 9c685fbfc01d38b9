import QueryLint.Text.Basic

/-! The choices that an analysis leaves open, and what can be wrong with them. -/
namespace QueryLint
set_option autoImplicit false

structure Config where
  dialect : String
  /-- Whether the text as it is goes to the grammar before its plain form. -/
  rawFirst : Bool
  /-- The number of characters that are analyzed. -/
  maxLength : Int
  disabledRules : List String

inductive ConfigProblem where
  | unsupportedDialect (name : String)
  | lengthNotPositive (length : Int)
deriving DecidableEq, Repr

def ConfigProblem.message : ConfigProblem → String
  | unsupportedDialect name => "Unsupported dialect: " ++ name
  | lengthNotPositive length => "max_query_length must be positive, got " ++ toString length

namespace Config

def supportedDialects : List String := ["duckdb", "postgres", "ansi"]

def standard : Config := ⟨"duckdb", true, 1000000, []⟩

def problems (c : Config) : List ConfigProblem :=
  (if supportedDialects.contains c.dialect then [] else [.unsupportedDialect c.dialect])
    ++ if c.maxLength < 1 then [.lengthNotPositive c.maxLength] else []

def complaint (problems : List ConfigProblem) : String :=
  Text.joinStrings "; " (problems.map ConfigProblem.message)

end Config
end QueryLint

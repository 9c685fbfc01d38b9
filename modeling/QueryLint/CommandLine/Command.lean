import QueryLint.CommandLine.Option
import QueryLint.Analysis.Config
import QueryLint.Finding.Severity

/-! The commands of the program and their options. -/
namespace QueryLint.CommandLine
set_option autoImplicit false

inductive ReportFormat where
  | console
  | json
deriving DecidableEq, Repr

structure AnalyzeOptions where
  file : Option String
  sql : Option String
  format : ReportFormat
  output : Option String
  /-- The level from which a finding makes the program fail. -/
  failOn : Option Severity
  dialect : String
  disabled : List String
  verbose : Bool
  /-- Arguments for which there is no use. -/
  extra : List String

inductive Command where
  | version
  | rules (extra : List String)
  | analyze (options : AnalyzeOptions)

/-! ## Options -/

def groupOptions : List OptionSpec := [⟨"version", none, false⟩]

def analyzeSpecs : List OptionSpec :=
  [⟨"sql", none, true⟩, ⟨"format", some 'f', true⟩, ⟨"output", some 'o', true⟩,
    ⟨"fail-on", none, true⟩, ⟨"dialect", none, true⟩, ⟨"disable", none, true⟩,
    ⟨"verbose", some 'v', false⟩]

def format? : String → Option ReportFormat
  | "console" => some .console
  | "json" => some .json
  | _ => none

/-- The level from which to fail; the outer nothing is for a value that is no choice. -/
def failOn? : String → Option (Option Severity)
  | "error" => some (some .error)
  | "warning" => some (some .warning)
  | "info" => some (some .info)
  | "never" => some none
  | _ => none

def dialect? (name : String) : Option String :=
  if Config.supportedDialects.contains name then some name else none

/-- The value of an option that has choices, or the one it has by default. -/
def chosen {α : Type} (s : Scanned) (long : String) (read : String → Option α) (default : α) :
    Except UsageError α :=
  match s.last? long with
  | none => .ok default
  | some value =>
    match read value with
    | some a => .ok a
    | none => .error (.badValue long)

def analyzeOptions (args : List String) : Except UsageError AnalyzeOptions := do
  let s ← scan analyzeSpecs true args
  let format ← chosen s "format" format? .console
  let failOn ← chosen s "fail-on" failOn? none
  let dialect ← chosen s "dialect" dialect? Config.standard.dialect
  return ⟨s.arguments.head?, s.last? "sql", format, (s.last? "output").filter (· ≠ ""), failOn,
    dialect, s.allOf "disable", s.has "verbose", s.arguments.tail⟩

/-! ## Commands -/

/-- The command that a command line names. What stands where the name is expected and names no
command is read once more for options of the program, which may ask for the version after all. -/
def command (args : List String) : Except UsageError Command := do
  let s ← scan groupOptions false args
  if s.has "version" then return .version
  match s.arguments with
  | [] => throw (.misuse "Missing command.")
  | "analyze" :: rest => .analyze <$> analyzeOptions rest
  | "rules" :: rest => do
    let scanned ← scan [] true rest
    return .rules scanned.arguments
  | name :: rest => do
    let again ← scan groupOptions false (name :: rest)
    if again.has "version" then return .version
    throw (.noSuchCommand name)

def unexpected (extra : List String) : UsageError :=
  .misuse ("Got unexpected extra argument" ++ (if extra.length = 1 then "" else "s") ++ " ("
    ++ Text.joinStrings " " extra ++ ")")

end QueryLint.CommandLine

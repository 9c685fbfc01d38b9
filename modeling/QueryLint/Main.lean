import QueryLint.CommandLine.Run
import QueryLint.Report.Layout
import Std.Time

/-! The program: it reads what a run asks for, runs, and prints and writes what the run has made. No
grammar is at hand here, so the checks of parsed queries say nothing. -/
namespace QueryLint
set_option autoImplicit false

/-- What the system says of a file that it does not read or write. -/
def problemOf : IO.Error → CommandLine.FileProblem
  | .noFileOrDirectory .. | .noSuchThing .. => .missing
  | .inappropriateType .. => .isFolder
  | _ => .refused

def contentOf (name : String) : IO (Except CommandLine.FileProblem String) := do
  try
    return .ok (← IO.FS.readFile name)
  catch e =>
    return .error (problemOf e)

/-- Writes files, and says what kept one from being written. -/
def save (files : List (String × String)) : IO (Option CommandLine.FileProblem) := do
  try
    for (name, content) in files do
      IO.FS.writeFile name content
    return none
  catch e =>
    return some (problemOf e)

/-- The file that a command line names, if it names one. -/
def namedFile (args : List String) : Option String :=
  match CommandLine.command args with
  | .ok (.analyze o) => o.file
  | _ => none

def twoDigits (n : Int) : String := (if n < 10 then "0" else "") ++ toString n

def now : IO CommandLine.Moment := do
  let t ← Std.Time.PlainDateTime.now
  let date := toString t.year.toInt ++ "-" ++ twoDigits t.month.val ++ "-" ++ twoDigits t.day.val
  let time := twoDigits t.hour.val ++ ":" ++ twoDigits t.minute.val ++ ":" ++ twoDigits t.second.val
  return ⟨date, time⟩

def complaint : CommandLine.UsageError → String
  | .noSuchCommand name => "No such command: " ++ name
  | .noSuchOption name => "No such option: " ++ name
  | .badOptionUse name => "Wrong use of the option " ++ name
  | .badValue parameter => "Invalid value for " ++ parameter
  | .misuse message => message

def fileComplaint : CommandLine.FileProblem → String
  | .missing => "No such file or folder"
  | .isFolder => "A folder stands where a file is to be"
  | .notFolder => "A file stands where a folder is to be"
  | .nameTooLong => "A name is too long"
  | .badPath => "No path is written so"
  | .refused => "A file cannot be read or written"

def errorText : CommandLine.RunError → String
  | .usage e => complaint e
  | .file problem => fileComplaint problem

def isShown (verbose : Bool) (e : Event) : Bool := verbose || e.level == .warning

def present (o : CommandLine.Outcome) : IO Unit := do
  for e in o.events do
    if isShown o.verbose e then IO.eprintln ("[" ++ e.level.name ++ "] " ++ e.message)
  IO.print o.stdout
  for item in o.console do
    for text in Report.plainLines item do
      IO.println text
  for e in o.error.toList do
    IO.eprintln ("Error: " ++ errorText e)

/-- A run with the arguments given, and its exit status. What could not be written makes it a run
that ends there. -/
def execute (args : List String) : IO UInt32 := do
  let name := (namedFile args).getD "-"
  let content ← if name = "-" then pure (.error .missing) else contentOf name
  let input ← if namedFile args = some "-" then (← IO.getStdin).readToEnd else pure ""
  let read (asked : String) : Except CommandLine.FileProblem Text :=
    if asked = name then String.toList <$> content else .error .missing
  let moment ← now
  let outcome (problem : Option CommandLine.FileProblem) : CommandLine.Outcome :=
    CommandLine.run ⟨read, fun _ => problem, input.toList, moment, none⟩ args
  let planned := outcome none
  let o := match ← save planned.written with
    | none => planned
    | some problem => outcome (some problem)
  present o
  return UInt32.ofNat o.exit

end QueryLint

def main (args : List String) : IO UInt32 := QueryLint.execute args
